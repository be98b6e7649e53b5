import Mathlib.Tactic.SplitIfs
import EnclaveAudit.Device.Answer

/-!
# `EnclaveAudit/Proofs/Device/Answer.lean` — which answers are refusals

An operation that must be refused is refused by one shape of answer only: a map with the single
entry `Error`, whose value may be anything but the names of two statuses. Success is not a refusal,
and neither is the status that stands for answers that make no sense. `read_eq_error_iff` says so
for every operation, so a check that waits for a refusal can be read off the wire.
-/

set_option autoImplicit false

namespace EnclaveAudit

/-- The answer is a refusal. -/
def Refuses (answer : Value) : Prop :=
  ∃ status, answer = .map [(.text "Error", status)] ∧
    status ≠ .text "Success" ∧ status ≠ .text "InvalidResponse"

theorem Status.ofWire_eq_iff {v : Value} {s : Status} (hs : s ≠ .internalError) :
    Status.ofWire v = s ↔ v = .text s.name := by
  constructor
  · intro h
    unfold ofWire at h
    split at h
    · next text =>
      cases hname : ofName? text with
      | none =>
        rw [hname] at h
        exact absurd h.symm hs
      | some s' =>
        rw [hname] at h
        obtain rfl : s' = s := h
        have hfound := List.find?_some hname
        rw [beq_iff_eq] at hfound
        rw [hfound]
    · exact absurd h.symm hs
  · rintro rfl
    exact ofWire_name s

namespace Operation

theorem refusal?_eq_some_iff {answer : Value} {status : Status} (h : status ≠ .invalidResponse) :
    refusal? answer = some status ↔
      ∃ wire, answer = .map [(.text "Error", wire)] ∧ Status.ofWire wire = status ∧
        status ≠ .success := by
  constructor
  · intro hr
    have hne := refusal?_ne_success hr
    unfold refusal? at hr
    split at hr
    · next wire =>
      refine ⟨wire, rfl, ?_, hne⟩
      split_ifs at hr with hsuccess
      · cases hr
        exact absurd rfl h
      · exact Option.some.inj hr
    · cases hr
  · rintro ⟨wire, rfl, rfl, hne⟩
    simp only [refusal?, if_neg hne]

/-- An answer is read as a refusal when it is one. -/
theorem exists_refusal?_iff {answer : Value} :
    (∃ status, refusal? answer = some status ∧ status ≠ .invalidResponse) ↔ Refuses answer := by
  constructor
  · rintro ⟨status, hr, hinvalid⟩
    obtain ⟨wire, rfl, rfl, hsuccess⟩ := (refusal?_eq_some_iff hinvalid).mp hr
    refine ⟨wire, rfl, ?_, ?_⟩
    · rintro rfl
      exact hsuccess (Status.ofWire_name .success)
    · rintro rfl
      exact hinvalid (Status.ofWire_name .invalidResponse)
  · rintro ⟨wire, rfl, hsuccess, hinvalid⟩
    have hs : Status.ofWire wire ≠ .success := fun h =>
      hsuccess ((Status.ofWire_eq_iff (by decide)).mp h)
    have hi : Status.ofWire wire ≠ .invalidResponse := fun h =>
      hinvalid ((Status.ofWire_eq_iff (by decide)).mp h)
    exact ⟨_, (refusal?_eq_some_iff hi).mpr ⟨wire, rfl, rfl, hs⟩, hi⟩

theorem readBody_eq_error_iff {α : Type} {name : String} {read : Value → Option α} {answer : Value}
    {status : Status} (h : status ≠ .invalidResponse) :
    readBody name read answer = .error status ↔ refusal? answer = some status := by
  unfold readBody
  cases refusal? answer with
  | some s => simp
  | none => cases (body? name answer).bind read <;> simp [Ne.symm h]

theorem readUnit_eq_error_iff {name : String} {answer : Value} {status : Status}
    (h : status ≠ .invalidResponse) :
    readUnit name answer = .error status ↔ refusal? answer = some status := by
  unfold readUnit
  cases refusal? answer with
  | some s => simp
  | none =>
    simp only [reduceCtorEq, iff_false]
    split
    · split_ifs <;> simp [Ne.symm h]
    · simp [Ne.symm h]

/-- What an operation is refused with does not depend on what was asked. -/
theorem read_eq_error_iff_refusal? {operation : Operation} {answer : Value} {status : Status}
    (h : status ≠ .invalidResponse) :
    operation.read answer = .error status ↔ refusal? answer = some status := by
  cases operation with
  | lockRegister _ => exact readUnit_eq_error_iff h
  | lockRegisters _ => exact readUnit_eq_error_iff h
  | random length =>
    -- a refusal is read before the chunk is cut to the length asked for
    have hbody : readBody "GetRandom" (octets? "random") answer = .error status ↔ _ :=
      readBody_eq_error_iff h
    rw [← hbody]
    show (readBody "GetRandom" (octets? "random") answer).map _ = _ ↔ _
    cases readBody "GetRandom" (octets? "random") answer <;> simp [Except.map]
  | _ => exact readBody_eq_error_iff h

/-- **Which answers refuse**, whatever was asked. -/
theorem read_eq_error_iff {operation : Operation} {answer : Value} :
    (∃ status, operation.read answer = .error status ∧ status ≠ .invalidResponse) ↔
      Refuses answer := by
  rw [← exists_refusal?_iff]
  exact exists_congr fun status => and_congr_left fun h => read_eq_error_iff_refusal? h

/-- An operation that returns nothing is answered by its bare name. -/
theorem readUnit_eq_ok_iff {name : String} {answer : Value} :
    readUnit name answer = .ok () ↔ answer = .text name := by
  constructor
  · intro h
    unfold readUnit at h
    split at h
    · cases h
    · split at h
      · split_ifs at h with hname
        rw [hname]
      · cases h
  · rintro rfl
    simp [readUnit, refusal?]

end Operation

end EnclaveAudit
