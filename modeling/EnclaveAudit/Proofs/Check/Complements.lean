import EnclaveAudit.Check.Examination
import EnclaveAudit.Proofs.Check.Passing
import EnclaveAudit.Proofs.Device.Session

/-!
# `EnclaveAudit/Proofs/Check/Complements.lean` — what must succeed and what must be refused

Three operations are examined twice: a register is locked, the bank is locked, a register is
extended, once where that must succeed and once where it must be refused. The two examinations of a
pair look at the same answers, and an audit means something because they never agree: no answer
passes both. The answers that pass neither are those that make no sense, and the extensions to a
value that no extension has.

All of that is about the outcome that is read from the answer, so it is said of `succeed` and
`refused` first, for any outcome.
-/

set_option autoImplicit false

namespace EnclaveAudit

/-- The status that an outcome comes to. -/
def Status.obtained {α : Type} : Except Status α → Status
  | .ok _ => .success
  | .error status => status

namespace Check

variable {α : Type} {o : Except Status α} {check check' : Check} {r r' : Option Int} {v : Violation}

theorem succeed_refused_not_both :
    ¬((∃ a, succeed check r o = .ok a) ∧ ∃ status, refused check' r' o = .ok status) := by
  rintro ⟨⟨a, hsucceed⟩, status, hrefused⟩
  rw [succeed_eq_ok_iff] at hsucceed
  rw [refused_eq_ok_iff, hsucceed] at hrefused
  cases hrefused.1

theorem exists_refused_eq_ok_iff :
    (∃ status, refused check r o = .ok status) ↔
      (∃ status, o = .error status) ∧ o ≠ .error .invalidResponse := by
  simp only [refused_eq_ok_iff]
  constructor
  · rintro ⟨status, rfl, hvalid⟩
    exact ⟨⟨status, rfl⟩, fun h => hvalid (Except.error.inj h)⟩
  · rintro ⟨⟨status, rfl⟩, hvalid⟩
    exact ⟨status, rfl, fun h => hvalid (congrArg Except.error h)⟩

theorem succeed_refused_neither_iff :
    (¬(∃ a, succeed check r o = .ok a) ∧ ¬∃ status, refused check' r' o = .ok status) ↔
      o = .error .invalidResponse := by
  simp only [succeed_eq_ok_iff, exists_refused_eq_ok_iff]
  cases o <;> simp

/-- The violation names the register and shows the status that was obtained, unless it is one of the
others that there are. -/
def Blames (check : Check) (r : Option Int) (others : Except Status α → Violation → Prop)
    (o : Except Status α) (v : Violation) : Prop :=
  v.register = r ∧ ((v.check = check ∧ v.observed = .text (Status.obtained o).name) ∨ others o v)

variable {others : Except Status α → Violation → Prop}

theorem succeed_blames (h : succeed check r o = .error v) : Blames check r others o v := by
  obtain ⟨hcheck, hregister⟩ := succeed_names h
  refine ⟨hregister, .inl ⟨hcheck, ?_⟩⟩
  cases o with
  | ok a => cases h
  | error status =>
    cases h
    rfl

theorem refused_blames (h : refused check r o = .error v) : Blames check r others o v := by
  obtain ⟨hcheck, hregister⟩ := refused_names h
  refine ⟨hregister, .inl ⟨hcheck, ?_⟩⟩
  cases o with
  | ok a =>
    cases h
    rfl
  | error status =>
    unfold refused at h
    dsimp only at h
    split at h
    · cases h
      rfl
    · cases h

/-! ## Extension -/

section

variable {o : Except Status Bytes} {c : Contract} {i : Int}

/-- The value that an extension was answered with is none that an extension has. -/
def IsNoExtension (c : Contract) (value : Bytes) : Prop :=
  value.isZero = true ∨ value.length ≠ c.digestWidth

theorem exists_judgeExtend_eq_ok_iff :
    (∃ value, judgeExtend i c o = .ok value) ↔ ∃ value, o = .ok value ∧ ¬IsNoExtension c value := by
  simp only [judgeExtend_eq_ok_iff]
  refine exists_congr fun value => and_congr_right fun _ => ?_
  unfold IsNoExtension
  rw [not_or, not_not, Bytes.isZero_iff, and_comm]
  refine and_congr_left fun hwidth => ?_
  rw [Contract.zeroValue, ← hwidth]

theorem judgeExtend_refused_not_both :
    ¬((∃ value, judgeExtend i c o = .ok value) ∧ ∃ status, refused check r o = .ok status) := by
  rintro ⟨⟨value, hvalue⟩, hstatus⟩
  have hsucceed : succeed .extendRegister (some i) o = .ok value :=
    succeed_eq_ok_iff.mpr (judgeExtend_eq_ok_iff.mp hvalue).1
  exact succeed_refused_not_both ⟨⟨value, hsucceed⟩, hstatus⟩

theorem judgeExtend_refused_neither_iff :
    (¬(∃ value, judgeExtend i c o = .ok value) ∧ ¬∃ status, refused check r o = .ok status) ↔
      o = .error .invalidResponse ∨ ∃ value, o = .ok value ∧ IsNoExtension c value := by
  simp only [exists_judgeExtend_eq_ok_iff, exists_refused_eq_ok_iff]
  cases o <;> simp

/-- The violations that are about the value that an extension returned. -/
def OfExtension (c : Contract) (o : Except Status Bytes) (v : Violation) : Prop :=
  ∃ value, o = .ok value ∧
    (v.check = .extendWidth ∧ value.length ≠ c.digestWidth ∨
      v.check = .extendNonZero ∧ value.isZero = true)

theorem judgeExtend_blames (h : judgeExtend i c o = .error v) :
    Blames .extendRegister (some i) (OfExtension c) o v := by
  simp only [judgeExtend, requireWidth, bind_eq_error_iff, require_eq_error_iff] at h
  rcases h with h | ⟨value, hvalue, ⟨hwidth, rfl⟩ | ⟨_, -, ⟨hzero, rfl⟩ | ⟨_, -, h⟩⟩⟩
  · exact succeed_blames h
  · refine ⟨rfl, .inr ⟨value, succeed_eq_ok_iff.mp hvalue, .inl ⟨rfl, ?_⟩⟩⟩
    simpa using hwidth
  · refine ⟨rfl, .inr ⟨value, succeed_eq_ok_iff.mp hvalue, .inr ⟨rfl, ?_⟩⟩⟩
    have hvalue : value = Bytes.zeros c.digestWidth := by simpa [Contract.zeroValue] using hzero
    rw [Bytes.isZero_iff, hvalue, Bytes.length_zeros]
  · exact absurd h pure_ne_error

end

end Check

namespace Examination

variable {α β σ : Type}

theorem result_perform (x : Examination α) (t : Transport σ) (s : Session σ) :
    (x.perform t s).1 = (s.perform t x.operation).1.map x.judge := by
  unfold perform
  rcases s.perform t x.operation with ⟨outcome | interruption, after⟩ <;> rfl

theorem session_perform (x : Examination α) (t : Transport σ) (s : Session σ) :
    (x.perform t s).2 = (s.perform t x.operation).2 := by
  unfold perform
  rcases s.perform t x.operation with ⟨outcome | interruption, after⟩ <;> rfl

/-- What the examination makes of an answer. -/
def verdict (x : Examination α) (answer : Value) : Except Violation α :=
  x.judge (x.operation.read answer)

/-- The answer passes. -/
def Passes (x : Examination α) (answer : Value) : Prop := ∃ result, x.verdict answer = .ok result

/-- Of the same answer at most one of the two passes, and under a condition neither. -/
structure Splits (x : Examination α) (y : Examination β) (answer : Value) (senseless : Prop) :
    Prop where
  not_both : ¬(x.Passes answer ∧ y.Passes answer)
  neither_iff : ¬x.Passes answer ∧ ¬y.Passes answer ↔ senseless

/-- On an open session the examination sends its request, and nothing else. It comes to a verdict on
the answer, whatever that is, and a violation names the register and shows the status that was
obtained, apart from the `others`. -/
structure Accounts (x : Examination α) (check : Check) (register : Option Int)
    (others : Except Status x.operation.Result → Violation → Prop) : Prop where
  asks : ∀ {σ : Type} (t : Transport σ) (s : Session (Recorded σ)) (answer : Value),
    s.closed = false → (t.exchange x.operation.request s.device.device).result = .ok answer →
      (x.perform t.recorded s).1 = .ok (x.verdict answer) ∧
        (x.perform t.recorded s).2.device.requests = s.device.requests ++ [x.operation.request]
  blames : ∀ (answer : Value) (v : Violation), x.verdict answer = .error v →
    Check.Blames check register others (x.operation.read answer) v

variable {x : Examination α} {check : Check} {register : Option Int}
  {others : Except Status x.operation.Result → Violation → Prop}

theorem Accounts.of_sendable (hsend : x.operation.sendable = true)
    (h : ∀ outcome v, x.judge outcome = .error v → Check.Blames check register others outcome v) :
    x.Accounts check register others where
  asks t s answer hopen hanswer := by
    rw [result_perform, session_perform, Session.result_perform hopen hsend,
      Session.device_perform hopen hsend, Recorded.requests_exchange]
    have hresult : (t.recorded.exchange x.operation.request s.device).result = .ok answer := hanswer
    rw [hresult]
    exact ⟨rfl, rfl⟩
  blames answer := h (x.operation.read answer)

/-- **The two kinds of examinations split the answers.** No answer passes both examinations of a
pair. None passes if the answer is invalid, or the extension is to a value of zeros or of another
width, and only then. Each of the six asks one thing and accounts for what it was told. -/
theorem verdicts_split (answer : Value) (index : Int) (data : Bytes) (c : Contract) :
    Splits (lock index) (relock index) answer
      ((Operation.lockRegister (.int index)).read answer = .error .invalidResponse) ∧
    Splits (lockRange c) (lockBeyond c) answer
      ((Operation.lockRegisters (.int c.registerCount)).read answer = .error .invalidResponse) ∧
    Splits (extend index data c) (extendLocked index data) answer
      ((Operation.extendRegister (.int index) data).read answer = .error .invalidResponse ∨
        ∃ value : Bytes, (Operation.extendRegister (.int index) data).read answer = .ok value ∧
          (value.isZero = true ∨ value.length ≠ c.digestWidth)) ∧
    ((lock index).Accounts .lockRegister (some index) (fun _ _ => False) ∧
      (relock index).Accounts .lockRejected (some index) (fun _ _ => False)) ∧
    ((lockRange c).Accounts .lockRangeExact none (fun _ _ => False) ∧
      (lockBeyond c).Accounts .lockRangeOverflow none (fun _ _ => False)) ∧
    ((extend index data c).Accounts .extendRegister (some index) (Check.OfExtension c) ∧
      (extendLocked index data).Accounts .extendLockedRejected (some index)
        (fun _ _ => False)) := by
  have hlock : Splits (lock index) (relock index) answer _ :=
    ⟨Check.succeed_refused_not_both, Check.succeed_refused_neither_iff⟩
  have hrange : Splits (lockRange c) (lockBeyond c) answer _ :=
    ⟨Check.succeed_refused_not_both, Check.succeed_refused_neither_iff⟩
  have hextend : Splits (extend index data c) (extendLocked index data) answer _ :=
    ⟨Check.judgeExtend_refused_not_both, Check.judgeExtend_refused_neither_iff⟩
  exact ⟨hlock, hrange, hextend,
    ⟨.of_sendable rfl fun _ _ => Check.succeed_blames,
      .of_sendable rfl fun _ _ => Check.refused_blames⟩,
    ⟨.of_sendable rfl fun _ _ => Check.succeed_blames,
      .of_sendable rfl fun _ _ => Check.refused_blames⟩,
    .of_sendable rfl fun _ _ => Check.judgeExtend_blames,
    .of_sendable rfl fun _ _ => Check.refused_blames⟩

/-- A refusal passes where a refusal is due, and fails where none is, with the register and the
status. What is no answer at all passes neither. -/
theorem verdicts_split_of_a_refusal :
    let refusal : Value := .map [(.text "Error", .text "ReadOnlyIndex")]
    (relock 5).Passes refusal ∧ ¬(lock 5).Passes refusal ∧
      (∀ v, (lock 5).verdict refusal = .error v →
        v.register = some 5 ∧ v.observed = .text "ReadOnlyIndex") ∧
      ¬(lock 5).Passes .null ∧ ¬(relock 5).Passes .null := by
  intro refusal
  let c : Contract := ⟨32, .sha384, 48⟩
  obtain ⟨hsplit, -, -, ⟨haccounts, -⟩, -⟩ := verdicts_split refusal 5 [] c
  obtain ⟨hnull, -⟩ := verdicts_split .null 5 [] c
  have hpasses : (relock 5).Passes refusal := ⟨.readOnlyIndex, rfl⟩
  refine ⟨hpasses, fun h => hsplit.not_both ⟨h, hpasses⟩, fun v hv => ?_, hnull.neither_iff.mpr rfl⟩
  obtain ⟨hregister, ⟨-, hobserved⟩ | hother⟩ := haccounts.blames refusal v hv
  · exact ⟨hregister, hobserved⟩
  · exact absurd hother id

end Examination

end EnclaveAudit
