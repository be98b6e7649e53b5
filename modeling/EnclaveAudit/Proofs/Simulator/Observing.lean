import EnclaveAudit.Proofs.Audit.Judging
import EnclaveAudit.Proofs.Simulator.BulkLocking
import EnclaveAudit.Proofs.Simulator.Counting
import EnclaveAudit.Proofs.Simulator.Speaking

/-!
# `EnclaveAudit/Proofs/Simulator/Observing.lean` — asking without leaving a trace

Four of the seven operations look at a device and change none of its registers (`observations`). A
read of a flapping lock is counted, and random octets are drawn, but a count is no register. So
through any number of such requests the registers are the same, and each answer is that of a device
with these registers (`replies_of_observes`). What the counts can touch is a lock that is shown: it
may be shown as free although it is set, and never the other way round.

What an answer says of the registers it says of any device that has them: a description, read, is
that of another device but for the locked registers that it lists, and a document is the same.
-/

set_option autoImplicit false

namespace EnclaveAudit.Simulator

/-- The operations that change no register. -/
def observations : List String := ["DescribeNSM", "DescribePCR", "Attestation", "GetRandom"]

/-- The request asks for one of them. -/
def Observes (request : Value) : Prop :=
  ∃ name body, Calls request name body ∧ name ∈ observations

/-- The device is open and has these registers. -/
def State.Has (registers : List Register) (d : State) : Prop :=
  d.isOpen = true ∧ d.registers = registers

variable {e : Surroundings} {s : Settings} {d d' : State} {request body : Value}
variable {registers : List Register}

/-! ## Registers that stay -/

/-- Reading a cell shows its register, and a lock that is shown is set. -/
theorem Cell.read_register (c : Cell) :
    (c.read s).2.register = c.register ∧ ((c.read s).1 = true → c.register.lock = true) := by
  unfold Cell.read
  split_ifs with h
  · simp only [Bool.and_eq_true] at h
    exact ⟨rfl, fun _ => h.1.2⟩
  · exact ⟨rfl, id⟩

/-- **One observation** leaves every register as it is. -/
theorem registers_answer_of_observes (h : Observes request) :
    (answer e s request d).2.registers = d.registers := by
  obtain ⟨name, body, hcall, hname⟩ := h
  obtain ⟨status, heq⟩ | ⟨r, v, d', hr, heq, hserved⟩ := answer_cases e s d request
  · rw [heq]
  · obtain ⟨body', hcall', -⟩ := Calls.of_ofValue_eq_ok hr
    obtain ⟨rfl, -⟩ := hcall'.unique hcall
    rw [heq]
    cases hserved with
    | describe | attest _ _ _ | repeated _ | drawn _ => rfl
    | read hc => exact Bank.map_set hc (Cell.read_register _).1
    | extend _ _ _ | lock _ | relock _ _ | lockRange _ =>
      simp [Request.operation, observations] at hname

theorem State.Has.answered (hd : d.Has registers) (h : Observes request) :
    ((transport e s).exchange request d).result = .ok (answer e s request d).1 ∧
      ((transport e s).exchange request d).device.Has registers := by
  obtain ⟨hopen, hregisters⟩ := hd
  refine ⟨result_exchange hopen request, isOpen_exchange hopen request, ?_⟩
  rw [registers_exchange_of_open hopen, registers_answer_of_observes h, hregisters]

/-- **Any number of observations** leaves the registers as they are, and is answered by devices
that have them. -/
theorem replies_of_observes {xs : List (Value × Value)} (hxs : ∀ x ∈ xs, Observes x.1)
    (hd : d.Has registers) (h : (transport e s).Replies d xs d') :
    d'.Has registers ∧
      ∀ x ∈ xs, ∃ seen : State, seen.Has registers ∧ x.2 = (answer e s x.1 seen).1 := by
  induction xs generalizing d with
  | nil =>
    obtain rfl : d' = d := h
    exact ⟨hd, fun x hx => absurd hx List.not_mem_nil⟩
  | cons x xs ih =>
    obtain ⟨hx, hxs⟩ := List.forall_mem_cons.mp hxs
    obtain ⟨hanswer, hrest⟩ := h
    obtain ⟨hresult, hnext⟩ := hd.answered (e := e) (s := s) hx
    obtain ⟨hd', hall⟩ := ih hxs hnext hrest
    have hsaid : x.2 = (answer e s x.1 d).1 := Except.ok.inj (hanswer.symm.trans hresult)
    exact ⟨hd', List.forall_mem_cons.mpr ⟨⟨d, hd, hsaid⟩, hall⟩⟩

/-- An open device answers any observations, and the answers can be held in one function if no
place comes twice. -/
theorem exists_replies_of_observes {p : Parameters} {xs : List Slot} (hnodup : xs.Nodup)
    (hxs : ∀ x ∈ xs, Observes (x.request p)) (hd : d.Has registers) :
    ∃ (given : Slot → Value) (d' : State),
      (transport e s).Replies d (xs.map fun x => (x.request p, given x)) d' := by
  induction xs generalizing d with
  | nil => exact ⟨fun _ => .null, d, rfl⟩
  | cons x xs ih =>
    obtain ⟨hx, hnodup⟩ := List.nodup_cons.mp hnodup
    obtain ⟨hobserves, hxs⟩ := List.forall_mem_cons.mp hxs
    obtain ⟨hresult, hnext⟩ := hd.answered (e := e) (s := s) hobserves
    obtain ⟨given, d', hreplies⟩ := ih hnodup hxs hnext
    have hagree : ∀ y ∈ xs, Function.update given x (answer e s (x.request p) d).1 y = given y :=
      fun y hy => Function.update_of_ne (ne_of_mem_of_not_mem hy hx) _ _
    refine ⟨Function.update given x (answer e s (x.request p) d).1, d', ?_, ?_⟩
    · rw [Function.update_self]
      exact hresult
    · rw [List.map_congr_left fun y hy => by rw [hagree y hy]]
      exact hreplies

/-! ## Whatever is asked -/

/-- A device that is open stays open, and its registers stay at their places. -/
theorem kept_of_replies {xs : List (Value × Value)} (hopen : d.isOpen = true)
    (hplaced : d.bank.Placed s) (h : (transport e s).Replies d xs d') :
    d'.isOpen = true ∧ d'.bank.Placed s := by
  induction xs generalizing d with
  | nil =>
    obtain rfl : d' = d := h
    exact ⟨hopen, hplaced⟩
  | cons x xs ih =>
    refine ih (isOpen_exchange hopen x.1) ?_ h.2
    rw [exchange_of_open hopen]
    exact (indices_answer x.1).trans hplaced

theorem placed_fresh : (State.fresh e s).bank.Placed s := placed_after e s []

/-! ## What the answers say -/

/-- A register is read as it is, but for a lock that may be hidden. -/
theorem readRegister_answer {p : Parameters} {i : Nat} {r : Register} (hs : s.registerCount = 32)
    (hi : i < 32) (hr : d.registers[i]? = some r) :
    ∃ lock, Slot.readRegister (answer e s ((Slot.firstRead i).request p) d).1 =
        .ok ⟨lock, r.value⟩ ∧ (lock = true → r.lock = true) := by
  obtain ⟨c, hc, rfl⟩ := exists_cell hr
  refine ⟨(c.read s).1, ?_, (Cell.read_register c).2⟩
  unfold answer
  simp only [ofValue_read hs hi, serve, hc]
  rfl

/-- A document is about nothing of a device but its registers. -/
theorem answer_attest_congr (hcall : Calls request "Attestation" body)
    (h : d'.registers = d.registers) : (answer e s request d').1 = (answer e s request d).1 := by
  have hlocked : lockedRegisters d'.bank = lockedRegisters d.bank :=
    congrArg (List.filter Register.lock) h
  unfold answer
  cases hr : Request.ofValue s request with
  | error status => rfl
  | ok r =>
    obtain ⟨body', hcall', -⟩ := Calls.of_ofValue_eq_ok hr
    have hname : r.operation = "Attestation" := (hcall'.unique hcall).1
    cases r with
    | attest userData nonce publicKey => simp only [serve, document, payload, hlocked]
    | _ => simp [Request.operation] at hname

/-- A description that can be read says how many registers there are, and on another device only
the locked registers that it lists are others. -/
theorem read_describe_again {read : Description}
    (h : Operation.describe.read (describe s d) = .ok read) :
    s.registerCount = read.registerCount ∧
      ∀ d' : State, Operation.describe.read (describe s d') = .ok { read with
        lockedRegisters := (lockedRegisters d'.bank).map Register.index } := by
  have hdescribes : ∃ Lists body, describe s d = .map [(.text "DescribeNSM", body)] ∧
      Operation.Describes Lists body read := by
    rcases Operation.read_eq_ok_iff.mp h with ⟨body, hbody, h⟩ | ⟨body, hbody, h⟩
    · exact ⟨_, body, hbody, h⟩
    · exact ⟨_, body, hbody, h⟩
  obtain ⟨Lists, body, hbody, hdescribes⟩ := hdescribes
  cases hbody
  refine ⟨?_, fun d' => Operation.read_eq_ok_iff.mpr (.inl ⟨_, rfl, ?_⟩)⟩
  · exact Value.int.inj (Option.some.inj hdescribes.registerCount.1)
  · have hlisted : ((lockedRegisters d'.bank).map fun r => Value.int r.index) =
        ((lockedRegisters d'.bank).map Register.index).map .int := by
      rw [List.map_map]
      rfl
    exact {
      versionMajor := hdescribes.versionMajor
      versionMinor := hdescribes.versionMinor
      versionPatch := hdescribes.versionPatch
      moduleId := hdescribes.moduleId
      registerCount := hdescribes.registerCount
      lockedRegisters := hlisted ▸ .array _
      digest := hdescribes.digest }

end EnclaveAudit.Simulator
