import EnclaveAudit.Proofs.Audit.Conformance

/-!
# `EnclaveAudit/Proofs/Audit/Objections.lean` — answers that break the contract

Exact acceptance says that an answer is not accepted. Here is what an audit says instead, for the
answers that a device gives which breaks the contract in one of the usual ways: which check fails,
and at which register. All of it is about one place of the script and one ledger, and the violation
can always be written.
-/

set_option autoImplicit false

namespace EnclaveAudit

open Judgement

section

variable {p : Parameters} {u : Subject} {answer : Value} {l : Ledger}

theorem review_emptyDocument {x : Slot} (hx : x.IsDocument)
    (hread : Slot.readDocument answer = .ok []) :
    ∃ v l', x.review p u answer l = .error v l' ∧ v.Names .attestationNonEmpty none ∧
      v.isWritable = true := by
  have hne : x ≠ .firstRead 31 := by
    rintro rfl
    exact hx
  rw [review_of_ne hne, Slot.judge_document hx, hread]
  exact ⟨_, l, rfl, ⟨rfl, rfl⟩, rfl⟩

theorem review_relock (k i : Nat) :
    ∃ v l', (Slot.relock k i).review p u (.text "LockPCR") l = .error v l' ∧
      v.Names .lockRejected (some i) ∧ v.isWritable = true :=
  ⟨_, l, rfl, ⟨rfl, rfl⟩, rfl⟩

theorem review_lockBeyond :
    ∃ v l', Slot.lockBeyond.review p u (.text "LockPCRs") l = .error v l' ∧
      v.Names .lockRangeOverflow none ∧ v.isWritable = true :=
  ⟨_, l, rfl, ⟨rfl, rfl⟩, rfl⟩

theorem review_lockedExtension (i : Nat) (value : Bytes) :
    ∃ v l', (Slot.lockedExtension i).review p u
        (.record [("ExtendPCR", .record [("data", .bytes value)])]) l = .error v l' ∧
      v.Names .extendLockedRejected (some i) ∧ v.isWritable = true :=
  ⟨_, l, rfl, ⟨rfl, rfl⟩, rfl⟩

/-- An extension that returns the value that is known. -/
theorem review_extension {k i : Nat} {r : Register} (hr : l.bank[i]? = some r)
    (hread : Slot.readExtension answer = .ok r.value)
    (hwidth : r.value.length = u.contract.digestWidth)
    (hzero : r.value ≠ u.contract.zeroValue) :
    ∃ v l', (Slot.extension k i).review p u answer l = .error v l' ∧
      v.Names .extendChaining (some i) ∧ v.isWritable = true := by
  have hjudge : counted (Check.judgeExtend i u.contract (.ok r.value)) l =
      .ok r.value (l.count 1) :=
    counted_eq_ok_iff.mpr ⟨Check.judgeExtend_eq_ok_iff.mpr ⟨rfl, hwidth, hzero⟩, rfl⟩
  obtain ⟨v, hv⟩ : ∃ v, Check.requireChaining i r.value r.value = .error v := by
    simp [Check.requireChaining, Check.require]
  have hwritable : v.isWritable = true := by
    obtain ⟨-, rfl⟩ := Check.require_eq_error_iff.mp hv
    rfl
  rw [review_of_ne (x := .extension k i) (by simp), Slot.judge_extension, hread]
  refine ⟨v, l.count 1, ?_, Check.requireChaining_names hv, hwritable⟩
  refine bind_eq_error_iff.mpr (.inr ⟨_, _, hjudge, ?_⟩)
  refine bind_eq_error_iff.mpr (.inr ⟨_, _, get_eq_ok_iff.mpr ⟨rfl, rfl⟩, ?_⟩)
  simp only [Ledger.bank_count, hr]
  exact bind_eq_error_iff.mpr (.inl (counted_eq_error_iff.mpr ⟨hv, rfl⟩))

/-! ### Reads of a locked bank

Four checks are made of a read, and they overlap: a register that is not locked fails the first or
the second, and one with a wrong value the third or the fourth. Which of two it is depends on what
was last observed of the register. -/

/-- The check that a read of a register fails, if it fails one. -/
def readObjection (zero : Bytes) (i : Nat) (last : Register) (reading : Operation.Reading) :
    Option Check :=
  if last.lock = true ∧ reading.lock = false then some .lockMonotonic
  else if reading.lock = false then some .postLockLocked
  else if Contract.zeroAfterLock (i : Nat) = true ↔ reading.value ≠ zero then some .postLockValue
  else if reading.value ≠ last.value then some .registerValueStable
  else none

/-- A read with the right width, up to where it is compared with the last one. -/
theorem review_read_eq {k i : Nat} {last : Register} {reading : Operation.Reading}
    (hr : l.bank[i]? = some last) (hread : Slot.readRegister answer = .ok reading)
    (hwidth : reading.value.length = u.contract.digestWidth) :
    (Slot.read k i).review p u answer l = (do
      counted (Check.requireLockMonotonic (some last) ⟨i, reading.lock, reading.value⟩)
      counted (Check.requirePostLock ⟨i, reading.lock, reading.value⟩ u.contract)
      counted (Check.requireValueStable (some last) ⟨i, reading.lock, reading.value⟩)
      modify (Ledger.renew i ⟨i, reading.lock, reading.value⟩)) (l.count 1) := by
  have hjudge : counted (Check.judgeRead i u.contract (.ok reading)) l =
      .ok ⟨i, reading.lock, reading.value⟩ (l.count 1) :=
    counted_eq_ok_iff.mpr ⟨Check.judgeRead_eq_ok_iff.mpr ⟨_, rfl, hwidth, rfl⟩, rfl⟩
  have hget : (get : Judgement Ledger) (l.count 1) = .ok (l.count 1) (l.count 1) := rfl
  rw [review_of_ne (x := .read k i) (by simp), Slot.judge_read, hread, bind_of_eq_ok hjudge,
    bind_of_eq_ok hget, Ledger.bank_count, hr]
  rfl

/-- A check whose violation is known, and can be written. -/
def Blames (outcome : Except Violation Unit) (check : Check) (i : Nat) : Prop :=
  ∃ v, outcome = .error v ∧ v.Names check (some i) ∧ v.isWritable = true

theorem blames_of_require {holds : Bool} {v : Violation} {check : Check} {i : Nat}
    (hholds : holds = false) (hnames : v.Names check (some i)) (hwritable : v.isWritable = true) :
    Blames (Check.require holds v) check i :=
  ⟨v, Check.require_eq_error_iff.mpr ⟨hholds, rfl⟩, hnames, hwritable⟩

/-- A register that is locked has the wrong kind of value. -/
theorem blames_postLockValue {c : Contract} {i : Nat} {value : Bytes}
    (h : Contract.zeroAfterLock (i : Nat) = true ↔ value ≠ c.zeroValue) :
    Blames (Check.requirePostLock ⟨i, true, value⟩ c) .postLockValue i := by
  have hlock : Check.requirePostLock ⟨i, true, value⟩ c =
      if Contract.zeroAfterLock (i : Nat) = true then
        Check.require (value == c.zeroValue)
          ⟨.postLockValue, .bytes c.zeroValue, .bytes value, some i⟩
      else Check.require (value != c.zeroValue)
        ⟨.postLockValue, .text "non-zero value", .bytes c.zeroValue, some i⟩ := rfl
  rw [hlock]
  by_cases hzero : Contract.zeroAfterLock (i : Nat) = true
  · rw [if_pos hzero]
    exact blames_of_require (beq_eq_false_iff_ne.mpr (h.mp hzero)) ⟨rfl, rfl⟩ rfl
  · have hempty : value = c.zeroValue := not_not.mp fun hne => hzero (h.mpr hne)
    rw [if_neg hzero]
    exact blames_of_require (by simp [hempty]) ⟨rfl, rfl⟩ rfl

/-- **Which check a read fails** is in the table, and the violation names the register. -/
theorem review_read_of_objection {k i : Nat} {last : Register} {reading : Operation.Reading}
    {check : Check} (hr : l.bank[i]? = some last) (hread : Slot.readRegister answer = .ok reading)
    (hwidth : reading.value.length = u.contract.digestWidth)
    (hobjection : readObjection u.contract.zeroValue i last reading = some check) :
    ∃ v l', (Slot.read k i).review p u answer l = .error v l' ∧ v.Names check (some i) ∧
      v.isWritable = true := by
  obtain ⟨lock, value⟩ := reading
  -- the first of the checks that fails ends the judgement
  have hends : ∀ {o : Except Violation Unit} {n : Nat} {rest : Judgement Unit}, Blames o check i →
      ∃ v l', (do counted o; rest : Judgement Unit) (l.count n) = .error v l' ∧
        v.Names check (some i) ∧ v.isWritable = true := by
    rintro o n rest ⟨v, hv, hnames, hwritable⟩
    exact ⟨v, _, bind_eq_error_iff.mpr (.inl (counted_eq_error_iff.mpr ⟨hv, rfl⟩)), hnames,
      hwritable⟩
  have hpasses : ∀ {o : Except Violation Unit} {n : Nat} {rest : Judgement Unit}, o = .ok () →
      (do counted o; rest : Judgement Unit) (l.count n) = rest (l.count (n + 1)) := by
    rintro o n rest rfl
    rfl
  rw [review_read_eq hr hread hwidth]
  unfold readObjection at hobjection
  split_ifs at hobjection with hmonotonic hlocked hzero hstable <;> cases hobjection
  · obtain ⟨hlast, rfl : lock = false⟩ := hmonotonic
    exact hends (blames_of_require (by rw [hlast]; rfl) ⟨rfl, rfl⟩ rfl)
  · obtain rfl : lock = false := hlocked
    have hfree : ¬last.lock = true := fun h => hmonotonic ⟨h, rfl⟩
    rw [hpasses (Check.requireLockMonotonic_eq_ok_iff.mpr fun h => absurd h hfree)]
    exact hends ⟨_, rfl, ⟨rfl, rfl⟩, rfl⟩
  · obtain rfl : lock = true := Bool.eq_true_of_not_eq_false hlocked
    rw [hpasses (Check.requireLockMonotonic_eq_ok_iff.mpr fun _ => rfl)]
    exact hends (blames_postLockValue hzero)
  · obtain rfl : lock = true := Bool.eq_true_of_not_eq_false hlocked
    have hright : Contract.zeroAfterLock (i : Nat) = true ↔ value = u.contract.zeroValue :=
      not_iff_not.mp (not_iff.mp hzero)
    rw [hpasses (Check.requireLockMonotonic_eq_ok_iff.mpr fun _ => rfl),
      hpasses (Check.requirePostLock_eq_ok_iff.mpr ⟨rfl, hright⟩)]
    exact hends (blames_of_require (beq_eq_false_iff_ne.mpr (Ne.symm hstable)) ⟨rfl, rfl⟩ rfl)

/-- A register that was locked and does not look so. -/
theorem review_read {k i : Nat} {r : Register} {value : Bytes} (hr : l.bank[i]? = some r)
    (hlock : r.lock = true) (hread : Slot.readRegister answer = .ok ⟨false, value⟩)
    (hwidth : value.length = u.contract.digestWidth) :
    ∃ v l', (Slot.read k i).review p u answer l = .error v l' ∧
      v.Names .lockMonotonic (some i) ∧ v.isWritable = true :=
  review_read_of_objection hr hread hwidth (if_pos ⟨hlock, rfl⟩)

/-- A sample that was drawn before. -/
theorem review_sample {n : Nat} {sample : Bytes} (hl : l.sample = some sample)
    (hread : Slot.readSample p answer = .ok sample) (hlength : sample.length = p.randomLength) :
    ∃ v l', (Slot.sample n).review p u answer l = .error v l' ∧
      v.Names .randomRepeat none ∧ v.isWritable = true := by
  have hpos := p.randomLength_pos
  have hne : sample.isEmpty = false := by
    rw [List.isEmpty_eq_false_iff]
    rintro rfl
    simp only [List.length_nil] at hlength
    omega
  have hjudge : Check.judgeRandom p.randomLength (some sample) (.ok sample) = .error
      ⟨.randomRepeat, .text "sample different from the previous one", .bytes sample, none⟩ := by
    simp [Check.judgeRandom, Check.requireSample, Check.require, Check.succeed, hne, hlength, bind,
      Except.bind]
  rw [review_of_ne (x := .sample n) (by simp), Slot.judge_sample, hread]
  refine ⟨⟨.randomRepeat, .text "sample different from the previous one", .bytes sample, none⟩, l,
    ?_, ⟨rfl, rfl⟩, rfl⟩
  refine bind_eq_error_iff.mpr (.inr ⟨_, _, get_eq_ok_iff.mpr ⟨rfl, rfl⟩, ?_⟩)
  refine bind_eq_error_iff.mpr (.inl (counted_eq_error_iff.mpr ⟨?_, rfl⟩))
  rw [hl]
  exact hjudge

/-- A list of numbers up to one of them, and what comes after it. -/
theorem exists_range_eq {i n : Nat} (hi : i < n) :
    ∃ after, List.range n = List.range i ++ i :: after := by
  obtain ⟨m, rfl⟩ := Nat.exists_eq_add_of_lt hi
  refine ⟨((List.range m).map Nat.succ).map (i + ·), ?_⟩
  rw [Nat.add_assoc, List.range_add, List.range_succ_eq_map]
  rfl

/-- A register that must not be empty and is, when there is nothing to object to in those before. -/
theorem closing_initialRegisters_objects {f : Findings} {i : Nat} (hl : l.ReadSoFar f 32)
    (hi : i < 32) (hmust : Contract.zeroAtBoot? (i : Nat) = some false)
    (hempty : (f.first i).value = f.zero)
    (hbefore : ∀ j : Nat, j < i → Check.requireInitialValue f.subject.contract
      ⟨j, (f.first j).lock, (f.first j).value⟩ = .ok ()) :
    ∃ v l', Scenario.initialRegisters.closing f.subject l = .error v l' ∧
      v.Names .initialValue (some (i : Nat)) ∧ v.isWritable = true := by
  obtain ⟨hbank, -⟩ := hl
  obtain ⟨after, hrange⟩ := exists_range_eq hi
  have hzero : ((f.first i).value != f.subject.contract.zeroValue) = false := by
    rw [hempty]
    exact bne_self_eq_false _
  obtain ⟨v, hv, hwritable⟩ : ∃ v, Check.requireInitialValue f.subject.contract
      ⟨i, (f.first i).lock, (f.first i).value⟩ = .error v ∧ v.isWritable = true := by
    refine ⟨⟨.initialValue, .text "non-zero value", .bytes f.subject.contract.zeroValue,
      some (i : Nat)⟩, ?_, rfl⟩
    simp only [Check.requireInitialValue, hmust]
    exact Check.require_eq_error_iff.mpr ⟨hzero, rfl⟩
  have hvalues : Check.requireInitialValues l.bank f.subject.contract = .error v := by
    rw [Check.requireInitialValues, hbank, hrange, List.map_append, List.map_cons]
    refine Check.forM_append_cons_eq_error hv fun r hr => ?_
    obtain ⟨j, hj, rfl⟩ := List.mem_map.mp hr
    exact hbefore j (List.mem_range.mp hj)
  refine ⟨v, l, ?_, Check.requireInitialValue_names hv, hwritable⟩
  refine bind_eq_error_iff.mpr (.inr ⟨_, _, get_eq_ok_iff.mpr ⟨rfl, rfl⟩, ?_⟩)
  exact bind_eq_error_iff.mpr (.inl (counted_eq_error_iff.mpr ⟨hvalues, rfl⟩))

end

end EnclaveAudit
