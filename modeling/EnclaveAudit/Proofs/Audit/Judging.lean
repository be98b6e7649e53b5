import EnclaveAudit.Proofs.Audit.Dialogue
import EnclaveAudit.Proofs.Check.Passing

/-!
# `EnclaveAudit/Proofs/Audit/Judging.lean` — what a judgement does to the ledger

At each place of the script an answer is judged with the ledger at hand. For each kind of place this
file says what is made of an answer, which answers pass, and what the ledger is then, exactly. The
same is said of what is judged once all registers were read for the first time. Which violations
there are when an answer does not pass is for `Tally.lean`.
-/

set_option autoImplicit false

namespace EnclaveAudit

/-! ## Counting -/

namespace Ledger

/-- The ledger with so many more checks passed. -/
def count (n : Nat) (l : Ledger) : Ledger := { l with checks := l.checks + n }

/-- The ledger with one more register observed. -/
def observe (r : Register) (l : Ledger) : Ledger := { l with bank := l.bank ++ [r] }

/-- The ledger with a register observed again. -/
def renew (i : Nat) (r : Register) (l : Ledger) : Ledger := { l with bank := l.bank.set i r }

/-- The ledger with another random sample. -/
def draw (sample : Bytes) (l : Ledger) : Ledger := { l with sample := some sample }

@[simp] theorem count_count (m n : Nat) (l : Ledger) : (l.count m).count n = l.count (m + n) := by
  simp [count, Nat.add_assoc]
@[simp] theorem checks_count (n : Nat) (l : Ledger) : (l.count n).checks = l.checks + n := rfl
@[simp] theorem bank_count (n : Nat) (l : Ledger) : (l.count n).bank = l.bank := rfl

end Ledger

namespace Judgement

variable {α β : Type} {l l' : Ledger}

theorem counted_eq_ok_iff {o : Except Violation α} {a : α} :
    counted o l = .ok a l' ↔ o = .ok a ∧ l' = l.count 1 := by
  cases o <;> simp [counted, Ledger.count, eq_comm]

theorem counted_eq_error_iff {o : Except Violation α} {v : Violation} :
    counted o l = .error v l' ↔ o = .error v ∧ l' = l := by
  cases o <;> simp [counted, eq_comm]

theorem discard_eq_ok_iff {j : Judgement α} {u : PUnit} :
    (discard j : Judgement PUnit) l = .ok u l' ↔ ∃ a, j l = .ok a l' := by
  simp only [discard, Functor.mapConst, Function.comp, EStateM.map]
  cases j l <;> simp

theorem discard_eq_error_iff {j : Judgement α} {v : Violation} :
    (discard j : Judgement PUnit) l = .error v l' ↔ j l = .error v l' := by
  simp only [discard, Functor.mapConst, Function.comp, EStateM.map]
  cases j l <;> simp

theorem get_eq_ok_iff {seen : Ledger} :
    (get : Judgement Ledger) l = .ok seen l' ↔ seen = l ∧ l' = l := by
  constructor
  · rintro ⟨⟩
    exact ⟨rfl, rfl⟩
  · rintro ⟨rfl, rfl⟩
    rfl

theorem get_ne_error {v : Violation} : (get : Judgement Ledger) l ≠ .error v l' :=
  fun h => by cases h

end Judgement

/-! ## Answers that pass -/

namespace Slot

open Operation Judgement

variable {p : Parameters} {c : Contract} {answer : Value} {l l' : Ledger} {u : Unit}

/-- A place where a document is asked for. -/
def IsDocument : Slot → Prop
  | .bootDocument | .plainDocument | .document _ _ => True
  | _ => False

/-- An answer to a request for a register, as it is read. -/
def readRegister (answer : Value) : Except Status Reading :=
  readBody "DescribePCR" reading? answer

/-- An answer to a request for an extension, as it is read. -/
def readExtension (answer : Value) : Except Status Bytes :=
  readBody "ExtendPCR" (octets? "data") answer

/-- An answer to a request for a document, as it is read. -/
def readDocument (answer : Value) : Except Status Bytes :=
  readBody "Attestation" (octets? "document") answer

/-- An answer to a request for random octets, as it is read. -/
def readSample (p : Parameters) (answer : Value) : Except Status Bytes :=
  (Operation.random p.randomLength).read answer

/-! What is made of an answer, for each kind of place. -/

theorem judge_document {x : Slot} (hx : x.IsDocument) :
    x.judge p c answer =
      discard (counted (Check.judgeDocument p.maxDocumentSize (readDocument answer))) := by
  cases x with
  | bootDocument => rfl
  | plainDocument => rfl
  | document filled n => rfl
  | _ => cases hx

theorem judge_firstRead {i : Nat} :
    (Slot.firstRead i).judge p c answer = (do
      let r ← counted (Check.judgeRead i c (readRegister answer))
      modify fun l => { l with bank := l.bank ++ [r] }) := rfl

theorem judge_relock {k i : Nat} :
    (Slot.relock k i).judge p c answer =
      discard (counted (Check.judgeRelock i ((lockRegister (.int i)).read answer))) := rfl

theorem judge_extension {k i : Nat} :
    (Slot.extension k i).judge p c answer = (do
      let value ← counted
        (Check.judgeExtend i c (readExtension answer))
      match (← get).bank[i]? with
      | some previous =>
        counted (Check.requireChaining i previous.value value)
        modify fun l => { l with bank := l.bank.set i (previous.withValue value) }
      | none => pure ()) := rfl

theorem judge_lock {i : Nat} :
    (Slot.lock i).judge p c answer =
      counted (Check.judgeLock i ((lockRegister (.int i)).read answer)) := rfl

theorem judge_lockRange :
    Slot.lockRange.judge p c answer =
      counted (Check.judgeLockRange ((lockRegisters (.int 32)).read answer)) := rfl

theorem judge_lockBeyond :
    Slot.lockBeyond.judge p c answer =
      discard (counted (Check.judgeLockBeyond ((lockRegisters (.int 33)).read answer))) := rfl

theorem judge_lockedExtension {i : Nat} :
    (Slot.lockedExtension i).judge p c answer = discard (counted
      (Check.judgeExtendLocked i ((extendRegister (.int i) p.extendInput).read answer))) := rfl

theorem judge_read {k i : Nat} :
    (Slot.read k i).judge p c answer = (do
      let r ← counted (Check.judgeRead i c (readRegister answer))
      let previous := (← get).bank[i]?
      counted (Check.requireLockMonotonic previous r)
      counted (Check.requirePostLock r c)
      counted (Check.requireValueStable previous r)
      modify fun l => { l with bank := l.bank.set i r }) := rfl

theorem judge_sample {n : Nat} :
    (Slot.sample n).judge p c answer = (do
      let sample ← counted (Check.judgeRandom p.randomLength (← get).sample (readSample p answer))
      modify fun l => { l with sample := some sample }) := rfl

/-! When it passes, and the ledger then. -/

theorem judge_document_eq_ok_iff {x : Slot} (hx : x.IsDocument) :
    x.judge p c answer l = .ok u l' ↔
      (∃ document, readDocument answer = .ok document ∧ document ≠ [] ∧
        document.length ≤ p.maxDocumentSize) ∧ l' = l.count 1 := by
  simp only [judge_document hx, discard_eq_ok_iff, counted_eq_ok_iff, Check.judgeDocument_eq_ok_iff,
    exists_and_right, Int.ofNat_le]

theorem judge_firstRead_eq_ok_iff {i : Nat} :
    (Slot.firstRead i).judge p c answer l = .ok u l' ↔
      ∃ reading, readRegister answer = .ok reading ∧
        reading.value.length = c.digestWidth ∧
        l' = (l.observe ⟨i, reading.lock, reading.value⟩).count 1 := by
  simp only [judge_firstRead, bind_eq_ok_iff, counted_eq_ok_iff, Check.judgeRead_eq_ok_iff,
    modify_eq_ok_iff]
  constructor
  · rintro ⟨_, _, ⟨⟨reading, hr, hw, rfl⟩, rfl⟩, rfl⟩
    exact ⟨reading, hr, hw, rfl⟩
  · rintro ⟨reading, hr, hw, rfl⟩
    exact ⟨_, _, ⟨⟨reading, hr, hw, rfl⟩, rfl⟩, rfl⟩

theorem judge_relock_eq_ok_iff {k i : Nat} :
    (Slot.relock k i).judge p c answer l = .ok u l' ↔
      (∃ status, (lockRegister (.int i)).read answer = .error status ∧
        status ≠ .invalidResponse) ∧ l' = l.count 1 := by
  simp only [judge_relock, discard_eq_ok_iff, counted_eq_ok_iff, Check.judgeRelock,
    Check.refused_eq_ok_iff, exists_and_right]

theorem judge_extension_eq_ok_iff {k i : Nat} {r : Register} (hr : l.bank[i]? = some r) :
    (Slot.extension k i).judge p c answer l = .ok u l' ↔
      ∃ value, readExtension answer = .ok value ∧
        value.length = c.digestWidth ∧ value ≠ c.zeroValue ∧ r.value ≠ value ∧
        l' = (l.renew i (r.withValue value)).count 2 := by
  simp only [judge_extension, bind_eq_ok_iff, counted_eq_ok_iff, Check.judgeExtend_eq_ok_iff,
    get_eq_ok_iff]
  constructor
  · rintro ⟨value, _, ⟨⟨hread, hw, hz⟩, rfl⟩, _, _, ⟨rfl, rfl⟩, h⟩
    simp only [Ledger.bank_count, hr, bind_eq_ok_iff, counted_eq_ok_iff, modify_eq_ok_iff,
      Check.requireChaining_eq_ok_iff] at h
    obtain ⟨_, _, ⟨hne, rfl⟩, rfl⟩ := h
    exact ⟨value, hread, hw, hz, hne, rfl⟩
  · rintro ⟨value, hread, hw, hz, hne, rfl⟩
    refine ⟨value, _, ⟨⟨hread, hw, hz⟩, rfl⟩, _, _, ⟨rfl, rfl⟩, ?_⟩
    simp only [Ledger.bank_count, hr, bind_eq_ok_iff, counted_eq_ok_iff, modify_eq_ok_iff,
      Check.requireChaining_eq_ok_iff]
    exact ⟨(), _, ⟨hne, rfl⟩, rfl⟩

theorem judge_lock_eq_ok_iff {i : Nat} :
    (Slot.lock i).judge p c answer l = .ok u l' ↔
      (lockRegister (.int i)).read answer = .ok () ∧ l' = l.count 1 := by
  rw [judge_lock, counted_eq_ok_iff, Check.judgeLock, Check.succeed_eq_ok_iff]

theorem judge_lockRange_eq_ok_iff :
    Slot.lockRange.judge p c answer l = .ok u l' ↔
      (lockRegisters (.int 32)).read answer = .ok () ∧ l' = l.count 1 := by
  rw [judge_lockRange, counted_eq_ok_iff, Check.judgeLockRange, Check.succeed_eq_ok_iff]

theorem judge_lockBeyond_eq_ok_iff :
    Slot.lockBeyond.judge p c answer l = .ok u l' ↔
      (∃ status, (lockRegisters (.int 33)).read answer = .error status ∧
        status ≠ .invalidResponse) ∧ l' = l.count 1 := by
  simp only [judge_lockBeyond, discard_eq_ok_iff, counted_eq_ok_iff, Check.judgeLockBeyond,
    Check.refused_eq_ok_iff, exists_and_right]

theorem judge_lockedExtension_eq_ok_iff {i : Nat} :
    (Slot.lockedExtension i).judge p c answer l = .ok u l' ↔
      (∃ status, (extendRegister (.int i) p.extendInput).read answer = .error status ∧
        status ≠ .invalidResponse) ∧ l' = l.count 1 := by
  simp only [judge_lockedExtension, discard_eq_ok_iff, counted_eq_ok_iff, Check.judgeExtendLocked,
    Check.refused_eq_ok_iff, exists_and_right]

theorem judge_read_eq_ok_iff {k i : Nat} {r : Register} (hr : l.bank[i]? = some r) :
    (Slot.read k i).judge p c answer l = .ok u l' ↔
      ∃ reading, readRegister answer = .ok reading ∧
        reading.value.length = c.digestWidth ∧ reading.lock = true ∧
        (Contract.zeroAfterLock i = true ↔ reading.value = c.zeroValue) ∧
        r.value = reading.value ∧
        l' = (l.renew i ⟨i, reading.lock, reading.value⟩).count 4 := by
  simp only [judge_read, bind_eq_ok_iff, counted_eq_ok_iff, Check.judgeRead_eq_ok_iff,
    get_eq_ok_iff, modify_eq_ok_iff, Check.requirePostLock_eq_ok_iff]
  constructor
  · rintro ⟨_, _, ⟨⟨reading, hread, hw, rfl⟩, rfl⟩, _, _, ⟨rfl, rfl⟩, h⟩
    simp only [Ledger.bank_count, hr, Check.requireLockMonotonic_eq_ok_iff,
      Check.requireValueStable_eq_ok_iff] at h
    obtain ⟨_, _, ⟨-, rfl⟩, _, _, ⟨⟨hlock, hz⟩, rfl⟩, _, _, ⟨hvalue, rfl⟩, rfl⟩ := h
    exact ⟨reading, hread, hw, hlock, hz, hvalue, rfl⟩
  · rintro ⟨reading, hread, hw, hlock, hz, hvalue, rfl⟩
    refine ⟨_, _, ⟨⟨reading, hread, hw, rfl⟩, rfl⟩, _, _, ⟨rfl, rfl⟩, ?_⟩
    simp only [Ledger.bank_count, hr, Check.requireLockMonotonic_eq_ok_iff,
      Check.requireValueStable_eq_ok_iff]
    exact ⟨(), _, ⟨fun _ => hlock, rfl⟩, (), _, ⟨⟨hlock, hz⟩, rfl⟩, (), _, ⟨hvalue, rfl⟩, rfl⟩

theorem judge_sample_eq_ok_iff {n : Nat} :
    (Slot.sample n).judge p c answer l = .ok u l' ↔
      ∃ sample, readSample p answer = .ok sample ∧ sample.length = p.randomLength ∧
        l.sample ≠ some sample ∧ l' = (l.draw sample).count 1 := by
  have hpos := p.randomLength_pos
  simp only [judge_sample, bind_eq_ok_iff, counted_eq_ok_iff, Check.judgeRandom_eq_ok_iff,
    get_eq_ok_iff, modify_eq_ok_iff, Int.natCast_inj]
  constructor
  · rintro ⟨_, _, ⟨rfl, rfl⟩, sample, _, ⟨⟨hread, -, hlength, hne⟩, rfl⟩, rfl⟩
    exact ⟨sample, hread, hlength, hne, rfl⟩
  · rintro ⟨sample, hread, hlength, hne, rfl⟩
    refine ⟨_, _, ⟨rfl, rfl⟩, sample, _, ⟨⟨hread, ?_, hlength, hne⟩, rfl⟩, rfl⟩
    -- a sample of the right length is not empty, because no length is zero
    rintro rfl
    simp only [List.length_nil] at hlength
    omega

end Slot

/-! ## The end of the first reads -/

namespace Scenario

open Judgement

variable {s : Subject} {l l' : Ledger} {u : Unit}

theorem closing_initialRegisters_eq_ok_iff :
    Scenario.initialRegisters.closing s l = .ok u l' ↔
      (∀ r ∈ l.bank, (Contract.zeroAtBoot? r.index = some true → r.value = s.contract.zeroValue) ∧
        (Contract.zeroAtBoot? r.index = some false → r.value ≠ s.contract.zeroValue)) ∧
      s.description.lockedRegisters.Perm ((List.range bootLockedCount).map Int.ofNat) ∧
      (∀ r ∈ l.bank, r.lock = Contract.lockedAtBoot r.index) ∧ l' = l.count 3 := by
  simp only [Scenario.closing, bind_eq_ok_iff, get_eq_ok_iff, counted_eq_ok_iff,
    Check.requireInitialValues, Check.requireInitialLockFlags, Check.forM_eq_ok_iff,
    Check.requireInitialValue_eq_ok_iff, Check.requireInitialLockFlag_eq_ok_iff,
    Check.requireInitialLockedSet_eq_ok_iff]
  constructor
  · rintro ⟨_, _, ⟨rfl, rfl⟩, _, _, ⟨hvalues, rfl⟩, _, _, ⟨hset, rfl⟩, _, _, ⟨rfl, rfl⟩, hflags,
      rfl⟩
    exact ⟨hvalues, hset, hflags, rfl⟩
  · rintro ⟨hvalues, hset, hflags, rfl⟩
    exact ⟨_, _, ⟨rfl, rfl⟩, (), _, ⟨hvalues, rfl⟩, (), _, ⟨hset, rfl⟩, _, _, ⟨rfl, rfl⟩, hflags,
      rfl⟩

end Scenario

end EnclaveAudit
