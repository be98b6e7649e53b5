import Mathlib.Algebra.Order.Ring.Nat
import EnclaveAudit.Proofs.Audit.Judging

/-!
# `EnclaveAudit/Proofs/Audit/Tally.lean` — violations have a place, passed checks a number

At each place of the script only certain checks can fail, at certain registers (`Slot.Concerns`),
and an answer that passes counts for a fixed number of checks (`Slot.checks`). So the count of an
audit says how far it came, and the check that failed says which request was the last.

Both need the bank of the ledger to be in order: the registers in it are those read so far, each at
its place (`Ledger.Observed`). A register that was never read could not be extended and be counted
for it. `Orderly` says of a list of steps that it reads the registers in order and extends none
before it was read; the steps of an audit are orderly for every choice of parameters.
-/

set_option autoImplicit false

namespace EnclaveAudit

/-- How many checks of the same answer come before a check. -/
def Check.precedence : Check → Nat
  | .initialValue | .extendChaining | .lockMonotonic => 1
  | .initialLockedSet | .postLockLocked | .postLockValue => 2
  | .initialLockFlag | .registerValueStable => 3
  | _ => 0

namespace Slot

/-- How many checks an answer passes that nothing is wrong with. -/
def checks : Slot → Nat
  | .firstRead i => if i = 31 then 4 else 1
  | .extension _ _ => 2
  | .read _ _ => 4
  | _ => 1

/-- The violation is one that an answer at the place can amount to. -/
def Concerns (v : Violation) : Slot → Prop
  | .bootDocument | .plainDocument | .document _ _ =>
    v.Names .attestation none ∨ v.Names .attestationNonEmpty none ∨ v.Names .attestationSize none
  | .firstRead i =>
    v.Names .describeRegister (some i) ∨
      (i = 31 ∧ ((∃ k < 32, v.Names .initialValue (some (k : Nat))) ∨
        v.Names .initialLockedSet none ∨ ∃ k < 32, v.Names .initialLockFlag (some (k : Nat))))
  | .relock _ i => v.Names .lockRejected (some i)
  | .extension _ i =>
    v.Names .extendRegister (some i) ∨ v.Names .extendWidth (some i) ∨
      v.Names .extendNonZero (some i) ∨ v.Names .extendChaining (some i)
  | .lock i => v.Names .lockRegister (some i)
  | .lockRange => v.Names .lockRangeExact none
  | .lockBeyond => v.Names .lockRangeOverflow none
  | .lockedExtension i => v.Names .extendLockedRejected (some i)
  | .read _ i =>
    v.Names .describeRegister (some i) ∨ v.Names .lockMonotonic (some i) ∨
      v.Names .postLockLocked (some i) ∨ v.Names .postLockValue (some i) ∨
      v.Names .registerValueStable (some i)
  | .sample _ =>
    v.Names .getRandom none ∨ v.Names .randomNotEmpty none ∨ v.Names .randomLength none ∨
      v.Names .randomRepeat none

end Slot

theorem Violation.Names.precedence {v : Violation} {check : Check} {r : Option Int}
    (h : v.Names check r) : v.check.precedence = check.precedence :=
  congrArg Check.precedence h.1

/-- The count that a violation leaves behind is that of its check. -/
theorem Violation.Names.count {v : Violation} {check : Check} {r : Option Int} {l : Ledger}
    (h : v.Names check r) : l.count check.precedence = l.count v.check.precedence := by
  rw [h.precedence]

/-! ## Answers that do not pass -/

namespace Slot

open Judgement

variable {p : Parameters} {c : Contract} {answer : Value} {l l' : Ledger} {v : Violation}

/-- A check that is the first on its answer. -/
theorem counted_names {α : Type} {o : Except Violation α} {check : Check} {register : Option Int}
    (hnames : ∀ {v : Violation}, o = .error v → v.Names check register)
    (hfirst : check.precedence = 0) (h : counted o l = .error v l') :
    v.Names check register ∧ l' = l.count v.check.precedence := by
  obtain ⟨hviolated, rfl⟩ := counted_eq_error_iff.mp h
  have hv := hnames hviolated
  refine ⟨hv, ?_⟩
  rw [hv.precedence, hfirst]
  rfl

theorem judge_extension_eq_error {k i : Nat}
    (h : (Slot.extension k i).judge p c answer l = .error v l') :
    (Slot.extension k i).Concerns v ∧ l' = l.count v.check.precedence := by
  simp only [judge_extension, bind_eq_error_iff, counted_eq_error_iff, counted_eq_ok_iff,
    get_eq_ok_iff] at h
  rcases h with ⟨h, rfl⟩ | ⟨value, _, ⟨-, rfl⟩, h | ⟨_, _, ⟨rfl, rfl⟩, h⟩⟩
  · rcases Check.judgeExtend_names h with hv | hv | hv
    · exact ⟨.inl hv, hv.count⟩
    · exact ⟨.inr (.inl hv), hv.count⟩
    · exact ⟨.inr (.inr (.inl hv)), hv.count⟩
  · exact absurd h get_ne_error
  · cases hr : (l.count 1).bank[i]? with
    | some previous =>
      simp only [hr, bind_eq_error_iff, counted_eq_error_iff] at h
      rcases h with ⟨h, rfl⟩ | ⟨_, _, -, h⟩
      · have hv := Check.requireChaining_names h
        exact ⟨.inr (.inr (.inr hv)), hv.count⟩
      · exact absurd h modify_ne_error
    | none =>
      rw [hr] at h
      exact absurd h pure_ne_error

theorem judge_read_eq_error {k i : Nat}
    (h : (Slot.read k i).judge p c answer l = .error v l') :
    (Slot.read k i).Concerns v ∧ l' = l.count v.check.precedence := by
  simp only [judge_read, bind_eq_error_iff, counted_eq_error_iff, counted_eq_ok_iff, get_eq_ok_iff,
    Check.judgeRead_eq_ok_iff] at h
  rcases h with ⟨h, rfl⟩ | ⟨_, _, ⟨⟨reading, -, -, rfl⟩, rfl⟩, h | ⟨_, _, ⟨rfl, rfl⟩, ⟨h, rfl⟩ |
    ⟨_, _, ⟨-, rfl⟩, ⟨h, rfl⟩ | ⟨_, _, ⟨-, rfl⟩, ⟨h, rfl⟩ | ⟨_, _, ⟨-, rfl⟩, h⟩⟩⟩⟩⟩
  · have hv := Check.judgeRead_names h
    exact ⟨.inl hv, hv.count⟩
  · exact absurd h get_ne_error
  · have hv := Check.requireLockMonotonic_names h
    exact ⟨.inr (.inl hv), hv.count⟩
  -- one more check passed before each of the next
  · rw [Ledger.count_count]
    rcases Check.requirePostLock_names h with hv | hv
    · exact ⟨.inr (.inr (.inl hv)), hv.count⟩
    · exact ⟨.inr (.inr (.inr (.inl hv))), hv.count⟩
  · have hv := Check.requireValueStable_names h
    rw [Ledger.count_count, Ledger.count_count]
    exact ⟨.inr (.inr (.inr (.inr hv))), hv.count⟩
  · exact absurd h modify_ne_error

theorem judge_document_eq_error {x : Slot} (hx : x.IsDocument)
    (h : x.judge p c answer l = .error v l') :
    x.Concerns v ∧ l' = l.count v.check.precedence := by
  rw [judge_document hx, discard_eq_error_iff, counted_eq_error_iff] at h
  obtain ⟨h, rfl⟩ := h
  have hv := Check.judgeDocument_names h
  refine ⟨?_, ?_⟩
  · cases x with
    | bootDocument => exact hv
    | plainDocument => exact hv
    | document filled n => exact hv
    | _ => cases hx
  · rcases hv with hv | hv | hv <;> exact hv.count

/-- **A judgement that ends in a violation** names a check of its place, and nothing of the ledger
has moved but the count. -/
theorem judge_eq_error {x : Slot} (h : x.judge p c answer l = .error v l') :
    x.Concerns v ∧ l' = l.count v.check.precedence := by
  cases x with
  | bootDocument => exact judge_document_eq_error trivial h
  | plainDocument => exact judge_document_eq_error trivial h
  | document filled n => exact judge_document_eq_error trivial h
  | extension k i => exact judge_extension_eq_error h
  | read k i => exact judge_read_eq_error h
  | firstRead i =>
    simp only [judge_firstRead, bind_eq_error_iff, counted_eq_error_iff] at h
    rcases h with ⟨h, rfl⟩ | ⟨_, _, -, h⟩
    · have hv := Check.judgeRead_names h
      exact ⟨.inl hv, hv.count⟩
    · exact absurd h modify_ne_error
  | relock k i =>
    rw [judge_relock, discard_eq_error_iff] at h
    exact counted_names Check.refused_names rfl h
  | lock i =>
    rw [judge_lock] at h
    exact counted_names Check.succeed_names rfl h
  | lockRange =>
    rw [judge_lockRange] at h
    exact counted_names Check.succeed_names rfl h
  | lockBeyond =>
    rw [judge_lockBeyond, discard_eq_error_iff] at h
    exact counted_names Check.refused_names rfl h
  | lockedExtension i =>
    rw [judge_lockedExtension, discard_eq_error_iff] at h
    exact counted_names Check.refused_names rfl h
  | sample n =>
    simp only [judge_sample, bind_eq_error_iff, counted_eq_error_iff, get_eq_ok_iff] at h
    rcases h with h | ⟨_, _, ⟨rfl, rfl⟩, ⟨h, rfl⟩ | ⟨_, _, -, h⟩⟩
    · exact absurd h get_ne_error
    · have hv := Check.judgeRandom_names h
      refine ⟨hv, ?_⟩
      rcases hv with hv | hv | hv | hv <;> exact hv.count
    · exact absurd h modify_ne_error

end Slot

section

open Judgement

/-- At the end of the first reads, three checks can fail, in this order. -/
theorem Scenario.closing_initialRegisters_eq_error {s : Subject} {l l' : Ledger} {v : Violation}
    (h : Scenario.initialRegisters.closing s l = .error v l') :
    (∃ r ∈ l.bank, v.Names .initialValue (some r.index) ∧ l' = l) ∨
      (v.Names .initialLockedSet none ∧ l' = l.count 1) ∨
      ∃ r ∈ l.bank, v.Names .initialLockFlag (some r.index) ∧ l' = l.count 2 := by
  simp only [Scenario.closing, bind_eq_error_iff, get_eq_ok_iff, counted_eq_ok_iff,
    counted_eq_error_iff, Check.requireInitialValues, Check.requireInitialLockFlags] at h
  rcases h with h | ⟨_, _, ⟨rfl, rfl⟩, ⟨h, rfl⟩ | ⟨_, _, ⟨-, rfl⟩, ⟨h, rfl⟩ | ⟨_, _, ⟨-, rfl⟩,
    h | ⟨_, _, ⟨rfl, rfl⟩, h, rfl⟩⟩⟩⟩
  · exact absurd h get_ne_error
  · obtain ⟨r, hr, hv⟩ := Check.forM_eq_error h
    exact .inl ⟨r, hr, Check.requireInitialValue_names hv, rfl⟩
  · exact .inr (.inl ⟨Check.requireInitialLockedSet_names h, rfl⟩)
  · exact absurd h get_ne_error
  · obtain ⟨r, hr, hv⟩ := Check.forM_eq_error h
    exact .inr (.inr ⟨r, hr, Check.requireInitialLockFlag_names hv, rfl⟩)

end

/-! ## The bank of the ledger -/

/-- The registers in the bank are the first so many, each at its place. -/
def Ledger.Observed (n : Nat) (l : Ledger) : Prop :=
  l.bank.map Register.index = (List.range n).map Int.ofNat

namespace Ledger.Observed

variable {n i : Nat} {r : Register} {l : Ledger}

theorem length (h : l.Observed n) : l.bank.length = n := by
  have hlength := congrArg List.length h
  simpa using hlength

theorem exists_getElem? (h : l.Observed n) (hi : i < n) :
    ∃ r, l.bank[i]? = some r ∧ r.index = i := by
  have hbound : i < l.bank.length := h.length.symm ▸ hi
  have hindex : (l.bank.map Register.index)[i]? = ((List.range n).map Int.ofNat)[i]? := by rw [h]
  refine ⟨l.bank[i], List.getElem?_eq_getElem hbound, ?_⟩
  simpa [List.getElem?_eq_getElem hbound, hi] using hindex

theorem index_of_mem (h : l.Observed n) (hr : r ∈ l.bank) : ∃ k < n, r.index = (k : Nat) := by
  have hindex : r.index ∈ (List.range n).map Int.ofNat := h ▸ List.mem_map_of_mem hr
  obtain ⟨k, hk, hrk⟩ := List.mem_map.mp hindex
  exact ⟨k, List.mem_range.mp hk, hrk.symm⟩

theorem observe (h : l.Observed n) (hr : r.index = n) : (l.observe r).Observed (n + 1) := by
  have hbank : (l.observe r).bank = l.bank ++ [r] := rfl
  rw [Ledger.Observed, hbank, List.map_append, h, List.range_succ, List.map_append]
  simp [hr]

theorem renew (h : l.Observed n) (hr : r.index = i) : (l.renew i r).Observed n := by
  have hbank : (l.renew i r).bank = l.bank.set i r := rfl
  rw [Ledger.Observed, hbank, List.map_set, h]
  exact set_map_range hr.symm fun _ _ _ => rfl

end Ledger.Observed

/-! ## Order -/

namespace Slot

/-- The place is one that an audit may come to when so many registers were read. -/
def Fits (n : Nat) : Slot → Prop
  | .firstRead i => i = n
  | .extension _ i | .read _ i => i < n
  | _ => True

/-- How many registers were read after the place. -/
def observed (n : Nat) : Slot → Nat
  | .firstRead _ => n + 1
  | _ => n

variable {p : Parameters} {s : Subject} {answer : Value} {l l' : Ledger} {n : Nat}

theorem judge_eq_ok {x : Slot} (hx : x.Fits n) (hl : l.Observed n)
    (h : x.judge p s.contract answer l = .ok () l') :
    l'.Observed (x.observed n) ∧
      l'.checks + (if x = .firstRead 31 then 3 else 0) = l.checks + x.checks := by
  cases x with
  | bootDocument =>
    obtain ⟨-, rfl⟩ := (judge_document_eq_ok_iff (x := .bootDocument) trivial).mp h
    exact ⟨hl, rfl⟩
  | plainDocument =>
    obtain ⟨-, rfl⟩ := (judge_document_eq_ok_iff (x := .plainDocument) trivial).mp h
    exact ⟨hl, rfl⟩
  | document filled k =>
    obtain ⟨-, rfl⟩ := (judge_document_eq_ok_iff (x := .document filled k) trivial).mp h
    exact ⟨hl, rfl⟩
  | firstRead i =>
    obtain rfl : i = n := hx
    obtain ⟨reading, -, -, rfl⟩ := judge_firstRead_eq_ok_iff.mp h
    refine ⟨hl.observe rfl, ?_⟩
    simp only [Slot.firstRead.injEq, checks]
    split_ifs <;> rfl
  | relock k i =>
    obtain ⟨-, rfl⟩ := judge_relock_eq_ok_iff.mp h
    exact ⟨hl, rfl⟩
  | extension k i =>
    obtain ⟨r, hr, hindex⟩ := hl.exists_getElem? hx
    obtain ⟨value, -, -, -, -, rfl⟩ := (judge_extension_eq_ok_iff hr).mp h
    exact ⟨hl.renew hindex, rfl⟩
  | lock i =>
    obtain ⟨-, rfl⟩ := judge_lock_eq_ok_iff.mp h
    exact ⟨hl, rfl⟩
  | lockRange =>
    obtain ⟨-, rfl⟩ := judge_lockRange_eq_ok_iff.mp h
    exact ⟨hl, rfl⟩
  | lockBeyond =>
    obtain ⟨-, rfl⟩ := judge_lockBeyond_eq_ok_iff.mp h
    exact ⟨hl, rfl⟩
  | lockedExtension i =>
    obtain ⟨-, rfl⟩ := judge_lockedExtension_eq_ok_iff.mp h
    exact ⟨hl, rfl⟩
  | read k i =>
    obtain ⟨r, hr, -⟩ := hl.exists_getElem? hx
    obtain ⟨reading, -, -, -, -, -, rfl⟩ := (judge_read_eq_ok_iff hr).mp h
    exact ⟨hl.renew rfl, rfl⟩
  | sample k =>
    obtain ⟨sample, -, -, -, rfl⟩ := judge_sample_eq_ok_iff.mp h
    exact ⟨hl, rfl⟩

/-- An answer that passes leaves the bank in order and counts for the checks of its place. -/
theorem review_eq_ok {x : Slot} (hx : x.Fits n) (hl : l.Observed n)
    (h : x.review p s answer l = .ok () l') :
    l'.Observed (x.observed n) ∧ l'.checks = l.checks + x.checks := by
  obtain ⟨_, l₁, hjudge, hclosing⟩ := bind_eq_ok_iff.mp h
  obtain ⟨hl₁, hchecks⟩ := judge_eq_ok hx hl hjudge
  unfold Slot.closing at hclosing
  split_ifs at hclosing hchecks with hlast
  · obtain ⟨-, -, -, rfl⟩ := Scenario.closing_initialRegisters_eq_ok_iff.mp hclosing
    exact ⟨hl₁, hchecks⟩
  · obtain ⟨-, rfl⟩ := pure_eq_ok_iff.mp hclosing
    exact ⟨hl₁, hchecks⟩

/-- One that does not is a violation at its place, and the checks before the failed one count. -/
theorem review_eq_error {x : Slot} {v : Violation} (hx : x.Fits n) (hl : l.Observed n)
    (h : x.review p s answer l = .error v l') :
    x.Concerns v ∧ l'.checks = l.checks + v.check.precedence := by
  rcases bind_eq_error_iff.mp h with hjudge | ⟨_, l₁, hjudge, hclosing⟩
  · obtain ⟨hv, rfl⟩ := judge_eq_error hjudge
    exact ⟨hv, rfl⟩
  -- the answer passes, and the scenario that it ends does not
  · unfold Slot.closing at hclosing
    split_ifs at hclosing with hlast
    · obtain rfl := hlast
      obtain rfl : 31 = n := hx
      obtain ⟨hl₁, hchecks⟩ := judge_eq_ok (x := .firstRead 31) rfl hl hjudge
      have hchecks : l₁.checks = l.checks + 1 := by simpa [checks] using hchecks
      rcases Scenario.closing_initialRegisters_eq_error hclosing with
        ⟨r, hr, hv, rfl⟩ | ⟨hv, rfl⟩ | ⟨r, hr, hv, rfl⟩
      · obtain ⟨k, hk, hindex⟩ := hl₁.index_of_mem hr
        rw [hindex] at hv
        exact ⟨.inr ⟨rfl, .inl ⟨k, hk, hv⟩⟩, by rw [hv.precedence, hchecks]; rfl⟩
      · exact ⟨.inr ⟨rfl, .inr (.inl hv)⟩, by
          rw [hv.precedence, Ledger.checks_count, hchecks]; rfl⟩
      · obtain ⟨k, hk, hindex⟩ := hl₁.index_of_mem hr
        rw [hindex] at hv
        exact ⟨.inr ⟨rfl, .inr (.inr ⟨k, hk, hv⟩)⟩, by
          rw [hv.precedence, Ledger.checks_count, hchecks]; rfl⟩
    · exact absurd hclosing pure_ne_error

end Slot

/-- Steps that read registers in order, from the first that is not read yet, and that extend or read
again only those that were read. -/
def Orderly : Nat → List Step → Prop
  | _, [] => True
  | n, .ask x :: xs => x.Fits n ∧ Orderly (x.observed n) xs
  | n, .pass _ :: xs => Orderly n xs

/-- Steps of an orderly list that pass keep the bank in order and count for their checks. -/
theorem examine_eq_ok {p : Parameters} {s : Subject} {given : Slot → Value} {xs ys : List Step}
    {n : Nat} {l l' : Ledger} (horder : Orderly n (xs ++ ys)) (hl : l.Observed n)
    (h : examine p s given xs l = .ok () l') :
    ∃ n', l'.Observed n' ∧ Orderly n' ys ∧
      l'.checks = l.checks + ((asked xs).map Slot.checks).sum := by
  induction xs generalizing n l with
  | nil =>
    obtain ⟨-, rfl⟩ := pure_eq_ok_iff.mp h
    exact ⟨n, hl, horder, rfl⟩
  | cons step xs ih =>
    obtain ⟨_, l₁, hstep, hrest⟩ := bind_eq_ok_iff.mp h
    cases step with
    | ask x =>
      obtain ⟨hx, horder⟩ := horder
      obtain ⟨hl₁, hchecks⟩ := Slot.review_eq_ok hx hl hstep
      obtain ⟨n', hl', horder', hsum⟩ := ih horder hl₁ hrest
      refine ⟨n', hl', horder', ?_⟩
      rw [hsum, hchecks, asked_ask, List.map_cons, List.sum_cons, Nat.add_assoc]
    | pass scenario =>
      obtain rfl := modify_eq_ok_iff.mp hstep
      have hl : (l.pass scenario).Observed n := hl
      have horder : Orderly n (xs ++ ys) := horder
      obtain ⟨n', hl', horder', hsum⟩ := ih horder hl hrest
      exact ⟨n', hl', horder', hsum⟩

/-! The steps of an audit are orderly. -/

theorem orderly_map_ask {n : Nat} {xs : List Slot} {ys : List Step}
    (h : ∀ x ∈ xs, x.Fits n ∧ x.observed n = n) (hys : Orderly n ys) :
    Orderly n (xs.map .ask ++ ys) := by
  induction xs with
  | nil => exact hys
  | cons x xs ih =>
    obtain ⟨⟨hfits, hsame⟩, hxs⟩ := List.forall_mem_cons.mp h
    refine ⟨hfits, ?_⟩
    rw [hsame]
    exact ih hxs

theorem orderly_firstReads {ys : List Step} (k n : Nat) (hys : Orderly (n + k) ys) :
    Orderly n (((List.range' n k).map Slot.firstRead).map .ask ++ ys) := by
  induction k generalizing n with
  | zero => exact hys
  | succ k ih =>
    rw [List.range'_succ]
    refine ⟨rfl, ih (n + 1) ?_⟩
    rw [Nat.add_right_comm]
    exact hys

theorem orderly_steps (p : Parameters) : Orderly 0 p.steps := by
  rw [p.steps_eq]
  refine orderly_map_ask (fun x hx => ?_) ?_
  · simp only [Scenario.slots] at hx
    split_ifs at hx
    · rw [List.mem_singleton.mp hx]
      exact ⟨trivial, rfl⟩
    · cases hx
  have hreads : Scenario.initialRegisters.slots p = (List.range' 0 32).map .firstRead := by
    rw [Scenario.slots, List.range_eq_range']
  rw [List.singleton_append, Orderly, hreads]
  -- behind the first reads, every place is about a register that was read
  have hend : Orderly 32 [.pass .randomness] := trivial
  refine orderly_firstReads 32 0 (orderly_map_ask (fun x hx => ?_) (orderly_map_ask (fun x hx => ?_)
    (orderly_map_ask (fun x hx => ?_) hend)))
  · simp only [Scenario.slots, List.mem_append, List.mem_flatMap, List.mem_map, List.mem_cons,
      List.not_mem_nil, or_false, List.mem_range, List.mem_range'_1] at hx
    rcases hx with ((((⟨_, _, i, hi, rfl⟩ | ⟨_, _, i, hi, rfl⟩) | ⟨i, hi, rfl⟩) | rfl | rfl) |
      ⟨i, hi, rfl⟩) | ⟨_, _, i, hi, rfl⟩
    · exact ⟨trivial, rfl⟩
    · exact ⟨hi.2, rfl⟩
    · exact ⟨trivial, rfl⟩
    · exact ⟨trivial, rfl⟩
    · exact ⟨trivial, rfl⟩
    · exact ⟨trivial, rfl⟩
    · exact ⟨hi, rfl⟩
  · simp only [Scenario.slots, List.mem_cons, List.not_mem_nil, or_false] at hx
    rcases hx with rfl | rfl | rfl | rfl | rfl | rfl | rfl <;> exact ⟨trivial, rfl⟩
  · obtain ⟨_, _, rfl⟩ := List.mem_map.mp hx
    exact ⟨trivial, rfl⟩

end EnclaveAudit
