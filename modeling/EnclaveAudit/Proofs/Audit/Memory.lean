import EnclaveAudit.Proofs.Audit.Objections
import EnclaveAudit.Proofs.Audit.Tally

/-!
# `EnclaveAudit/Proofs/Audit/Memory.lean` — what an audit remembers of each register

Once everything is locked, an audit reads every register again, in as many rounds as the parameters
say, and compares each read with what it remembers of the register. This file says what that is,
before every read of every round: what the last answer about the register told (`Ledger.Recalls`).

Values are followed by the rules for exact acceptance already. What is left are the locks. A
register is remembered as free until it is read again, also after it was extended and after it was
locked, because only a read tells of a lock (`lock_of_review`).
-/

set_option autoImplicit false

namespace EnclaveAudit

/-! ## What is remembered -/

/-- The place where a register was last observed, when an audit comes to the read of register `i` in
round `k`. Rounds are counted from zero. -/
def Slot.lastSeen (p : Parameters) (k i j : Nat) : Slot :=
  if j < i then .read k j
  else if 0 < k then .read (k - 1) j
  else if j < 16 then .firstRead j
  else .extension (p.extendRounds - 1) j

/-- What an answer at a place tells of a register. An extension tells the value, and the register is
remembered as free. -/
def Slot.Tells (x : Slot) (answer : Value) (r : Register) : Prop :=
  match x with
  | .firstRead i | .read _ i =>
    r.index = i ∧ Slot.readRegister answer = .ok ⟨r.lock, r.value⟩
  | .extension _ i => r.index = i ∧ r.lock = false ∧ Slot.readExtension answer = .ok r.value
  | _ => False

/-- The bank of the ledger is what the last answer about each register told. For a register that was
locked from the start this is also what the first answer told. -/
structure Ledger.Recalls (l : Ledger) (p : Parameters) (given : Slot → Value) (k i : Nat) :
    Prop where
  length : l.bank.length = 32
  last : ∀ j < 32, ∃ r, l.bank[j]? = some r ∧
    (Slot.lastSeen p k i j).Tells (given (Slot.lastSeen p k i j)) r
  first : ∀ j < 16, ∃ r, l.bank[j]? = some r ∧ (Slot.firstRead j).Tells (given (.firstRead j)) r

/-! ## Locks -/

/-- Whether a register is remembered as locked, if it is remembered. -/
def Ledger.lockOf (l : Ledger) (j : Nat) : Option Bool := l.bank[j]?.map Register.lock

/-- The place tells nothing of the lock of a register. -/
def Slot.Spares (j : Nat) : Slot → Prop
  | .firstRead _ => False
  | .read _ i => i ≠ j
  | _ => True

section

open Judgement

variable {p : Parameters} {s : Subject} {answer : Value} {given : Slot → Value} {l l' : Ledger}
variable {j : Nat}

theorem Ledger.lockOf_renew_of_ne {i : Nat} (h : i ≠ j) (r : Register) :
    (l.renew i r).lockOf j = l.lockOf j := by
  have hbank : (l.renew i r).bank = l.bank.set i r := rfl
  rw [Ledger.lockOf, hbank, List.getElem?_set_ne h, Ledger.lockOf]

theorem Ledger.lockOf_renew_withValue {i : Nat} {r : Register} (hr : l.bank[i]? = some r)
    (value : Bytes) : (l.renew i (r.withValue value)).lockOf j = l.lockOf j := by
  by_cases hij : i = j
  · subst hij
    have hbank : (l.renew i (r.withValue value)).bank = l.bank.set i (r.withValue value) := rfl
    have hbound := (List.getElem?_eq_some_iff.mp hr).1
    rw [Ledger.lockOf, hbank, List.getElem?_set_self hbound, Ledger.lockOf, hr]
    rfl
  · exact Ledger.lockOf_renew_of_ne hij _

theorem Slot.lock_of_extension {k i : Nat} {c : Contract}
    (h : (Slot.extension k i).judge p c answer l = .ok () l') : l'.lockOf j = l.lockOf j := by
  cases hr : l.bank[i]? with
  | some r =>
    obtain ⟨value, -, -, -, -, rfl⟩ := (judge_extension_eq_ok_iff hr).mp h
    exact Ledger.lockOf_renew_withValue hr value
  | none =>
    simp only [judge_extension, bind_eq_ok_iff, counted_eq_ok_iff, get_eq_ok_iff] at h
    obtain ⟨value, _, ⟨-, rfl⟩, _, _, ⟨rfl, rfl⟩, h⟩ := h
    simp only [Ledger.bank_count, hr] at h
    obtain ⟨-, rfl⟩ := pure_eq_ok_iff.mp h
    rfl

theorem Slot.lock_of_read {k i : Nat} {c : Contract} (hij : i ≠ j)
    (h : (Slot.read k i).judge p c answer l = .ok () l') : l'.lockOf j = l.lockOf j := by
  simp only [judge_read, bind_eq_ok_iff, counted_eq_ok_iff, get_eq_ok_iff, modify_eq_ok_iff] at h
  obtain ⟨r, _, ⟨-, rfl⟩, _, _, ⟨rfl, rfl⟩, _, _, ⟨-, rfl⟩, _, _, ⟨-, rfl⟩, _, _, ⟨-, rfl⟩,
    rfl⟩ := h
  exact Ledger.lockOf_renew_of_ne (l := l) hij r

theorem Slot.lock_of_document {x : Slot} {c : Contract} (h : x.judge p c answer l = .ok () l')
    (hx : x.IsDocument) : l'.lockOf j = l.lockOf j := by
  obtain ⟨-, rfl⟩ := (judge_document_eq_ok_iff hx).mp h
  rfl

theorem Slot.lock_of_mustRefuse {x : Slot} {c : Contract} (h : x.judge p c answer l = .ok () l')
    (hx : x.MustRefuse) : l'.lockOf j = l.lockOf j := by
  obtain ⟨-, rfl⟩ := (judge_mustRefuse_iff hx).mp h
  rfl

/-- **One place**: an answer that tells nothing of the lock of a register leaves it as it is
remembered. -/
theorem Slot.lock_of_review {x : Slot} (hx : x.Spares j)
    (h : x.review p s answer l = .ok () l') : l'.lockOf j = l.lockOf j := by
  have hne : x ≠ .firstRead 31 := by
    rintro rfl
    exact hx
  rw [review_of_ne hne] at h
  cases x with
  | firstRead i => exact absurd hx id
  | read k i => exact lock_of_read hx h
  | extension k i => exact lock_of_extension h
  | bootDocument | plainDocument | document _ _ => exact lock_of_document h trivial
  | relock k i | lockBeyond | lockedExtension i => exact lock_of_mustRefuse h trivial
  | lock i =>
    obtain ⟨-, rfl⟩ := judge_lock_eq_ok_iff.mp h
    rfl
  | lockRange =>
    obtain ⟨-, rfl⟩ := judge_lockRange_eq_ok_iff.mp h
    rfl
  | sample n =>
    obtain ⟨sample, -, -, -, rfl⟩ := judge_sample_eq_ok_iff.mp h
    rfl

/-- **Any number of them.** -/
theorem lock_of_examine {xs : List Step} (hxs : ∀ x ∈ asked xs, x.Spares j)
    (h : examine p s given xs l = .ok () l') : l'.lockOf j = l.lockOf j := by
  induction xs generalizing l with
  | nil =>
    obtain ⟨-, rfl⟩ := pure_eq_ok_iff.mp h
    rfl
  | cons step xs ih =>
    obtain ⟨_, l₁, hstep, hrest⟩ := bind_eq_ok_iff.mp h
    cases step with
    | ask x =>
      obtain ⟨hx, hxs⟩ := List.forall_mem_cons.mp hxs
      exact (ih hxs hrest).trans (Slot.lock_of_review hx hstep)
    | pass scenario =>
      obtain rfl := modify_eq_ok_iff.mp hstep
      have hlock : l'.lockOf j = (l.pass scenario).lockOf j := ih hxs hrest
      exact hlock

end

/-! ## The way to a read -/

/-- The later reads before one of them. -/
def readsBefore (k i : Nat) : List Step :=
  ((List.range k).flatMap fun m => (List.range 32).map (Slot.read m)).map .ask ++
    ((List.range i).map (Slot.read k)).map .ask

/-- The steps before the read of a register in a round. -/
def Parameters.stepsBefore (p : Parameters) (k i : Nat) : List Step :=
  p.opening ++ (p.lockings ++ readsBefore k i)

section

variable {p : Parameters} {given : Slot → Value} {f : Findings} {l : Ledger} {k i : Nat}

theorem exists_stepsBefore_eq (hk : k < p.readRounds) (hi : i < 32) :
    ∃ later, p.steps = p.stepsBefore k i ++ .ask (.read k i) :: later := by
  obtain ⟨rounds, hrounds⟩ := exists_range_eq hk
  obtain ⟨reads, hreads⟩ := exists_range_eq hi
  refine ⟨?later, ?split⟩
  case split =>
    have hround : (List.range 32).map (Slot.read k) =
        (List.range i).map (Slot.read k) ++ .read k i :: reads.map (Slot.read k) := by
      rw [hreads, List.map_append, List.map_cons]
    rw [p.steps_eq, Scenario.steps_locksAndExtension, hrounds, List.flatMap_append,
      List.flatMap_cons, hround]
    simp only [Parameters.stepsBefore, Parameters.opening, Parameters.lockings, readsBefore,
      List.map_append, List.map_cons, List.append_assoc, List.cons_append]
    rfl

/-- The steps before a place are the only ones, because no place comes twice. -/
theorem before_unique {x : Slot} {earlier earlier' later later' : List Step}
    (h : p.steps = earlier ++ .ask x :: later) (h' : p.steps = earlier' ++ .ask x :: later') :
    earlier = earlier' := by
  have hnodup := (asked_steps p).symm ▸ nodup_slots p
  have hfresh : ∀ {xs : List Step}, x ∉ asked xs → Step.ask x ∉ xs := by
    intro xs hx hmem
    exact hx (List.mem_filterMap.mpr ⟨.ask x, hmem, rfl⟩)
  have hearlier : ∀ {xs ys : List Step}, p.steps = xs ++ .ask x :: ys → x ∉ asked xs := by
    intro xs ys hxs hmem
    rw [hxs, asked_append, asked_ask] at hnodup
    exact (List.nodup_append.mp hnodup).2.2 x hmem x List.mem_cons_self rfl
  have hlater : x ∉ asked later := by
    rw [h, asked_append, asked_ask] at hnodup
    exact (List.nodup_cons.mp (List.nodup_append.mp hnodup).2.1).1
  exact ((List.append_cons_inj_of_notMem (hfresh (hearlier h)) (hfresh hlater)).mp
    (h.symm.trans h')).1

/-- What comes before a read of a round. -/
theorem before_read {earlier later : List Step}
    (h : p.steps = earlier ++ .ask (.read k i) :: later) :
    k < p.readRounds ∧ i < 32 ∧ earlier = p.stepsBefore k i := by
  have hmem : Slot.read k i ∈ p.slots := by
    rw [← asked_steps, h, asked_append, asked_ask]
    exact List.mem_append_right _ List.mem_cons_self
  have hbounds : k < p.readRounds ∧ i < 32 := by
    simpa [Parameters.slots, Scenario.all, Scenario.slots] using hmem
  obtain ⟨later', h'⟩ := exists_stepsBefore_eq hbounds.1 hbounds.2
  exact ⟨hbounds.1, hbounds.2, before_unique h h'⟩

/-- What the answers have told by then, if all of them passed. -/
structure Findings.ToldBefore (f : Findings) (p : Parameters) (given : Slot → Value) (k i : Nat) :
    Prop where
  bootDocument : ∀ x ∈ Scenario.description.slots p, Certifies p (given x)
  firstRead : ∀ j < 32, Slot.readRegister (given (.firstRead j)) = .ok (f.first j) ∧
    (f.first j).value.length = f.digest.width
  start : StartsRight f
  relock : ∀ m < p.relockAttempts, ∀ j < 16, Refuses (given (.relock m j))
  extension : ∀ m < p.extendRounds, ∀ j, 16 ≤ j → j < 32 →
    ExtendsTo f m j (given (.extension m j))
  lock : ∀ j, 16 ≤ j → j < 32 → given (.lock j) = .text "LockPCR"
  lockRange : given .lockRange = .text "LockPCRs"
  lockBeyond : Refuses (given .lockBeyond)
  lockedExtension : ∀ j < 32, Refuses (given (.lockedExtension j))
  round : ∀ m < k, ∀ j < 32,
    Slot.readRegister (given (.read m j)) = .ok ⟨true, f.value p.extendRounds j⟩
  read : ∀ j < i, Slot.readRegister (given (.read k j)) = .ok ⟨true, f.value p.extendRounds j⟩

/-- What is remembered of a register. -/
def Findings.remembered (f : Findings) (p : Parameters) (k i j : Nat) : Register :=
  ⟨j, decide (j < 16 ∨ j < i ∨ 0 < k), f.value p.extendRounds j⟩

/-- The opening of an audit. -/
theorem decides_opening (hf : f.Covers p given) :
    (examine p f.subject given p.opening).Decides (Ledger.ReadSoFar f 0)
      ((∀ x ∈ Scenario.description.slots p, Certifies p (given x)) ∧
        (∀ j < 32, Slot.readRegister (given (.firstRead j)) = .ok (f.first j) ∧
          (f.first j).value.length = f.digest.width) ∧ StartsRight f)
      (Ledger.ReadSoFar f 32) := by
  have hall := decides_append (decides_bootDocument fun _ _ hl => hl) fun _ =>
    decides_append (decides_pass .description fun _ hl => hl) fun _ =>
    decides_append (decides_initialBank hf) fun _ =>
    decides_pass .initialRegisters fun _ hl => hl
  exact hall.congr (by simp only [true_and, and_true])

/-- Rounds of reads and a part of one more, with the registers that were seen to be locked. -/
theorem decides_readsBefore {v : Nat → Bytes} (hwidth : ∀ i < 32, (v i).length = f.digest.width)
    (hzero : ∀ i < 32, (Contract.zeroAfterLock (i : Nat) = true ↔ v i = f.zero)) (hi : i ≤ 32) :
    (examine p f.subject given (readsBefore k i)).Decides (Ledger.Knows v)
      ((∀ m < k, ∀ j < 32, Slot.readRegister (given (.read m j)) = .ok ⟨true, v j⟩) ∧
        ∀ j < i, Slot.readRegister (given (.read k j)) = .ok ⟨true, v j⟩)
      (Ledger.Read v (max (32 * min k 1) i)) :=
  (decides_append (decides_readRounds hwidth hzero k) fun _ =>
    decides_reads hwidth hzero k _ hi).imp (fun _ hl => hl.read_zero) Iff.rfl fun _ => id

/-- The steps from the first reads to a later one. -/
theorem decides_fromOpening (hf : f.Covers p given)
    (hfirst : ∀ j < 32, Slot.readRegister (given (.firstRead j)) = .ok (f.first j) ∧
      (f.first j).value.length = f.digest.width) (hstart : StartsRight f) (hi : i ≤ 32) :
    (examine p f.subject given (p.lockings ++ readsBefore k i)).Decides (Ledger.ReadSoFar f 32)
      (((∀ m < p.relockAttempts, ∀ j < 16, Refuses (given (.relock m j))) ∧
        (∀ m < p.extendRounds, ∀ j, 16 ≤ j → j < 32 → ExtendsTo f m j (given (.extension m j))) ∧
        (∀ j, 16 ≤ j → j < 32 → given (.lock j) = .text "LockPCR") ∧
        given .lockRange = .text "LockPCRs" ∧ Refuses (given .lockBeyond) ∧
        ∀ j < 32, Refuses (given (.lockedExtension j))) ∧
        (∀ m < k, ∀ j < 32,
          Slot.readRegister (given (.read m j)) = .ok ⟨true, f.value p.extendRounds j⟩) ∧
        ∀ j < i, Slot.readRegister (given (.read k j)) = .ok ⟨true, f.value p.extendRounds j⟩)
      (Ledger.Read (f.value p.extendRounds) (max (32 * min k 1) i)) :=
  (decides_append (decides_lockings hf) fun hextended =>
    decides_readsBefore (fun _ hj => length_value hfirst hextended.2.1 le_rfl hj)
      (fun _ hj => zeroAfterLock_iff_value hstart hextended.2.1 hj) hi).imp
    (fun _ hl => hl.knows) Iff.rfl fun _ => id

/-- **Exactly these answers** bring an audit to a later read. -/
theorem exists_examine_before_iff (hf : f.Covers p given) (hi : i ≤ 32) :
    (∃ l, examine p f.subject given (p.stepsBefore k i) (.identified f.description) = .ok () l) ↔
      f.ToldBefore p given k i := by
  have hall := decides_append (decides_opening hf) fun hopening =>
    decides_fromOpening (k := k) hf hopening.2.1 hopening.2.2 hi
  rw [Parameters.stepsBefore, (hall (.identified f.description) ⟨rfl, rfl⟩).1]
  constructor
  · rintro ⟨⟨hboot, hfirst, hstart⟩, ⟨hrelock, hextension, hlock, hrange, hbeyond, hlocked⟩, hround,
      hread⟩
    exact ⟨hboot, hfirst, hstart, hrelock, hextension, hlock, hrange, hbeyond, hlocked, hround,
      hread⟩
  · intro h
    exact ⟨⟨h.bootDocument, h.firstRead, h.start⟩, ⟨h.relock, h.extension, h.lock, h.lockRange,
      h.lockBeyond, h.lockedExtension⟩, h.round, h.read⟩

theorem spares_of_mem_lockings {x : Slot} (j : Nat) (h : x ∈ asked p.lockings) : x.Spares j := by
  simp only [Parameters.lockings, asked_append, asked_map_ask, asked_ask, asked_nil,
    List.mem_append, List.mem_flatMap, List.mem_map, List.mem_singleton] at h
  rcases h with ⟨_, -, _, -, rfl⟩ | ⟨_, -, _, -, rfl⟩ | ⟨_, -, rfl⟩ | rfl | rfl | ⟨_, -, rfl⟩ <;>
    trivial

/-- In the first round, a register that was not read again is remembered as it was at first. -/
theorem lock_before_read {s : Subject} {l' : Ledger} {j : Nat} (hij : i ≤ j)
    (h : examine p s given (p.lockings ++ readsBefore 0 i) l = .ok () l') :
    l'.lockOf j = l.lockOf j := by
  refine lock_of_examine (fun x hx => ?_) h
  rw [asked_append, List.mem_append] at hx
  rcases hx with hx | hx
  · exact spares_of_mem_lockings j hx
  · simp only [readsBefore, List.range_zero, List.flatMap_nil, List.map_nil, List.nil_append,
      asked_map_ask, List.mem_map, List.mem_range] at hx
    obtain ⟨m, hm, rfl⟩ := hx
    show m ≠ j
    omega

/-- **What an audit remembers before a read**, of every register, exactly. -/
theorem bank_before_read (hf : f.Covers p given) (hk : k < p.readRounds) (hi : i < 32)
    (h : examine p f.subject given (p.stepsBefore k i) (.identified f.description) = .ok () l) :
    l.bank = (List.range 32).map (f.remembered p k i) := by
  obtain ⟨later, hsteps⟩ := exists_stepsBefore_eq hk hi
  have hobserved : (Ledger.identified f.description).Observed 0 := rfl
  obtain ⟨n, hindex, -⟩ := examine_eq_ok (hsteps ▸ orderly_steps p) hobserved h
  rw [Parameters.stepsBefore, examine_append] at h
  obtain ⟨_, l₁, hopening, hrest⟩ := bind_eq_ok_iff.mp h
  obtain ⟨hpass, hledger⟩ := decides_opening hf (.identified f.description) ⟨rfl, rfl⟩
  obtain ⟨-, hfirst, hstart⟩ := hpass.mp ⟨l₁, hopening⟩
  have hl₁ := hledger l₁ hopening
  have hread := (decides_fromOpening hf hfirst hstart hi.le l₁ hl₁).2 l hrest
  have hlength : l.bank.length = 32 := by simpa using congrArg List.length hread.1.1
  obtain rfl : n = 32 := hindex.length.symm.trans hlength
  refine List.ext_getElem? fun j => ?_
  rcases Nat.lt_or_ge j 32 with hj | hj
  · obtain ⟨r, hr, hvalue⟩ := hread.1.exists_getElem? hj
    obtain ⟨r', hr', hrindex⟩ := hindex.exists_getElem? hj
    obtain rfl : r = r' := Option.some.inj (hr.symm.trans hr')
    have hlock : r.lock = decide (j < 16 ∨ j < i ∨ 0 < k) := by
      by_cases hseen : j < max (32 * min k 1) i
      · obtain ⟨r', hr', hrlock⟩ := hread.2 j hseen
        obtain rfl : r = r' := Option.some.inj (hr.symm.trans hr')
        rw [hrlock, eq_comm, decide_eq_true_iff]
        omega
      · obtain rfl : k = 0 := by omega
        have hsame := lock_before_read (j := j) (by omega) hrest
        have hbefore : l₁.lockOf j = some (f.first j).lock := by
          rw [Ledger.lockOf, hl₁.1]
          simp [hj]
        rw [hbefore, Ledger.lockOf, hr, Option.map_some] at hsame
        rw [Option.some.inj hsame, Bool.eq_iff_iff, hstart.1 j hj, decide_eq_true_iff]
        omega
    have hremembered : r = f.remembered p k i j := by
      obtain ⟨index, value, lock⟩ := r
      simp only [Findings.remembered, Register.mk.injEq]
      exact ⟨hrindex, hlock, hvalue⟩
    rw [hr, hremembered]
    simp [hj]
  · rw [List.getElem?_eq_none (hlength ▸ hj), List.getElem?_eq_none (by simpa using hj)]

namespace Findings.ToldBefore

variable (h : f.ToldBefore p given k i) {j : Nat}
include h

theorem tells_first (hj : j < 16) :
    (Slot.firstRead j).Tells (given (.firstRead j)) (f.remembered p k i j) := by
  have hlock : (f.first j).lock = true := (h.start.1 j (by omega)).mpr hj
  refine ⟨rfl, ?_⟩
  simp only [Findings.remembered, f.value_eq_of_lt _ hj, hj, true_or, decide_true]
  rw [(h.firstRead j (by omega)).1, ← hlock]

/-- A free register was extended in every round, and the last one counts. -/
theorem tells_extension (hge : 16 ≤ j) (hj : j < 32) (hi : ¬j < i) (hk : ¬0 < k) :
    (Slot.extension (p.extendRounds - 1) j).Tells (given (.extension (p.extendRounds - 1) j))
      (f.remembered p k i j) := by
  have hpos := p.extendRounds_pos
  have hrounds : p.extendRounds = p.extendRounds - 1 + 1 := by omega
  have hvalue : f.value p.extendRounds j = f.extended (p.extendRounds - 1) j := by
    rw [hrounds, Findings.value, if_neg (by omega)]
    rfl
  refine ⟨rfl, ?_, ?_⟩
  · simp only [Findings.remembered, decide_eq_false_iff_not]
    omega
  · rw [(h.extension _ (by omega) j hge hj).1, ← hvalue]
    rfl

theorem tells_last (hj : j < 32) :
    (Slot.lastSeen p k i j).Tells (given (Slot.lastSeen p k i j)) (f.remembered p k i j) := by
  have hseen : j < i ∨ 0 < k → f.remembered p k i j = ⟨j, true, f.value p.extendRounds j⟩ := by
    intro hseen
    simp only [Findings.remembered, Register.mk.injEq, true_and, and_true, decide_eq_true_eq]
    exact .inr hseen
  unfold Slot.lastSeen
  split_ifs with hi hk hlt
  · rw [hseen (.inl hi)]
    exact ⟨rfl, h.read j hi⟩
  · rw [hseen (.inr hk)]
    exact ⟨rfl, h.round _ (by omega) j hj⟩
  · exact h.tells_first hlt
  · exact h.tells_extension (Nat.not_lt.mp hlt) hj hi hk

theorem recalls (hbank : l.bank = (List.range 32).map (f.remembered p k i)) :
    l.Recalls p given k i := by
  have hat : ∀ j < 32, l.bank[j]? = some (f.remembered p k i j) := by
    intro j hj
    simp [hbank, hj]
  refine ⟨by simp [hbank], fun j hj => ?_, fun j hj => ?_⟩
  · exact ⟨_, hat j hj, h.tells_last hj⟩
  · exact ⟨_, hat j (by omega), h.tells_first hj⟩

end Findings.ToldBefore

/-- **Before every later read** there are findings that the answers have told, and the bank is what
is remembered of them. -/
theorem told_before_read {s : Subject} {described : Value} {earlier later : List Step}
    (hsteps : p.steps = earlier ++ .ask (.read k i) :: later) (hread : s.ReadFrom described)
    (h : examine p s given earlier (.identified s.description) = .ok () l) :
    i < 32 ∧ ∃ f : Findings, f.subject = s ∧ f.ToldBefore p given k i ∧
      l.bank = (List.range 32).map (f.remembered p k i) := by
  obtain ⟨hk, hi, rfl⟩ := before_read hsteps
  have hsubject := Findings.subject_of p given hread
  rw [← hsubject] at h
  have hcovers := Findings.of_covers s p given
  exact ⟨hi, Findings.of s p given, hsubject,
    (exists_examine_before_iff hcovers hi.le).mp ⟨l, h⟩, bank_before_read hcovers hk hi h⟩

end

end EnclaveAudit
