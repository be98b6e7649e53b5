import EnclaveAudit.Proofs.Audit.Objections
import EnclaveAudit.Proofs.Audit.Verdict
import EnclaveAudit.Proofs.Simulator.Findings
import EnclaveAudit.Proofs.Simulator.Speaking

/-!
# `EnclaveAudit/Proofs/Simulator/Verdict.lean` — which fault an audit finds first

A simulated device can have any set of faults at once, and an audit stops at the first violation. So
which one it reports is a matter of order: a fault can be hidden by another one, and some show only
in a second round. `verdict` is the table, and `run_shows_verdict` says that the report of an audit
is the one in the table, for every set of faults and all parameters.

Hashes and random octets could conspire to look like a fault, or to hide one. `Fortunate` rules that
out, and only for those that the audit comes to see.
-/

set_option autoImplicit false

namespace EnclaveAudit.Simulator

/-- What an audit has to object to in a scenario that it comes to. -/
def objection (s : Settings) (p : Parameters) : Scenario → Option Verdict
  | .description =>
    if s.has .emptyDocument ∧ p.attestAtBoot then some ⟨.description, .attestationNonEmpty, none⟩
    else none
  | .initialRegisters =>
    if s.has .zeroParent then some ⟨.initialRegisters, .initialValue, some 4⟩
    else none
  | .locksAndExtension =>
    if s.has .silentRelock ∨ s.has .relockOnce ∧ 2 ≤ p.relockAttempts then
      some ⟨.locksAndExtension, .lockRejected, some 0⟩
    else if s.has .idempotentExtend ∧ 2 ≤ p.extendRounds then
      some ⟨.locksAndExtension, .extendChaining, some 16⟩
    else if s.has .looseLockRange then some ⟨.locksAndExtension, .lockRangeOverflow, none⟩
    else if s.has .extendLocked then some ⟨.locksAndExtension, .extendLockedRejected, some 0⟩
    else if s.has .lockFlap ∧ 2 ≤ p.readRounds then
      some ⟨.locksAndExtension, .lockMonotonic, some 16⟩
    else none
  | .attestation =>
    if s.has .emptyDocument then some ⟨.attestation, .attestationNonEmpty, none⟩
    else none
  | .randomness =>
    if s.has .stuckRandom then some ⟨.randomness, .randomRepeat, none⟩
    else none

/-- **The verdict on a device**, from its faults alone: the first objection there is. -/
def verdict (s : Settings) (p : Parameters) : Option Verdict :=
  Scenario.all.findSome? (objection s p)

/-- An audit comes to extend registers: nothing before that is to be objected to. -/
structure Extends (s : Settings) (p : Parameters) : Prop where
  description : objection s p .description = none
  initialRegisters : objection s p .initialRegisters = none
  relocks : ¬(s.has .silentRelock ∨ s.has .relockOnce ∧ 2 ≤ p.relockAttempts)

/-- No hash that is computed is empty, an extension that does not forget its register changes it,
and no two random samples in a row that are drawn look the same. -/
structure Fortunate (e : Surroundings) (s : Settings) (p : Parameters) : Prop where
  measured : ∀ i ∈ measured s, bootValue e.primitives s i ≠ Bytes.zeros s.digest.width
  extended : Extends s p → ∀ k < p.extendRounds, chain e s p (k + 1) ≠ Bytes.zeros s.digest.width
  changed : Extends s p → s.has .idempotentExtend = false → ∀ k < p.extendRounds,
    chain e s p (k + 1) ≠ chain e s p k
  drawn : verdict s p = none → ∀ n, n + 1 < p.randomSamples →
    (e.entropy (n + 1) 256).take p.randomLength ≠ (e.entropy n 256).take p.randomLength

/-! ## Stretches -/

/-- The bank is at a stage, and the ledger is of some kind. -/
def On (e : Surroundings) (s : Settings) (p : Parameters) (g : Stage) (K : Ledger → Prop) :
    Standing State → Prop :=
  Standing.With (State.At (g.cell e s p)) K

/-- What a stretch of the audit of a simulated device comes to. -/
abbrev Comes (e : Surroundings) (s : Settings) (p : Parameters) (S : Standing State → Prop)
    (xs : List Step) (o : Option Verdict) (T : Standing State → Prop) : Prop :=
  Brings (transport e s) p (findings e s p).subject S xs o T

section

variable {e : Surroundings} {s : Settings} {p : Parameters}

theorem not_of_ite_eq_none {α : Type} {c : Prop} [Decidable c] {w : α}
    (h : (if c then some w else none) = none) : ¬c := by
  intro hc
  rw [if_pos hc] at h
  cases h

/-- A line of a table before the rest of it. -/
theorem ite_or {α : Type} {c : Prop} [Decidable c] (w : α) (o : Option α) :
    (if c then some w else none).or o = if c then some w else o := by
  by_cases hc : c
  · rw [if_pos hc, if_pos hc, Option.some_or]
  · rw [if_neg hc, if_neg hc, Option.none_or]

theorem knows_count (v : Nat → Bytes) : ∀ l n, Ledger.Knows v l → (l.count n).Knows v :=
  fun _ _ hl => hl

/-! ### Before anything is locked -/

theorem comes_description (he : e.Usual) (hs : s.Usual) (hmax : 16384 ≤ p.maxDocumentSize) :
    Comes e s p (On e s p {} (Ledger.ReadSoFar (findings e s p) 0))
      ((Scenario.description.slots p).map .ask)
      (objection s p .description)
      (On e s p {} (Ledger.ReadSoFar (findings e s p) 0)) := by
  unfold objection
  by_cases hboot : p.attestAtBoot = true
  · have hslots : Scenario.description.slots p = [.bootDocument] := by
      rw [Scenario.slots, if_pos hboot]
    have hspeaks := (turn_bootDocument (e := e) (s := s) (p := p)).speaks
    rw [hslots]
    by_cases hempty : s.has .emptyDocument = true
    · rw [if_pos ⟨hempty, hboot⟩]
      refine brings_of_violation hspeaks.exists_replies fun l _ => ?_
      exact review_emptyDocument trivial (readDocument_certificate hempty _ _ _ _)
    · rw [if_neg fun h => hempty h.1]
      have hdocuments : ∀ x ∈ [Slot.bootDocument], x.IsDocument := by
        intro x hx
        rw [List.mem_singleton.mp hx]
        trivial
      refine brings_of_decides hspeaks (decides_documents (fun _ _ hl => hl) hdocuments) ?_
      intro x hx
      exact certifies_document he hs (Bool.eq_false_iff.mpr hempty) hmax (hdocuments x hx)
  · have hslots : Scenario.description.slots p = [] := by
      rw [Scenario.slots, if_neg hboot]
    rw [hslots, if_neg fun h => hboot h.2]
    exact brings_nil

/-- The registers before the measurement of the parent instance are right in any case. -/
theorem requireInitialValue_findings {j : Nat} (hj : j < 4)
    (hmeasured : ∀ i ∈ measured s, bootValue e.primitives s i ≠ Bytes.zeros s.digest.width) :
    Check.requireInitialValue (findings e s p).subject.contract
      ⟨j, ((findings e s p).first j).lock, ((findings e s p).first j).value⟩ = .ok () := by
  have hvalue : ((findings e s p).first j).value = bootValue e.primitives s j :=
    if_pos (by omega)
  have hzero : (findings e s p).subject.contract.zeroValue = Bytes.zeros s.digest.width := rfl
  have hplatform : j < 3 → j ∈ measured s := by
    intro hlt
    have hmem : j ∈ platformRegisters := by
      simp only [platformRegisters, List.mem_cons, List.not_mem_nil, or_false]
      omega
    unfold measured
    split_ifs
    · exact hmem
    · exact List.mem_append_left _ hmem
  rw [Check.requireInitialValue_eq_ok_iff]
  simp only [hvalue, hzero]
  rcases Nat.lt_or_ge j 3 with hlt | hge
  · -- a platform register, which has a measurement
    have hlayout : ∀ j < 3, Contract.zeroAtBoot? (j : Nat) = some false := by decide
    rw [hlayout j hlt]
    exact ⟨by simp, fun _ => hmeasured j (hplatform hlt)⟩
  · obtain rfl : j = 3 := by omega
    have hnot : 3 ∉ measured s := by
      unfold measured
      split_ifs <;> decide
    have hyes : Contract.zeroAtBoot? (3 : Nat) = some true := by decide
    rw [hyes]
    exact ⟨fun _ => bootValue_eq_zeros hnot, by simp⟩

theorem comes_initialRegisters (he : e.Usual) (hs : s.Usual)
    (hmeasured : ∀ i ∈ measured s, bootValue e.primitives s i ≠ Bytes.zeros s.digest.width) :
    Comes e s p (On e s p {} (Ledger.ReadSoFar (findings e s p) 0))
      ((Scenario.initialRegisters.slots p).map .ask) (objection s p .initialRegisters)
      (On e s p {} (Ledger.Knows ((findings e s p).value 0))) := by
  unfold objection
  have hturns : ∀ n ≤ 32, Speaks e s p (State.At (Stage.cell e s p {}))
      ((List.range n).map Slot.firstRead) (State.At (Stage.cell e s p {})) := by
    intro n hn
    refine speaks_steady fun x hx => ?_
    obtain ⟨i, hi, rfl⟩ := List.mem_map.mp hx
    exact turn_firstRead hs.registerCount (by have := List.mem_range.mp hi; omega)
  by_cases hparent : s.has .zeroParent = true
  · -- the last read is right, and what is judged after it is not
    have hslots : (Scenario.initialRegisters.slots p).map Step.ask =
        ((List.range 31).map Slot.firstRead).map .ask ++ [Slot.firstRead 31].map .ask := rfl
    have hmost := brings_of_decides (hturns 31 (by omega))
      (decides_firstReads (covers_findings (e := e) (s := s) (p := p)) le_rfl)
      fun i _ => ⟨rfl, length_first he i⟩
    have hspeaks := (turn_firstRead (e := e) (p := p) (i := 31) hs.registerCount (by omega)).speaks
    rw [if_pos hparent, hslots]
    refine hmost.then (brings_of_violation hspeaks.exists_replies fun l hl => ?_)
    have hjudge := ((decides_firstRead (covers_findings (e := e) (s := s) (p := p))
      (i := 31) (by omega)) l hl)
    obtain ⟨l', hok⟩ := hjudge.1.mpr ⟨rfl, length_first he 31⟩
    have hnot : 4 ∉ measured s := by
      rw [measured, hparent]
      decide
    have hempty : ((findings e s p).first 4).value = (findings e s p).zero :=
      bootValue_eq_zeros (e := e) hnot
    obtain ⟨v, l'', hclosing, hv⟩ := closing_initialRegisters_objects (hjudge.2 l' hok) (by omega)
      rfl hempty fun j hj => requireInitialValue_findings hj hmeasured
    exact ⟨v, l'', bind_eq_error_iff.mpr (.inr ⟨(), l', hok, hclosing⟩), hv⟩
  · rw [if_neg hparent]
    refine brings_of_decides (hturns 32 le_rfl) (decides_initialRegisters covers_findings) ?_
    exact ⟨fun i _ => ⟨rfl, length_first he i⟩,
      startsRight_findings (Bool.eq_false_iff.mpr hparent) hmeasured⟩

/-! ### Locks and extension -/

/-- Whether some attempt to lock again is not refused. -/
theorem exists_relockIsSilent_iff : (∃ k < p.relockAttempts, Cell.relockIsSilent s (k + 1) = true) ↔
    s.has .silentRelock ∨ s.has .relockOnce ∧ 2 ≤ p.relockAttempts := by
  have hpos := p.relockAttempts_pos
  simp only [Cell.relockIsSilent, Bool.or_eq_true, Bool.and_eq_true, decide_eq_true_eq]
  constructor
  · rintro ⟨k, hk, hsilent | ⟨honce, hlt⟩⟩
    · exact .inl hsilent
    · exact .inr ⟨honce, by omega⟩
  · rintro (hsilent | ⟨honce, hle⟩)
    · exact ⟨0, by omega, .inl hsilent⟩
    · exact ⟨1, by omega, .inr ⟨honce, by omega⟩⟩

theorem comes_relocks (hs : s.Usual) (v : Nat → Bytes) :
    Comes e s p (On e s p {} (Ledger.Knows v))
      (((List.range p.relockAttempts).flatMap fun k =>
        (List.range 16).map (Slot.relock k)).map .ask)
      (if s.has .silentRelock ∨ s.has .relockOnce ∧ 2 ≤ p.relockAttempts then
        some ⟨.locksAndExtension, .lockRejected, some 0⟩ else none)
      (On e s p (.extended p 0) (Ledger.Knows v)) := by
  simp only [← exists_relockIsSilent_iff]
  refine brings_rounds (S := fun k => On e s p (.relocked k) (Ledger.Knows v)) _ fun k _ => ?_
  have hspeaks := speaks_relocks (e := e) (p := p) hs.registerCount k
  by_cases hsilent : Cell.relockIsSilent s (k + 1) = true
  · -- the first register of the round says that it was locked
    have hround : (List.range 16).map (Slot.relock k) =
        Slot.relock k 0 :: (List.range' 1 15).map (Slot.relock k) := rfl
    have hanswer : answers e s p (.relock k 0) = .text "LockPCR" := if_pos hsilent
    have hturn := turns_relock (e := e) (p := p) hs.registerCount k (i := 0) (by omega)
    rw [Stage.Turns, between_start fun _ hj => absurd hj (Nat.not_lt_zero _)] at hturn
    rw [if_pos hsilent, hround]
    refine brings_of_violation hturn.speaks.exists_replies fun l _ => ?_
    rw [hanswer]
    exact review_relock k 0
  · rw [if_neg hsilent]
    have hrefuse : ∀ x ∈ (List.range 16).map (Slot.relock k), x.MustRefuse := by
      intro x hx
      obtain ⟨_, -, rfl⟩ := List.mem_map.mp hx
      trivial
    refine brings_of_decides hspeaks (decides_mustRefuse (knows_count v) hrefuse) ?_
    intro x hx
    obtain ⟨i, -, rfl⟩ := List.mem_map.mp hx
    exact refuses_relock (Bool.eq_false_iff.mpr hsilent) i

/-- A device that forgets what it extends comes to the same value in every round. -/
theorem chain_succ_of_idempotent (h : s.has .idempotentExtend = true) {k : Nat} (hk : 1 ≤ k) :
    chain e s p (k + 1) = chain e s p k := by
  obtain ⟨j, rfl⟩ : ∃ j, k = j + 1 := ⟨k - 1, by omega⟩
  simp only [chain, h, if_true]

/-- What the rounds of extensions that show no fault are like. -/
theorem extendsTo_of_fortunate (he : e.Usual) (hf : Fortunate e s p) (hreach : Extends s p)
    {k i : Nat} (hk : k < p.extendRounds) (hno : ¬(s.has .idempotentExtend ∧ 1 ≤ k))
    (hi : 16 ≤ i) : ExtendsTo (findings e s p) k i (answers e s p (.extension k i)) := by
  have hzero := hf.extended hreach k hk
  refine extendsTo_findings he hzero ?_ hi
  by_cases hforgets : s.has .idempotentExtend = true
  · -- then it is the first round, and the register was empty before it
    obtain rfl : k = 0 := by
      have hnot : ¬1 ≤ k := fun hle => hno ⟨hforgets, hle⟩
      omega
    exact hzero
  · exact hf.changed hreach (Bool.eq_false_iff.mpr hforgets) k hk

theorem exists_second_round_iff {c : Prop} {n : Nat} :
    (∃ k < n, c ∧ 1 ≤ k) ↔ c ∧ 2 ≤ n :=
  ⟨fun ⟨_, hk, hc, hle⟩ => ⟨hc, by omega⟩, fun ⟨hc, hle⟩ => ⟨1, by omega, hc, Nat.le_refl 1⟩⟩

theorem comes_extensions (he : e.Usual) (hs : s.Usual) (hf : Fortunate e s p)
    (hreach : Extends s p) :
    Comes e s p (On e s p (.extended p 0) (Ledger.Knows ((findings e s p).value 0)))
      (((List.range p.extendRounds).flatMap fun k =>
        (List.range' 16 16).map (Slot.extension k)).map .ask)
      (if s.has .idempotentExtend ∧ 2 ≤ p.extendRounds then
        some ⟨.locksAndExtension, .extendChaining, some 16⟩ else none)
      (On e s p (.extended p p.extendRounds)
        (Ledger.Knows ((findings e s p).value p.extendRounds))) := by
  have hhash := he.primitives.length_hash s.digest
  simp only [← exists_second_round_iff]
  refine brings_rounds
    (S := fun k => On e s p (.extended p k) (Ledger.Knows ((findings e s p).value k))) _
    fun k hk => ?_
  by_cases hfault : s.has .idempotentExtend ∧ 1 ≤ k
  · -- the first register of the round is the same as after the round before
    have hround : (List.range' 16 16).map (Slot.extension k) =
        Slot.extension k 16 :: (List.range' 17 15).map (Slot.extension k) := rfl
    have hturn := turns_extension (p := p) hs.registerCount hhash k (i := 16) (by omega) (by omega)
    rw [Stage.Turns, between_start fun j hj => by simp [Stage.cell, Stage.extended, held, hj]]
      at hturn
    rw [if_pos hfault, hround]
    refine brings_of_violation hturn.speaks.exists_replies fun l hl => ?_
    obtain ⟨r, hr, hvalue⟩ := hl.exists_getElem? (i := 16) (by omega)
    have hknown : r.value = chain e s p (k + 1) := by
      rw [hvalue, value_findings, chain_succ_of_idempotent hfault.1 hfault.2]
      rfl
    refine review_extension hr (congrArg Except.ok hknown.symm) ?_ ?_
    · rw [hknown]
      exact length_chain hhash (k + 1)
    · rw [hknown]
      exact hf.extended hreach k hk
  · rw [if_neg hfault]
    refine brings_of_decides (speaks_extensions hs.registerCount hhash k)
      (decides_extensions covers_findings hk) fun i hi _ => ?_
    exact extendsTo_of_fortunate he hf hreach hk hfault hi

theorem comes_locks (hs : s.Usual) (v : Nat → Bytes) :
    Comes e s p (On e s p (.extended p p.extendRounds) (Ledger.Knows v))
      (((List.range' 16 16).map Slot.lock).map .ask) none
      (On e s p (.read p 0) (Ledger.Knows v)) :=
  brings_of_decides (speaks_locks hs.registerCount) (decides_locks (knows_count v)) fun _ _ _ => rfl

theorem comes_lockRange (hs : s.Usual) (v : Nat → Bytes) :
    Comes e s p (On e s p (.read p 0) (Ledger.Knows v)) ([Slot.lockRange].map .ask) none
      (On e s p (.read p 0) (Ledger.Knows v)) :=
  brings_of_decides (turn_lockRange hs.registerCount).speaks (decides_lockRange (knows_count v)) rfl

theorem comes_lockBeyond (hs : s.Usual) (v : Nat → Bytes) :
    Comes e s p (On e s p (.read p 0) (Ledger.Knows v)) ([Slot.lockBeyond].map .ask)
      (if s.has .looseLockRange then some ⟨.locksAndExtension, .lockRangeOverflow, none⟩ else none)
      (On e s p (.read p 0) (Ledger.Knows v)) := by
  have hspeaks := (turn_lockBeyond (e := e) (p := p) hs.registerCount).speaks
  by_cases hloose : s.has .looseLockRange = true
  · have hanswer : answers e s p .lockBeyond = .text "LockPCRs" := if_pos hloose
    rw [if_pos hloose]
    refine brings_of_violation hspeaks.exists_replies fun l _ => ?_
    rw [hanswer]
    exact review_lockBeyond
  · rw [if_neg hloose]
    exact brings_of_decides hspeaks (decides_lockBeyond (knows_count v))
      (refuses_lockBeyond (Bool.eq_false_iff.mpr hloose))

theorem comes_lockedExtensions (he : e.Usual) (hs : s.Usual) (v : Nat → Bytes) :
    Comes e s p (On e s p (.read p 0) (Ledger.Knows v))
      (((List.range 32).map Slot.lockedExtension).map .ask)
      (if s.has .extendLocked then some ⟨.locksAndExtension, .extendLockedRejected, some 0⟩
        else none)
      (On e s p (.read p 0) (Ledger.Knows v)) := by
  by_cases hextends : s.has .extendLocked = true
  -- only the first answer matters, so nothing is said of the bank after it
  · have hslots : (List.range 32).map Slot.lockedExtension =
        Slot.lockedExtension 0 :: (List.range' 1 31).map Slot.lockedExtension := rfl
    obtain ⟨value, hanswer⟩ : ∃ value, answers e s p (.lockedExtension 0) =
        .record [("ExtendPCR", .record [("data", .bytes value)])] := ⟨_, if_pos hextends⟩
    rw [if_pos hextends, hslots]
    refine brings_of_violation (fun d hd => replies_lockedExtension hs.registerCount
      (he.primitives.length_hash s.digest) (by omega) hd) fun l _ => ?_
    rw [hanswer]
    exact review_lockedExtension 0 value
  · rw [if_neg hextends]
    have hno := Bool.eq_false_iff.mpr hextends
    exact brings_of_decides (speaks_lockedExtensions hs.registerCount hno)
      (decides_lockedExtensions (knows_count v)) fun i _ => refuses_lockedExtension hno i

/-! ### Reads of a locked bank -/

/-- What the registers hold once everything is locked is what a locked bank must hold. -/
theorem lockedBank_findings (he : e.Usual) (hf : Fortunate e s p) (hreach : Extends s p)
    (hno : ¬(s.has .idempotentExtend ∧ 2 ≤ p.extendRounds)) :
    (∀ i < 32, ((findings e s p).value p.extendRounds i).length = (findings e s p).digest.width) ∧
      ∀ i < 32, (Contract.zeroAfterLock (i : Nat) = true ↔
        (findings e s p).value p.extendRounds i = (findings e s p).zero) := by
  have hextended : ∀ k < p.extendRounds, ∀ i, 16 ≤ i → i < 32 →
      ExtendsTo (findings e s p) k i (answers e s p (.extension k i)) := by
    intro k hk i hi _
    refine extendsTo_of_fortunate he hf hreach hk ?_ hi
    rintro ⟨hforgets, hle⟩
    exact hno ⟨hforgets, by omega⟩
  have hparent : s.has .zeroParent = false :=
    Bool.eq_false_iff.mpr (not_of_ite_eq_none hreach.initialRegisters)
  have hstart : StartsRight (findings e s p) := startsRight_findings hparent hf.measured
  exact ⟨fun i hi => length_value (fun j _ => ⟨rfl, length_first he j⟩) hextended le_rfl hi,
    fun i hi => zeroAfterLock_iff_value hstart hextended hi⟩

/-- A flapping lock shows in every second round. -/
theorem exists_odd_round_iff {c : Prop} {n : Nat} : (∃ k < n, c ∧ k % 2 = 1) ↔ c ∧ 2 ≤ n :=
  ⟨fun ⟨_, hk, hc, hodd⟩ => ⟨hc, by omega⟩, fun ⟨hc, hle⟩ => ⟨1, by omega, hc, rfl⟩⟩

theorem readRegister_read {k i : Nat} (h : ¬(s.has .lockFlap ∧ k % 2 = 1) ∨ i < 16) :
    Slot.readRegister (answers e s p (.read k i)) =
      .ok ⟨true, (findings e s p).value p.extendRounds i⟩ := by
  have hlock : (if s.has .lockFlap && decide (16 ≤ i) then (k + 1) % 2 == 1 else true) = true := by
    by_cases hflap : (s.has .lockFlap && decide (16 ≤ i)) = true
    · rw [if_pos hflap, beq_iff_eq]
      simp only [Bool.and_eq_true, decide_eq_true_eq] at hflap
      rcases h with h | h
      · have hodd : ¬k % 2 = 1 := fun hodd => h ⟨hflap.1, hodd⟩
        omega
      · omega
    · rw [if_neg hflap]
  rw [value_findings]
  simp only [answers, hlock]
  rfl

theorem comes_reads (he : e.Usual) (hs : s.Usual) {v : Nat → Bytes}
    (hv : v = (findings e s p).value p.extendRounds)
    (hwidth : ∀ i < 32, (v i).length = (findings e s p).digest.width)
    (hzero : ∀ i < 32, (Contract.zeroAfterLock (i : Nat) = true ↔ v i = (findings e s p).zero)) :
    Comes e s p (On e s p (.read p 0) (Ledger.Knows v))
      (((List.range p.readRounds).flatMap fun k => (List.range 32).map (Slot.read k)).map .ask)
      (if s.has .lockFlap ∧ 2 ≤ p.readRounds then
        some ⟨.locksAndExtension, .lockMonotonic, some 16⟩ else none)
      (On e s p (.read p p.readRounds) (Ledger.Knows v)) := by
  simp only [← exists_odd_round_iff]
  -- after the first round, every register was seen to be locked
  refine Brings.imp (S := On e s p (.read p 0) (Ledger.Read v (32 * min 0 1)))
    (T := On e s p (.read p p.readRounds) (Ledger.Read v (32 * min p.readRounds 1))) ?_
    (fun st hst => ⟨hst.1, hst.2, by simp⟩) fun st hst => ⟨hst.1, hst.2.1⟩
  refine brings_rounds (S := fun k => On e s p (.read p k) (Ledger.Read v (32 * min k 1))) _
    fun k _ => ?_
  by_cases hfault : s.has .lockFlap ∧ k % 2 = 1
  -- the registers below sixteen are shown as they are, and the next one is not
  · have hround : ((List.range 32).map (Slot.read k)).map Step.ask =
        ((List.range 16).map (Slot.read k)).map .ask ++
          (Slot.read k 16 :: (List.range' 17 15).map (Slot.read k)).map .ask := rfl
    have hhalf := brings_of_decides (speaks_firstHalf (e := e) (p := p) hs.registerCount k)
      (decides_reads hwidth hzero k (32 * min k 1) (n := 16) (by omega)) fun i hi => by
        rw [hv]
        exact readRegister_read (.inr hi)
    have hturn := turns_read (e := e) (p := p) hs.registerCount k (i := 16) (by omega)
    rw [if_pos hfault, hround]
    refine hhalf.then (brings_of_violation hturn.speaks.exists_replies fun l hl => ?_)
    have hseen : 16 < max (32 * min k 1) 16 := by
      have hodd := hfault.2
      omega
    obtain ⟨r, hr, hlock⟩ := hl.2 16 hseen
    have hread : Slot.readRegister (answers e s p (.read k 16)) =
        .ok ⟨false, held e s p p.extendRounds 16⟩ := by
      have hflap : (s.has .lockFlap && decide (16 ≤ 16)) = true := by
        rw [hfault.1]
        rfl
      have heven : ((k + 1) % 2 == 1) = false := by
        rw [beq_eq_false_iff_ne]
        have hodd := hfault.2
        omega
      simp only [answers, hflap, if_true, heven]
      rfl
    exact review_read hr hlock hread (length_held (he.primitives.length_hash s.digest) _ _)
  · rw [if_neg hfault]
    have hmax : max (32 * min k 1) 32 = 32 * min (k + 1) 1 := by omega
    rw [← hmax]
    refine brings_of_decides (speaks_reads hs.registerCount k)
      (decides_reads hwidth hzero k (32 * min k 1) le_rfl) fun i _ => ?_
    rw [hv]
    exact readRegister_read (.inl hfault)

/-! ### Documents and random octets -/

theorem comes_attestation (he : e.Usual) (hs : s.Usual) (hmax : 16384 ≤ p.maxDocumentSize)
    (v : Nat → Bytes) :
    Comes e s p (On e s p (.read p p.readRounds) (Ledger.Knows v))
      ((Scenario.attestation.slots p).map .ask) (objection s p .attestation)
      (On e s p (.read p p.readRounds) (Ledger.Knows v)) := by
  unfold objection
  by_cases hempty : s.has .emptyDocument = true
  · have hspeaks := (turn_plainDocument (e := e) (s := s) (p := p)).speaks
    rw [if_pos hempty]
    refine brings_of_violation hspeaks.exists_replies fun l _ => ?_
    exact review_emptyDocument trivial (readDocument_certificate hempty _ _ _ _)
  · rw [if_neg hempty]
    have hdocuments : ∀ x ∈ Scenario.attestation.slots p, x.IsDocument := by
      intro x hx
      simp only [Scenario.slots, List.mem_cons, List.not_mem_nil, or_false] at hx
      rcases hx with rfl | rfl | rfl | rfl | rfl | rfl | rfl <;> trivial
    refine brings_of_decides speaks_documents
      (decides_documents (knows_count v) hdocuments) fun x hx => ?_
    exact certifies_document he hs (Bool.eq_false_iff.mpr hempty) hmax (hdocuments x hx)

theorem comes_randomness (he : e.Usual)
    (hdrawn : s.has .stuckRandom = false → ∀ n, n + 1 < p.randomSamples →
      (e.entropy (n + 1) 256).take p.randomLength ≠ (e.entropy n 256).take p.randomLength) :
    Comes e s p (Standing.With (State.Drawn e s 0) (Ledger.Drew (findings e s p) 0))
      ((Scenario.randomness.slots p).map .ask) (objection s p .randomness)
      (Standing.With (State.Drawn e s p.randomSamples)
        (Ledger.Drew (findings e s p) p.randomSamples)) := by
  have htwo := p.two_le_randomSamples
  have hcondition : (∃ n < p.randomSamples, s.has .stuckRandom = true ∧ 1 ≤ n) ↔
      s.has .stuckRandom = true := exists_second_round_iff.trans (and_iff_left htwo)
  have hslots : Scenario.randomness.slots p =
      (List.range p.randomSamples).flatMap fun n => [Slot.sample n] := List.map_eq_flatMap
  have hobjection : objection s p .randomness =
      if ∃ n < p.randomSamples, s.has .stuckRandom = true ∧ 1 ≤ n then
        some ⟨.randomness, .randomRepeat, none⟩ else none := by
    simp only [hcondition, objection]
  rw [hobjection, hslots]
  refine brings_rounds
    (S := fun n => Standing.With (State.Drawn e s n) (Ledger.Drew (findings e s p) n)) _
    fun n hn => ?_
  by_cases hstuck : s.has .stuckRandom = true ∧ 1 ≤ n
  · obtain ⟨m, rfl⟩ : ∃ m, n = m + 1 := ⟨n - 1, by omega⟩
    have hsame : (findings e s p).sample (m + 1) = (findings e s p).sample m := by
      simp only [findings, hstuck.1, if_true]
    rw [if_pos hstuck]
    refine brings_of_violation (speaks_sample (m + 1)).exists_replies fun l hl => ?_
    exact review_sample hl (congrArg Except.ok hsame) (length_sample he m)
  · rw [if_neg hstuck]
    refine brings_of_decides (speaks_sample n)
      (decides_ask (decides_sample covers_findings hn)) (samplesTo_findings he ?_)
    rintro m rfl
    have hfree : s.has .stuckRandom = false := by
      rw [Bool.eq_false_iff]
      exact fun h => hstuck ⟨h, by omega⟩
    simpa only [findings, hfree, Bool.false_eq_true, if_false] using hdrawn hfree m hn

/-! ### The whole script -/

theorem comes_locksAndExtension (he : e.Usual) (hs : s.Usual) (hf : Fortunate e s p)
    (hdescription : objection s p .description = none)
    (hparent : objection s p .initialRegisters = none) :
    Comes e s p (On e s p {} (Ledger.Knows ((findings e s p).value 0)))
      ((Scenario.locksAndExtension.slots p).map .ask) (objection s p .locksAndExtension)
      (On e s p (.read p p.readRounds)
        (Ledger.Knows ((findings e s p).value p.extendRounds))) := by
  rw [Scenario.steps_locksAndExtension]
  have hrelocks := comes_relocks (e := e) (p := p) hs ((findings e s p).value 0)
  have hall := hrelocks.append fun hrelocks =>
    have hreach : Extends s p := ⟨hdescription, hparent, not_of_ite_eq_none hrelocks⟩
    (comes_extensions he hs hf hreach).append fun hextensions =>
    have hbank := lockedBank_findings he hf hreach (not_of_ite_eq_none hextensions)
    (comes_locks hs _).then <|
    (comes_lockRange hs _).then <|
    (comes_lockBeyond hs _).append fun _ =>
    (comes_lockedExtensions he hs _).append fun _ =>
    comes_reads he hs rfl hbank.1 hbank.2
  simp only [ite_or] at hall
  exact hall

theorem verdict_eq : verdict s p = (objection s p .description).or
    ((objection s p .initialRegisters).or ((objection s p .locksAndExtension).or
      ((objection s p .attestation).or (objection s p .randomness)))) := by
  simp only [verdict, Scenario.all, List.findSome?_cons, List.findSome?_nil]
  cases objection s p .description <;> cases objection s p .initialRegisters <;>
    cases objection s p .locksAndExtension <;> cases objection s p .attestation <;>
    cases objection s p .randomness <;> rfl

theorem comes_steps (he : e.Usual) (hs : s.Usual) (hf : Fortunate e s p)
    (hmax : 16384 ≤ p.maxDocumentSize) :
    Comes e s p (On e s p {} (Ledger.ReadSoFar (findings e s p) 0)) p.steps (verdict s p)
      fun _ => True := by
  have hpass : ∀ (scenario : Scenario) (g : Stage) (v : Nat → Bytes),
      Comes e s p (On e s p g (Ledger.Knows v)) [.pass scenario] none
        (On e s p g (Ledger.Knows v)) :=
    fun scenario _ _ => brings_pass scenario fun _ hl => hl
  have hall := (comes_description he hs hmax).append fun hdescription =>
    (brings_pass .description fun _ hl => hl).then <|
    (comes_initialRegisters he hs hf.measured).append fun hregisters =>
    (hpass .initialRegisters _ _).then <|
    (comes_locksAndExtension he hs hf hdescription hregisters).append fun hlocks =>
    (hpass .locksAndExtension _ _).then <|
    (comes_attestation he hs hmax _).append fun hattestation =>
    (hpass .attestation _ _).then <|
    -- fresh draws are assumed to differ only when all else passed
    have hdrawn : s.has .stuckRandom = false → ∀ n, n + 1 < p.randomSamples →
        (e.entropy (n + 1) 256).take p.randomLength ≠ (e.entropy n 256).take p.randomLength := by
      intro hfree
      refine hf.drawn ?_
      rw [verdict_eq, hdescription, hregisters, hlocks, hattestation, objection, hfree]
      rfl
    have hrandomness : Comes e s p (On e s p (.read p p.readRounds)
        (Ledger.Knows ((findings e s p).value p.extendRounds)))
        ((Scenario.randomness.slots p).map .ask) (objection s p .randomness)
        (Standing.With (fun _ => True) fun _ => True) :=
      (comes_randomness he hdrawn).imp (fun _ hst => ⟨hst.1.drawn, hst.2.2⟩)
        fun _ _ => ⟨trivial, trivial⟩
    hrandomness.append fun _ => brings_pass .randomness fun _ _ => trivial
  rw [← p.steps_eq, Option.or_none, ← verdict_eq] at hall
  exact hall.imp (fun _ hst => hst) fun _ _ => trivial

end

/-- **The report on a simulated device is the first objection to its faults**, whatever the faults
and the parameters are. -/
theorem run_shows_verdict (a : Auditor) (runId : String) (now : Instant) {e : Surroundings}
    {s : Settings} (he : e.Usual) (hs : s.Usual) (hmax : 16384 ≤ a.parameters.maxDocumentSize)
    (hf : Fortunate e s a.parameters) :
    ∃ r, (a.run (transport e s) runId now (State.fresh e s)).outcome = .ok r ∧
      r.Shows (verdict s a.parameters) := by
  obtain ⟨d, hreplies, hd⟩ := exists_replies_describe (e := e) (p := a.parameters) hs.registerCount
  refine a.run_of_brings runId now rfl hreplies (readFrom_describe (p := a.parameters) hs)
    (T := fun _ => True) ?_
  refine (comes_steps he hs hf hmax).imp ?_ fun _ _ => trivial
  rintro _ rfl
  exact ⟨hd, rfl, rfl⟩

/-- Surroundings with the hashes and signatures in use, at the start of time. All octets of a draw
are its number. -/
def numbered : Surroundings :=
  ⟨(0 : Int), fun draw count => List.replicate count (UInt8.ofNat draw), .standard⟩

theorem numbered_usual : numbered.Usual where
  primitives := Primitives.sized_standard
  now := by decide +kernel
  entropy _ _ := List.length_replicate

/-- No more rounds than faults need to show, and no document before the rest. -/
def brief : Parameters :=
  { Parameters.default with
    extendRounds := 2
    readRounds := 2
    attestAtBoot := false
    extendRounds_pos := Nat.two_pos
    readRounds_pos := Nat.two_pos }

/-- A lock that flaps hides documents that are empty and samples that repeat. Without faults there
is nothing to object to. -/
theorem run_shows_flapping_lock :
    let run (s : Settings) := ((⟨brief, .empty⟩ : Auditor).run (transport numbered s) "" (0 : Int)
      (State.fresh numbered s)).outcome
    (∃ r, run { faults := [.stuckRandom, .emptyDocument, .lockFlap] } = .ok r ∧
      r.Shows (some ⟨.locksAndExtension, .lockMonotonic, some 16⟩)) ∧
    ∃ r, run {} = .ok r ∧ r.Shows none := by
  intro run
  have hid : defaultModuleId ≠ "" ∧ (Bytes.ofString defaultModuleId).length ≤ 100 := by decide
  have husual : ∀ faults : List Fault, Settings.Usual { faults := faults } := fun _ =>
    ⟨rfl, rfl, Int.le_of_lt Int.one_pos, Int.le_refl 0, Int.le_refl 0, hid.1, hid.2⟩
  refine ⟨run_shows_verdict _ _ _ numbered_usual (husual _) (by decide) ?_,
    run_shows_verdict _ _ _ numbered_usual (husual []) (by decide) ?_⟩
  · exact {
      measured := by decide +kernel
      extended := fun _ => by decide +kernel
      changed := fun _ _ => by decide +kernel
      drawn := fun h => absurd h (by decide) }
  · exact {
      measured := by decide +kernel
      extended := fun _ => by decide +kernel
      changed := fun _ _ => by decide +kernel
      drawn := fun _ n hn => by
        have hlt : n < 15 := Nat.lt_of_succ_lt_succ hn
        clear hn
        revert n
        decide +kernel }

end EnclaveAudit.Simulator
