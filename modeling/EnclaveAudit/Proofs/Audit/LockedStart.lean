import EnclaveAudit.Proofs.Audit.Closing
import EnclaveAudit.Proofs.Audit.Conformance
import EnclaveAudit.Proofs.Check.InitialState

/-!
# `EnclaveAudit/Proofs/Audit/LockedStart.lean` — an audit of a bank that is locked already

A device that lists all of its registers as locked can answer everything right that an audit asks of
it up to the end of the first reads, and then the audit ends. By that time the values of all
registers were read and found to be right, so what is objected to is the list in the description,
and of that the number of entries. The locks that the reads showed are never looked at: the check of
the list comes before the check of the locks.
-/

set_option autoImplicit false

namespace EnclaveAudit

/-- The violation of a device that lists every register as locked before anything was done to it. -/
def allLocked : Violation :=
  ⟨.initialLockedSet, .text "16 locked PCRs", .text "32 locked PCRs", none⟩

/-- The report of an audit that found every register locked: it failed in its second scenario, with
all registers read and their values found to be right. -/
structure Report.FindsAllLocked (p : Parameters) (r : Report) : Prop where
  phase : r.phase = .failed
  failure : r.failure = some (.initialRegisters, allLocked)
  history : r.history = [.init, .descriptionValidated, .failed]
  scenariosPassed : r.scenariosPassed = [.description]
  checksPassed : r.checksPassed = 35 + if p.attestAtBoot then 1 else 0

namespace Parameters

/-- The places up to the end of the first reads. -/
def firstPlaces (p : Parameters) : List Slot :=
  Scenario.description.slots p ++ (List.range 32).map .firstRead

/-- The steps before the last of the first reads. -/
def stepsBeforeLastFirstRead (p : Parameters) : List Step :=
  (Scenario.description.slots p).map .ask ++
    ([.pass .description] ++ ((List.range 31).map Slot.firstRead).map .ask)

theorem exists_stepsBeforeLastFirstRead_eq (p : Parameters) :
    ∃ later, p.steps = p.stepsBeforeLastFirstRead ++ .ask (.firstRead 31) :: later := by
  have hreads : (Scenario.initialRegisters.slots p).map Step.ask =
      ((List.range 31).map Slot.firstRead).map .ask ++ [.ask (.firstRead 31)] := rfl
  refine ⟨?later, ?split⟩
  case split =>
    rw [p.steps_eq, hreads]
    simp only [stepsBeforeLastFirstRead, List.append_assoc]
    rfl

theorem asked_stepsBeforeLastFirstRead (p : Parameters) :
    asked p.stepsBeforeLastFirstRead ++ [.firstRead 31] = p.firstPlaces := by
  simp only [stepsBeforeLastFirstRead, firstPlaces, asked_append, asked_map_ask, asked_pass,
    asked_nil, List.nil_append, List.append_assoc]
  rfl

theorem nodup_firstPlaces (p : Parameters) : p.firstPlaces.Nodup := by
  obtain ⟨later, hsteps⟩ := p.exists_stepsBeforeLastFirstRead_eq
  have hall := nodup_slots p
  rw [← asked_steps, hsteps, asked_append, asked_ask, ← List.singleton_append, ← List.append_assoc,
    p.asked_stepsBeforeLastFirstRead] at hall
  exact (List.nodup_append.mp hall).1

end Parameters

section

variable {p : Parameters} {given : Slot → Value} {f : Findings} {l : Ledger}

/-- Right values and a list of all registers: the list is what the judgement ends at. -/
theorem closing_initialRegisters_of_allLocked (hl : l.ReadSoFar f 32)
    (hempty : ∀ i ∈ [3, 5, 6, 7, 8, 9, 10, 11, 12, 13, 14, 15], (f.first i).value = f.zero)
    (hmeasured : ∀ i ∈ [0, 1, 2, 4], (f.first i).value ≠ f.zero)
    (hlisted : f.description.lockedRegisters.length = 32) :
    Scenario.initialRegisters.closing f.subject l = .error allLocked (l.count 1) := by
  have hvalues : Check.requireInitialValues l.bank f.subject.contract = .ok () := by
    rw [Check.requireInitialValues, Check.forM_eq_ok_iff, hl.1]
    intro r hr
    obtain ⟨i, hi, rfl⟩ := List.mem_map.mp hr
    obtain ⟨htrue, hfalse⟩ := zeroAtBoot?_iff i (List.mem_range.mp hi)
    rw [Check.requireInitialValue_eq_ok_iff]
    exact ⟨fun h => hempty i (htrue.mp h), fun h => hmeasured i (hfalse.mp h)⟩
  have hset : Check.requireInitialLockedSet f.subject.description f.subject.contract =
      .error allLocked := by
    have hlength : f.subject.description.lockedRegisters.length = 32 := hlisted
    rw [Check.requireInitialLockedSet_of_length (by omega), hlength]
    rfl
  simp only [Scenario.closing]
  rw [bind_of_eq_ok (Judgement.get_eq_ok_iff.mpr ⟨rfl, rfl⟩),
    bind_of_eq_ok (Judgement.counted_eq_ok_iff.mpr ⟨hvalues, rfl⟩)]
  exact bind_eq_error_iff.mpr (.inl (Judgement.counted_eq_error_iff.mpr ⟨hset, rfl⟩))

theorem decides_stepsBeforeLastFirstRead (hf : f.Covers p given) :
    (examine p f.subject given p.stepsBeforeLastFirstRead).Decides (Ledger.ReadSoFar f 0)
      ((∀ x ∈ Scenario.description.slots p, Certifies p (given x)) ∧ True ∧
        ∀ i < 31, Slot.readRegister (given (.firstRead i)) = .ok (f.first i) ∧
          (f.first i).value.length = f.digest.width)
      (Ledger.ReadSoFar f 31) :=
  decides_append (decides_bootDocument fun _ _ hl => hl) fun _ =>
    decides_append (decides_pass .description fun _ hl => hl) fun _ => decides_firstReads hf le_rfl

/-- **Right answers up to the first reads**, of a device that lists all registers as locked. Which
locks were shown does not matter. -/
theorem examine_of_allLocked {u : Subject} {described : Value} (hu : u.ReadFrom described)
    {value : Nat → Bytes} (hdocument : p.attestAtBoot = true → Certifies p (given .bootDocument))
    (hreads : ∀ i < 32, ∃ lock, Slot.readRegister (given (.firstRead i)) = .ok ⟨lock, value i⟩)
    (hwidth : ∀ i < 32, (value i).length = u.contract.digestWidth)
    (hempty : ∀ i ∈ [3, 5, 6, 7, 8, 9, 10, 11, 12, 13, 14, 15], value i = u.contract.zeroValue)
    (hmeasured : ∀ i ∈ [0, 1, 2, 4], value i ≠ u.contract.zeroValue)
    (hlisted : u.description.lockedRegisters.length = 32) :
    ∃ l l', examine p u given p.stepsBeforeLastFirstRead (.identified u.description) = .ok () l ∧
      (Slot.firstRead 31).review p u (given (.firstRead 31)) l = .error allLocked l' := by
  -- the findings are those that the answers tell
  have hcovers := Findings.of_covers u p given
  have hsubject := Findings.subject_of p given hu
  generalize Findings.of u p given = f at hcovers hsubject
  subst hsubject
  have hfirst : ∀ i < 32, Slot.readRegister (given (.firstRead i)) = .ok (f.first i) ∧
      (f.first i).value = value i := by
    intro i hi
    obtain ⟨lock, hread⟩ := hreads i hi
    rw [← hcovers.first i hi _ hread]
    exact ⟨hread, rfl⟩
  have hread : ∀ i < 32, Slot.readRegister (given (.firstRead i)) = .ok (f.first i) ∧
      (f.first i).value.length = f.digest.width := fun i hi =>
    ⟨(hfirst i hi).1, (congrArg List.length (hfirst i hi).2).trans (hwidth i hi)⟩
  have hboot : ∀ x ∈ Scenario.description.slots p, Certifies p (given x) := by
    intro x hx
    rw [Scenario.slots] at hx
    split_ifs at hx with hasked
    · rw [List.mem_singleton.mp hx]
      exact hdocument hasked
    · cases hx
  obtain ⟨hpass, hmost⟩ := decides_stepsBeforeLastFirstRead hcovers (.identified f.description)
    ⟨rfl, rfl⟩
  obtain ⟨l, hexamine⟩ := hpass.mpr ⟨hboot, trivial, fun i hi => hread i (by omega)⟩
  obtain ⟨hlast, hall⟩ := decides_firstRead hcovers (i := 31) (by omega) l (hmost l hexamine)
  obtain ⟨l₁, hjudge⟩ := hlast.mpr (hread 31 (by omega))
  have hclosing : Scenario.initialRegisters.closing f.subject l₁ =
      .error allLocked (l₁.count 1) := by
    refine closing_initialRegisters_of_allLocked (hall l₁ hjudge) (fun i hi => ?_) (fun i hi => ?_)
      hlisted
    · have hlt : i < 32 := by revert i; decide
      exact (hfirst i hlt).2.trans (hempty i hi)
    · have hlt : i < 32 := by revert i; decide
      rw [(hfirst i hlt).2]
      exact hmeasured i hi
  exact ⟨l, l₁.count 1, hexamine, bind_eq_error_iff.mpr (.inr ⟨(), l₁, hjudge, hclosing⟩)⟩

/-- How many checks passed when the last of the first reads fails one. -/
theorem checks_of_lastFirstRead {u : Subject} {v : Violation} {l' : Ledger}
    (hexamine : examine p u given p.stepsBeforeLastFirstRead (.identified u.description) = .ok () l)
    (hreview : (Slot.firstRead 31).review p u (given (.firstRead 31)) l = .error v l') :
    l'.checks = 33 + (if p.attestAtBoot then 1 else 0) + v.check.precedence := by
  obtain ⟨later, hsteps⟩ := p.exists_stepsBeforeLastFirstRead_eq
  have hstart : (Ledger.identified u.description).Observed 0 := rfl
  obtain ⟨n, hbank, ⟨hfits, -⟩, hchecks⟩ := examine_eq_ok (hsteps ▸ orderly_steps p) hstart hexamine
  -- two checks of the description, one of a document if it was asked for, and one of each read
  have htwo : (Ledger.identified u.description).checks = 2 := rfl
  have htally : ((asked p.stepsBeforeLastFirstRead).map Slot.checks).sum =
      31 + if p.attestAtBoot then 1 else 0 := by
    simp only [Parameters.stepsBeforeLastFirstRead, asked_append, asked_map_ask, asked_pass,
      asked_nil, List.nil_append, Scenario.slots]
    split_ifs <;> rfl
  rw [(Slot.review_eq_error hfits hbank hreview).2, hchecks, htally, htwo]
  omega

/-- The first scenario is the one before the second. -/
theorem before_initialRegisters {before after : List Scenario}
    (h : Scenario.all = before ++ .initialRegisters :: after) : before = [.description] := by
  rcases before with _ | ⟨first, _ | ⟨second, before⟩⟩
  · cases h
  · cases h
    rfl
  · have hlater : [.locksAndExtension, .attestation, .randomness] =
        before ++ .initialRegisters :: after := congrArg (List.drop 2) h
    have hmem : Scenario.initialRegisters ∈
        [Scenario.locksAndExtension, .attestation, .randomness] :=
      hlater ▸ List.mem_append_right before List.mem_cons_self
    exact absurd hmem (by decide)

end

end EnclaveAudit
