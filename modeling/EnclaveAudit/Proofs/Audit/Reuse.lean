import EnclaveAudit.Proofs.Audit.Consistency

/-!
# `EnclaveAudit/Proofs/Audit/Reuse.lean` — one auditor, many runs

An auditor keeps the ledger of its last run, and that run may have ended anywhere: when all was
done, at a violation, at a description that is no use, when the transport was interrupted in the
middle of a scenario. What it keeps is then whatever the run had written by that time. None of it
reaches the next run, because a run resets the ledger before it does anything else
(`Ledger.reset_eq`); all that an auditor brings along is its parameters, and those no run changes.

What distinguishes two runs is then only their names, and a name appears in the report and nowhere
else.
-/

set_option autoImplicit false

namespace EnclaveAudit

variable {σ : Type}

/-- When a run takes place: its name, the time, and the state in which it finds the device. -/
structure Occasion (σ : Type) where
  runId : String
  now : Instant
  device : σ

/-- The report under another name. -/
def Report.named (runId : String) (r : Report) : Report := { r with runId }

/-- The conclusion with its report, if there is one, under another name. -/
def Conclusion.named (runId : String) (c : Conclusion σ) : Conclusion σ :=
  { c with outcome := c.outcome.map (Report.named runId) }

namespace Conclusion

variable {c : Conclusion σ} {runId runId' : String} {now : Instant}

theorem named_setback {cause : Setback} {l : Ledger} {s : Session σ} :
    (setback cause l s).named runId = setback cause l s := rfl

theorem named_report {t : Transport σ} {failure : Option (Scenario × Violation)} {l : Ledger}
    {s : Session σ} : (report t runId' now failure l s).named runId =
      report t runId now failure l s := rfl

end Conclusion

namespace Auditor

variable {t : Transport σ}

/-- The auditor once it has audited on these occasions, one after the other. -/
def after (t : Transport σ) (a : Auditor) (earlier : List (Occasion σ)) : Auditor :=
  earlier.foldl (fun a o => (a.again t o.runId o.now o.device).2) a

/-- No run changes the parameters. -/
theorem parameters_after (a : Auditor) (earlier : List (Occasion σ)) :
    (a.after t earlier).parameters = a.parameters := by
  induction earlier generalizing a with
  | nil => rfl
  | cons o earlier ih =>
    have hstep : (a.again t o.runId o.now o.device).2.parameters = a.parameters := rfl
    exact (ih _).trans hstep

/-- A run looks at the parameters and not at the ledger that is left from the one before. -/
theorem run_congr {a b : Auditor} (h : a.parameters = b.parameters) (runId : String) (now : Instant)
    (device : σ) : a.run t runId now device = b.run t runId now device := by
  simp only [run, Ledger.reset_eq, h]

/-- The name of a run is in its report and nowhere else. -/
theorem run_named (a : Auditor) (runId runId' : String) (now : Instant) (device : σ) :
    (a.run t runId' now device).named runId = a.run t runId now device := by
  simp only [run]
  split
  · exact Conclusion.named_setback
  · split
    · exact Conclusion.named_report
    · split
      · exact Conclusion.named_report
      · exact Conclusion.named_setback
    · exact Conclusion.named_setback
    · exact Conclusion.named_setback

/-- A device that takes a lock it has leaves the auditor behind the second scenario. -/
theorem history_after_relocking (p : Parameters) (runId : String) :
    (Auditor.after (Rehearsal.Scripted.transport "scripted" none) { parameters := p }
      [⟨runId, (0 : Int), .relocking p⟩]).ledger.history =
        [.init, .descriptionValidated, .initialRegistersAudited, .failed] := by
  obtain ⟨_, -, -, hended⟩ := Auditor.run_of_relock { parameters := p } runId (0 : Int) rfl
    (Rehearsal.Scripted.replies_relocking "scripted" p) (conforms_model p)
  exact hended

theorem exists_again_of_passing (p : Parameters) (runId : String) :
    ∃ r, r.phase = .done ∧ (Auditor.again { parameters := p }
      (Rehearsal.Scripted.transport "scripted" none) runId (0 : Int) (.passing p)).1.outcome =
        .ok r := by
  obtain ⟨r, houtcome, hphase⟩ := Auditor.exists_done_of_conforms { parameters := p } runId
    (0 : Int) rfl (Rehearsal.Scripted.replies_passing "scripted" p) (conforms_model p)
  exact ⟨r, hphase, houtcome⟩

/-- **A reused auditor behaves like a new one.** Whatever the earlier runs met with and wherever
they ended, the next one makes the same use of the transport as the first run of a new auditor with
the same parameters, so it sends the same requests and leaves the device in the same state; it ends
in the same way, with the same trail, and with the same report but for the name; and what the
auditor remembers afterwards is the same. -/
theorem used_runs_like_new (p : Parameters) (t : Transport σ) (earlier : List (Occasion σ))
    (runId runId' : String) (now : Instant) (device : σ) :
    let new : Auditor := { parameters := p }
    let used := new.after t earlier
    let recorded := used.run t.recorded runId now ⟨device, #[]⟩
    let recorded' := new.run t.recorded runId' now ⟨device, #[]⟩
    let c := used.again t runId now device
    let c' := new.again t runId' now device
    recorded.device.uses = recorded'.device.uses ∧
    recorded.device.requests = recorded'.device.requests ∧
    c.1.outcome = c'.1.outcome.map (Report.named runId) ∧
    c.1.device = c'.1.device ∧ c.1.journal = c'.1.journal ∧ c.1.ledger = c'.1.ledger ∧
    c.2 = c'.2 := by
  intro new used recorded recorded' c c'
  have hparameters : used.parameters = new.parameters := parameters_after new earlier
  have hrecorded : recorded = recorded'.named runId := by
    rw [run_named]
    exact run_congr hparameters runId now _
  have hrun : c.1 = c'.1.named runId := by
    show used.run t runId now device = (new.run t runId' now device).named runId
    rw [run_named]
    exact run_congr hparameters runId now _
  have hledger : c.1.ledger = c'.1.ledger := by rw [hrun]; rfl
  refine ⟨?uses, ?requests, ?outcome, ?state, ?journal, hledger, ?memory⟩
  case uses => rw [hrecorded]; rfl
  case requests => rw [hrecorded]; rfl
  case outcome => rw [hrun]; rfl
  case state => rw [hrun]; rfl
  case journal => rw [hrun]; rfl
  case memory =>
    show Auditor.mk used.parameters c.1.ledger = Auditor.mk new.parameters c'.1.ledger
    rw [hparameters, hledger]

/-- After a run that failed in the third scenario, and left the ledger there, the next one is done as
that of a new auditor is. -/
theorem used_runs_like_new_after_a_failure :
    let t := Rehearsal.Scripted.transport "scripted" none
    let new : Auditor := { parameters := .default }
    let used := new.after t [⟨"first", (0 : Int), .relocking .default⟩]
    used.ledger.history = [.init, .descriptionValidated, .initialRegistersAudited, .failed] ∧
    ∃ r, r.phase = .done ∧ (new.again t "new" (0 : Int) (.passing .default)).1.outcome = .ok r ∧
      (used.again t "second" (0 : Int) (.passing .default)).1.outcome = .ok (r.named "second") := by
  obtain ⟨r, hphase, hnew⟩ := exists_again_of_passing .default "new"
  obtain ⟨-, -, hsecond, -⟩ := used_runs_like_new .default
    (Rehearsal.Scripted.transport "scripted" none) [⟨"first", (0 : Int), .relocking .default⟩]
    "second" "new" (0 : Int) (.passing .default)
  exact ⟨history_after_relocking .default "first", r, hphase, hnew,
    hsecond.trans (congrArg (Except.map (Report.named "second")) hnew)⟩

end Auditor

end EnclaveAudit
