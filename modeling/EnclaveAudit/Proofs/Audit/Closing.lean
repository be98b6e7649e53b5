import EnclaveAudit.Proofs.Audit.Account

/-!
# `EnclaveAudit/Proofs/Audit/Closing.lean` — what a run leaves behind

A run leaves a report, a ledger and a trail. The report agrees with itself about the states, the
scenarios and the checks (`Report.Accounted`), the ledger has the same states, and the trail is the
one that the report describes (`Report.trail`). If there is no report because of the description,
one scenario was begun and none passed.
-/

set_option autoImplicit false

namespace EnclaveAudit

/-- The state that an audit is in once it has passed these scenarios. -/
def phaseAfter (xs : List Scenario) : Phase := (xs.getLast?.map Scenario.target).getD .init

/-- The ledger of an audit that has passed these scenarios and no more is in that state. -/
theorem Ledger.phase_of_history {l : Ledger} {xs : List Scenario}
    (h : l.history = .init :: xs.map Scenario.target) : l.phase = phaseAfter xs := by
  unfold Ledger.phase phaseAfter
  rw [h, List.getLast?_cons, List.getLast?_map]
  cases xs.getLast? <;> rfl

namespace Report

/-- The report is one of an audit that passed all scenarios and is done, or of one that failed in
the scenario after those it passed. -/
def Ends (p : Parameters) (r : Report) : Prop :=
  (r.phase = .done ∧ r.scenariosPassed = Scenario.all ∧ r.failure = none ∧
    r.description ≠ none ∧ r.checksPassed = (Scenario.all.map (Scenario.tally p)).sum) ∨
  ∃ s after v, r.phase = .failed ∧ Scenario.all = r.scenariosPassed ++ s :: after ∧
    r.failure = some (s, v) ∧ v.check ∈ s.criteria ∧ (r.description = none ↔ v.check = .describe)

/-- The report agrees with itself. -/
structure Accounted (p : Parameters) (r : Report) : Prop where
  history : r.history = .init :: (r.scenariosPassed.map Scenario.target ++ [r.phase])
  checks : (r.scenariosPassed.map (Scenario.tally p)).sum ≤ r.checksPassed
  ends : r.Ends p

/-- The notices of the scenario that failed, if there is one. -/
def objection : Option (Scenario × Violation) → List Notice
  | none => []
  | some (s, v) => [.scenarioStarted (.text s.name), .violation (.text s.name) v.document]

/-- The trail of an audit that ends with the report. -/
def trail (p : Parameters) (r : Report) : List Notice :=
  [.runStarted (.text r.transport), .sessionOpened (.text r.transport)] ++
    p.passages .init r.scenariosPassed ++ objection r.failure ++
    [.stateTransition (.text (phaseAfter r.scenariosPassed).name) (.text r.phase.name),
      .sessionClosed (.text r.transport),
      .runFinished (.text r.phase.name) (.int r.checksPassed)]

end Report

/-! ## The end of a run -/

section

variable {σ : Type} {t : Transport σ} {p : Parameters} {runId : String} {now : Instant}
  {d d' d'' : Desk σ}

/-- What is reported agrees with itself and with the trail. -/
def Conclusion.Accounted (p : Parameters) (t : Transport σ) (c : Conclusion σ) : Prop :=
  ∃ r, c.outcome = .ok r ∧ r.Accounted p ∧ r.transport = t.name ∧ c.notices = r.trail p ∧
    c.ledger.history = r.history

/-- Without a report, the trail says so if it is a matter of the setup. -/
theorem Conclusion.notices_setback (cause : Setback) (l : Ledger) (s : Session σ) :
    (setback cause l s).notices =
      s.notices ++ if cause.isSetup then [.setupError (.text cause.message)] else [] := by
  unfold setback
  cases cause.isSetup with
  | true => exact Session.notices_note _
  | false => exact (List.append_nil _).symm

/-- A desk at which an audit can start. -/
structure Desk.Starts (t : Transport σ) (d : Desk σ) : Prop where
  isOpen : d.session.closed = false
  ledger : d.ledger = .empty
  notices : d.notices = [.runStarted (.text t.name), .sessionOpened (.text t.name)]

/-- A desk at which an audit ends in a state. -/
structure Desk.Finishes (p : Parameters) (t : Transport σ) (phase : Phase)
    (failure : Option (Scenario × Violation)) (d : Desk σ) : Prop where
  isOpen : d.session.closed = false
  history : d.ledger.history = .init :: (d.ledger.passed.map Scenario.target ++ [phase])
  notices : d.notices = [.runStarted (.text t.name), .sessionOpened (.text t.name)] ++
    p.passages .init d.ledger.passed ++ Report.objection failure ++
    [.stateTransition (.text (phaseAfter d.ledger.passed).name) (.text phase.name)]
  checks : (d.ledger.passed.map (Scenario.tally p)).sum ≤ d.ledger.checks

section

variable {phase : Phase} {failure : Option (Scenario × Violation)}

theorem Desk.Finishes.phase_eq (h : d.Finishes p t phase failure) : d.ledger.phase = phase := by
  rw [Ledger.phase, h.history, ← List.cons_append, List.getLast?_concat]
  rfl

/-- What is reported from there. -/
theorem Desk.Finishes.accounted (h : d.Finishes p t phase failure)
    (hends : (d.ledger.report t.name runId now failure).Ends p) :
    (Conclusion.report t runId now failure d.ledger (d.session.close t)).Accounted p t := by
  refine ⟨d.ledger.report t.name runId now failure, rfl, ⟨?_, h.checks, hends⟩, rfl, ?_, rfl⟩
  · rw [Ledger.report, h.phase_eq]
    exact h.history
  · show (Session.note _ (d.session.close t)).notices = _
    rw [Session.notices_note, Session.notices_close h.isOpen,
      show d.session.notices = _ from h.notices]
    simp [Report.trail, Ledger.report, h.phase_eq]

end

/-- What a desk says of the scenarios that were passed there since the start. -/
theorem Desk.Starts.passes (h : d.Starts t) {xs : List Scenario} (hpasses : d.Passes p xs d') :
    d'.ledger.history = .init :: xs.map Scenario.target ∧ d'.ledger.passed = xs ∧
      d'.notices = [.runStarted (.text t.name), .sessionOpened (.text t.name)] ++
        p.passages .init xs ∧
      d'.ledger.checks = (xs.map (Scenario.tally p)).sum := by
  obtain ⟨hnotices, hhistory, hpassed, hchecks⟩ := hpasses
  rw [h.ledger] at hnotices hhistory hpassed hchecks
  rw [h.notices] at hnotices
  exact ⟨hhistory, hpassed, hnotices, hchecks.trans (Nat.zero_add _)⟩

/-- The audit passed all scenarios, and is done. -/
theorem Desk.Starts.finishes_done (h : d.Starts t) (hopen : d'.session.closed = false)
    (hpasses : d.Passes p Scenario.all d') : (d'.transition .done).Finishes p t .done none := by
  obtain ⟨hhistory, hpassed, hnotices, hchecks⟩ := h.passes hpasses
  refine ⟨hopen, ?_, ?_, ?_⟩
  · show d'.ledger.history ++ [.done] = .init :: (d'.ledger.passed.map _ ++ [.done])
    rw [hhistory, hpassed]
    rfl
  · show (d'.transition .done).notices =
      _ ++ p.passages .init d'.ledger.passed ++ [] ++ [.stateTransition
        (.text (phaseAfter d'.ledger.passed).name) (.text Phase.done.name)]
    rw [Desk.notices_transition, hnotices, Ledger.phase_of_history hhistory, hpassed,
      List.append_nil]
  · show (d'.ledger.passed.map _).sum ≤ d'.ledger.checks
    rw [hpassed, hchecks]

/-- The audit passed some, began another and failed in it. -/
theorem Desk.Starts.finishes_failed (h : d.Starts t) (hopen : d''.session.closed = false)
    {before : List Scenario} {s : Scenario} (v : Violation) (hpasses : d.Passes p before d')
    (hbegins : d'.Begins s d'') : (d''.fail s v).Finishes p t .failed (some (s, v)) := by
  obtain ⟨hhistory, hpassed, hnotices, hchecks⟩ := h.passes hpasses
  have hhistory' : d''.ledger.history = .init :: before.map Scenario.target :=
    hbegins.history.trans hhistory
  have hpassed' : d''.ledger.passed = before := hbegins.passed.trans hpassed
  refine ⟨hopen, ?_, ?_, ?_⟩
  · show d''.ledger.history ++ [.failed] = .init :: (d''.ledger.passed.map _ ++ [.failed])
    rw [hhistory', hpassed']
    rfl
  · show ((d''.note (.violation (.text s.name) v.document)).transition .failed).notices =
      _ ++ p.passages .init d''.ledger.passed ++
        [.scenarioStarted (.text s.name), .violation (.text s.name) v.document] ++
        [.stateTransition (.text (phaseAfter d''.ledger.passed).name) (.text Phase.failed.name)]
    rw [Desk.notices_transition, Desk.notices_note, hbegins.notices, hnotices, hpassed',
      show (d''.note _).ledger.phase = _ from Ledger.phase_of_history hhistory']
    simp
  · show (d''.ledger.passed.map _).sum ≤ d''.ledger.checks
    rw [hpassed', ← hchecks]
    exact hbegins.checks

end

/-- No scenario comes before the first. -/
theorem before_description {before after : List Scenario}
    (h : Scenario.all = before ++ .description :: after) : before = [] := by
  cases before with
  | nil => rfl
  | cons s before =>
    have hlater : Scenario.all.tail = before ++ .description :: after := congrArg List.tail h
    have hmem : Scenario.description ∈ Scenario.all.tail :=
      hlater ▸ List.mem_append_right before List.mem_cons_self
    exact absurd hmem (by decide)

namespace Auditor

variable {σ : Type}

/-- **The account of a run.** It ends in a report that agrees with itself and is told by the trail;
or in a description that is no use, with one scenario begun and none passed; or in something that is
not about the device. -/
theorem run_account (a : Auditor) {t : Transport σ} (runId : String) (now : Instant) {device : σ}
    (h : (t.acquire device).result = .ok ()) :
    let c := a.run t runId now device
    c.Accounted a.parameters t ∨
      (∃ fault, c.outcome = .error (.unusable fault) ∧ c.ledger.history = [.init] ∧
        c.notices = [.runStarted (.text t.name), .sessionOpened (.text t.name),
          .scenarioStarted (.text Scenario.description.name), .sessionClosed (.text t.name),
          .setupError (.text fault.message)]) ∨
      c.outcome = .error .unwritable ∨ ∃ i, c.outcome = .error (.interrupted i) := by
  simp only [run, Ledger.reset_eq, Session.acquire, h]
  generalize hdesk : Desk.mk _ Ledger.empty = desk
  have hstarts : desk.Starts t := by
    rw [← hdesk]
    refine ⟨rfl, rfl, ?_⟩
    show Session.notices (Session.note _ (Session.used _ _ _)) = _
    rw [Session.notices_note, Session.notices_used]
    rfl
  have hends := Audit.conduct_ends (t := t) (p := a.parameters) hstarts.isOpen hstarts.ledger
  generalize Audit.conduct t a.parameters desk = ending at hends ⊢
  cases ending with
  | ok _ d =>
    obtain ⟨d₁, hopen, hdescribed, hpasses, rfl⟩ := hends
    obtain ⟨-, hpassed, -, hchecks⟩ := hstarts.passes hpasses
    have hfinishes := hstarts.finishes_done hopen hpasses
    exact .inl (hfinishes.accounted
      (.inl ⟨hfinishes.phase_eq, hpassed, rfl, hdescribed, hchecks⟩))
  | error halt d =>
    obtain ⟨hopen, before, s, after, d₁, hall, hpasses, hbegins, hfits⟩ := hends
    obtain ⟨hhistory, hpassed, hnotices, -⟩ := hstarts.passes hpasses
    cases halt with
    | violated s' v =>
      obtain ⟨rfl, hmem, hdescribed⟩ := hfits
      have hall : Scenario.all = d.ledger.passed ++ s' :: after := by
        rw [hbegins.passed, hpassed, hall]
      have hfinishes := hstarts.finishes_failed hopen v hpasses hbegins
      by_cases hv : v.isWritable = true
      · simp only [if_pos hv]
        exact .inl (hfinishes.accounted
          (.inr ⟨s', after, v, hfinishes.phase_eq, hall, rfl, hmem, hdescribed⟩))
      · simp only [if_neg hv]
        exact .inr (.inr (.inl rfl))
    | unusable fault =>
      obtain rfl : s = .description := hfits
      obtain rfl := before_description hall
      by_cases hfault : fault.observed.isWritable = true
      · refine .inr (.inl ⟨fault, ?_⟩)
        have hcause : Setback.ofFault fault = .unusable fault := if_pos hfault
        simp only [hcause]
        refine ⟨rfl, ?_, ?_⟩
        · exact hbegins.history.trans hhistory
        · rw [Conclusion.notices_setback, Session.notices_close hopen,
            show d.session.notices = _ from hbegins.notices, hnotices]
          rfl
      · have hcause : Setback.ofFault fault = .unwritable := if_neg hfault
        simp only [hcause]
        exact .inr (.inr (.inl rfl))
    | interrupted i => exact .inr (.inr (.inr ⟨i, rfl⟩))

end Auditor

end EnclaveAudit
