import EnclaveAudit.Proofs.Audit.Consistency

/-!
# `EnclaveAudit/Proofs/Audit/Trail.lean` — the trail of a run

With the threshold at which nothing is left out, the log of a run has a fixed form, and everything
that the report says of the states, the scenarios, the violation and the checks can be read back off
it (`Report.ToldBy`). The trail is written while the run goes on and the report when it is over, so
this is about two accounts of the same run.
-/

set_option autoImplicit false

namespace EnclaveAudit

/-! ## Reading a trail -/

/-- What the notices of a kind say in a field, one after the other. -/
def told (kind field : String) (ns : List Notice) : List Value :=
  ns.flatMap fun n => if n.kind = kind then (n.fields.lookup field).toList else []

/-- What the log has of the notices of a run. -/
def Conclusion.logged {σ : Type} (threshold : Level) (c : Conclusion σ) : List Notice :=
  c.notices.filter fun n => n.level.reaches threshold

@[simp] theorem told_append (kind field : String) (ns ns' : List Notice) :
    told kind field (ns ++ ns') = told kind field ns ++ told kind field ns' :=
  List.flatMap_append

/-! ## What is told of the scenarios that passed -/

section

variable (p : Parameters) (phase : Phase) (xs : List Scenario)

theorem told_previous_passages :
    told "STATE_TRANSITION" "previous" (p.passages phase xs) =
      (phase :: xs.map Scenario.target).dropLast.map fun x => .text x.name := by
  induction xs generalizing phase with
  | nil => rfl
  | cons s rest ih =>
    show .text phase.name :: told _ _ (p.passages s.target rest) = _
    rw [ih]
    rfl

/-- A field that says the same whatever state the scenario was in is told scenario by scenario. -/
theorem told_passages {kind field : String} {f : Scenario → List Value}
    (h : ∀ phase s, told kind field (p.passages phase [s]) = f s) :
    told kind field (p.passages phase xs) = xs.flatMap f := by
  induction xs generalizing phase with
  | nil => rfl
  | cons s rest ih =>
    have hsplit : p.passages phase (s :: rest) =
      p.passages phase [s] ++ p.passages s.target rest := rfl
    rw [hsplit, told_append, h, ih, List.flatMap_cons]

theorem told_current_passages :
    told "STATE_TRANSITION" "current" (p.passages phase xs) =
      xs.map fun s => .text s.target.name := by
  rw [List.map_eq_flatMap]
  exact told_passages p phase xs fun _ _ => rfl

theorem told_scenario_passages :
    told "SCENARIO_PASSED" "scenario" (p.passages phase xs) = xs.map fun s => .text s.name := by
  rw [List.map_eq_flatMap]
  exact told_passages p phase xs fun _ _ => rfl

theorem told_checks_passages :
    told "SCENARIO_PASSED" "checks" (p.passages phase xs) = xs.map fun s => .int (s.tally p) := by
  rw [List.map_eq_flatMap]
  exact told_passages p phase xs fun _ _ => rfl

/-- A scenario that passes leaves nothing of another kind. -/
theorem told_passages_of_ne {kind : String} (field : String) (hstarted : "SCENARIO_STARTED" ≠ kind)
    (hpassed : "SCENARIO_PASSED" ≠ kind) (htransition : "STATE_TRANSITION" ≠ kind) :
    told kind field (p.passages phase xs) = [] := by
  have hnone : ∀ phase s, told kind field (p.passages phase [s]) = [] := fun phase s => by
    simp [Parameters.passages, told, Notice.scenarioStarted, Notice.scenarioPassed,
      Notice.stateTransition, *]
  rw [told_passages p phase xs hnone]
  exact List.flatMap_eq_nil_iff.mpr fun _ _ => rfl

/-- The states before the last, and the last. -/
theorem dropLast_append_phaseAfter :
    (.init :: xs.map Scenario.target).dropLast ++ [phaseAfter xs] =
      .init :: xs.map Scenario.target := by
  have hlast : (.init :: xs.map Scenario.target).getLast? = some (phaseAfter xs) := by
    unfold phaseAfter
    rw [List.getLast?_cons, List.getLast?_map]
  exact List.dropLast_append_getLast? _ hlast

end

/-! ## What is told by the trail of a report -/

namespace Report

/-- A trail tells what the report says. -/
structure ToldBy (p : Parameters) (ns : List Notice) (r : Report) : Prop where
  /-- the first state is the first -/
  init : r.history.head? = some .init
  /-- each state but the last is left once, in order -/
  previous : told "STATE_TRANSITION" "previous" ns = r.history.dropLast.map fun x => .text x.name
  /-- each state but the first is entered once, in order -/
  current : told "STATE_TRANSITION" "current" ns = r.history.tail.map fun x => .text x.name
  passed : told "SCENARIO_PASSED" "scenario" ns = r.scenariosPassed.map fun s => .text s.name
  counts : told "SCENARIO_PASSED" "checks" ns = r.scenariosPassed.map fun s => .int (s.tally p)
  failed : told "CONFORMANCE_VIOLATION" "scenario" ns =
    r.failure.toList.map fun failure => .text failure.1.name
  violation : told "CONFORMANCE_VIOLATION" "violation" ns =
    r.failure.toList.map fun failure => failure.2.document
  phase : told "RUN_FINISHED" "state" ns = [.text r.phase.name]
  checks : told "RUN_FINISHED" "checks" ns = [.int r.checksPassed]

variable {p : Parameters} {r : Report}

theorem told_trail (kind field : String) : told kind field (r.trail p) =
    told kind field [.runStarted (.text r.transport), .sessionOpened (.text r.transport)] ++
      told kind field (p.passages .init r.scenariosPassed) ++
      told kind field (objection r.failure) ++
      told kind field [.stateTransition (.text (phaseAfter r.scenariosPassed).name)
          (.text r.phase.name), .sessionClosed (.text r.transport),
        .runFinished (.text r.phase.name) (.int r.checksPassed)] := by
  simp only [trail, told_append]

/-- A failure is told by its violation and by nothing else. -/
theorem told_objection_of_ne {kind : String} (field : String)
    (hstarted : "SCENARIO_STARTED" ≠ kind) (hviolation : "CONFORMANCE_VIOLATION" ≠ kind) :
    told kind field (objection r.failure) = [] := by
  cases r.failure with
  | none => rfl
  | some failure => simp [objection, told, Notice.scenarioStarted, Notice.violation, *]

theorem Accounted.toldBy (h : r.Accounted p) : r.ToldBy p (r.trail p) where
  init := by rw [h.history]; rfl
  previous := by
    have hinner : r.history.dropLast = .init :: r.scenariosPassed.map Scenario.target := by
      rw [h.history, ← List.cons_append, List.dropLast_concat]
    rw [hinner, ← dropLast_append_phaseAfter, told_trail, told_previous_passages,
      told_objection_of_ne _ (by decide) (by decide), List.append_nil, List.map_append]
    rfl
  current := by
    have htail : r.history.tail = r.scenariosPassed.map Scenario.target ++ [r.phase] := by
      rw [h.history, List.tail_cons]
    rw [htail, told_trail, told_current_passages,
      told_objection_of_ne _ (by decide) (by decide), List.append_nil, List.map_append,
      List.map_map]
    rfl
  passed := by
    rw [told_trail, told_scenario_passages, told_objection_of_ne _ (by decide) (by decide)]
    exact (List.append_nil _).trans (List.append_nil _)
  counts := by
    rw [told_trail, told_checks_passages, told_objection_of_ne _ (by decide) (by decide)]
    exact (List.append_nil _).trans (List.append_nil _)
  failed := by
    rw [told_trail, told_passages_of_ne _ _ _ _ (by decide) (by decide) (by decide)]
    cases r.failure <;> rfl
  violation := by
    rw [told_trail, told_passages_of_ne _ _ _ _ (by decide) (by decide) (by decide)]
    cases r.failure <;> rfl
  phase := by
    rw [told_trail, told_passages_of_ne _ _ _ _ (by decide) (by decide) (by decide),
      told_objection_of_ne _ (by decide) (by decide)]
    rfl
  checks := by
    rw [told_trail, told_passages_of_ne _ _ _ _ (by decide) (by decide) (by decide),
      told_objection_of_ne _ (by decide) (by decide)]
    rfl

/-! Nothing of it is left out of a log at the lowest threshold. -/

theorem reaches_passages (phase : Phase) (xs : List Scenario) :
    ∀ n ∈ p.passages phase xs, n.level.reaches .debug = true := by
  induction xs generalizing phase with
  | nil => exact fun n hn => absurd hn List.not_mem_nil
  | cons s rest ih =>
    simp only [Parameters.passages, List.forall_mem_cons]
    exact ⟨rfl, rfl, rfl, ih s.target⟩

theorem reaches_objection (failure : Option (Scenario × Violation)) :
    ∀ n ∈ objection failure, n.level.reaches .debug = true := by
  cases failure <;> exact List.all_eq_true.mp rfl

theorem reaches_runFinished (state checks : Value) :
    (Notice.runFinished state checks).level.reaches .debug = true := by
  unfold Notice.runFinished
  dsimp only
  split_ifs <;> rfl

theorem reaches_trail : ∀ n ∈ r.trail p, n.level.reaches .debug = true := by
  simp only [trail, List.forall_mem_append, List.forall_mem_cons]
  have hnone : ∀ n ∈ ([] : List Notice), n.level.reaches .debug = true := List.all_eq_true.mp rfl
  exact ⟨⟨⟨⟨rfl, rfl, hnone⟩, reaches_passages .init _⟩, reaches_objection _⟩, rfl, rfl,
    reaches_runFinished _ _, hnone⟩

end Report

theorem Conclusion.logged_debug {σ : Type} {c : Conclusion σ} {ns : List Notice}
    (h : c.notices = ns) (hns : ∀ n ∈ ns, n.level.reaches .debug = true) :
    c.logged .debug = ns := by
  unfold logged
  rw [h]
  exact List.filter_eq_self.mpr hns

/-! ## Runs -/

theorem Auditor.notices_of_not_acquired {σ : Type} (a : Auditor) {t : Transport σ} (runId : String)
    (now : Instant) {d : σ} {i : Interruption} (h : (t.acquire d).result = .error i) :
    (a.run t runId now d).notices = .runStarted (.text t.name) ::
      if i.isUnavailable then [.setupError (.text i.message)] else [] := by
  simp only [run, Session.acquire, h]
  rw [Conclusion.notices_setback, Session.notices_used]
  rfl

/-- **The trail of a run has a fixed form, and tells the report.** A run whose transport cannot be
acquired leaves the notice that it started, and that the setup failed if the device could not be
had. On any transport that can be acquired and always answers, with whatever it likes as long as the
integers in it can be written, there are two forms. Either the run stopped in the first scenario at
a description that is no use, and says so after it closed the session; or it ends in a report, its
trail is the one of the report (`Report.trail`), and what the trail tells in its fields is what the
report says. -/
theorem Auditor.run_leaves_trail {σ : Type} {I : σ → Prop} (a : Auditor) (t : Transport σ)
    (runId : String) (now : Instant) (d : σ) :
    let opened := t.acquire d
    let c := a.run t runId now d
    let name : Value := .text t.name
    (∀ i, opened.result = .error i → c.outcome = .error (.interrupted i) ∧
      c.logged .debug = .runStarted name ::
        if i.isUnavailable then [.setupError (.text i.message)] else []) ∧
    (opened.result = .ok () → I opened.device → t.AnswersBriefly I →
      (∃ fault, c.outcome = .error (.unusable fault) ∧
        c.logged .debug = [.runStarted name, .sessionOpened name,
          .scenarioStarted (.text Scenario.description.name), .sessionClosed name,
          .setupError (.text fault.message)]) ∨
      ∃ r, c.outcome = .ok r ∧ r.Accounted a.parameters ∧ r.transport = t.name ∧
        c.logged .debug = r.trail a.parameters ∧ r.ToldBy a.parameters (c.logged .debug)) := by
  intro opened c name
  constructor
  · intro i hi
    refine ⟨(a.run_of_not_acquired runId now hi).1, ?_⟩
    refine Conclusion.logged_debug (a.notices_of_not_acquired runId now hi) ?_
    split_ifs <;> exact List.all_eq_true.mp rfl
  · intro hacquire hd ht
    have hreports := a.run_reports runId now hacquire hd ht.toAnswers
    rcases a.run_account runId now hacquire with
      ⟨r, houtcome, haccounted, htransport, hnotices, -⟩ | ⟨fault, houtcome, -, hnotices⟩ |
      houtcome | ⟨i, houtcome⟩
    · have hlogged := Conclusion.logged_debug hnotices Report.reaches_trail
      refine .inr ⟨r, houtcome, haccounted, htransport, hlogged, ?_⟩
      rw [show c.logged .debug = _ from hlogged]
      exact haccounted.toldBy
    · exact .inl ⟨fault, houtcome, Conclusion.logged_debug hnotices (List.all_eq_true.mp rfl)⟩
    · rcases hreports with ⟨_, h⟩ | ⟨_, h⟩ <;> cases houtcome.symm.trans h
    · rcases hreports with ⟨_, h⟩ | ⟨_, h⟩ <;> cases houtcome.symm.trans h

/-- A device that takes a lock it has, and one that is not there. -/
theorem Auditor.run_leaves_trail_of_relocking :
    let a : Auditor := ⟨.default, .empty⟩
    let t := Rehearsal.Scripted.transport "scripted" none
    let d := Rehearsal.Scripted.relocking .default
    let gone := Rehearsal.Scripted.transport "scripted" (some ("/dev/nsm", "gone"))
    let c := a.run t "" (0 : Int) d
    (t.acquire d).result = .ok () ∧ (t.acquire d).device.IsBrief ∧
    t.AnswersBriefly Rehearsal.Scripted.IsBrief ∧
    (∃ r, c.outcome = .ok r ∧ r.scenariosPassed = [.description, .initialRegisters] ∧
      c.logged .debug = r.trail .default ∧ r.ToldBy .default (c.logged .debug)) ∧
    (gone.acquire d).result = .error (.unavailable "/dev/nsm" "gone") ∧
    (a.run gone "" (0 : Int) d).logged .debug = [.runStarted (.text "scripted"),
      .setupError (.text "Device file '/dev/nsm' failed to open: gone")] := by
  intro a t d gone c
  have hanswers := Rehearsal.Scripted.answersBriefly "scripted"
  have hgone : (gone.acquire d).result = .error (.unavailable "/dev/nsm" "gone") := rfl
  have hlogged := ((a.run_leaves_trail (I := Rehearsal.Scripted.IsBrief) gone "" (0 : Int) d).1 _
    hgone).2
  have hbrief : d.IsBrief := Rehearsal.Scripted.isBrief_relocking .default
  refine ⟨rfl, hbrief, hanswers, ?_, hgone, hlogged⟩
  obtain ⟨r, houtcome, hpassed, -⟩ := a.run_of_relock "" (0 : Int) rfl
    (Rehearsal.Scripted.replies_relocking "scripted" .default) (conforms_model .default)
  rcases (a.run_leaves_trail t "" (0 : Int) d).2 rfl hbrief hanswers
    with ⟨fault, houtcome', -⟩ | ⟨r', houtcome', -, -, hlogged, htold⟩
  · cases houtcome.symm.trans houtcome'
  · cases houtcome.symm.trans houtcome'
    exact ⟨r, houtcome, hpassed, hlogged, htold⟩

end EnclaveAudit
