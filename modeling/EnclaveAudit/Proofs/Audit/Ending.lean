import EnclaveAudit.Proofs.Audit.Dialogue
import EnclaveAudit.Proofs.Check.Passing

/-!
# `EnclaveAudit/Proofs/Audit/Ending.lean` — how an audit ends

An audit ends in one of five ways: the transport cannot be acquired, it is interrupted, the
description cannot be modelled on, a check fails, or nothing stops it. Only the last two leave a
report. This file says which way it is in terms of what the device answered
(`whole_eq_ok_iff`, `whole_eq_error`) and what the conclusion of the run is then (`run_ends`).

Of the description checks only the first can fail: a contract that was derived from a description is
one that the description fulfils.
-/

set_option autoImplicit false

namespace EnclaveAudit

/-- The ledger of an audit that knows its device and has asked nothing else. -/
def Ledger.identified (d : Description) : Ledger := { description := some d, checks := 2 }

/-- The ledger at the very end. -/
def Ledger.finish (l : Ledger) : Ledger := { l with history := l.history ++ [.done] }

theorem Ledger.phase_finish (l : Ledger) : l.finish.phase = .done := by
  simp [Ledger.phase, Ledger.finish]

/-- The ledger of an audit that failed. -/
def Ledger.fail (l : Ledger) : Ledger := { l with history := l.history ++ [.failed] }

theorem Ledger.phase_fail (l : Ledger) : l.fail.phase = .failed := by
  simp [Ledger.phase, Ledger.fail]

/-- What a ledger reports. -/
def Ledger.report (transport runId : String) (now : Instant)
    (failure : Option (Scenario × Violation)) (l : Ledger) : Report where
  runId := runId
  transport := transport
  phase := l.phase
  history := l.history
  startedAt := now
  finishedAt := now
  checksPassed := l.checks
  scenariosPassed := l.passed
  description := l.description
  failure := failure

/-- The subject that an answer to the first request makes known. -/
def Subject.ReadFrom (s : Subject) (answer : Value) : Prop :=
  Operation.describe.read answer = .ok s.description ∧
    Contract.ofDescription s.description = .ok s.contract

/-- Requests and answers up to a place of the script. -/
def Parameters.exchanges (p : Parameters) (described : Value) (given : Slot → Value)
    (xs : List Slot) : List (Value × Value) :=
  (.text "DescribeNSM", described) :: xs.map fun x => (x.request p, given x)

namespace Course

variable {σ : Type} {t : Transport σ} {p : Parameters}

/-! ## The first request -/

theorem judge_counted_eq_ok_iff {α : Type} {scenario : Scenario} {o : Except Violation α} {a : α}
    {st st' : Standing σ} :
    judge scenario (Judgement.counted o) st = .ok a st' ↔
      o = .ok a ∧ st' = ⟨st.device, { st.ledger with checks := st.ledger.checks + 1 }⟩ := by
  cases o <;> simp [judge, Judgement.counted, eq_comm]

theorem judge_counted_eq_error_iff {α : Type} {scenario : Scenario} {o : Except Violation α}
    {h : Halt} {st st' : Standing σ} :
    judge scenario (Judgement.counted o) st = .error h st' ↔
      ∃ v, o = .error v ∧ h = .violated scenario v ∧ st' = st := by
  cases o with
  | ok a => simp [judge, Judgement.counted]
  | error v =>
    simp only [judge, Judgement.counted, EStateM.Result.error.injEq, Except.error.injEq]
    constructor
    · rintro ⟨rfl, rfl⟩
      exact ⟨v, rfl, rfl, rfl⟩
    · rintro ⟨_, rfl, rfl, rfl⟩
      exact ⟨rfl, rfl⟩

theorem identify_eq_ok_iff {s : Subject} {d : σ} {st' : Standing σ} :
    identify t ⟨d, .empty⟩ = .ok s st' ↔
      ∃ answer, t.Replies d [(.text "DescribeNSM", answer)] st'.device ∧ s.ReadFrom answer ∧
        st'.ledger = .identified s.description := by
  obtain ⟨d', l'⟩ := st'
  constructor
  · intro h
    obtain ⟨outcome, st₁, hask, h⟩ := bind_eq_ok_iff.mp h
    obtain ⟨answer, hanswer, rfl, rfl⟩ := ask_eq_ok_iff.mp hask
    obtain ⟨description, st₂, hjudge, h⟩ := bind_eq_ok_iff.mp h
    obtain ⟨hread, rfl⟩ := judge_counted_eq_ok_iff.mp hjudge
    obtain ⟨_, st₃, hmodify, h⟩ := bind_eq_ok_iff.mp h
    obtain rfl := modify_eq_ok_iff.mp hmodify
    cases hc : Contract.ofDescription description with
    | error fault =>
      rw [hc] at h
      cases h
    | ok contract =>
      rw [hc] at h
      obtain ⟨_, st₄, hrequire, h⟩ := bind_eq_ok_iff.mp h
      obtain ⟨-, rfl⟩ := judge_counted_eq_ok_iff.mp hrequire
      obtain ⟨rfl, hst⟩ := pure_eq_ok_iff.mp h
      cases hst
      exact ⟨answer, ⟨hanswer, rfl⟩, ⟨Check.succeed_eq_ok_iff.mp hread, hc⟩, rfl⟩
  · rintro ⟨answer, ⟨hanswer, rfl⟩, ⟨hread, hc⟩, rfl⟩
    have hrequire := Check.requireDescription_of_ofDescription hc
    refine bind_eq_ok_iff.mpr ⟨_, _, ask_eq_ok_iff.mpr ⟨answer, hanswer, rfl, rfl⟩, ?_⟩
    refine bind_eq_ok_iff.mpr ⟨s.description, _,
      judge_counted_eq_ok_iff.mpr ⟨Check.succeed_eq_ok_iff.mpr hread, rfl⟩, ?_⟩
    refine bind_eq_ok_iff.mpr ⟨(), _, modify_eq_ok_iff.mpr rfl, ?_⟩
    simp only [hc]
    exact bind_eq_ok_iff.mpr ⟨(), _, judge_counted_eq_ok_iff.mpr ⟨hrequire, rfl⟩, rfl⟩

/-- The first request fails on the transport, on the answer, or on a description that no bank can
be modelled on. -/
theorem identify_eq_error {h : Halt} {d : σ} {st' : Standing σ}
    (hs : identify t ⟨d, .empty⟩ = .error h st') :
    (∃ i, h = .interrupted i ∧ st'.device = (t.exchange (.text "DescribeNSM") d).device) ∨
      ∃ answer, t.Replies d [(.text "DescribeNSM", answer)] st'.device ∧
        ((∃ v, h = .violated .description v ∧
          Check.judgeDescribe (Operation.describe.read answer) = .error v ∧ st'.ledger = .empty) ∨
        ∃ fault, h = .unusable fault) := by
  rcases bind_eq_error_iff.mp hs with hask | ⟨outcome, st₁, hask, hs⟩
  · obtain ⟨i, -, rfl, rfl⟩ := ask_eq_error_iff.mp hask
    exact .inl ⟨i, rfl, rfl⟩
  obtain ⟨answer, hanswer, rfl, rfl⟩ := ask_eq_ok_iff.mp hask
  rcases bind_eq_error_iff.mp hs with hjudge | ⟨description, st₂, hjudge, hs⟩
  · obtain ⟨v, hv, rfl, rfl⟩ := judge_counted_eq_error_iff.mp hjudge
    exact .inr ⟨answer, ⟨hanswer, rfl⟩, .inl ⟨v, rfl, hv, rfl⟩⟩
  obtain ⟨-, rfl⟩ := judge_counted_eq_ok_iff.mp hjudge
  rcases bind_eq_error_iff.mp hs with hmodify | ⟨_, st₃, hmodify, hs⟩
  · exact absurd hmodify modify_ne_error
  obtain rfl := modify_eq_ok_iff.mp hmodify
  cases hc : Contract.ofDescription description with
  | error fault =>
    rw [hc] at hs
    cases hs
    exact .inr ⟨answer, ⟨hanswer, rfl⟩, .inr ⟨fault, rfl⟩⟩
  | ok contract =>
    rw [hc] at hs
    rcases bind_eq_error_iff.mp hs with hrequire | ⟨_, _, -, hs⟩
    · obtain ⟨v, hv, -, -⟩ := judge_counted_eq_error_iff.mp hrequire
      rw [Check.requireDescription_of_ofDescription hc] at hv
      cases hv
    · exact absurd hs pure_ne_error

/-! ## The whole course -/

/-- **Nothing stops an audit** exactly when the device gives answers that the examination
accepts. -/
theorem whole_eq_ok_iff {d : σ} {st' : Standing σ} {u : Unit} :
    whole t p ⟨d, .empty⟩ = .ok u st' ↔
      ∃ s described given l, t.Replies d (p.exchanges described given p.slots) st'.device ∧
        s.ReadFrom described ∧ examine p s given p.steps (.identified s.description) = .ok () l ∧
        st'.ledger = l.finish := by
  have hnodup : (asked p.steps).Nodup := (asked_steps p).symm ▸ nodup_slots p
  obtain ⟨d', l'⟩ := st'
  constructor
  · intro h
    obtain ⟨s, ⟨d₁, l₁⟩, hidentify, h⟩ := bind_eq_ok_iff.mp h
    obtain ⟨_, ⟨d₂, l₂⟩, hsteps, h⟩ := bind_eq_ok_iff.mp h
    cases modify_eq_ok_iff.mp h
    obtain ⟨described, ⟨hanswer, rfl⟩, hread, rfl⟩ := identify_eq_ok_iff.mp hidentify
    obtain ⟨given, hreplies, hexamine⟩ := (steps_eq_ok_iff hnodup).mp hsteps
    rw [asked_steps] at hreplies
    exact ⟨s, described, given, l₂, ⟨hanswer, hreplies⟩, hread, hexamine, rfl⟩
  · rintro ⟨s, described, given, l, ⟨hanswer, hreplies⟩, hread, hexamine, rfl⟩
    rw [← asked_steps] at hreplies
    refine bind_eq_ok_iff.mpr ⟨s, ⟨_, .identified s.description⟩,
      identify_eq_ok_iff.mpr ⟨described, ⟨hanswer, rfl⟩, hread, rfl⟩, ?_⟩
    refine bind_eq_ok_iff.mpr ⟨(), ⟨d', l⟩, (steps_eq_ok_iff hnodup).mpr
      ⟨given, hreplies, hexamine⟩, rfl⟩

/-- **Something does**: the first request, or the first step after it that does not pass. -/
theorem whole_eq_error {h : Halt} {d : σ} {st' : Standing σ}
    (hs : whole t p ⟨d, .empty⟩ = .error h st') :
    identify t ⟨d, .empty⟩ = .error h st' ∨
      ∃ s described given earlier x later d₁ l, p.steps = earlier ++ .ask x :: later ∧
        t.Replies d (p.exchanges described given (asked earlier)) d₁ ∧ s.ReadFrom described ∧
        examine p s given earlier (.identified s.description) = .ok () l ∧
        step t p s (.ask x) ⟨d₁, l⟩ = .error h st' := by
  rcases bind_eq_error_iff.mp hs with hidentify | ⟨s, ⟨d₀, l₀⟩, hidentify, hs⟩
  · exact .inl hidentify
  rcases bind_eq_error_iff.mp hs with hsteps | ⟨_, _, -, hs⟩
  · obtain ⟨earlier, x, later, ⟨d₁, l₁⟩, heq, hearlier, hx⟩ := steps_eq_error hsteps
    obtain ⟨described, ⟨hanswer, rfl⟩, hread, rfl⟩ := identify_eq_ok_iff.mp hidentify
    -- the steps before the one that fails ask at different places too
    have hnodup : (asked earlier).Nodup := by
      have hall := (asked_steps p).symm ▸ nodup_slots p
      rw [heq, asked_append] at hall
      exact (List.nodup_append.mp hall).1
    obtain ⟨given, hreplies, hexamine⟩ := (steps_eq_ok_iff hnodup).mp hearlier
    exact .inr ⟨s, described, given, earlier, x, later, d₁, l₁, heq, ⟨hanswer, hreplies⟩, hread,
      hexamine, hx⟩
  · exact absurd hs modify_ne_error

/-- A step that does not pass ends the course, if all before it passed. -/
theorem whole_of_step_error {h : Halt} {d : σ} {st st₁ st' : Standing σ} {s : Subject} {x : Slot}
    {earlier later : List Step} (hsteps : p.steps = earlier ++ .ask x :: later)
    (hidentify : identify t ⟨d, .empty⟩ = .ok s st) (hearlier : steps t p s earlier st = .ok () st₁)
    (hx : step t p s (.ask x) st₁ = .error h st') : whole t p ⟨d, .empty⟩ = .error h st' := by
  have hall : steps t p s p.steps st = .error h st' := by
    rw [hsteps, steps_append]
    exact bind_eq_error_iff.mpr (.inr ⟨(), st₁, hearlier, bind_eq_error_iff.mpr (.inl hx)⟩)
  exact bind_eq_error_iff.mpr (.inr ⟨s, st, hidentify, bind_eq_error_iff.mpr (.inl hall)⟩)

end Course

/-! ## The conclusion -/

namespace Course

variable {σ α : Type}

/-- Where a course ends. -/
def last : EStateM.Result Halt (Standing σ) α → Standing σ
  | .ok _ st | .error _ st => st

/-- What is concluded from the end of a course. -/
def conclude (transport runId : String) (now : Instant) :
    EStateM.Result Halt (Standing σ) α → Except Setback Report
  | .ok _ st => .ok (st.ledger.report transport runId now none)
  | .error (.violated s v) st =>
    if v.isWritable then .ok (st.ledger.fail.report transport runId now (some (s, v)))
    else .error .unwritable
  | .error (.unusable fault) _ => .error (.ofFault fault)
  | .error (.interrupted interruption) _ => .error (.interrupted interruption)

/-- A report is concluded from a course that nothing stopped or a violation did. -/
theorem conclude_eq_ok {α : Type} {name runId : String} {now : Instant}
    {ending : EStateM.Result Halt (Standing σ) α} {r : Report}
    (h : conclude name runId now ending = .ok r) :
    (∃ a st, ending = .ok a st ∧ r = st.ledger.report name runId now none) ∨
      ∃ s v st, ending = .error (.violated s v) st ∧ v.isWritable = true ∧
        r = st.ledger.fail.report name runId now (some (s, v)) := by
  cases ending with
  | ok a st =>
    cases h
    exact .inl ⟨a, st, rfl, rfl⟩
  | error halt st =>
    cases halt with
    | violated s v =>
      simp only [conclude] at h
      split_ifs at h with hv
      cases h
      exact .inr ⟨s, v, st, rfl, hv, rfl⟩
    | unusable fault => cases h
    | interrupted i => cases h

end Course

namespace Auditor

variable {σ : Type}

theorem run_of_not_acquired (a : Auditor) {t : Transport σ} (runId : String) (now : Instant)
    {device : σ} {i : Interruption} (h : (t.acquire device).result = .error i) :
    (a.run t runId now device).outcome = .error (.interrupted i) ∧
      (a.run t runId now device).device = (t.acquire device).device := by
  simp only [run, Session.acquire, h, Conclusion.setback, true_and]
  split_ifs <;> rfl

/-- **A run concludes** what its course ends in, and then releases the transport. -/
theorem run_concludes (a : Auditor) {t : Transport σ} (runId : String) (now : Instant) {device : σ}
    (h : (t.acquire device).result = .ok ()) :
    let c := a.run t runId now device
    let ending := Course.whole t a.parameters ⟨(t.acquire device).device, .empty⟩
    c.outcome = Course.conclude t.name runId now ending ∧
      c.device = (t.release (Course.last ending).device).2 := by
  have hclose : ∀ s : Session σ, s.closed = false →
      (s.close t).device = (t.release s.device).2 := by
    intro s hs
    simp only [Session.close, hs, Bool.false_eq_true, if_false]
    rfl
  simp only [run, Ledger.reset_eq, Session.acquire, h]
  -- from here the run is that of the conduct from an open desk, which the course mirrors
  generalize hdesk : Desk.mk _ Ledger.empty = desk
  have hopen : desk.session.closed = false := by rw [← hdesk]; rfl
  have hstanding : desk.standing = ⟨(t.acquire device).device, .empty⟩ := by rw [← hdesk]; rfl
  have hmirror := Audit.mirrors_conduct t a.parameters desk hopen
  rw [hstanding] at hmirror
  cases hconduct : Audit.conduct t a.parameters desk with
  | ok _ d =>
    rw [hconduct] at hmirror
    obtain ⟨hwhole, hd⟩ := hmirror
    simp only [hwhole]
    exact ⟨rfl, hclose _ hd⟩
  | error halt d =>
    rw [hconduct] at hmirror
    obtain ⟨hwhole, hd⟩ := hmirror
    simp only [hwhole]
    cases halt with
    | violated s v =>
      by_cases hv : v.isWritable = true
      · simp only [Course.conclude, if_pos hv]
        exact ⟨rfl, hclose _ hd⟩
      · simp only [Course.conclude, if_neg hv]
        exact ⟨rfl, hclose _ hd⟩
    | unusable fault =>
      simp only [Conclusion.setback]
      split_ifs <;> exact ⟨rfl, hclose _ hd⟩
    | interrupted i =>
      simp only [Conclusion.setback]
      split_ifs <;> exact ⟨rfl, hclose _ hd⟩

/-- There is a report if the course went through, or a violation ended it. -/
theorem run_eq_ok (a : Auditor) {t : Transport σ} {runId : String} {now : Instant} {device : σ}
    {r : Report} (h : (a.run t runId now device).outcome = .ok r) :
    let whole := Course.whole t a.parameters ⟨(t.acquire device).device, .empty⟩
    (t.acquire device).result = .ok () ∧
      ((∃ st, whole = .ok () st ∧ r = st.ledger.report t.name runId now none) ∨
        ∃ s v st, whole = .error (.violated s v) st ∧ v.isWritable = true ∧
          r = st.ledger.fail.report t.name runId now (some (s, v))) := by
  intro whole
  cases hacquire : (t.acquire device).result with
  | error i =>
    rw [(a.run_of_not_acquired runId now hacquire).1] at h
    cases h
  | ok u =>
    rw [(a.run_concludes runId now hacquire).1] at h
    rcases Course.conclude_eq_ok h with ⟨_, hended⟩ | hended
    · exact ⟨rfl, .inl hended⟩
    · exact ⟨rfl, .inr hended⟩

/-- **How a run concludes** is decided by how its course ends. -/
theorem run_ends (a : Auditor) {t : Transport σ} (runId : String) (now : Instant) {device : σ}
    (h : (t.acquire device).result = .ok ()) :
    let c := a.run t runId now device
    match Course.whole t a.parameters ⟨(t.acquire device).device, .empty⟩ with
    | .ok _ st => c.device = (t.release st.device).2 ∧ ∃ r, c.outcome = .ok r ∧
        r.phase = .done ∧ r.failure = none ∧ r.checksPassed = st.ledger.checks
    | .error (.violated s v) st => c.device = (t.release st.device).2 ∧
        if v.isWritable then ∃ r, c.outcome = .ok r ∧
          r.phase = .failed ∧ r.failure = some (s, v) ∧ r.checksPassed = st.ledger.checks
        else c.outcome = .error .unwritable
    | .error _ st => c.device = (t.release st.device).2 ∧ ∃ cause, c.outcome = .error cause := by
  intro c
  obtain ⟨houtcome, hdevice⟩ := a.run_concludes runId now h
  cases hwhole : Course.whole t a.parameters ⟨(t.acquire device).device, .empty⟩ with
  | ok _ st =>
    rw [hwhole] at houtcome hdevice
    obtain ⟨_, _, _, l, -, -, -, hl⟩ := Course.whole_eq_ok_iff.mp hwhole
    have hphase : st.ledger.phase = .done := by rw [hl, l.phase_finish]
    exact ⟨hdevice, _, houtcome, hphase, rfl, rfl⟩
  | error halt st =>
    rw [hwhole] at houtcome hdevice
    cases halt with
    | violated s v =>
      have hphase : st.ledger.fail.phase = .failed := st.ledger.phase_fail
      by_cases hv : v.isWritable = true
      · simp only [Course.conclude, if_pos hv] at houtcome ⊢
        exact ⟨hdevice, _, houtcome, hphase, rfl, rfl⟩
      · simp only [Course.conclude, if_neg hv] at houtcome ⊢
        exact ⟨hdevice, houtcome⟩
    | unusable fault => exact ⟨hdevice, _, houtcome⟩
    | interrupted i => exact ⟨hdevice, _, houtcome⟩

/-- **A run is done** exactly when nothing stops its course. -/
theorem exists_done_iff (a : Auditor) {t : Transport σ} (runId : String) (now : Instant)
    {device : σ} (h : (t.acquire device).result = .ok ()) :
    (∃ r, (a.run t runId now device).outcome = .ok r ∧ r.phase = .done) ↔
      ∃ st, Course.whole t a.parameters ⟨(t.acquire device).device, .empty⟩ = .ok () st := by
  have hends := a.run_ends runId now h
  cases hwhole : Course.whole t a.parameters ⟨(t.acquire device).device, .empty⟩ with
  | ok _ st =>
    rw [hwhole] at hends
    obtain ⟨-, r, houtcome, hphase, -⟩ := hends
    exact iff_of_true ⟨r, houtcome, hphase⟩ ⟨st, rfl⟩
  | error halt st =>
    rw [hwhole] at hends
    refine iff_of_false ?_ (fun ⟨_, h⟩ => nomatch h)
    rintro ⟨r, houtcome, hphase⟩
    cases halt with
    | violated s v =>
      -- a report of a violation says that the run failed
      obtain ⟨-, hends⟩ := hends
      split_ifs at hends
      · obtain ⟨r', houtcome', hphase', -⟩ := hends
        cases houtcome.symm.trans houtcome'
        cases hphase.symm.trans hphase'
      · cases houtcome.symm.trans hends
    | unusable fault =>
      obtain ⟨-, _, houtcome'⟩ := hends
      cases houtcome.symm.trans houtcome'
    | interrupted i =>
      obtain ⟨-, _, houtcome'⟩ := hends
      cases houtcome.symm.trans houtcome'

end Auditor

end EnclaveAudit
