import EnclaveAudit.Audit.Plan
import EnclaveAudit.Audit.Report
import EnclaveAudit.Device.Session

/-!
# `EnclaveAudit/Audit/Run.lean` — carrying an audit out

An audit acquires the transport, has the device describe itself, follows the plan, stops at the first
violation, and releases the transport, whatever happened. Two things end it without a report: a
description that no bank can be modelled on, and a transport that is interrupted. Neither is a
violation.

`conduct` is everything between acquiring and releasing; `Auditor.run` puts the two around it and
draws the conclusion. An auditor can run again, with the ledger of the last run in hand: a run resets
it before it begins.
-/

set_option autoImplicit false

namespace EnclaveAudit

/-- What ends an audit before its plan does. -/
inductive Halt where
  | violated (scenario : Scenario) (violation : Violation)
  | unusable (fault : DescriptionFault)
  | interrupted (interruption : Interruption)

/-- An audit that is under way. -/
structure Desk (σ : Type) where
  session : Session σ
  ledger : Ledger := .empty

namespace Desk

variable {σ : Type}

/-- The audit with one more notice left. -/
def note (n : Notice) (d : Desk σ) : Desk σ := { d with session := d.session.note (.notice n) }

/-- The audit in another state, with the notice of it. -/
def transition (phase : Phase) (d : Desk σ) : Desk σ :=
  { d.note (.stateTransition (.text d.ledger.phase.name) (.text phase.name)) with
    ledger := { d.ledger with history := d.ledger.history ++ [phase] } }

/-- The audit with one more scenario passed, which took so many checks. -/
def pass (s : Scenario) (checks : Nat) (d : Desk σ) : Desk σ :=
  { d.note (.scenarioPassed (.text s.name) (.int checks)) with
    ledger := { d.ledger with passed := d.ledger.passed ++ [s] } }.transition s.target

/-- The audit failed by a violation. -/
def fail (s : Scenario) (violation : Violation) (d : Desk σ) : Desk σ :=
  (d.note (.violation (.text s.name) violation.document)).transition .failed

end Desk

/-- Something that is done while an audit is under way. -/
abbrev Audit (σ α : Type) := EStateM Halt (Desk σ) α

namespace Audit

variable {σ α : Type}

/-- Has the device perform an operation. -/
def ask (t : Transport σ) (operation : Operation) :
    Audit σ (Except Status operation.Result) := fun d =>
  match d.session.perform t operation with
  | (.ok outcome, session) => .ok outcome { d with session }
  | (.error interruption, session) => .error (.interrupted interruption) { d with session }

/-- Judges; a violation is one of this scenario. -/
def judge (scenario : Scenario) (j : Judgement α) : Audit σ α := fun d =>
  match j d.ledger with
  | .ok a ledger => .ok a { d with ledger }
  | .error violation ledger => .error (.violated scenario violation) { d with ledger }

/-! ## Following the plan -/

section

variable (t : Transport σ) (p : Parameters) (scenario : Scenario) (s : Subject)

/-- One step. -/
def probe (x : Probe) : Audit σ Unit := do
  let outcome ← ask t x.operation
  judge scenario (x.judge p s.contract outcome)

/-- Steps, one after the other. -/
def probes : List Probe → Audit σ Unit
  | [] => pure ()
  | x :: xs => do
    probe t p scenario s x
    probes xs

/-- Steps, so many times over. -/
def rounds (xs : List Probe) : Nat → Audit σ Unit
  | 0 => pure ()
  | n + 1 => do
    probes t p scenario s xs
    rounds xs n

/-- Stretches, one after the other. -/
def stretches : List Stretch → Audit σ Unit
  | [] => pure ()
  | stretch :: rest => do
    rounds t p scenario s stretch.probes stretch.rounds
    stretches rest

/-- The plan of a scenario, and what is judged at its end. -/
def follow : Audit σ Unit := do
  stretches t p scenario s (scenario.plan p)
  judge scenario (scenario.closing s)

end

/-- Has the device describe itself, and derives the contract. -/
def identify (t : Transport σ) : Audit σ Subject := do
  let outcome ← ask t .describe
  let description ← judge .description (Judgement.counted (Check.judgeDescribe outcome))
  modify fun d => { d with ledger := { d.ledger with description := some description } }
  match Contract.ofDescription description with
  | .error fault => throw (.unusable fault)
  | .ok contract =>
    judge .description (Judgement.counted (Check.requireDescription description contract))
    pure ⟨description, contract⟩

/-- A scenario, with the notices and the transition that belong to it. -/
def scenario (s : Scenario) (body : Audit σ α) : Audit σ α := do
  modify (Desk.note (.scenarioStarted (.text s.name)))
  let before := (← get).ledger.checks
  let result ← body
  let after := (← get).ledger.checks
  modify (Desk.pass s (after - before))
  pure result

/-- The scenarios after the first, one after the other. -/
def scenarios (t : Transport σ) (p : Parameters) (subject : Subject) :
    List Scenario → Audit σ Unit
  | [] => pure ()
  | s :: rest => do
    scenario s (follow t p s subject)
    scenarios t p subject rest

/-- A whole audit on an open session. -/
def conduct (t : Transport σ) (p : Parameters) : Audit σ Unit := do
  let subject ← scenario .description do
    let subject ← identify t
    follow t p .description subject
    pure subject
  scenarios t p subject Scenario.all.tail
  modify (Desk.transition .done)

end Audit

/-! ## Conclusions -/

/-- Why there is no report. -/
inductive Setback where
  | unusable (fault : DescriptionFault)
  | interrupted (interruption : Interruption)
  /-- what is wrong with the device has a number in it that is too long -/
  | unwritable

namespace Setback

/-- What is said about it. -/
def message : Setback → String
  | .unusable fault => fault.message
  | .interrupted interruption => interruption.message
  | .unwritable => Value.tooLong

/-- Whether it is a matter of the setup: the device cannot be had, or not be modelled. -/
def isSetup : Setback → Bool
  | .unusable _ => true
  | .interrupted interruption => interruption.isUnavailable
  | .unwritable => false

/-- The setback that a fault in a description is. -/
def ofFault (fault : DescriptionFault) : Setback :=
  if fault.observed.isWritable then .unusable fault else .unwritable

end Setback

/-- How an audit ended: with a report or without, and what it left behind. -/
structure Conclusion (σ : Type) where
  outcome : Except Setback Report
  ledger : Ledger
  device : σ
  journal : Array Entry

namespace Conclusion

variable {σ : Type}

/-- The notices of an audit. -/
def notices (c : Conclusion σ) : List Notice := c.journal.toList.filterMap Entry.notice?

/-- An audit that ended without a report. -/
def setback (cause : Setback) (ledger : Ledger) (s : Session σ) : Conclusion σ :=
  let s := if cause.isSetup then s.note (.notice (.setupError (.text cause.message))) else s
  ⟨.error cause, ledger, s.device, s.journal⟩

/-- An audit that ended with a report. -/
def report (t : Transport σ) (runId : String) (now : Instant)
    (failure : Option (Scenario × Violation)) (ledger : Ledger) (s : Session σ) : Conclusion σ :=
  let s := s.note (.notice (.runFinished (.text ledger.phase.name) (.int ledger.checks)))
  let report : Report := {
    runId, transport := t.name, phase := ledger.phase, history := ledger.history
    startedAt := now, finishedAt := now, checksPassed := ledger.checks
    scenariosPassed := ledger.passed, description := ledger.description, failure }
  ⟨.ok report, ledger, s.device, s.journal⟩

end Conclusion

/-- One who carries out audits with the same parameters, and the ledger of the last one. -/
structure Auditor where
  parameters : Parameters
  ledger : Ledger := .empty

namespace Auditor

variable {σ : Type}

/-- Audits a device once. One instant stands for the whole audit, so a report has it as the time of
the start and of the end; nothing else in an audit depends on the time. -/
def run (a : Auditor) (t : Transport σ) (runId : String) (now : Instant) (device : σ) :
    Conclusion σ :=
  let ledger := a.ledger.reset
  let start : Session σ := { device, journal := #[.notice (.runStarted (.text t.name))] }
  match start.acquire t with
  | (.error interruption, s) => .setback (.interrupted interruption) ledger s
  | (.ok (), s) =>
    match Audit.conduct t a.parameters { session := s, ledger } with
    | .ok () d => .report t runId now none d.ledger (d.session.close t)
    | .error (.violated scenario violation) d =>
      if violation.isWritable then
        let d := d.fail scenario violation
        .report t runId now (some (scenario, violation)) d.ledger (d.session.close t)
      else .setback .unwritable d.ledger (d.session.close t)
    | .error (.unusable fault) d => .setback (.ofFault fault) d.ledger (d.session.close t)
    | .error (.interrupted interruption) d =>
      .setback (.interrupted interruption) d.ledger (d.session.close t)

/-- Audits a device once and remembers the ledger. -/
def again (a : Auditor) (t : Transport σ) (runId : String) (now : Instant) (device : σ) :
    Conclusion σ × Auditor :=
  let conclusion := a.run t runId now device
  (conclusion, { a with ledger := conclusion.ledger })

end Auditor

end EnclaveAudit
