import EnclaveAudit.Audit.Ledger
import EnclaveAudit.Clock

/-!
# `EnclaveAudit/Audit/Report.lean` — what an audit found

A report says how far an audit came, how many checks passed, and what the first violation was, if
there was one. It is made of texts, truth values, numbers, arrays and maps with textual keys, so that
it can be written as a document, unless the device described itself with numbers that are too long.
-/

set_option autoImplicit false

namespace EnclaveAudit

/-- The outcome of an audit. -/
structure Report where
  runId : String
  transport : String
  phase : Phase
  history : List Phase
  startedAt : Instant
  finishedAt : Instant
  checksPassed : Nat
  scenariosPassed : List Scenario
  description : Option Description
  /-- the scenario that failed, and its violation -/
  failure : Option (Scenario × Violation)

namespace Report

/-- Whether the device did all that it must. -/
def passed (r : Report) : Bool := r.phase = .done

/-- Whether the report can be written as a document. -/
def isWritable (r : Report) : Bool := (r.description.map Description.isWritable).getD true

/-- The report as a document. -/
def document (r : Report) : Value :=
  .record ([
    ("run_id", .text r.runId),
    ("transport", .text r.transport),
    ("state", .text r.phase.name),
    ("passed", .bool r.passed),
    ("history", .array (r.history.map fun phase => .text phase.name)),
    ("started_at", .text r.startedAt.iso),
    ("finished_at", .text r.finishedAt.iso),
    ("checks_passed", .int r.checksPassed),
    ("scenarios_passed", .array (r.scenariosPassed.map fun s => .text s.name))] ++
    (match r.description with
      | some d => [("description", d.document)]
      | none => []) ++
    (match r.failure with
      | some (s, v) => [("failed_scenario", .text s.name), ("violation", v.document)]
      | none => []))

end Report

end EnclaveAudit
