import EnclaveAudit.Journal.Level
import EnclaveAudit.Wire.Literal

/-!
# `EnclaveAudit/Journal/Notice.lean` — what an audit leaves in the log

Every step of an audit leaves a notice: where it started, which scenario passed, what the first
violation was, how it ended. A notice has a kind, fields that a log collector can search, and a
sentence for people. There is one function per kind, and nothing else makes notices, so the trail of
an audit can be read back. What a notice tells is a value and need not be a text: others than audits
leave notices too, and a log takes what it is given.
-/

set_option autoImplicit false

namespace EnclaveAudit

/-- One step of an audit, for the log. -/
structure Notice where
  level : Level
  kind : String
  fields : List (String × Value)
  message : String
  deriving BEq, Repr, Inhabited

namespace Notice

/-- The log line, for people. -/
def text (n : Notice) : String := n.kind ++ ": " ++ n.message

/-- The fields of the log line, for collectors. -/
def extra (n : Notice) (runId : Value) : List (String × Value) :=
  [("event_type", .text n.kind), ("run_id", runId)] ++ n.fields ++ [("message", .text n.message)]

/-- An audit starts on a transport. -/
def runStarted (transport : Value) : Notice :=
  ⟨.info, "RUN_STARTED", [("transport", transport)],
    "Conformance run started on " ++ transport.inWords⟩

/-- A session was opened. -/
def sessionOpened (transport : Value) : Notice :=
  ⟨.debug, "SESSION_OPENED", [("transport", transport)],
    "Device session opened on " ++ transport.inWords⟩

/-- A session was closed. -/
def sessionClosed (transport : Value) : Notice :=
  ⟨.debug, "SESSION_CLOSED", [("transport", transport)],
    "Device session closed on " ++ transport.inWords⟩

/-- An audit went from one state to the next. -/
def stateTransition (previous current : Value) : Notice :=
  ⟨.debug, "STATE_TRANSITION", [("previous", previous), ("current", current)],
    previous.inWords ++ " -> " ++ current.inWords⟩

/-- A scenario starts. -/
def scenarioStarted (scenario : Value) : Notice :=
  ⟨.info, "SCENARIO_STARTED", [("scenario", scenario)],
    "Scenario " ++ scenario.inWords ++ " started"⟩

/-- A scenario passed with so many checks. -/
def scenarioPassed (scenario checks : Value) : Notice :=
  ⟨.info, "SCENARIO_PASSED", [("scenario", scenario), ("checks", checks)],
    "Scenario " ++ scenario.inWords ++ " passed (" ++ checks.inWords ++ " checks)"⟩

/-- A check failed; `violation` is the violation as part of a report. -/
def violation (scenario violation : Value) : Notice :=
  ⟨.error, "CONFORMANCE_VIOLATION", [("scenario", scenario), ("violation", violation)],
    "Check " ++ ((violation.field? "check").getD .null).inWords ++ " failed in " ++
      scenario.inWords⟩

/-- The audit could not be set up. -/
def setupError (error : Value) : Notice :=
  ⟨.error, "SETUP_ERROR", [("error", error)], "Setup failed: " ++ error.inWords⟩

/-- The audit ended in a state, after so many checks. Only one state is good news. -/
def runFinished (state checks : Value) : Notice :=
  ⟨if state.text? = some "DONE" then .info else .error, "RUN_FINISHED",
    [("state", state), ("checks", checks)],
    "Conformance run finished in state " ++ state.inWords⟩

end Notice

end EnclaveAudit
