import EnclaveAudit.Journal.Level
import EnclaveAudit.Suite.Reading

/-!
# `EnclaveAudit/Suite/Environment.lean` — what the environment sets

Six parameters and five settings can be given by environment variables. A variable of a parameter
that is set to nothing counts as not set; what the caller gives himself goes before what the
environment gives. Variables other than these are not looked at.
-/

set_option autoImplicit false

namespace EnclaveAudit

/-- The variables that are set. -/
abbrev Environment := List (String × String)

namespace Environment

/-- The variable of each parameter that has one. -/
def parameterVariables : List (String × String) := [
  ("extend_rounds", "NSMCHECK_EXTEND_ROUNDS"),
  ("read_rounds", "NSMCHECK_READ_ROUNDS"),
  ("relock_attempts", "NSMCHECK_RELOCK_ATTEMPTS"),
  ("random_samples", "NSMCHECK_RANDOM_SAMPLES"),
  ("random_length", "NSMCHECK_RANDOM_LENGTH"),
  ("attestation_data_len", "NSMCHECK_ATTESTATION_DATA_LEN")]

/-- The variables that are looked at. -/
def variableNames : List String :=
  parameterVariables.map Prod.snd ++
    ["NSMCHECK_DEVICE_PATH", "NSMCHECK_LOG_LEVEL", "NSMCHECK_LOG_FORMAT", "NSMCHECK_LOG_FILE",
      "NSMCHECK_DEBUG"]

/-- The parameters that the environment gives. -/
def given (e : Environment) : List (String × Value) :=
  parameterVariables.filterMap fun (name, key) =>
    match e.lookup key with
    | none | some "" => none
    | some s => some (name, .text s)

/-- The values of two sources, where those of the second go before those of the first. -/
def overridden (given overrides : List (String × Value)) : List (String × Value) :=
  (given.filter fun field => (overrides.lookup field.1).isNone) ++ overrides

/-- The parameters under an environment. What the caller gives as null is not given. -/
def parameters (e : Environment) (overrides : List (String × Value) := []) :
    Except (List Problem) Parameters :=
  Parameters.read (overridden e.given (overrides.filter fun field => !field.2.isNull))

/-- A text in small letters. No letter beyond the first 128 characters has a letter of the words
that settings are compared with for its small form, so only those characters are touched. -/
def lowercase (s : String) : String := String.ofList (s.toList.map Char.toLower)

end Environment

/-- How the program runs when the command line does not say otherwise. -/
structure Settings where
  devicePath : String := "/dev/nsm"
  logLevel : String := "INFO"
  logFormat : String := "json"
  logFile : Option String := none
  debug : Bool := false
  deriving DecidableEq, Repr

namespace Settings

/-- The settings under an environment. -/
def ofEnvironment (e : Environment) : Settings where
  devicePath := (e.lookup "NSMCHECK_DEVICE_PATH").getD "/dev/nsm"
  logLevel := (e.lookup "NSMCHECK_LOG_LEVEL").getD "INFO"
  logFormat := (e.lookup "NSMCHECK_LOG_FORMAT").getD "json"
  logFile := match e.lookup "NSMCHECK_LOG_FILE" with
    | none | some "" => none
    | some path => some path
  debug := ["1", "true", "yes"].contains
    (Environment.lowercase ((e.lookup "NSMCHECK_DEBUG").getD ""))

/-- Whether log lines are documents. -/
def jsonLogging (s : Settings) : Bool := Environment.lowercase s.logFormat != "text"

end Settings

end EnclaveAudit
