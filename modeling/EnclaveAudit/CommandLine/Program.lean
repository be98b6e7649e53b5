import EnclaveAudit.Audit.Run
import EnclaveAudit.CommandLine.Reading
import EnclaveAudit.CommandLine.Usage
import EnclaveAudit.DeviceFile.Transport
import EnclaveAudit.Journal.Logbook
import EnclaveAudit.Simulator.Transport
import EnclaveAudit.Suite.Environment

/-!
# `EnclaveAudit/CommandLine/Program.lean` — the program

The program is a function of its arguments and of the machine it runs on: the environment, the
surroundings of a simulated device, the operating system under a device file, and names for runs.
What it prints and its exit code are its result; the documents it was asked for go to the output,
and everything else, log lines first, to the errors.

Three exit codes tell how it ended: the device conforms, the device deviates, or there was no device
to judge. What fits none of them escapes (`Escape`) instead of being printed.
-/

set_option autoImplicit false

namespace EnclaveAudit.CommandLine

/-- The machine that the program runs on. -/
structure Machine (φ : Type) where
  environment : Environment
  surroundings : Surroundings
  system : DeviceFile.System φ
  /-- the signing seed of a simulated device -/
  seed : Bytes
  /-- a name for each run, by its number -/
  runName : Nat → String

/-- What is no outcome of the program, but the end of it. -/
inductive Escape where
  | noLevel (u : Level.Unknown)
  | unwritable (key : BadKey)
  | impossible (cause : NoChoice)
  | interrupted (i : Interruption)
  /-- a number that is too long to be written -/
  | tooLong

/-- What is said about it. -/
def Escape.message : Escape → String
  | .noLevel u => u.message
  | .unwritable key => key.message
  | .impossible cause => cause.message
  | .interrupted i => i.message
  | .tooLong => Value.tooLong

/-- The exit code when all is well. -/
def exitConformant : Nat := 0
/-- The exit code when a device deviates from its contract. -/
def exitViolation : Nat := 1
/-- The exit code when there is no device to judge, or no way to judge it. -/
def exitSetup : Nat := 2

/-- What the program printed, and its exit code. -/
structure Printed where
  exit : Nat
  output : String := ""
  errors : String := ""
  deriving DecidableEq, Repr

namespace Printed

/-- An end for lack of a device, with the reason. -/
def setup (reason : String) : Printed :=
  { exit := exitSetup, errors := "✗ Setup error: " ++ reason ++ "\n" }

/-- What is printed when the arguments make no invocation. -/
def ofStop : Stop → Printed
  | .help scope => { exit := exitConformant, output := scope.help }
  | .misuse scope cause =>
    { exit := exitSetup
      errors := scope.usage ++ scope.invocation ++ ": error: " ++ cause.message ++ "\n" }

end Printed

/-! ## The commands -/

/-- The list of checks, each with its sentence, in two columns. -/
def checksText : String :=
  let width := Check.all.foldl (fun w check => max w check.name.length) 0
  String.join (Check.all.map fun check =>
    check.name ++ blanks (width - check.name.length) ++ "  " ++ check.description ++ "\n")

/-- A violation, for people. -/
def violationText (state : Phase) (scenario : Scenario) (v : Violation) : String :=
  "✗ " ++ state.name ++ " in scenario " ++ scenario.name ++ "\n" ++
  "  - " ++ v.check.name ++ ": " ++ v.check.description ++ "\n" ++
  (match v.register with
    | some index => "    PCR:      " ++ toString index ++ "\n"
    | none => "") ++
  "    expected: " ++ (Violation.render v.expected).inWords ++ "\n" ++
  "    observed: " ++ (Violation.render v.observed).inWords ++ "\n"

/-- A report, for people. -/
def verdictText (r : Report) : String :=
  if r.passed then "✓ Conformant (" ++ toString r.checksPassed ++ " checks passed)\n"
  else match r.failure with
    | some (scenario, v) => violationText r.phase scenario v
    | none => ""

/-- A document that was asked for, on lines of its own. -/
def documentText (v : Value) : Except Escape String :=
  match v.json (.indented 2) with
  | .ok text => .ok (text ++ "\n")
  | .error key => .error (.unwritable key)

/-- What is printed about a report. -/
def printReport (json : Bool) (r : Report) : Except Escape Printed := do
  let output ←
    if !json then pure ""
    else if r.isWritable then documentText r.document
    else throw .tooLong
  pure { exit := if r.passed then exitConformant else exitViolation, output, errors := verdictText r }

section

variable {φ σ : Type} (m : Machine φ)

/-- Audits the device on a transport. -/
def auditOn (t : Transport σ) (device : σ) (p : Parameters) (json : Bool) (log : Logbook) :
    Except Escape Printed × Logbook × σ :=
  let runId := m.runName (log.made + 1)
  let log := log.ofRun m.runName none
  let now := m.surroundings.now
  let c := ({ parameters := p } : Auditor).run t runId now device
  let printed := match c.outcome with
    | .ok report => printReport json report
    | .error (.unusable fault) => .ok (.setup fault.message)
    | .error (.interrupted i) =>
      if i.isUnavailable then .ok (.setup i.message) else .error (.interrupted i)
    | .error .unwritable => .error .tooLong
  (printed, log.enterAll now c.journal, c.device)

/-- Has the device on a transport describe itself. -/
def describeOn (t : Transport σ) (device : σ) (log : Logbook) :
    Except Escape Printed × Logbook × σ :=
  let interrupted (i : Interruption) : Except Escape Printed :=
    if i.isUnavailable then .ok (.setup i.message) else .error (.interrupted i)
  let (printed, s) := match ({ device } : Session σ).acquire t with
    | (.error i, s) => (interrupted i, s)
    | (.ok (), s) =>
      let (answer, s) := s.perform t .describe
      let printed := match answer with
        | .error i => interrupted i
        | .ok (.error status) =>
          .ok { exit := exitViolation
                errors := "✗ " ++ Refusal.message ⟨status, Operation.describe.name⟩ ++ "\n" }
        | .ok (.ok d) =>
          if d.isWritable then
            (documentText d.document).map fun output => { exit := exitConformant, output }
          else .error .tooLong
      (printed, s.close t)
  (printed, log.enterAll m.surroundings.now s.journal, s.device)

/-- Something that is done with the device on any transport. -/
abbrev DeviceTask : Type 1 :=
  (σ : Type) → Transport σ → σ → Logbook → Except Escape Printed × Logbook × σ

/-- Does something with the device that was asked for. -/
def Source.withDevice (source : Source) (settings : Settings) (system : φ) (log : Logbook)
    (task : DeviceTask) : Except Escape Printed × Logbook × φ :=
  match source with
  | .simulated digest faults =>
    let made : Simulator.Settings := { digest, faults, seed := m.seed }
    let (printed, log, _) := task _ (Simulator.transport m.surroundings made)
      (Simulator.State.fresh m.surroundings made) log
    (printed, log, system)
  | .impossible cause => (.error (.impossible cause), log, system)
  | .file path =>
    let (printed, log, device) := task _
      (DeviceFile.transport m.system (path.getD settings.devicePath)) { system } log
    (printed, log, device.system)

/-- Carries out a command. Parameters that are refused are refused before the device is touched. -/
def Command.perform (c : Command) (settings : Settings) (system : φ) (log : Logbook) :
    Except Escape Printed × Logbook × φ :=
  match c with
  | .checks => (.ok { exit := exitConformant, output := checksText }, log, system)
  | .describe source =>
    source.withDevice m settings system log fun _ t device log => describeOn m t device log
  | .run source json =>
    match m.environment.parameters with
    | .error problems =>
      (.ok { exit := exitSetup
             errors := "✗ Invalid suite parameters:\n" ++ Problem.summary problems ++ "\n" },
        log, system)
    | .ok p =>
      source.withDevice m settings system log fun _ t device log => auditOn m t device p json log

end

/-! ## The program -/

/-- How the log is to be kept: as the invocation says, and where it says nothing as the settings do.
With the settings' word for it the log keeps everything. -/
def Invocation.logConfiguration (i : Invocation) (s : Settings) : LogConfiguration where
  level := if s.debug then "DEBUG" else i.logLevel.getD s.logLevel
  style := i.logStyle.getD (if s.jsonLogging then .document else .text)
  inFile := s.logFile.isSome

/-- The program: what it prints, its log, and the operating system after it. -/
def program {φ : Type} (m : Machine φ) (arguments : List String) (system : φ) :
    Except Escape Printed × Logbook × φ :=
  match read arguments with
  | .error stop => (.ok (.ofStop stop), {}, system)
  | .ok invocation =>
    let settings := Settings.ofEnvironment m.environment
    match Logbook.configured {} (invocation.logConfiguration settings) with
    | .error u => (.error (.noLevel u), {}, system)
    | .ok log =>
      let (printed, log, system) := invocation.command.perform m settings system log
      (printed.map fun p => { p with errors := log.text ++ p.errors }, log, system)

end EnclaveAudit.CommandLine
