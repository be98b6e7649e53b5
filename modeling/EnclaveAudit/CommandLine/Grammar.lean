import EnclaveAudit.Simulator.Settings

/-!
# `EnclaveAudit/CommandLine/Grammar.lean` — flags and commands

The program has flags of its own, then a command, and each command has flags of its own. A `Scope`
is one of these four places, and everything about it is a table: its flags, how they are spelled,
whether they take a value, which values there are, and which other flag a flag excludes.
-/

set_option autoImplicit false

namespace EnclaveAudit.CommandLine

/-- Something that can be said about how the program runs. -/
inductive Flag where
  | help
  | logLevel
  | logFormat
  | device
  | simulate
  | digest
  | fault
  | json
  deriving DecidableEq, Repr

namespace Flag

/-- How the flag is spelled. -/
def spellings : Flag → List String
  | .help => ["-h", "--help"]
  | .logLevel => ["--log-level"]
  | .logFormat => ["--log-format"]
  | .device => ["--device"]
  | .simulate => ["--simulate"]
  | .digest => ["--digest"]
  | .fault => ["--fault"]
  | .json => ["--json"]

/-- What the flag is called in messages. -/
def name (f : Flag) : String := String.intercalate "/" f.spellings

/-- Whether a value follows. -/
def takesValue : Flag → Bool
  | .help | .simulate | .json => false
  | .logLevel | .logFormat | .device | .digest | .fault => true

/-- The values that there are, if not every text is one. -/
def choices? : Flag → Option (List String)
  | .logFormat => some ["json", "text"]
  | .digest => some (Digest.all.map Digest.tag)
  | .fault => some (Fault.all.map Fault.name)
  | _ => none

/-- The flag that cannot be given too. -/
def excluded? : Flag → Option Flag
  | .device => some .simulate
  | .simulate => some .device
  | _ => none

end Flag

/-- A place where flags can stand: in front of the command, or after one. -/
inductive Scope where
  | program
  | run
  | describe
  | checks
  deriving DecidableEq, Repr

namespace Scope

/-- The commands. -/
def commands : List Scope := [.run, .describe, .checks]

/-- The name of a command; the program itself has none. -/
def name : Scope → String
  | .program => ""
  | .run => "run"
  | .describe => "describe"
  | .checks => "checks"

/-- The command of a name. -/
def ofName? (s : String) : Option Scope := commands.find? fun scope => scope.name == s

/-- The words that the program is called with up to here. -/
def invocation : Scope → String
  | .program => "nsmcheck"
  | scope => "nsmcheck " ++ scope.name

/-- The flags that can stand here. -/
def flags : Scope → List Flag
  | .program => [.help, .logLevel, .logFormat]
  | .run => [.help, .device, .simulate, .digest, .fault, .json]
  | .describe => [.help, .device, .simulate, .digest]
  | .checks => [.help]

/-- The spellings of these flags. -/
def spellings (scope : Scope) : List (String × Flag) :=
  scope.flags.flatMap fun f => f.spellings.map fun s => (s, f)

end Scope

end EnclaveAudit.CommandLine
