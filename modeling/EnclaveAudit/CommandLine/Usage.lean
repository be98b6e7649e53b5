import EnclaveAudit.CommandLine.Grammar

/-!
# `EnclaveAudit/CommandLine/Usage.lean` — what the program says about itself

The usage line is broken where a terminal of eighty columns asks for it, and its later lines are
indented to where its first flag stands. A help text is the usage and a table: what can be written
on the left, what it means on the right, and on a line of its own where the left side is too wide.
-/

set_option autoImplicit false

namespace EnclaveAudit.CommandLine

/-- So many blanks. -/
def blanks (count : Nat) : String := String.ofList (List.replicate count ' ')

/-- The choices that there are, between braces. -/
def braced (choices : List String) : String :=
  "\x7b" ++ String.intercalate "," choices ++ "\x7d"

/-- How a flag and its value are written. -/
def Flag.form : Flag → String
  | .help => "-h"
  | .logLevel => "--log-level LOG_LEVEL"
  | .device => "--device DEVICE"
  | f => f.name ++ match f.choices? with
    | some choices => " " ++ braced choices
    | none => ""

/-- How a command is written. -/
def commandForm : String := braced (Scope.commands.map Scope.name)

/-! ## Usage -/

namespace Scope

/-- The parts of the usage line, by lines. -/
def usageParts : Scope → List (List String)
  | .program =>
    [["[" ++ Flag.help.form ++ "]", "[" ++ Flag.logLevel.form ++ "]",
      "[" ++ Flag.logFormat.form ++ "]"], [commandForm, "..."]]
  | .run => deviceParts ++ [["[" ++ Flag.fault.form ++ "]"], ["[" ++ Flag.json.form ++ "]"]]
  | .describe => deviceParts
  | .checks => [["[" ++ Flag.help.form ++ "]"]]
where
  /-- What two commands have in common: where the device is. -/
  deviceParts : List (List String) :=
    [["[" ++ Flag.help.form ++ "]", "[" ++ Flag.device.form, "|", Flag.simulate.form ++ "]"],
      ["[" ++ Flag.digest.form ++ "]"]]

/-- The usage line. -/
def usage (scope : Scope) : String :=
  let start := "usage: " ++ scope.invocation ++ " "
  start ++ String.intercalate ("\n" ++ blanks start.length)
    (scope.usageParts.map (String.intercalate " ")) ++ "\n"

end Scope

/-! ## Help -/

/-- A row of a help table: what can be written, how far it is indented, and what it means, by
lines. -/
structure HelpRow where
  indent : Nat := 2
  form : String
  meaning : List String := []

namespace HelpRow

/-- The row, with its meaning at a column. -/
def text (column : Nat) (r : HelpRow) : String :=
  let left := blanks r.indent ++ r.form
  match r.meaning with
  | [] => left ++ "\n"
  | first :: others =>
    let more := String.join (others.map fun line => blanks column ++ line ++ "\n")
    if left.length + 2 ≤ column then
      left ++ blanks (column - left.length) ++ first ++ "\n" ++ more
    else left ++ "\n" ++ blanks column ++ first ++ "\n" ++ more

end HelpRow

/-- The row of a flag. -/
def Flag.row : Flag → HelpRow
  | .help => { form := "-h, --help", meaning := ["show this help message and exit"] }
  | .logLevel => { form := Flag.logLevel.form, meaning := ["DEBUG, INFO, WARNING, ERROR"] }
  | .logFormat => { form := Flag.logFormat.form }
  | .device =>
    { form := Flag.device.form
      meaning := ["NSM device file (default: $NSMCHECK_DEVICE_PATH or", "/dev/nsm)"] }
  | .simulate =>
    { form := Flag.simulate.form, meaning := ["Run against the in-memory simulator"] }
  | .digest =>
    { form := Flag.digest.form, meaning := ["Digest of the simulated register bank"] }
  | .fault =>
    { form := Flag.fault.form, meaning := ["Inject a fault into the simulator (repeatable)"] }
  | .json => { form := Flag.json.form, meaning := ["Print the run report as JSON"] }

namespace Scope

/-- What a command does. -/
def purpose : Scope → String
  | .program => "Nitro Secure Module conformance checker"
  | .run => "Run the conformance suite"
  | .describe => "Describe the device"
  | .checks => "List the conformance checks"

/-- The column at which meanings stand: behind the widest form, but no further than the
twenty-fourth. -/
def column (rows : List HelpRow) : Nat :=
  rows.foldl (fun c r => max c (min 24 (r.indent + r.form.length + 2))) 0

/-- The rows of the commands. -/
def commandRows : List HelpRow :=
  { form := commandForm, meaning := ["Commands"] } ::
    commands.map fun scope => { indent := 4, form := scope.name, meaning := [scope.purpose] }

/-- The help text. -/
def help (scope : Scope) : String :=
  let flagRows := scope.flags.map Flag.row
  let rows := if scope = .program then commandRows ++ flagRows else flagRows
  let table (rows' : List HelpRow) : String := String.join (rows'.map (HelpRow.text (column rows)))
  scope.usage ++ "\n" ++
    (if scope = .program then
      scope.purpose ++ "\n\npositional arguments:\n" ++ table commandRows ++ "\n"
    else "") ++
    "options:\n" ++ table flagRows

end Scope

end EnclaveAudit.CommandLine
