import EnclaveAudit.Clock
import EnclaveAudit.Journal.Entry
import EnclaveAudit.Journal.Failure
import EnclaveAudit.Wire.Json

/-!
# `EnclaveAudit/Journal/Record.lean` — one line of the log

A record is what is known about one line of the log: which log it belongs to, how much it matters,
what it says, where it was written, and what else a collector should find in it. It becomes either a
document on one line, for collectors, or a line of text, for people.

In the document the fields that a record brings along come last and go before the others: one with
the name of an earlier field takes that field's place. Only a document can fail to be written, and
only for a key that no document can hold.
-/

set_option autoImplicit false

namespace EnclaveAudit

/-- One line of the log. -/
structure Record where
  logger : String
  level : Level
  message : String
  /-- the file that the line was written by -/
  path : String := ""
  function : Option String := none
  line : Int := 0
  failure : Option Failure := none
  extra : List (Value × Value) := []
  deriving Repr

/-- How lines of the log are written. -/
inductive LineStyle where
  | document
  | text
  deriving DecidableEq, Repr

namespace Record

/-- The last part of a path. -/
def fileName (path : List Char) : List Char := (path.reverse.takeWhile (· ≠ '/')).reverse

/-- A file name without its last extension. Points that the name starts with start no extension. -/
def stem (name : List Char) : List Char :=
  match (name.dropWhile (· == '.')).reverse.dropWhile (· ≠ '.') with
  | [] => name
  | _ :: kept => name.takeWhile (· == '.') ++ kept.reverse

/-- The module that a record was written by. -/
def moduleName (r : Record) : String := String.ofList (stem (fileName r.path.toList))

/-- The fields that every record has. -/
def fields (r : Record) (now : Instant) (runId : Value) : List (String × Value) :=
  [("timestamp", .text now.logStamp), ("level", .text r.level.name), ("logger", .text r.logger),
    ("message", .text r.message), ("module", .text r.moduleName),
    ("function", match r.function with
      | some name => .text name
      | none => .null),
    ("line", .int r.line)] ++
  (if runId.holds then [("run_id", runId)] else []) ++
  match r.failure with
  | some f => [("exception", .text f.text)]
  | none => []

/-- The record as a document. -/
def document (r : Record) (now : Instant) (runId : Value) : Value :=
  .map (r.extra.foldl (fun entries (key, v) => Value.put key v entries)
    ((r.fields now runId).map fun (name, v) => (.text name, v)))

/-- The record as a line of text. -/
def text (r : Record) (now : Instant) : String :=
  now.logDate ++ " - " ++ r.logger ++ " - " ++ r.level.name ++ " - " ++ r.message ++
    match r.failure with
    | some f => "\n" ++ f.text
    | none => ""

/-- The record as it stands in the log. -/
def written (r : Record) (style : LineStyle) (now : Instant) (runId : Value) :
    Except BadKey String :=
  match style with
  | .document => (r.document now runId).json .line
  | .text => .ok (r.text now)

/-- The record of an entry of a trail. A notice brings its fields along. -/
def ofEntry (e : Entry) (runId : Value) : Record where
  logger := e.logger
  level := e.level
  message := e.text
  extra := match e.notice? with
    | some n => (n.extra runId).map fun (name, v) => (.text name, v)
    | none => []

end Record

end EnclaveAudit
