import EnclaveAudit.Journal.Record

/-!
# `EnclaveAudit/Journal/Logbook.lean` — the log of a program

A logbook has a threshold, below which nothing is written, and a way of writing lines; until it is
configured it has none and takes no lines. Configuring it again replaces both and keeps the lines.
Every line that is written reaches all of the logbook's readers: the terminal, and a file if there
is one.

The logbook also knows which run the lines belong to.
-/

set_option autoImplicit false

namespace EnclaveAudit

/-- How a logbook is to be kept. -/
structure LogConfiguration where
  level : String := "INFO"
  style : LineStyle := .document
  inFile : Bool := false
  deriving DecidableEq, Repr

/-- The log of a program. -/
structure Logbook where
  threshold : Level := .warning
  style : Option LineStyle := none
  inFile : Bool := false
  runId : Value := .text ""
  /-- how many identifiers of runs were made up so far -/
  made : Nat := 0
  lines : Array String := #[]
  deriving Repr

namespace Logbook

/-- The logbook kept in another way. A level that does not exist is refused. -/
def configured (b : Logbook) (c : LogConfiguration) : Except Level.Unknown Logbook := do
  let threshold ← Level.ofName c.level
  pure { b with threshold, style := some c.style, inFile := c.inFile }

/-- How many readers the lines have. -/
def readers (b : Logbook) : Nat :=
  match b.style with
  | none => 0
  | some _ => if b.inFile then 2 else 1

/-- The line that a record becomes, if it is written. -/
def line? (b : Logbook) (now : Instant) (r : Record) : Option String := do
  let style ← b.style
  guard (r.level.reaches b.threshold)
  (r.written style now b.runId).toOption

/-- The logbook with one more record. -/
def add (b : Logbook) (now : Instant) (r : Record) : Logbook :=
  match b.line? now r with
  | some line => { b with lines := b.lines.push line }
  | none => b

/-- The logbook with one more entry of a trail. -/
def enter (b : Logbook) (now : Instant) (e : Entry) : Logbook := b.add now (.ofEntry e b.runId)

/-- The logbook with a whole trail. -/
def enterAll (b : Logbook) (now : Instant) (journal : Array Entry) : Logbook :=
  journal.foldl (fun b e => b.enter now e) b

/-- The logbook of another run: the given one, or one whose identifier is made up. -/
def ofRun (b : Logbook) (makeUp : Nat → String) : Option Value → Logbook
  | some runId => { b with runId }
  | none => { b with runId := .text (makeUp (b.made + 1)), made := b.made + 1 }

/-- What each reader reads. -/
def text (b : Logbook) : String := b.lines.foldl (fun text line => text ++ line ++ "\n") ""

end Logbook

end EnclaveAudit
