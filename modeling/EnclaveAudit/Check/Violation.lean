import EnclaveAudit.Check.Basic
import EnclaveAudit.Wire.Literal

/-!
# `EnclaveAudit/Check/Violation.lean` — where a device deviated

A violation names the check that failed, what the contract expects, what the device did, and the
register if it is about one. Expected and observed are values, so a report can show them as what they
are. A report has no octet strings; they are shown in hexadecimal, also inside arrays.
-/

set_option autoImplicit false

namespace EnclaveAudit

/-- A failed check. -/
structure Violation where
  check : Check
  expected : Value
  observed : Value
  register : Option Int := none
  deriving BEq, Repr, Inhabited

namespace Violation

mutual

/-- A value as a report shows it. -/
def render : Value → Value
  | .bytes b => .text b.hex
  | .array items | .tuple items => .array (renderItems items)
  | v => v

/-- Several values as a report shows them. -/
def renderItems : List Value → List Value
  | [] => []
  | item :: items => render item :: renderItems items

end

/-- Whether the violation can be said in a sentence. -/
def isWritable (v : Violation) : Bool := v.expected.isWritable && v.observed.isWritable

/-- The violation in one sentence. -/
def message (v : Violation) : String :=
  let place :=
    match v.register with
    | some index => " (PCR " ++ toString index ++ ")"
    | none => ""
  "Check " ++ v.check.name ++ " failed" ++ place ++ ": expected " ++
    (render v.expected).literal ++ ", observed " ++ (render v.observed).literal

/-- The violation as part of a report. -/
def document (v : Violation) : Value :=
  .record ([
    ("check", .text v.check.name),
    ("description", .text v.check.description),
    ("expected", render v.expected),
    ("observed", render v.observed)] ++
    match v.register with
    | some index => [("register_index", .int index)]
    | none => [])

end Violation

end EnclaveAudit
