import EnclaveAudit.Wire.Literal

/-!
# `EnclaveAudit/Suite/Complaint.lean` — what is wrong with a parameter

A parameter that cannot be used is complained about: by a word for programs, a sentence for people,
and what was given. A value that is quoted in a sentence is cut in the middle if it is long, so that
no input floods the terminal; the cut never splits a character.
-/

set_option autoImplicit false

namespace EnclaveAudit

/-- Why a value is not the value of a parameter. -/
inductive Complaint where
  /-- not of a kind that integers are read from -/
  | notInteger
  /-- a text that spells no integer -/
  | unreadableInteger
  /-- too large to be read -/
  | oversizedInteger
  /-- a float with a fraction -/
  | fractional
  /-- a float that is no number -/
  | notFinite
  | tooSmall (least : Nat)
  | tooLarge (most : Nat)
  /-- not of a kind that octets are read from -/
  | notOctets
  /-- no octets at all -/
  | noOctets
  /-- not of a kind that truth values are read from -/
  | notTruth
  /-- a value that stands for neither truth value -/
  | unreadableTruth
  /-- a parameter that there is not -/
  | unknown
  deriving DecidableEq, Repr

namespace Complaint

/-- The word for programs. -/
def code : Complaint → String
  | .notInteger => "int_type"
  | .unreadableInteger => "int_parsing"
  | .oversizedInteger => "int_parsing_size"
  | .fractional => "int_from_float"
  | .notFinite => "finite_number"
  | .tooSmall _ => "greater_than_equal"
  | .tooLarge _ => "less_than_equal"
  | .notOctets => "bytes_type"
  | .noOctets => "bytes_too_short"
  | .notTruth => "bool_type"
  | .unreadableTruth => "bool_parsing"
  | .unknown => "extra_forbidden"

/-- The sentence for people. -/
def message : Complaint → String
  | .notInteger => "Input should be a valid integer"
  | .unreadableInteger =>
    "Input should be a valid integer, unable to parse string as an integer"
  | .oversizedInteger => "Unable to parse input string as an integer, exceeded maximum size"
  | .fractional => "Input should be a valid integer, got a number with a fractional part"
  | .notFinite => "Input should be a finite number"
  | .tooSmall least => "Input should be greater than or equal to " ++ toString least
  | .tooLarge most => "Input should be less than or equal to " ++ toString most
  | .notOctets => "Input should be a valid bytes"
  | .noOctets => "Data should have at least 1 byte"
  | .notTruth => "Input should be a valid boolean"
  | .unreadableTruth => "Input should be a valid boolean, unable to interpret input"
  | .unknown => "Extra inputs are not permitted"

end Complaint

/-- A complaint about a parameter, with what was given. -/
structure Problem where
  parameter : String
  complaint : Complaint
  given : Value
  deriving Repr

namespace Problem

/-- The most octets of a quoted value that are shown in full. -/
def quoteLimit : Nat := 50

/-- The longest beginning of a text that has at most `octets` octets. -/
def beginning : (octets : Nat) → List Char → List Char
  | _, [] => []
  | octets, c :: cs =>
    if c.utf8Size ≤ octets then c :: beginning (octets - c.utf8Size) cs else []

/-- A text with its middle left out, if it is long. -/
def abridged (s : String) : String :=
  if s.utf8ByteSize ≤ quoteLimit then s
  else
    let cs := s.toList
    String.ofList (beginning (quoteLimit / 2) cs) ++ "..." ++
      String.ofList (beginning (quoteLimit - quoteLimit / 2 - 1) cs.reverse).reverse

/-- The lines about one problem. -/
def lines (p : Problem) : List String := [
  p.parameter,
  "  " ++ p.complaint.message ++ " [type=" ++ p.complaint.code ++ ", input_value=" ++
    abridged p.given.literal ++ ", input_type=" ++ p.given.kindName ++ "]",
  "    For further information visit https://errors.pydantic.dev/2.14/v/" ++ p.complaint.code]

/-- The text about several problems. -/
def summary (problems : List Problem) : String :=
  let count := problems.length
  String.intercalate "\n"
    ((toString count ++ " validation error" ++ (if count = 1 then "" else "s") ++
      " for SuiteParameters") :: problems.flatMap lines)

end Problem

end EnclaveAudit
