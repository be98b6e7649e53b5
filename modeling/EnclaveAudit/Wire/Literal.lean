import EnclaveAudit.Number.Layout
import EnclaveAudit.Text.Quoted
import EnclaveAudit.Wire.Value

/-!
# `EnclaveAudit/Wire/Literal.lean` — values quoted in messages

A message that reports what was expected and what was observed quotes both, so that the kind of a
value can be told: a text has quotes, an octet string a letter before them, a float a point or an
exponent. An array that cannot be changed has parentheses and, if it has one item, a trailing comma;
a map or a set that cannot has its kind in front. Of an array or a map that contains itself the inner
one is left out.
-/

set_option autoImplicit false

namespace EnclaveAudit.Value

/-- Parts in brackets, separated by a comma and a blank. -/
def bracketed (opening closing : String) (parts : List String) : String :=
  opening ++ String.intercalate ", " parts ++ closing

/-- The parts of a tuple. -/
def tupleOf : List String → String
  | [part] => "(" ++ part ++ ",)"
  | parts => bracketed "(" ")" parts

/-- The members of a set. An empty one cannot be told from an empty map without its kind. -/
def setOf (frozen : Bool) (parts : List String) : String :=
  if frozen then
    "frozenset(" ++ (if parts.isEmpty then "" else bracketed "\x7b" "\x7d" parts) ++ ")"
  else if parts.isEmpty then "set()"
  else bracketed "\x7b" "\x7d" parts

mutual

/-- The text that stands for a value in a message. -/
def literal : Value → String
  | .null => "None"
  | .undefined => "undefined"
  | .bool true => "True"
  | .bool false => "False"
  | .int n => toString n
  | .float bits => Layout.literal.float bits
  | .text s => Text.quoted s
  | .bytes b => Text.quotedBytes b
  | .array items => bracketed "[" "]" (literals items)
  | .map entries => bracketed "\x7b" "\x7d" (entryLiterals entries)
  | .simple code => "CBORSimpleValue(" ++ toString code ++ ")"
  | .tag number content => "CBORTag(" ++ toString number ++ ", " ++ literal content ++ ")"
  | .tuple items => tupleOf (literals items)
  | .frozenMap entries =>
    "frozendict(" ++ bracketed "\x7b" "\x7d" (entryLiterals entries) ++ ")"
  | .set frozen members => setOf frozen (literals members)
  | .denoted d => d.literal
  | .enclosing isMap => if isMap then "\x7b...\x7d" else "[...]"

/-- The texts of several values. -/
def literals : List Value → List String
  | [] => []
  | item :: items => literal item :: literals items

/-- The texts of several entries. -/
def entryLiterals : List (Value × Value) → List String
  | [] => []
  | entry :: entries => entryLiteral entry :: entryLiterals entries

/-- Key and value with a colon between them. -/
def entryLiteral : Value × Value → String
  | (key, value) => literal key ++ ": " ++ literal value

end

/-! ## Integers that are too long

Writing an integer out takes time that grows with the square of its digits. A device chooses how long
its integers are, so one that is too long is never written: what would need its digits is not said. -/

/-- The most digits that an integer is written with. -/
def digitLimit : Nat := 4300

/-- Whether an integer is short enough to be written. -/
def isShort (n : Int) : Bool := decide (n.natAbs < tenTo digitLimit)

mutual

/-- Whether all integers in a value are short enough to be written. -/
def isWritable : Value → Bool
  | .int n => isShort n
  | .array items => areWritable items
  | _ => true

/-- Whether all integers in several values are short enough to be written. -/
def areWritable : List Value → Bool
  | [] => true
  | item :: items => isWritable item && areWritable items

end

/-- What is said instead of something that has an integer that is too long. -/
def tooLong : String :=
  "Exceeds the limit (" ++ toString digitLimit ++ " digits) for integer string conversion; " ++
    "use sys.set_int_max_str_digits() to increase the limit"

/-! ## Words -/

/-- The words for a value inside a sentence: a text stands for itself. -/
def inWords : Value → String
  | .text s => s
  | v => v.literal

/-- The word for the kind of a value. -/
def kindName : Value → String
  | .null => "NoneType"
  | .undefined => "UndefinedType"
  | .bool _ => "bool"
  | .int _ => "int"
  | .float _ => "float"
  | .text _ => "str"
  | .bytes _ => "bytes"
  | .array _ => "list"
  | .map _ => "dict"
  | .simple _ => "CBORSimpleValue"
  | .tag _ _ => "CBORTag"
  | .tuple _ => "tuple"
  | .frozenMap _ => "frozendict"
  | .set frozen _ => if frozen then "frozenset" else "set"
  | .denoted d => d.kindName
  | .enclosing isMap => if isMap then "dict" else "list"

/-- The word for the kind of a value, in full: kinds of the wire format alone have their home in
front. -/
def fullKindName : Value → String
  | .undefined => "cbor2.UndefinedType"
  | .simple _ => "cbor2.CBORSimpleValue"
  | .tag _ _ => "cbor2.CBORTag"
  | .frozenMap _ => "cbor2.frozendict"
  | v => v.kindName

end EnclaveAudit.Value
