import EnclaveAudit.Wire.Literal

/-!
# `EnclaveAudit/Wire/Cbor/Malformed.lean` — why octets are not an item

Octets that cannot be read are refused with the cause, and the cause becomes a line of the log. An
item is read from the outside to the inside, and the cause is that of the innermost item that cannot
be read: what is around it adds nothing.
-/

set_option autoImplicit false

namespace EnclaveAudit.Cbor

/-- The name of the kind that the first three bits of an item give. -/
def kindName : Nat → String
  | 0 => "unsigned integer"
  | 1 => "negative integer"
  | 2 => "byte string"
  | 3 => "text string"
  | 4 => "array"
  | 5 => "map"
  | 6 => "semantic tag"
  | _ => "special value"

/-- The kind of an item that is a special value: a simple value, a float or a break. -/
def specialKind : Nat := 7

/-- The name of what a tag with a meaning gives its content. -/
def meaningName : Nat → String
  | 0 => "string-form datetime"
  | 1 => "epoch-form datetime"
  | 2 => "positive bignum"
  | 3 => "negative bignum"
  | 4 => "decimal fraction"
  | 5 => "bigfloat"
  | 25 => "string reference"
  | 29 => "shared reference"
  | 30 => "rational"
  | 35 => "regular expression"
  | 36 => "MIME message"
  | 37 => "UUID"
  | 52 => "IPv4 address"
  | 54 => "IPv6 address"
  | 100 => "epoch-form date"
  | 258 => "set"
  | 260 => "IP address"
  | 261 => "IP network"
  | 1004 => "string-form date"
  | 43000 => "complex number"
  | _ => kindName 6

/-- Why octets are not an item. -/
inductive Malformed where
  /-- the octets end inside an item, so many too early -/
  | truncated (missing : Nat)
  /-- a head of a form that has no meaning -/
  | reserved (kind info : Nat)
  /-- an item without its number, of a kind that has to have one -/
  | lengthless (kind : Nat)
  /-- a break outside of anything that it could end -/
  | strayBreak
  /-- a simple value in two octets that has a form of one -/
  | overlongSimple
  /-- a text that is not UTF-8 -/
  | notText
  /-- a piece of a string that is of another kind -/
  | foreignPiece (kind found : Nat)
  /-- a key that could be changed -/
  | changeableKey
  /-- more levels of nesting than are allowed -/
  | tooDeep
  /-- a reference to something that was not marked for it -/
  | unmarked (index : Nat)
  /-- a reference to something that is not complete -/
  | incomplete (index : Nat)
  /-- a reference to a string where strings are not kept -/
  | outsideNamespace
  /-- a reference to a string that is not kept -/
  | unknownString (index : Nat)
  /-- a tag with a meaning on a content to which it gives none -/
  | meaningless (tag : Nat) (reason : Option String)
  deriving DecidableEq, Repr

namespace Malformed

/-- The levels of nesting that a message may have. -/
def maxDepth : Nat := 400

/-- The number of a form that has no meaning, in hexadecimal. -/
def formText (info : Nat) : String := "0x" ++ String.ofList (Nat.toDigits 16 info)

/-- What is said about something that cannot be read. -/
def about (what : String) (reason : Option String) : String :=
  "error decoding " ++ what ++ (reason.map (": " ++ ·)).getD ""

/-- What is said about such octets. -/
def message : Malformed → String
  | .truncated missing =>
    "premature end of stream (expected to read at least " ++ toString missing ++
      " bytes, got 0 instead)"
  | .reserved kind info =>
    about (kindName kind) (some (
      (if kind = specialKind then "undefined reserved major type 7 subtype "
        else "unknown unsigned integer subtype ") ++ formText info))
  | .lengthless kind => about (kindName kind) (some "indefinite length not allowed here")
  | .strayBreak => "break code encountered where a data item was expected"
  | .overlongSimple =>
    about (kindName specialKind) (some "invalid two-byte sequence for simple value")
  | .notText => about (kindName 3) none
  | .foreignPiece kind found =>
    about (kindName kind) (some (
      "non-" ++ kindName kind ++ " (major type " ++ toString found ++
        ") found in indefinite length " ++ kindName kind))
  | .changeableKey => about (kindName 5) none
  | .tooDeep => "maximum container nesting depth (" ++ toString maxDepth ++ ") exceeded"
  | .unmarked index => "shared reference " ++ toString index ++ " not found"
  | .incomplete index => "shared reference " ++ toString index ++ " has not been initialized"
  | .outsideNamespace => "string reference outside of namespace"
  | .unknownString index => "string reference " ++ toString index ++ " not found"
  | .meaningless tag reason => about (meaningName tag) reason

end Malformed

end EnclaveAudit.Cbor
