import EnclaveAudit.Calendar.Moment
import EnclaveAudit.Number.DecimalFraction
import EnclaveAudit.Number.Layout
import EnclaveAudit.Text.Pattern
import EnclaveAudit.Wire.Address

/-!
# `EnclaveAudit/Wire/Denoted.lean` — values that a tag gives a meaning

The wire format marks values with tags, and some tags turn what they mark into a value of another
kind: a moment, a number that is no float, an address. This file lists those kinds and says how they
are quoted and when two of them are equal. What the tags are, and what has to be under them, is the
reader's matter.
-/

set_option autoImplicit false

namespace EnclaveAudit

/-- A value of a kind that only a tag can give it. -/
inductive Denoted where
  | moment (m : Moment)
  | day (d : Day)
  | decimal (x : DecimalFraction)
  | ratio (x : Rat)
  /-- a complex number, by the bits of two floats -/
  | complex (real imaginary : UInt64)
  | pattern (text : String)
  | mail (text : String)
  /-- an identifier of sixteen octets -/
  | identifier (octets : Bytes)
  | address (a : Address)
  /-- the addresses that share so many leading bits -/
  | network (a : Address) (width : Nat)
  /-- an address in such a network -/
  | interface (a : Address) (width : Nat)
  deriving DecidableEq, Repr, Inhabited

namespace Denoted

/-! ## Numbers -/

/-- The number that a value with digits, or a quotient, is exactly. -/
def rational? : Denoted → Option Rat
  | .decimal x => some x.toRat
  | .ratio x => some x
  | _ => none

/-! ## Equality -/

/-- The number that is denoted, in lowest terms, unless its exponent is out of proportion. -/
def quantity? : Denoted → Option Rat
  | .decimal x => if x.exponent.natAbs ≤ 10000 then some x.toRat else none
  | .ratio x => some x
  | .complex real imaginary =>
    match Binary64.meaning imaginary with
    | .finite _ ⟨0, _⟩ => Binary64.quantity? real
    | _ => none
  | _ => none

/-- Whether two denoted values that are no numbers, or no numbers that can be compared otherwise,
are the same. Moments are if they are the same instant. A mail is only ever itself. -/
def same : Denoted → Denoted → Bool
  | .moment a, .moment b =>
    match a.offset, b.offset with
    | some x, some y => a.microseconds - x == b.microseconds - y
    | none, none => a.microseconds == b.microseconds
    | _, _ => false
  | .decimal a, .decimal b => a.stripped == b.stripped
  | .mail _, .mail _ => false
  | a, b => a == b

/-! ## Literals -/

/-- A part of a complex number: a float, without a zero after the point. -/
def part (bits : UInt64) : String :=
  let digits := Layout.literal.float bits
  if digits.endsWith ".0" then (digits.dropEnd 2).toString else digits

/-- A complex number as it is quoted. The real part is left out if it is zero and not negative. -/
def complexLiteral (real imaginary : UInt64) : String :=
  if real = 0 then part imaginary ++ "j"
  else
    let imaginary := part imaginary
    "(" ++ part real ++ (if imaginary.startsWith "-" then "" else "+") ++ imaginary ++ "j)"

/-- An identifier in hexadecimal, in five groups. -/
def identifierText (octets : Bytes) : String :=
  let group (start stop : Nat) : String := Bytes.hex ((octets.take stop).drop start)
  String.intercalate "-" [group 0 4, group 4 6, group 6 8, group 8 10, group 10 16]

/-- A value as it is quoted in messages. -/
def literal : Denoted → String
  | .moment m => m.literal
  | .day d => d.literal
  | .decimal x => "Decimal('" ++ x.text ++ "')"
  | .ratio x => "Fraction(" ++ toString x.num ++ ", " ++ toString x.den ++ ")"
  | .complex real imaginary => complexLiteral real imaginary
  | .pattern text => Pattern.literal text
  | .mail _ => "<email.message.Message object>"
  | .identifier octets => "UUID('" ++ identifierText octets ++ "')"
  | .address a => a.family ++ "Address('" ++ a.text ++ "')"
  | .network a width => a.family ++ "Network('" ++ a.text ++ "/" ++ toString width ++ "')"
  | .interface a width => a.family ++ "Interface('" ++ a.text ++ "/" ++ toString width ++ "')"

/-- The word for the kind of a value. -/
def kindName : Denoted → String
  | .moment _ => "datetime.datetime"
  | .day _ => "datetime.date"
  | .decimal _ => "decimal.Decimal"
  | .ratio _ => "fractions.Fraction"
  | .complex _ _ => "complex"
  | .pattern _ => "re.Pattern"
  | .mail _ => "email.message.Message"
  | .identifier _ => "uuid.UUID"
  | .address a => "ipaddress." ++ a.family ++ "Address"
  | .network a _ => "ipaddress." ++ a.family ++ "Network"
  | .interface a _ => "ipaddress." ++ a.family ++ "Interface"

end Denoted

end EnclaveAudit
