import EnclaveAudit.Wire.Literal
import EnclaveAudit.Wire.SlotOrder

/-!
# `EnclaveAudit/Wire/Cbor/Tags.lean` — what tags mean

A tag marks the item after it with a number. Some numbers have a meaning and give the item they mark
another kind, if it is one that they can mark; the others just stay with it. `tagged` is the whole
table. It is a function of the content alone: the tags that say how to read what comes after them,
which mark items for sharing or refer to them, are the reader's.

What is under a tag cannot be changed, so a list of parts is a tuple here.

Which texts are patterns is `Pattern.options?`, and what it does not check is not checked here: a
pattern may give a character by a name that no character has, and nest its groups too deep for a
machine.
-/

set_option autoImplicit false

namespace EnclaveAudit.Cbor

/-- What a tag makes of its content, or why it makes nothing of it. Often there is nothing to say. -/
abbrev Meaning := Except (Option String) Value

/-- A denoted value, if there is one. -/
def denotes (d : Option Denoted) : Meaning :=
  match d with
  | some d => .ok (.denoted d)
  | none => .error none

/-- The kind of a content, as it is named in the reason for refusing it. -/
def classOf (content : Value) : String := "<class '" ++ content.fullKindName ++ "'>"

/-- What a text spells. Anything but a text is refused by its kind. -/
def spelled (content : Value) (read : String → Option Denoted) : Meaning :=
  match content with
  | .text s => denotes (read s)
  | v => .error (some ("expected string for tag, got " ++ classOf v ++ " instead"))

/-- The integer that a value is. A truth value is zero or one. -/
def whole? : Value → Option Int
  | .int n => some n
  | .bool b => some (if b then 1 else 0)
  | _ => none

/-- The float nearest to a number. -/
def float? : Value → Option UInt64
  | .float bits => some bits
  | v => (whole? v).bind Binary64.ofInt?

/-! ## Numbers -/

/-- A big integer from its octets. -/
def bigInteger (negative : Bool) : Value → Meaning
  | .bytes b => .ok (.int (if negative then Int.negSucc b.toNat else Int.ofNat b.toNat))
  | v => .error (some ("bignum value must be a byte string, not " ++ classOf v))

/-- The greatest exponent that a number with a decimal exponent can have. -/
def exponentLimit : Nat := 999999999999999999

/-- The digits of a number and whether it is negative. Of a float all digits are taken that it has
before and after the point. -/
def digits? : Value → Option (Bool × Nat)
  | .float bits =>
    match Binary64.meaning bits with
    | .finite negative x =>
      let x := x.reduced
      some (negative, if 0 ≤ x.q then x.m * twoTo x.q.toNat else x.m * Nat.pow 5 (-x.q).toNat)
    | .infinite negative => some (negative, 0)
    | .nan => some (false, 0)
  | v => (whole? v).map fun n => (decide (n < 0), n.natAbs)

/-- A number from its exponent and its digits. -/
def decimal? : Value → Option Denoted
  | .tuple [exponent, number] => do
    let exponent ← whole? exponent
    let (negative, digits) ← digits? number
    guard ((exponent + DecimalFraction.width digits - 1).natAbs ≤ exponentLimit)
    pure (.decimal { negative, digits, exponent })
  | _ => none

/-- A number from its exponent of two and a factor. -/
def bigFloat? : Value → Option Denoted
  | .tuple [exponent, factor] => do
    pure (.decimal (← DecimalFraction.scaled? (← whole? factor) (← whole? exponent)))
  | _ => none

/-- A quotient. -/
def ratio? : Value → Option Denoted
  | .tuple [] => some (.ratio 0)
  | .tuple [n] => do pure (.ratio (← whole? n))
  | .tuple [num, den] => do
    let den ← whole? den
    guard (den ≠ 0)
    pure (.ratio (Rat.divInt (← whole? num) den))
  | _ => none

/-- A complex number from its two parts. -/
def complex? : Value → Option Denoted
  | .tuple [] => some (.complex 0 0)
  | .tuple [real] => do pure (.complex (← float? real) 0)
  | .tuple [real, imaginary] => do pure (.complex (← float? real) (← float? imaginary))
  | _ => none

/-! ## Times -/

/-- The moment so many seconds after the start of 1970. -/
def sinceEpoch? : Value → Option Moment
  | .float bits => Moment.ofFloat? bits
  | v => do Moment.ofMicroseconds? ((← whole? v) * 1000000)

/-! ## Addresses -/

/-- A network from its octets, which may be fewer than an address has, and its width. -/
def network? (size : Nat) (octets : Bytes) (width : Int) : Option Denoted := do
  guard (octets.length ≤ size ∧ 0 ≤ width ∧ width ≤ 8 * (size : Int))
  let a ← Address.of? (octets ++ Bytes.zeros (size - octets.length))
  guard (a.masked width.toNat = a)
  pure (.network a width.toNat)

/-- An address with so many octets, a network of such, or an interface in one. -/
def addressed? (size : Nat) : Value → Option Denoted
  | .bytes b => if b.length = size then (Address.of? b).map .address else none
  | .tuple [.int width, .bytes b] => network? size b width
  | .tuple [.bytes b, .int width] => do
    guard (b.length = size ∧ 0 ≤ width ∧ width ≤ 8 * (size : Int))
    pure (.interface (← Address.of? b) width.toNat)
  | _ => none

/-- An address of either size. Six octets are the address of a machine and stay what they are. -/
def anyAddress : Value → Meaning
  | .bytes b =>
    match Address.of? b with
    | some a => .ok (.denoted (.address a))
    | none =>
      if b.length = 6 then .ok (.tag 260 (.bytes b))
      else .error (some ("invalid IP address length (" ++ toString b.length ++ ")"))
  | _ => .error none

/-- A network of either size, from a map of its address to its width. -/
def anyNetwork? : Value → Option Denoted
  | .frozenMap [(.bytes b, .int width)] => do
    let a ← Address.of? b
    guard (0 ≤ width ∧ width ≤ (a.bits : Int))
    pure (.network (a.masked width.toNat) width.toNat)
  | _ => none

/-! ## The table -/

/-- What the tag with this number makes of its content. -/
def tagged (number : Nat) (content : Value) : Meaning :=
  match number with
  | 0 => spelled content fun s => (Moment.ofText? s).map .moment
  | 1 => denotes ((sinceEpoch? content).map .moment)
  | 2 => bigInteger false content
  | 3 => bigInteger true content
  | 4 => denotes (decimal? content)
  | 5 => denotes (bigFloat? content)
  | 30 => denotes (ratio? content)
  | 35 => spelled content fun s => if (Pattern.options? s).isSome then some (.pattern s) else none
  | 36 => spelled content fun s => some (.mail s)
  | 37 =>
    match content with
    | .bytes b => if b.length = 16 then .ok (.denoted (.identifier b)) else .error none
    | _ => .error none
  | 52 => denotes (addressed? 4 content)
  | 54 => denotes (addressed? 16 content)
  | 100 => denotes (((whole? content).bind Day.ofEpoch?).map .day)
  | 260 => anyAddress content
  | 261 => denotes (anyNetwork? content)
  | 1004 => spelled content fun s => (Day.ofText? s).map .day
  | 43000 => denotes (complex? content)
  | 55799 => .ok content
  | _ => .ok (.tag number content)

/-- The set of the items of a content. -/
def setOf (frozen : Bool) : Value → Meaning
  | .tuple items =>
    if Value.areKeys items then .ok (.set frozen (SlotOrder.arranged items)) else .error none
  | v => .error (some ("input value must be an array, not " ++ classOf v))

end EnclaveAudit.Cbor
