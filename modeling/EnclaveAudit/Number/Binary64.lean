/-!
# `EnclaveAudit/Number/Binary64.lean` — 64-bit floats as numbers

A wire value can hold a float, and the clock is a float of seconds. Neither needs float
*arithmetic* of the machine: a finite float is a natural number times a power of two, and every
operation here is exact arithmetic on such pairs followed by at most one rounding. So a float is
kept as its 64 bits, and this file says what those bits mean and which bits a quotient rounds to.
-/

set_option autoImplicit false

namespace EnclaveAudit

/-- A power of two. -/
abbrev twoTo (n : Nat) : Nat := Nat.pow 2 n

/-- A power of ten. -/
abbrev tenTo (n : Nat) : Nat := Nat.pow 10 n

/-- The number `m · 2 ^ q`. -/
structure Scaled where
  m : Nat
  q : Int
  deriving DecidableEq, Repr

namespace Scaled

/-- The number as a quotient of natural numbers. -/
def toQuotient (x : Scaled) : Nat × Nat :=
  if 0 ≤ x.q then (x.m * twoTo x.q.toNat, 1) else (x.m, twoTo (-x.q).toNat)

/-- The number with its fraction dropped. -/
def floor (x : Scaled) : Nat := x.toQuotient.1 / x.toQuotient.2

/-- What the number has above its floor. -/
def fraction (x : Scaled) : Scaled :=
  if 0 ≤ x.q then ⟨0, 0⟩ else ⟨x.m % twoTo (-x.q).toNat, x.q⟩

/-- Whether the number is whole. -/
def isWhole (x : Scaled) : Bool := x.fraction.m == 0

/-- Factors of two of `m` moved into `q`, as far as the fuel goes. -/
def halve : (fuel : Nat) → Scaled → Scaled
  | 0, x => x
  | fuel + 1, x => if x.m % 2 = 0 then halve fuel ⟨x.m / 2, x.q + 1⟩ else x

/-- The one way of writing the number with an odd `m`; zero is `0 · 2 ^ 0`. Two numbers are equal
exactly when these are. -/
def reduced (x : Scaled) : Scaled := if x.m = 0 then ⟨0, 0⟩ else x.halve x.m.log2

end Scaled

/-- `num / den` to the nearest natural number; a half goes to the even neighbour. -/
def roundQuotient (num den : Nat) : Nat :=
  let below := num / den
  let twice := 2 * (num % den)
  if twice < den then below
  else if den < twice then below + 1
  else below + below % 2

namespace Binary64

/-- What a 64-bit float denotes. -/
inductive Meaning where
  | nan
  | infinite (negative : Bool)
  | finite (negative : Bool) (magnitude : Scaled)
  deriving DecidableEq, Repr

/-- Sign, eleven bits of exponent, fifty-two of fraction: an exponent of zero marks the
subnormals, one of all ones the infinities and everything that is not a number. -/
def meaning (bits : UInt64) : Meaning :=
  let n := bits.toNat
  let negative := n / twoTo 63 == 1
  let exponent : Nat := n / twoTo 52 % twoTo 11
  let fraction : Nat := n % twoTo 52
  if exponent = 2047 then
    if fraction = 0 then .infinite negative else .nan
  else if exponent = 0 then .finite negative ⟨fraction, -1074⟩
  else .finite negative ⟨twoTo 52 + fraction, (exponent : Int) - 1075⟩

/-- The one spelling of "not a number" that leaves this library. -/
def nan : UInt64 := 0x7ff8000000000000

/-- The bits of an infinity. -/
def infinity (negative : Bool) : UInt64 :=
  if negative then 0xfff0000000000000 else 0x7ff0000000000000

/-- The bits of a float with the one spelling of "not a number". -/
def canonical (bits : UInt64) : UInt64 := if meaning bits = .nan then nan else bits

/-- The number that a float denotes, if it is finite. -/
def quantity? (bits : UInt64) : Option Rat :=
  match meaning bits with
  | .finite negative x =>
    let (num, den) := x.toQuotient
    some (mkRat (if negative then -(num : Int) else num) den)
  | _ => none

/-- The bits of `± x`, for an `x` that has them exactly: at most 53 significant bits and a
normal exponent, as every narrower float has. -/
def ofScaled (negative : Bool) (x : Scaled) : UInt64 :=
  let sign : Nat := if negative then twoTo 63 else 0
  if x.m = 0 then UInt64.ofNat sign
  else
    let top := x.m.log2
    let exponent : Int := x.q + (top : Int) + 1023
    UInt64.ofNat (sign + exponent.toNat * twoTo 52 + (x.m * twoTo (52 - top) - twoTo 52))

/-- A float of `exponentBits` and `fractionBits` as 64 bits. Every narrower float is a wider one;
all the ways of not being a number become the same one. -/
def widen (exponentBits fractionBits : Nat) (n : Nat) : UInt64 :=
  let negative := n / twoTo (exponentBits + fractionBits) == 1
  let exponent : Nat := n / twoTo fractionBits % twoTo exponentBits
  let fraction : Nat := n % twoTo fractionBits
  let bias : Int := (twoTo (exponentBits - 1) : Int) - 1
  if exponent = twoTo exponentBits - 1 then
    if fraction = 0 then infinity negative else nan
  else if exponent = 0 then ofScaled negative ⟨fraction, 1 - bias - fractionBits⟩
  else ofScaled negative ⟨twoTo fractionBits + fraction, exponent - bias - fractionBits⟩

/-- The float nearest to `num / den`, as a number; of two equally near ones the even one. The
exponent is chosen so that 53 bits are left, which is right for every quotient in the normal
range. -/
def nearest (num den : Nat) : Scaled :=
  if num = 0 then ⟨0, 0⟩
  else
    let scale (q : Int) : Nat × Nat :=
      if 0 ≤ q then (num, den * twoTo q.toNat) else (num * twoTo (-q).toNat, den)
    let q : Int := (num.log2 : Int) - (den.log2 : Int) - 52
    let q := if (scale q).1 / (scale q).2 < twoTo 52 then q - 1 else q
    ⟨roundQuotient (scale q).1 (scale q).2, q⟩

/-- What the float nearest to a number denotes. Numbers beyond the normal range have fewer bits, as
the exponent has a least value, or are infinite. -/
def round (x : Rat) : Meaning :=
  let near := nearest x.num.natAbs x.den
  let near := if near.q < -1074 then
    ⟨roundQuotient (x.num.natAbs * twoTo 1074) x.den, -1074⟩ else near
  if 1024 ≤ near.q + near.m.log2 then .infinite (x.num < 0) else .finite (x.num < 0) near

/-- The float nearest to an integer, unless the integer is out of range. -/
def ofInt? (n : Int) : Option UInt64 :=
  let x := (nearest n.natAbs 1).reduced
  if x.q + x.m.log2 ≤ 1023 then some (ofScaled (n < 0) x) else none

end Binary64

end EnclaveAudit
