import EnclaveAudit.Number.Shortest

/-!
# `EnclaveAudit/Number/Places.lean` — floats with so many digits

Here the number of digits is given and the float is rounded to it, once, from its exact value; a
value half way between two neighbours goes to the even one. The digits can be counted after the
point (`fixed`), after the first digit (`scientific`), or in all (`general`), and in the last case
the size of the number decides how it is laid out.
-/

set_option autoImplicit false

namespace EnclaveAudit

namespace Scaled

/-- How many times `10 ^ -places` the number is, to the nearest. -/
def onPlaces (x : Scaled) (places : Int) : Nat :=
  let (num, den) := x.toQuotient
  if 0 ≤ places then roundQuotient (num * tenTo places.toNat) den
  else roundQuotient num (den * tenTo (-places).toNat)

/-- The number with so many digits after the first one, and the exponent of the first one. Rounding
can carry into a new first digit. -/
def significant (x : Scaled) (places : Nat) : Nat × Int :=
  if x.m = 0 then (0, 0)
  else
    let exponent := x.decimalPoint - 1
    let digits := x.onPlaces (places - exponent)
    if digits < tenTo (places + 1) then (digits, exponent) else (digits / 10, exponent + 1)

end Scaled

/-- How many digits are written, and where they are counted from. -/
inductive Places where
  | fixed (count : Nat)
  | scientific (count : Nat)
  | general (count : Nat)
  deriving DecidableEq, Repr

namespace Places

/-- Decimal digits, made up with zeros in front to a width. -/
def digits (width n : Nat) : List Char :=
  let ds := (toString n).toList
  List.replicate (width - ds.length) '0' ++ ds

/-- Digits with a point before the last `count` of them. Where none come after it the point is
written only if it is to be kept. -/
def pointed (keepPoint : Bool) (count : Nat) (ds : List Char) : List Char :=
  let whole := ds.take (ds.length - count)
  let fraction := ds.drop (ds.length - count)
  if fraction.isEmpty && !keepPoint then whole else whole ++ '.' :: fraction

/-- A written decimal without the zeros at its end, and without its point if nothing is left after
it. -/
def withoutZeros (cs : List Char) : List Char :=
  if cs.contains '.' then
    let kept := cs.reverse.dropWhile (· == '0')
    (if kept.head? == some '.' then kept.tail else kept).reverse
  else cs

/-- An exponent, with its sign and at least two digits. -/
def exponent (e : Int) : List Char := 'e' :: (if e < 0 then '-' else '+') :: digits 2 e.natAbs

/-- A number with so many digits. `keepAll` keeps the point, and zeros that say nothing. -/
def text (keepAll : Bool) (x : Scaled) : Places → String
  | .fixed count =>
    String.ofList (pointed keepAll count (digits (count + 1) (x.onPlaces count)))
  | .scientific count =>
    let (ds, e) := x.significant count
    String.ofList (pointed keepAll count (digits (count + 1) ds) ++ exponent e)
  | .general count =>
    let last := count - 1
    let (ds, e) := x.significant last
    let trim (cs : List Char) : List Char := if keepAll then cs else withoutZeros cs
    if e < -4 ∨ (last : Int) < e then
      String.ofList (trim (pointed keepAll last (digits (last + 1) ds)) ++ exponent e)
    else
      let after := ((last : Int) - e).toNat
      String.ofList (trim (pointed keepAll after (digits (after + 1) ds)))

end Places

end EnclaveAudit
