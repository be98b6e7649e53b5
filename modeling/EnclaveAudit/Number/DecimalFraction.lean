import EnclaveAudit.Number.Shortest

/-!
# `EnclaveAudit/Number/DecimalFraction.lean` — numbers with a decimal exponent

A message can hold a number as digits and an exponent of ten. The digits are kept as they were
sent, trailing zeros and all, since they say how exactly the number is known. A number can also be
sent with an exponent of two. It is turned into one of these, with at most `precision` digits at
either step.
-/

set_option autoImplicit false

namespace EnclaveAudit

/-- The number `± digits · 10 ^ exponent`. -/
structure DecimalFraction where
  negative : Bool := false
  digits : Nat
  exponent : Int
  deriving DecidableEq, Repr, Inhabited

namespace DecimalFraction

/-- How many digits are kept where a number is not exact. -/
def precision : Nat := 28

/-- The greatest exponent of the first digit of a number that is not exact. -/
def maxExponent : Nat := 999999

/-- How many digits a number has in base ten, found near the estimate that the binary logarithm
gives. Zero has one. -/
def width (n : Nat) : Nat :=
  let estimate := n.log2 * 30103 / 100000
  (([0, 1, 2].map (estimate + ·)).find? fun k => 0 < k ∧ n < tenTo k).getD (estimate + 3)

/-- The number with at most `precision` digits; a half goes to the even neighbour. -/
def rounded (x : DecimalFraction) : DecimalFraction :=
  let excess := width x.digits - precision
  if excess = 0 then x
  else
    let digits := roundQuotient x.digits (tenTo excess)
    if width digits ≤ precision then { x with digits, exponent := x.exponent + excess }
    else { x with digits := digits / 10, exponent := x.exponent + excess + 1 }

/-- The number with at most `precision` digits, if its first digit has an exponent that is allowed. -/
def bounded? (x : DecimalFraction) : Option DecimalFraction :=
  let x := x.rounded
  if (x.exponent + width x.digits - 1).natAbs ≤ maxExponent then some x else none

/-- The power of two, if its exponent of ten is allowed. The exponent of two is looked at before the
power is taken. -/
def twoTo? (exponent : Int) : Option DecimalFraction :=
  if 4 * maxExponent < exponent.natAbs then none
  else if 0 ≤ exponent then bounded? { digits := twoTo exponent.toNat, exponent := 0 }
  else bounded? { digits := Nat.pow 5 (-exponent).toNat, exponent }

/-- The product of an integer with a power of two, if its exponent of ten is allowed. -/
def scaled? (n : Int) (exponent : Int) : Option DecimalFraction := do
  let power ← twoTo? exponent
  bounded? { negative := n < 0, digits := n.natAbs * power.digits, exponent := power.exponent }

/-- The number as it is quoted: with a point where that takes at most five zeros after it, and
with the exponent of the first digit otherwise. -/
def text (x : DecimalFraction) : String :=
  let digits := toString x.digits
  let point := x.exponent + digits.length
  let shown := if x.exponent ≤ 0 ∧ -6 < point then point else 1
  let mantissa :=
    if shown ≤ 0 then "0." ++ String.ofList (List.replicate (-shown).toNat '0') ++ digits
    else if (digits.length : Int) ≤ shown then digits
    else (digits.take shown.toNat).toString ++ "." ++ (digits.drop shown.toNat).toString
  let scale := point - shown
  (if x.negative then "-" else "") ++ mantissa ++
    if scale = 0 then "" else "E" ++ (if scale < 0 then "" else "+") ++ toString scale

/-- The number that is meant, however exactly it is known. -/
def toRat (x : DecimalFraction) : Rat :=
  let magnitude := mkRat (x.digits * tenTo x.exponent.toNat : Nat) (tenTo (-x.exponent).toNat)
  if x.negative then -magnitude else magnitude

/-- The number without trailing zeros in its digits. -/
def stripped (x : DecimalFraction) : DecimalFraction :=
  if x.digits = 0 then ⟨false, 0, 0⟩
  else
    let d := Decimal.strip (width x.digits) ⟨x.digits, x.exponent⟩
    { x with digits := d.digits, exponent := d.exponent }

end DecimalFraction

end EnclaveAudit
