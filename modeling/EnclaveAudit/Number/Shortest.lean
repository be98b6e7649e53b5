import EnclaveAudit.Number.Binary64

/-!
# `EnclaveAudit/Number/Shortest.lean` — the fewest digits that identify a float

A float stands for every real number that rounds to it: an interval around it that reaches half
way to each neighbour, with its ends exactly when the float is even. Writing a float in decimal
means choosing a point of that interval, and this file chooses the one with the fewest digits, the
nearest of those, an even last digit where two are equally near.

The search *is* the specification. For one digit, two digits, and so on, only the two neighbours of
the float on that decimal grid can be in the interval if any point of the grid is, so testing both
decides the grid.
-/

set_option autoImplicit false

namespace EnclaveAudit

/-- The number `digits · 10 ^ exponent`. -/
structure Decimal where
  digits : Nat
  exponent : Int
  deriving DecidableEq, Repr

namespace Decimal

/-- Trailing zeros of the digits moved into the exponent, as far as the fuel goes. -/
def strip : (fuel : Nat) → Decimal → Decimal
  | 0, d => d
  | fuel + 1, d =>
    if d.digits % 10 = 0 ∧ d.digits ≠ 0 then strip fuel ⟨d.digits / 10, d.exponent + 1⟩ else d

end Decimal

namespace Scaled

/-- Compares `digits · 10 ^ exponent` with `quarters · 2 ^ (q - 2)`, by cross multiplication. -/
def compareDecimal (q : Int) (d : Decimal) (quarters : Nat) : Ordering :=
  let decimal := if 0 ≤ d.exponent then d.digits * tenTo d.exponent.toNat else d.digits
  let binary := if 2 ≤ q then quarters * twoTo (q - 2).toNat else quarters
  let decimalScale := if 0 ≤ d.exponent then 1 else tenTo (-d.exponent).toNat
  let binaryScale := if 2 ≤ q then 1 else twoTo (2 - q).toNat
  compare (decimal * binaryScale) (binary * decimalScale)

/-- Whether a decimal rounds to this float. Just above a power of two the neighbour below is only
half as far away. -/
def isReadFrom (x : Scaled) (d : Decimal) : Bool :=
  let below := if x.m = twoTo 52 ∧ -1074 < x.q then 4 * x.m - 1 else 4 * x.m - 2
  let above := 4 * x.m + 2
  let low := compareDecimal x.q d below
  let high := compareDecimal x.q d above
  (low == .gt || (low == .eq && x.m % 2 == 0)) && (high == .lt || (high == .eq && x.m % 2 == 0))

/-- `⌊x / 10 ^ k⌋`. -/
def floorGrid (x : Scaled) (k : Int) : Nat :=
  let (num, den) := x.toQuotient
  if 0 ≤ k then num / (den * tenTo k.toNat) else num * tenTo (-k).toNat / den

/-- How many digits stand before the decimal point: the least `k` with `x < 10 ^ k`, found near
the estimate that the binary logarithm gives. -/
def decimalPoint (x : Scaled) : Int :=
  let estimate := (x.q + x.m.log2) * 1233 / 4096
  (([-1, 0, 1, 2].map (estimate + ·)).find? fun k => x.floorGrid k = 0).getD (estimate + 3)

/-- The neighbour of `x` on the grid `10 ^ k` that rounds to `x`, if one does. -/
def onGrid (x : Scaled) (k : Int) : Option Decimal :=
  let below : Decimal := ⟨x.floorGrid k, k⟩
  let above : Decimal := ⟨below.digits + 1, k⟩
  match x.isReadFrom below, x.isReadFrom above with
  | true, true =>
    match compareDecimal x.q ⟨2 * below.digits + 1, k⟩ (8 * x.m) with
    | .gt => some below
    | .lt => some above
    | .eq => if below.digits % 2 = 0 then some below else some above
  | true, false => some below
  | false, true => some above
  | false, false => none

/-- The shortest decimal that rounds to `x`. Seventeen digits always suffice for a float; the last
resort is the floor on that grid. -/
def shortest (x : Scaled) : Decimal :=
  if x.m = 0 then ⟨0, 0⟩
  else
    let point := x.decimalPoint
    let found := (List.range 17).findSome? fun (n : Nat) => x.onGrid (point - (n + 1))
    (found.getD ⟨x.floorGrid (point - 17), point - 17⟩).strip 400

end Scaled

end EnclaveAudit
