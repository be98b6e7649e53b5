import EnclaveAudit.Number.Shortest

/-!
# `EnclaveAudit/Number/Layout.lean` — floats as text

Which digits a float has is settled in `Number/Shortest.lean`; where they stand is a convention of
the place that writes them. A `Layout` is that convention. The library has two: `Layout.literal`
for values quoted in messages, `Layout.json` for documents. They differ in the words for what is
not a finite number, and in nothing else.
-/

set_option autoImplicit false

namespace EnclaveAudit

/-- How floats are written. -/
structure Layout where
  /-- the least decimal exponent written positionally -/
  leastPositional : Int
  /-- the least decimal exponent above the positional ones -/
  leastScientific : Int
  /-- least number of digits of a written exponent -/
  exponentDigits : Nat
  nan : String
  infinity : String

namespace Layout

/-- Positional from a ten-thousandth up to sixteen digits, and words in lower case. -/
def literal : Layout := ⟨-4, 16, 2, "nan", "inf"⟩

/-- The same digits with the words that documents use. -/
def json : Layout := { literal with nan := "NaN", infinity := "Infinity" }

/-- `count` zeros as text. -/
def zeroes (count : Nat) : String := String.ofList (List.replicate count '0')

/-- Digits and point of a decimal without a written exponent; whole numbers end in one zero. -/
def positional (digits : String) (point : Int) : String :=
  let count := digits.length
  if point ≤ 0 then "0." ++ zeroes (-point).toNat ++ digits
  else if (count : Int) ≤ point then digits ++ zeroes (point.toNat - count) ++ ".0"
  else (digits.take point.toNat).toString ++ "." ++ (digits.drop point.toNat).toString

/-- One digit, the others after a point, and the exponent with its sign. -/
def scientific (layout : Layout) (digits : String) (exponent : Int) : String :=
  let written := toString exponent.natAbs
  let width := zeroes (layout.exponentDigits - written.length)
  let fraction := if digits.length = 1 then "" else "." ++ (digits.drop 1).toString
  (digits.take 1).toString ++ fraction ++ (if exponent < 0 then "e-" else "e+") ++ width ++ written

/-- A decimal in this layout. -/
def decimal (layout : Layout) (d : Decimal) : String :=
  let digits := toString d.digits
  let point : Int := d.exponent + digits.length
  if layout.leastPositional ≤ point - 1 ∧ point - 1 < layout.leastScientific then
    positional digits point
  else layout.scientific digits (point - 1)

/-- A float in this layout: the shortest digits that identify it. -/
def float (layout : Layout) (bits : UInt64) : String :=
  match Binary64.meaning bits with
  | .nan => layout.nan
  | .infinite negative => (if negative then "-" else "") ++ layout.infinity
  | .finite negative x => (if negative then "-" else "") ++ layout.decimal x.shortest

end Layout

end EnclaveAudit
