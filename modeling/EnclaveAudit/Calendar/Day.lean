import EnclaveAudit.Bytes
import EnclaveAudit.Clock

/-!
# `EnclaveAudit/Calendar/Day.lean` — days of the calendar

A day is a year from 1 to 9999, a month and a day of it. A message can give one as a number of days
since 1970 or as text: year, month and day, or year, week and day of the week, with hyphens between
the parts or without any. Text is read octet by octet, as nothing but digits, hyphens and one letter
can stand in it.

Days are also numbered from the first of January of the year 1, which is day 1 and a Monday.
-/

set_option autoImplicit false

namespace EnclaveAudit

/-- A day of the calendar. -/
structure Day where
  year : Nat
  month : Nat
  day : Nat
  deriving DecidableEq, Repr, Inhabited

namespace Day

/-! ## The calendar -/

/-- Whether a year has a leap day. -/
def isLeap (year : Nat) : Bool := year % 4 == 0 && (year % 100 != 0 || year % 400 == 0)

/-- How many days a month has. -/
def monthLength (year month : Nat) : Nat :=
  if month = 2 then (if isLeap year then 29 else 28)
  else if [4, 6, 9, 11].contains month then 30
  else 31

/-- The day of a year, a month and a day, if there is such a day. -/
def of? (year month day : Nat) : Option Day :=
  if 1 ≤ year ∧ year ≤ 9999 ∧ 1 ≤ month ∧ month ≤ 12 ∧ 1 ≤ day ∧ day ≤ monthLength year month then
    some ⟨year, month, day⟩
  else none

/-- The number of the first of January of 1970. -/
def epochNumber : Int := 719163

/-- The number of the first of January. -/
def firstOfYear (year : Nat) : Nat :=
  let before := year - 1
  before * 365 + before / 4 - before / 100 + before / 400 + 1

/-- The number of a day. -/
def number (d : Day) : Nat :=
  let before := (List.range (d.month - 1)).foldl (fun n m => n + monthLength d.year (m + 1)) 0
  firstOfYear d.year + before + d.day - 1

/-- The day that comes so many days after the first of January of 1970, if there is one. -/
def ofEpoch? (days : Int) : Option Day :=
  let (year, month, day) := Instant.civil days
  if 0 < year then of? year.toNat month.toNat day.toNat else none

/-- The number of the Monday of a year's first week, which is the week of the first Thursday. -/
def firstMonday (year : Nat) : Int :=
  let first : Int := firstOfYear year
  let weekday := (first + 6) % 7
  first - weekday + if 3 < weekday then 7 else 0

/-- The day of a week of a year, if the year has that week. -/
def ofWeek? (year week weekday : Nat) : Option Day :=
  let opening := firstOfYear year % 7
  let hasLongYear := opening == 4 || (opening == 3 && isLeap year)
  if 1 ≤ year ∧ year ≤ 9999 ∧ 1 ≤ week ∧ (week ≤ 52 ∨ (week = 53 ∧ hasLongYear)) ∧
      1 ≤ weekday ∧ weekday ≤ 7 then
    ofEpoch? (firstMonday year + (7 * (week - 1) + (weekday - 1) : Nat) - epochNumber)
  else none

/-! ## Days as text -/

/-- The value of an octet that is a decimal digit. -/
def digit? (b : UInt8) : Option Nat :=
  if 48 ≤ b.toNat ∧ b.toNat ≤ 57 then some (b.toNat - 48) else none

/-- The number that exactly `width` digits at the front spell, and what follows them. -/
def digits? : (width : Nat) → (soFar : Nat) → Bytes → Option (Nat × Bytes)
  | 0, n, b => some (n, b)
  | _ + 1, _, [] => none
  | width + 1, n, c :: b => do digits? width (10 * n + (← digit? c)) b

/-- A hyphen. -/
def hyphen : UInt8 := 45
/-- The letter of a week. -/
def weekLetter : UInt8 := 87

/-- What follows a hyphen, if one has to be there. -/
def skip? (isThere : Bool) : Bytes → Option Bytes
  | c :: b => if isThere then (if c = hyphen then some b else none) else some (c :: b)
  | [] => if isThere then none else some []

/-- The day that octets spell. What follows it is left alone, except that a week may be followed by
its weekday. -/
def read? (octets : Bytes) : Option Day := do
  let (year, b) ← digits? 4 0 octets
  let separated := b.head? == some hyphen
  let b := if separated then b.tail else b
  if b.head? = some weekLetter then
    let (week, b) ← digits? 2 0 b.tail
    if b.isEmpty then ofWeek? year week 1
    else
      let (weekday, _) ← digits? 1 0 (← skip? separated b)
      ofWeek? year week weekday
  else
    let (month, b) ← digits? 2 0 b
    let (day, _) ← digits? 2 0 (← skip? separated b)
    of? year month day

/-- The day that a text spells. -/
def ofText? (s : String) : Option Day :=
  let octets := Bytes.ofString s
  if [7, 8, 10].contains octets.length then read? octets else none

/-- A number in so many digits, with zeros in front. -/
def padded (width n : Nat) : String :=
  let digits := toString n
  String.ofList (List.replicate (width - digits.length) '0') ++ digits

/-- The day as text, with hyphens. -/
def text (d : Day) : String := padded 4 d.year ++ "-" ++ padded 2 d.month ++ "-" ++ padded 2 d.day

/-- The day as it is quoted in messages. -/
def literal (d : Day) : String :=
  "datetime.date(" ++ toString d.year ++ ", " ++ toString d.month ++ ", " ++ toString d.day ++ ")"

end Day

end EnclaveAudit
