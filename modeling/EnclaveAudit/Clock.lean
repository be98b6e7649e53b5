import EnclaveAudit.Number.Binary64

/-!
# `EnclaveAudit/Clock.lean` — points in time

A point in time is a number of microseconds since 1970. Reports show it as it is. Devices and log
lines do not: they take the time from a float of seconds, so what they show is the result of one
rounding, and of a second one when the float is multiplied. `milliseconds` is therefore not the
microseconds divided by a thousand, and can be one less.

Dates are those of the proleptic calendar, in universal time.
-/

set_option autoImplicit false

namespace EnclaveAudit

/-- A point in time, in microseconds since 1970. -/
abbrev Instant := Int

namespace Instant

/-! ## Through a float of seconds -/

/-- The magnitude of the float of seconds. -/
def seconds (t : Instant) : Scaled := Binary64.nearest t.natAbs 1000000

/-- A magnitude times a thousand, rounded to a float, without its fraction. -/
def thousandfold (x : Scaled) : Nat :=
  let (num, den) := x.toQuotient
  (Binary64.nearest (num * 1000) den).floor

/-- The sign of the time before a magnitude. -/
def signed (t : Instant) (magnitude : Nat) : Int := if t < 0 then -magnitude else magnitude

/-- The timestamp of a document: the float of milliseconds without its fraction. -/
def milliseconds (t : Instant) : Int := t.signed (thousandfold t.seconds)

/-- The second of a log line: the float of seconds, rounded down. -/
def logSecond (t : Instant) : Int :=
  if t < 0 ∧ ¬t.seconds.isWhole then -t.seconds.floor - 1 else t.signed t.seconds.floor

/-- The milliseconds of a log line: the fraction of the float of seconds, a thousandfold. -/
def logMillisecond (t : Instant) : Int := t.signed (thousandfold t.seconds.fraction)

/-! ## Dates -/

/-- Decimal digits, made up with zeros to a width. -/
def padded (width : Nat) (n : Int) : String :=
  let digits := toString n.natAbs
  (if n < 0 then "-" else "") ++
    String.ofList (List.replicate (width - digits.length - if n < 0 then 1 else 0) '0') ++ digits

/-- Year, month and day of a number of days since 1970. Years are counted from March, in eras of
four hundred, so that the leap day is the last of its year. -/
def civil (days : Int) : Int × Int × Int :=
  let shifted := days + 719468
  let era := shifted.fdiv 146097
  let dayOfEra := shifted - era * 146097
  let yearOfEra := (dayOfEra - dayOfEra / 1460 + dayOfEra / 36524 - dayOfEra / 146096) / 365
  let dayOfYear := dayOfEra - (365 * yearOfEra + yearOfEra / 4 - yearOfEra / 100)
  let march := (5 * dayOfYear + 2) / 153
  let day := dayOfYear - (153 * march + 2) / 5 + 1
  let month := if march < 10 then march + 3 else march - 9
  (yearOfEra + era * 400 + (if month ≤ 2 then 1 else 0), month, day)

/-- Date and time of a number of seconds since 1970: the year in so many digits at least, and a mark
between them. -/
def dateTime (yearWidth : Nat) (mark : String) (second : Int) : String :=
  let days := second.fdiv 86400
  let rest := second - days * 86400
  let (year, month, day) := civil days
  padded yearWidth year ++ "-" ++ padded 2 month ++ "-" ++ padded 2 day ++ mark ++
    padded 2 (rest / 3600) ++ ":" ++ padded 2 (rest / 60 % 60) ++ ":" ++ padded 2 (rest % 60)

/-- The time in a report: exact, without a fraction where there is none. -/
def iso (t : Instant) : String :=
  let second := t.fdiv 1000000
  let fraction := t - second * 1000000
  dateTime 4 "T" second ++ (if fraction = 0 then "" else "." ++ padded 6 fraction) ++ "Z"

/-- The time in a log document. The log makes up no digits for an early year. -/
def logStamp (t : Instant) : String := dateTime 0 "T" t.logSecond ++ "Z"

/-- The time at the front of a log line. -/
def logDate (t : Instant) : String :=
  dateTime 0 " " t.logSecond ++ "," ++ padded 3 t.logMillisecond

end Instant

end EnclaveAudit
