import EnclaveAudit.Calendar.Day

/-!
# `EnclaveAudit/Calendar/Moment.lean` — days with a time

A moment is a day, a time of it to the microsecond, and how far the clocks that show it are from
universal time, if that is known. A message gives one as seconds since 1970, whole or as a float,
or as text: a day, any one character, and a time, which may stop after the hours or the minutes, may
have a fraction, and may be followed by an offset written like a time.
-/

set_option autoImplicit false

namespace EnclaveAudit

/-- A day with a time. -/
structure Moment where
  day : Day
  hour : Nat := 0
  minute : Nat := 0
  second : Nat := 0
  microsecond : Nat := 0
  /-- the offset from universal time in microseconds, if it is known -/
  offset : Option Int := none
  deriving DecidableEq, Repr, Inhabited

namespace Moment

/-! ## Since 1970 -/

/-- Microseconds of a day. -/
def dayLength : Int := 86400000000

/-- The moment that comes so many microseconds after the start of 1970, if there is one. -/
def ofMicroseconds? (t : Int) : Option Moment := do
  let days := t.fdiv dayLength
  let rest := (t - days * dayLength).toNat
  let day ← Day.ofEpoch? days
  pure {
    day, hour := rest / 3600000000, minute := rest / 60000000 % 60, second := rest / 1000000 % 60
    microsecond := rest % 1000000, offset := some 0 }

/-- The moment that comes so many seconds after the start of 1970, if there is one. The fraction is
rounded twice: as a float of microseconds, then to whole ones. -/
def ofFloat? (bits : UInt64) : Option Moment :=
  match Binary64.meaning bits with
  | .finite negative x =>
    let (num, den) := x.fraction.toQuotient
    let (num, den) := (Binary64.nearest (num * 1000000) den).toQuotient
    let magnitude : Int := (x.floor * 1000000 + roundQuotient num den : Nat)
    ofMicroseconds? (if negative then -magnitude else magnitude)
  | _ => none

/-- The microseconds since the start of 1970 that a clock without an offset would show. -/
def microseconds (m : Moment) : Int :=
  (m.day.number - Day.epochNumber) * dayLength +
    (((m.hour * 60 + m.minute) * 60 + m.second) * 1000000 + m.microsecond : Nat)

/-! ## Moments as text -/

/-- The length of the day at the front of octets, which is where the time is parted from it. A day
of the week that may be missing makes it a matter of what follows. -/
def dayWidth? (b : Bytes) : Option Nat :=
  let isDigitAt (i : Nat) : Bool := (b[i]?.bind Day.digit?).isSome
  if b.length < 7 then none
  else if b.length = 7 then some 7
  else if b[4]? = some Day.hyphen then
    if b[5]? = some Day.weekLetter then
      if b[8]? = some Day.hyphen then
        if b.length = 9 then none
        else if isDigitAt 10 then some 8
        else some 10
      else some 8
    else some 10
  else if b[4]? = some Day.weekLetter then
    let stop := 7 + ((b.drop 7).takeWhile fun c => (Day.digit? c).isSome).length
    if stop < 9 then some stop
    else if stop % 2 = 0 then some 7
    else some 8
  else some 8

/-- How many octets the character at the front has. -/
def characterWidth (b : UInt8) : Nat :=
  if b.toNat < 0x80 then 1
  else if b.toNat / 16 = 14 then 3
  else if b.toNat / 16 = 15 then 4
  else 2

/-- Hours, minutes, seconds and microseconds. -/
structure Clock where
  hour : Nat := 0
  minute : Nat := 0
  second : Nat := 0
  microsecond : Nat := 0

/-- The fraction of a second in microseconds, of which six digits count, and whether nothing but
digits follow. -/
def fraction? (b : Bytes) : Option (Nat × Bool) := do
  let counted := min b.length 6
  let (n, rest) ← Day.digits? counted 0 b
  pure (n * tenTo (6 - counted), rest.all fun c => (Day.digit? c).isSome)

/-- The parts of a time from its octets: those read already, whether colons part them, and how many
may follow. The answer tells whether all octets were used. -/
def parts? (separated : Bool) : (left : Nat) → List Nat → Bytes → Option (List Nat × Nat × Bool)
  | 0, soFar, b => do pure (soFar, ← fraction? b)
  | left + 1, soFar, b => do
    let (n, rest) ← Day.digits? 2 0 b
    let soFar := soFar ++ [n]
    let separated := if soFar.length = 1 then rest.head? == some 58 else separated
    match rest with
    | [] => pure (soFar, 0, true)
    | [_] => pure (soFar, 0, false)
    | c :: after =>
      if separated ∧ c = 58 then parts? separated left soFar after
      else if c = 46 ∨ c = 44 then do pure (soFar, ← fraction? after)
      else if separated then none
      else parts? separated left soFar rest

/-- The time that octets spell, and whether all of them were used. -/
def clock? (b : Bytes) : Option (Clock × Bool) := do
  let (parts, microsecond, complete) ← parts? true 3 [] b
  pure (⟨parts.getD 0 0, parts.getD 1 0, parts.getD 2 0, microsecond⟩, complete)

/-- The whole seconds that a time is after midnight. -/
def Clock.seconds (c : Clock) : Nat := (c.hour * 60 + c.minute) * 60 + c.second

/-- The offset after the time: a letter for none, or a sign and a time of less than a day. One of
less than a second is none. -/
def offset? : Bytes → Option (Option Int)
  | [] => some none
  | 90 :: rest => if rest.isEmpty then some (some 0) else none
  | sign :: b => do
    let (c, complete) ← clock? b
    let magnitude : Int := (c.seconds * 1000000 + c.microsecond : Nat)
    guard (complete ∧ magnitude < dayLength)
    pure (some (if c.seconds = 0 then 0 else if sign = Day.hyphen then -magnitude else magnitude))

/-- Whether an octet starts an offset. -/
def startsOffset (c : UInt8) : Bool := c == 43 || c == Day.hyphen || c == 90

/-- A day with the time that octets spell. Before an offset a time may have octets left over. -/
def withTime? (day : Day) (b : Bytes) : Option Moment := do
  let time := b.takeWhile (!startsOffset ·)
  let (c, complete) ← clock? time
  let offset ← offset? (b.drop time.length)
  guard (complete ∨ offset.isSome)
  guard (c.hour < 24 ∧ c.minute < 60 ∧ c.second < 60)
  pure ⟨day, c.hour, c.minute, c.second, c.microsecond, offset⟩

/-- The moment that a text spells. -/
def ofText? (s : String) : Option Moment := do
  let octets := Bytes.ofString s
  let width ← dayWidth? octets
  let day ← Day.read? (octets.take width)
  match octets.drop width with
  | [] => pure { day }
  | mark :: rest => withTime? day ((mark :: rest).drop (characterWidth mark))

/-! ## Moments in messages -/

/-- A length of time of less than a day in hours, minutes and, if there are any, seconds and
microseconds. -/
def clockText (microseconds : Nat) : String :=
  let seconds := microseconds / 1000000
  Day.padded 2 (seconds / 3600) ++ ":" ++ Day.padded 2 (seconds / 60 % 60) ++
    (if microseconds % 60000000 = 0 then "" else ":" ++ Day.padded 2 (seconds % 60)) ++
    (if microseconds % 1000000 = 0 then "" else "." ++ Day.padded 6 (microseconds % 1000000))

/-- The moment as text. -/
def text (m : Moment) : String :=
  m.day.text ++ "T" ++ Day.padded 2 m.hour ++ ":" ++ Day.padded 2 m.minute ++ ":" ++
    Day.padded 2 m.second ++
    (if m.microsecond = 0 then "" else "." ++ Day.padded 6 m.microsecond) ++
    match m.offset with
    | none => ""
    | some offset =>
      if offset = 0 then "Z" else (if offset < 0 then "-" else "+") ++ clockText offset.natAbs

/-- A length of time as it is quoted: days, and what is left in seconds and microseconds. -/
def lengthLiteral (microseconds : Int) : String :=
  let days := microseconds.fdiv dayLength
  let rest := (microseconds - days * dayLength).toNat
  let part (name : String) (n : Int) : List String :=
    if n = 0 then [] else [name ++ "=" ++ toString n]
  let parts := part "days" days ++ part "seconds" (rest / 1000000 : Nat) ++
    part "microseconds" (rest % 1000000 : Nat)
  "datetime.timedelta(" ++ (if parts.isEmpty then "0" else String.intercalate ", " parts) ++ ")"

/-- An offset as it is quoted. -/
def offsetLiteral (offset : Int) : String :=
  if offset = 0 then "datetime.timezone.utc"
  else "datetime.timezone(" ++ lengthLiteral offset ++ ")"

/-- The moment as it is quoted. Seconds are left out if there are none, microseconds as well. -/
def literal (m : Moment) : String :=
  let parts := [m.day.year, m.day.month, m.day.day, m.hour, m.minute] ++
    (if m.microsecond ≠ 0 then [m.second, m.microsecond]
      else if m.second ≠ 0 then [m.second]
      else [])
  "datetime.datetime(" ++ String.intercalate ", " (parts.map toString) ++
    (match m.offset with
      | some offset => ", tzinfo=" ++ offsetLiteral offset
      | none => "") ++ ")"

end Moment

end EnclaveAudit
