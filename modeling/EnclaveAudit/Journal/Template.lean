import EnclaveAudit.Number.Places
import EnclaveAudit.Wire.Literal

/-!
# `EnclaveAudit/Journal/Template.lean` — messages with places for values

A message can be given as a text with places in it and the values to fill them with. A place starts
with a percent sign and ends with a letter that says how the value is written; between the two it
can name an entry of a map, and say how the written value is made up to a width. A percent sign
right after another one makes no place: the two stand for one percent sign.

Reading a message never fails: `pieces` splits it, and a place that breaks off is a place without a
letter. Everything that can go wrong goes wrong when the places are filled, from left to right, and
the first thing that does is reported (`Mismatch`).
-/

set_option autoImplicit false

namespace EnclaveAudit

/-! ## Places -/

/-- A width or a precision: none, a number, or the next of the values. -/
inductive Extent where
  | unset
  | given (n : Nat)
  | taken
  deriving DecidableEq, Repr

/-- The entry that a place names. -/
inductive EntryName where
  | unnamed
  | named (key : String)
  /-- the name breaks off -/
  | unfinished
  deriving DecidableEq, Repr

/-- A place for a value. -/
structure Place where
  entry : EntryName
  flags : List Char
  width : Extent
  precision : Extent
  /-- the letter that says how the value is written, unless the place breaks off -/
  letter : Option Char
  /-- where the letter stands in the message -/
  position : Nat
  deriving DecidableEq, Repr

/-- A part of a message. -/
inductive Piece where
  | plain (c : Char)
  | place (p : Place)
  deriving DecidableEq, Repr

namespace Place

/-- A name up to the parenthesis that closes it, and what follows. -/
def closing : (depth : Nat) → List Char → Option (List Char × List Char)
  | _, [] => none
  | depth, c :: cs =>
    if c = ')' then
      match depth with
      | 0 => some ([], cs)
      | depth + 1 => (closing depth cs).map fun (name, rest) => (c :: name, rest)
    else (closing (if c = '(' then depth + 1 else depth) cs).map fun (name, rest) =>
      (c :: name, rest)

/-- The name of an entry, if one starts here. -/
def readName : List Char → EntryName × List Char
  | '(' :: cs =>
    match closing 0 cs with
    | some (name, rest) => (.named (String.ofList name), rest)
    | none => (.unfinished, [])
  | cs => (.unnamed, cs)

/-- A number or a star. -/
def readExtent (absent : Extent) : List Char → Extent × List Char
  | '*' :: cs => (.taken, cs)
  | cs =>
    match cs.takeWhile Char.isDigit with
    | [] => (absent, cs)
    | ds => (.given ((String.ofList ds).toNat?.getD 0), cs.dropWhile Char.isDigit)

/-- A precision, if one starts here. A point alone is a precision of zero. -/
def readPrecision : List Char → Extent × List Char
  | '.' :: cs => readExtent (.given 0) cs
  | cs => (.unset, cs)

/-- What follows a mark of size, which says nothing here. -/
def skipSize : List Char → List Char
  | 'h' :: cs | 'l' :: cs | 'L' :: cs => cs
  | cs => cs

/-- The place after a percent sign at `start - 1`, and how many characters it takes. -/
def read (start : Nat) (cs : List Char) : Place × Nat :=
  let (entry, rest) := readName cs
  let flags := rest.takeWhile "-+ #0".toList.contains
  let (width, rest) := readExtent .unset (rest.drop flags.length)
  let (precision, rest) := readPrecision rest
  let rest := skipSize rest
  let consumed := cs.length - rest.length
  (⟨entry, flags, width, precision, rest.head?, start + consumed⟩,
    if rest.isEmpty then consumed else consumed + 1)

/-- Whether the place has a flag. -/
def has (p : Place) (flag : Char) : Bool := p.flags.contains flag

end Place

/-- The pieces of a message, where `skip` characters belong to the piece before. -/
def piecesFrom : (skip start : Nat) → List Char → List Piece
  | _, _, [] => []
  | skip + 1, start, _ :: cs => piecesFrom skip (start + 1) cs
  | 0, start, c :: cs =>
    if c ≠ '%' then .plain c :: piecesFrom 0 (start + 1) cs
    else if cs.head? = some '%' then .plain c :: piecesFrom 1 (start + 1) cs
    else
      let (place, consumed) := Place.read (start + 1) cs
      .place place :: piecesFrom consumed (start + 1) cs

/-- The pieces of a message. -/
def pieces (message : String) : List Piece := piecesFrom 0 0 message.toList

/-! ## What can go wrong -/

/-- Why a message cannot be filled. -/
inductive Mismatch where
  | tooFew
  | tooMany
  | noMap
  | noEntry (key : String)
  | unfinishedName
  | unfinishedPlace
  | widthTooLarge
  | precisionTooLarge
  | extentNotInteger
  | unknownLetter (letter : Char) (position : Nat)
  | notNumber (letter : Char) (kind : String)
  | notInteger (letter : Char) (kind : String)
  | notReal (kind : String)
  | notCharacter
  | noSuchCharacter
  | nanAsInteger
  | infinityAsInteger
  | integerAsFloat
  deriving DecidableEq, Repr

namespace Mismatch

/-- A code point in hexadecimal, without zeros in front. -/
def codePoint (c : Char) : String := String.ofList (Nat.toDigits 16 c.toNat)

/-- What is said about it. -/
def message : Mismatch → String
  | .tooFew => "not enough arguments for format string"
  | .tooMany => "not all arguments converted during string formatting"
  | .noMap => "format requires a mapping"
  | .noEntry key => Text.quoted key
  | .unfinishedName => "incomplete format key"
  | .unfinishedPlace => "incomplete format"
  | .widthTooLarge => "width too big"
  | .precisionTooLarge => "precision too big"
  | .extentNotInteger => "* wants int"
  | .unknownLetter c position =>
    "unsupported format character '" ++
      (if 31 ≤ c.toNat ∧ c.toNat < 127 then c.toString else "?") ++ "' (0x" ++ codePoint c ++
      ") at index " ++ toString position
  | .notNumber c kind => "%" ++ c.toString ++ " format: a real number is required, not " ++ kind
  | .notInteger c kind => "%" ++ c.toString ++ " format: an integer is required, not " ++ kind
  | .notReal kind => "must be real number, not " ++ kind
  | .notCharacter => "%c requires int or char"
  | .noSuchCharacter => "%c arg not in range(0x110000)"
  | .nanAsInteger => "cannot convert float NaN to integer"
  | .infinityAsInteger => "cannot convert float infinity to integer"
  | .integerAsFloat => "int too large to convert to float"

end Mismatch

/-! ## Writing a value -/

/-- A written value before it is made up to a width. -/
structure Figure where
  sign : String := ""
  base : String := ""
  body : String
  numeric : Bool := false

namespace Figure

/-- So many of one character. -/
def fill (count : Nat) (c : Char) : String := String.ofList (List.replicate count c)

/-- The value made up to a width: by blanks at its end, by zeros after its sign, or by blanks in
front. -/
def padded (f : Figure) (width : Nat) (left zeros : Bool) : String :=
  let missing := width - (f.sign.length + f.base.length + f.body.length)
  if left then f.sign ++ f.base ++ f.body ++ fill missing ' '
  else if zeros && f.numeric then f.sign ++ f.base ++ fill missing '0' ++ f.body
  else fill missing ' ' ++ f.sign ++ f.base ++ f.body

end Figure

namespace Place

/-- The sign in front of a number. -/
def signOf (p : Place) (negative : Bool) : String :=
  if negative then "-" else if p.has '+' then "+" else if p.has ' ' then " " else ""

/-- A text cut to a precision. -/
def cut (precision : Option Nat) (s : String) : Figure :=
  match precision with
  | some n => { body := (s.take n).toString }
  | none => { body := s }

/-- A text with every character beyond the first 128 spelled out. -/
def ascii (s : String) : String :=
  String.ofList (s.toList.flatMap fun c => if c.toNat < 0x80 then [c] else Text.escapeCode c.toNat)

/-- The whole number that a value has, for a letter that drops a fraction. -/
def wholeOf (letter : Char) : Value → Except Mismatch Int
  | .int n => .ok n
  | .bool b => .ok (if b then 1 else 0)
  | .float bits =>
    match Binary64.meaning bits with
    | .nan => .error .nanAsInteger
    | .infinite _ => .error .infinityAsInteger
    | .finite negative x => .ok (if negative then -(x.floor : Int) else x.floor)
  | v => .error (.notNumber letter v.kindName)

/-- The integer that a value is. -/
def integerOf (letter : Char) : Value → Except Mismatch Int
  | .int n => .ok n
  | .bool b => .ok (if b then 1 else 0)
  | v => .error (.notInteger letter v.kindName)

/-- An integer in a base, with at least as many digits as the precision says. -/
def integer (p : Place) (base : Nat) (mark : String) (precision : Option Nat) (n : Int) : Figure :=
  { sign := p.signOf (n < 0)
    base := if p.has '#' then mark else ""
    body := String.ofList (
      let ds := Nat.toDigits base n.natAbs
      List.replicate (precision.getD 0 - ds.length) '0' ++ ds)
    numeric := true }

/-- What a value denotes as a float. -/
def realOf : Value → Except Mismatch Binary64.Meaning
  | .float bits => .ok (Binary64.meaning bits)
  | .bool b => .ok (.finite false ⟨if b then 1 else 0, 0⟩)
  | .int n =>
    let x := Binary64.nearest n.natAbs 1
    if 1024 ≤ x.q + x.m.log2 then .error .integerAsFloat else .ok (.finite (n < 0) x)
  | v => .error (.notReal v.kindName)

/-- A float with so many digits. -/
def real (p : Place) (places : Places) (m : Binary64.Meaning) : Figure :=
  match m with
  | .nan => { sign := p.signOf false, body := "nan", numeric := true }
  | .infinite negative => { sign := p.signOf negative, body := "inf", numeric := true }
  | .finite negative x =>
    { sign := p.signOf negative, body := places.text (p.has '#') x, numeric := true }

/-- The character that a value is, or is the code point of. -/
def characterOf : Value → Except Mismatch Char
  | .text s =>
    match s.toList with
    | [c] => .ok c
    | _ => .error .notCharacter
  | .int n =>
    if 0 ≤ n ∧ n < 0x110000 then .ok (Char.ofNat n.toNat) else .error .noSuchCharacter
  | .bool b => .ok (Char.ofNat (if b then 1 else 0))
  | _ => .error .notCharacter

/-- A figure in capital letters. -/
def capital (f : Figure) : Figure :=
  { f with base := f.base.map Char.toUpper, body := f.body.map Char.toUpper }

/-- A value as the letter of its place says. -/
def write (p : Place) (letter : Char) (precision : Option Nat) (v : Value) :
    Except Mismatch Figure :=
  let places := precision.getD 6
  match letter with
  | 's' => .ok (cut precision v.inWords)
  | 'r' => .ok (cut precision v.literal)
  | 'a' => .ok (cut precision (ascii v.literal))
  | 'd' | 'i' | 'u' => p.integer 10 "" precision <$> wholeOf letter v
  | 'o' => p.integer 8 "0o" precision <$> integerOf letter v
  | 'x' => p.integer 16 "0x" precision <$> integerOf letter v
  | 'X' => (fun n => capital (p.integer 16 "0x" precision n)) <$> integerOf letter v
  | 'f' => p.real (.fixed places) <$> realOf v
  | 'F' => (fun m => capital (p.real (.fixed places) m)) <$> realOf v
  | 'e' => p.real (.scientific places) <$> realOf v
  | 'E' => (fun m => capital (p.real (.scientific places) m)) <$> realOf v
  | 'g' => p.real (.general places) <$> realOf v
  | 'G' => (fun m => capital (p.real (.general places) m)) <$> realOf v
  | 'c' => (fun c => { body := c.toString }) <$> characterOf v
  | c => .error (.unknownLetter c p.position)

end Place

/-! ## Filling a message -/

/-- The values that are left, and the map whose entries can be named. -/
structure Supply where
  values : List Value
  entries : Option (List (Value × Value)) := none

namespace Supply

/-- The values that a message is given. A map alone, unless it is empty, is one whose entries can be
named. -/
def ofArguments : List Value → Supply
  | [.map (entry :: entries)] => ⟨[.map (entry :: entries)], some (entry :: entries)⟩
  | values => ⟨values, none⟩

/-- The next value. -/
def next (s : Supply) : Except Mismatch (Value × Supply) :=
  match s.values with
  | [] => .error .tooFew
  | v :: values => .ok (v, { s with values })

/-- The supply of a place: what is left, or the one entry that the place names. -/
def narrowed (s : Supply) : EntryName → Except Mismatch Supply
  | .unnamed => .ok s
  | .named key =>
    match s.entries with
    | none => .error .noMap
    | some entries =>
      match Value.lookup? key entries with
      | some v => .ok { s with values := [v] }
      | none => .error (.noEntry key)
  | .unfinished => .error (if s.entries.isNone then .noMap else .unfinishedName)

/-- A width or a precision, which may take a value and must stay below a limit. -/
def extent (s : Supply) (limit : Nat) (tooLarge : Mismatch) :
    Extent → Except Mismatch (Option Int × Supply)
  | .unset => .ok (none, s)
  | .given n => if limit ≤ n then .error tooLarge else .ok (some n, s)
  | .taken => do
    let (v, s) ← s.next
    match v with
    | .int n => if limit ≤ n.natAbs then .error tooLarge else pure (some n, s)
    | .bool b => pure (some (if b then 1 else 0), s)
    | _ => .error .extentNotInteger

/-- Fills one place. A negative width means one from the left. -/
def fillPlace (s : Supply) (p : Place) : Except Mismatch (String × Supply) := do
  let s ← s.narrowed p.entry
  let (width, s) ← s.extent 0x8000000000000000 .widthTooLarge p.width
  let (precision, s) ← s.extent 0x80000000 .precisionTooLarge p.precision
  match p.letter with
  | none => .error .unfinishedPlace
  | some letter =>
    let (v, s) ← s.next
    let figure ← p.write letter (precision.map Int.toNat) v
    let left := p.has '-' || (width.getD 0 < 0 : Bool)
    pure (figure.padded (width.getD 0).natAbs left (p.has '0'), s)

/-- Fills the pieces of a message. Values may be left over only where a map was given. -/
def fillPieces (s : Supply) : List Piece → Except Mismatch (List Char)
  | [] => if s.values.isEmpty || s.entries.isSome then .ok [] else .error .tooMany
  | .plain c :: rest => do pure (c :: (← s.fillPieces rest))
  | .place p :: rest => do
    let (text, s) ← s.fillPlace p
    pure (text.toList ++ (← s.fillPieces rest))

end Supply

/-- A message with its places filled. Without values it has no places: it stands as it is. -/
def fillMessage (message : String) (arguments : List Value) : Except Mismatch String :=
  match arguments with
  | [] => .ok message
  | arguments => String.ofList <$> (Supply.ofArguments arguments).fillPieces (pieces message)

end EnclaveAudit
