import EnclaveAudit.Suite.Complaint
import EnclaveAudit.Suite.Parameters
import EnclaveAudit.Text.Blank

/-!
# `EnclaveAudit/Suite/Reading.lean` — parameters from what users give

Users give parameters as values of any kind, from a program or from the environment. Reading them is
lenient about the kind and strict about the value: a text that spells an integer is one, a number of
any kind that has no fraction is one, and neither is let past a bound. Every parameter is read, so all
that is wrong is said at once: the parameters in their order, then those that there are not.
-/

set_option autoImplicit false

namespace EnclaveAudit.Parameters

/-! ## Integers -/

/-- The most characters that an integer is read from. -/
def numeralLimit : Nat := 4300

/-- The number that decimal digits spell. -/
def ofDigits (digits : List Char) : Nat := digits.foldl (fun n c => 10 * n + (c.toNat - 48)) 0

/-- What characters are as a plain numeral: digits without a useless zero in front, and a hyphen
before them if the number is negative. -/
inductive Numeral where
  | value (n : Int)
  | oversized
  | none
  deriving DecidableEq, Repr

namespace Numeral

/-- The digits of a numeral that may have a hyphen. -/
def unsigned : List Char → List Char
  | '-' :: digits => digits
  | digits => digits

/-- Reads a plain numeral. Too many digits in front are too many whatever comes after them. -/
def read (cs : List Char) : Numeral :=
  let digits := unsigned cs
  let sign : Int := if digits.length < cs.length then -1 else 1
  let run := digits.takeWhile Char.isDigit
  match digits with
  | ['0'] => .value 0
  | '0' :: _ => .none
  | _ =>
    if run.isEmpty then .none
    else if numeralLimit < cs.length - digits.length + run.length then .oversized
    else if run.length = digits.length then .value (sign * ofDigits digits)
    else .none

end Numeral

/-- Digits without the zeros in front of them, and without low lines among those zeros; `last` is the
last character that was passed over. One zero stays if nothing but a fraction follows. A hyphen may
follow as well as a digit. -/
def afterZero (last : Char) : List Char → Option (List Char)
  | [] => some [last]
  | c :: cs =>
    if c = '0' ∨ c = '_' then afterZero c cs
    else if c = '.' then some (last :: c :: cs)
    else if c = '-' ∨ c.isDigit then some (c :: cs)
    else none

/-- The same for digits that may start with a zero. -/
def withoutZeros : List Char → Option (List Char)
  | '0' :: cs => afterZero '0' cs
  | c :: cs => if c.isDigit then some (c :: cs) else none
  | [] => none

/-- Digits without a fraction of zeros. -/
def withoutFraction (cs : List Char) : List Char :=
  match cs.dropWhile (· ≠ '.') with
  | '.' :: '0' :: zeros => if zeros.all (· == '0') then cs.takeWhile (· ≠ '.') else cs
  | _ => cs

/-- Whether two low lines stand side by side. -/
def hasDoubleLine : List Char → Bool
  | '_' :: '_' :: _ => true
  | _ :: cs => hasDoubleLine cs
  | [] => false

/-- Digits without the single low lines between them. -/
def withoutLines (cs : List Char) : List Char :=
  if cs.head? = some '_' ∨ cs.getLast? = some '_' ∨ hasDoubleLine cs then cs
  else cs.filter (· ≠ '_')

/-- The plain numeral that characters are meant to be: without blanks at the ends, a plus sign,
zeros in front, a fraction of zeros and low lines between digits. -/
def tidied? (cs : List Char) : Option (List Char) :=
  let tidy (digits : List Char) := (withoutZeros digits).map (withoutLines ∘ withoutFraction)
  match Text.trim cs with
  | '-' :: digits => (tidy digits).map ('-' :: ·)
  | '+' :: digits => tidy digits
  | digits => tidy digits

/-- The integer that a text spells. Only a plain numeral can be found too long for one: what has to
be tidied first is an integer or is not. -/
def readDecimal (s : String) : Except Complaint Int :=
  match Numeral.read s.toList with
  | .value n => .ok n
  | .oversized => .error .oversizedInteger
  | .none =>
    match (tidied? s.toList).map Numeral.read with
    | some (.value n) => .ok n
    | _ => .error .unreadableInteger

/-- The integer that a float is, by what the float denotes. -/
def readWhole : Binary64.Meaning → Except Complaint Int
  | .nan | .infinite _ => .error .notFinite
  | .finite negative x =>
    if !x.isWhole then .error .fractional
    else if twoTo 63 ≤ x.floor then .error .oversizedInteger
    else .ok (if negative then -x.floor else x.floor)

/-- The integer that a number known exactly is. However large, it is not too large. -/
def readExact (x : Rat) : Except Complaint Int :=
  if x.den = 1 then .ok x.num else .error .fractional

/-- The integer that a value stands for. -/
def readInteger : Value → Except Complaint Int
  | .bool b => .ok (if b then 1 else 0)
  | .int n => .ok n
  | .float bits => readWhole (Binary64.meaning bits)
  | .denoted d =>
    match d.rational? with
    | some x => readExact x
    | none => .error .notInteger
  | .text s => readDecimal s
  | .bytes b =>
    match b.toString? with
    | some s => readDecimal s
    | none => .error .unreadableInteger
  | _ => .error .notInteger

/-- An integer of at least `least`. -/
def readFrom (least : Nat) (v : Value) : Except Complaint {n : Nat // least ≤ n} :=
  match readInteger v with
  | .error complaint => .error complaint
  | .ok n =>
    if h : (least : Int) ≤ n then .ok ⟨n.toNat, by omega⟩ else .error (.tooSmall least)

/-- An integer of at least `least` and at most `most`. -/
def readBetween (least most : Nat) (v : Value) :
    Except Complaint {n : Nat // least ≤ n ∧ n ≤ most} :=
  match readFrom least v with
  | .error complaint => .error complaint
  | .ok ⟨n, h⟩ => if h' : n ≤ most then .ok ⟨n, h, h'⟩ else .error (.tooLarge most)

/-! ## Octets and truth values -/

/-- The octets that a value stands for, if there are any. -/
def readOctets (v : Value) : Except Complaint {b : Bytes // b ≠ []} :=
  let some? (b : Bytes) : Except Complaint {b : Bytes // b ≠ []} :=
    if h : b ≠ [] then .ok ⟨b, h⟩ else .error .noOctets
  match v with
  | .bytes b => some? b
  | .text s => some? (Bytes.ofString s)
  | _ => .error .notOctets

/-- The words for the truth values, in small letters. -/
def truthWords : List (String × Bool) := [
  ("0", false), ("off", false), ("f", false), ("false", false), ("n", false), ("no", false),
  ("1", true), ("on", true), ("t", true), ("true", true), ("y", true), ("yes", true)]

/-- The truth value of a word, in any mixture of letters. -/
def readTruthWord (s : String) : Except Complaint Bool :=
  match truthWords.lookup (String.ofList (s.toList.map Char.toLower)) with
  | some b => .ok b
  | none => .error .unreadableTruth

/-- The truth value of an integer: zero and one have one, larger ones up to 64 bits might have been
meant as one, and beyond that none is. -/
def readTruthNumber (n : Int) : Except Complaint Bool :=
  if n = 0 then .ok false
  else if n = 1 then .ok true
  else if -(twoTo 63 : Int) ≤ n ∧ n < (twoTo 63 : Int) then .error .unreadableTruth
  else .error .notTruth

/-- The truth value of a float. -/
def readTruthFloat (x : Binary64.Meaning) : Except Complaint Bool :=
  match readWhole x with
  | .ok n => readTruthNumber n
  | .error _ => .error .notTruth

/-- The truth value that a value stands for. A number that is known exactly has that of the float
nearest to it, which may be one where the number is not. -/
def readTruth : Value → Except Complaint Bool
  | .bool b => .ok b
  | .int n => readTruthNumber n
  | .float bits => readTruthFloat (Binary64.meaning bits)
  | .denoted d =>
    match d.rational? with
    | some x => readTruthFloat (Binary64.round x)
    | none => .error .notTruth
  | .text s => readTruthWord s
  | .bytes b =>
    match b.toString? with
    | some s => readTruthWord s
    | none => .error .unreadableTruth
  | _ => .error .notTruth

/-! ## All of them -/

/-- The names that there are. -/
def names : List String := default.fields.map Prod.fst

/-- One parameter: what was given for it, or its default. -/
def readField {α : Type} (given : List (String × Value)) (name : String) (default : α)
    (read : Value → Except Complaint α) : Except Problem α :=
  match given.lookup name with
  | none => .ok default
  | some v =>
    match read v with
    | .ok a => .ok a
    | .error complaint => .error ⟨name, complaint, v⟩

/-- The problem of a parameter, if it has one. -/
def problem? {α : Type} : Except Problem α → List Problem
  | .ok _ => []
  | .error p => [p]

/-- Parameters from what was given for some of them. -/
def read (given : List (String × Value)) : Except (List Problem) Parameters :=
  let extendRounds :=
    readField given "extend_rounds" ⟨default.extendRounds, default.extendRounds_pos⟩ (readFrom 1)
  let readRounds :=
    readField given "read_rounds" ⟨default.readRounds, default.readRounds_pos⟩ (readFrom 1)
  let relockAttempts :=
    readField given "relock_attempts" ⟨default.relockAttempts, default.relockAttempts_pos⟩
      (readFrom 1)
  let randomSamples :=
    readField given "random_samples" ⟨default.randomSamples, default.two_le_randomSamples⟩
      (readFrom 2)
  let randomLength :=
    readField given "random_length"
      ⟨default.randomLength, default.randomLength_pos, default.randomLength_le⟩
      (readBetween 1 randomChunk)
  let attestationDataLength :=
    readField given "attestation_data_len"
      ⟨default.attestationDataLength, default.attestationDataLength_pos,
        default.attestationDataLength_le⟩
      (readBetween 1 attestationDataLimit)
  let maxDocumentSize :=
    readField given "max_document_size" ⟨default.maxDocumentSize, default.maxDocumentSize_pos⟩
      (readFrom 1)
  let extendInput :=
    readField given "extend_input" ⟨default.extendInput, default.extendInput_ne_nil⟩ readOctets
  let attestAtBoot := readField given "attest_at_boot" default.attestAtBoot readTruth
  let unknown := given.filter fun field => !names.contains field.1
  match extendRounds, readRounds, relockAttempts, randomSamples, randomLength,
    attestationDataLength, maxDocumentSize, extendInput, attestAtBoot, unknown with
  | .ok ⟨extendRounds, h₁⟩, .ok ⟨readRounds, h₂⟩, .ok ⟨relockAttempts, h₃⟩,
    .ok ⟨randomSamples, h₄⟩, .ok ⟨randomLength, h₅, h₆⟩, .ok ⟨attestationDataLength, h₇, h₈⟩,
    .ok ⟨maxDocumentSize, h₉⟩, .ok ⟨extendInput, h₁₀⟩, .ok attestAtBoot, [] =>
    .ok ⟨extendRounds, readRounds, relockAttempts, randomSamples, randomLength,
      attestationDataLength, maxDocumentSize, extendInput, attestAtBoot,
      h₁, h₂, h₃, h₄, h₅, h₆, h₇, h₈, h₉, h₁₀⟩
  | _, _, _, _, _, _, _, _, _, _ =>
    .error (problem? extendRounds ++ problem? readRounds ++ problem? relockAttempts ++
      problem? randomSamples ++ problem? randomLength ++ problem? attestationDataLength ++
      problem? maxDocumentSize ++ problem? extendInput ++ problem? attestAtBoot ++
      unknown.map fun field => ⟨field.1, .unknown, field.2⟩)

end EnclaveAudit.Parameters
