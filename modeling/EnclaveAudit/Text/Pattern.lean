import EnclaveAudit.Text.Blank
import EnclaveAudit.Text.Digit
import EnclaveAudit.Text.Identifier
import EnclaveAudit.Text.Quoted

/-!
# `EnclaveAudit/Text/Pattern.lean` — which texts are search patterns

A message can hold a search pattern. It is never searched with here, but a text that is no pattern is
refused, and a pattern is quoted with the options that it starts with. So this file reads patterns
and keeps of each part only what decides whether the whole is one: whether a repetition may follow
it, and how many characters it can match, as what is looked for behind a place has to have one
length.

A pattern is read as *marks*, single characters or a character with a backslash before it. Groups
nest, so reading is a recursion on fuel: each mark takes three steps at most.

In two points this is more generous than a search needs. A character can be given by its name, and
any text that could be a name is taken for one, as the names of all characters are not listed here.
And groups nest to any depth, while a machine stops at some depth or other, where its stack ends.
-/

set_option autoImplicit false

namespace EnclaveAudit.Pattern

/-! ## Marks -/

/-- A character of a pattern, or one with a backslash before it. -/
inductive Mark where
  | plain (c : Char)
  | escaped (c : Char)
  deriving DecidableEq, Repr

/-- The marks of a text. A backslash at the end belongs to none. -/
def marks? : List Char → Option (List Mark)
  | [] => some []
  | ['\\'] => none
  | '\\' :: c :: rest => do pure (.escaped c :: (← marks? rest))
  | c :: rest => do pure (.plain c :: (← marks? rest))

/-! ## What is known about a part -/

/-- The least and the greatest number of characters that a part matches. -/
structure Extent where
  least : Nat
  greatest : Nat
  deriving DecidableEq, Repr

namespace Extent

/-- Stands for any number of characters. -/
def unbounded : Nat := 0x10000000000000000

/-- No character. -/
def none : Extent := ⟨0, 0⟩
/-- One character. -/
def one : Extent := ⟨1, 1⟩

/-- One part after the other. -/
def andThen (a b : Extent) : Extent :=
  ⟨min (a.least + b.least) unbounded, min (a.greatest + b.greatest) unbounded⟩

/-- One part or the other. -/
def orElse (a b : Extent) : Extent := ⟨min a.least b.least, max a.greatest b.greatest⟩

/-- A part repeated; without an upper end if there is no greatest number. -/
def repeated (a : Extent) (least : Nat) (greatest : Option Nat) : Extent :=
  ⟨min (a.least * least) unbounded,
    match greatest with
    | some n => min (a.greatest * n) unbounded
    | .none => if a.greatest = 0 then 0 else unbounded⟩

end Extent

/-- What kind of part comes last, for a repetition after it. -/
inductive Last where
  | nothing
  /-- a place and no character -/
  | place
  | repetition
  | part
  deriving DecidableEq, Repr

/-- A sequence of parts: how much it matches up to the last part, that part, and its kind. -/
structure Sequence where
  before : Extent := .none
  extent : Extent := .none
  last : Last := .nothing

namespace Sequence

/-- The sequence with one more part. -/
def add (s : Sequence) (last : Last) (extent : Extent) : Sequence :=
  ⟨s.before.andThen s.extent, extent, last⟩

/-- How much the sequence matches. -/
def total (s : Sequence) : Extent := s.before.andThen s.extent

end Sequence

/-- What is known about a pattern while it is read. -/
structure Known where
  rest : List Mark
  /-- how much each group matches, from the first; nothing as long as it is open -/
  groups : List (Option Extent) := []
  names : List (String × Nat) := []
  /-- how many groups there were before what is looked for behind a place -/
  behind : Option Nat := none
  /-- the groups that a condition asks for by number -/
  asked : List Nat := []
  /-- whether anything is repeated, which a template must not have -/
  repeats : Bool := false
  options : List Char := []

/-- A step of reading. -/
abbrev Step := StateT Known Option

/-- Gives up: the text is no pattern. -/
def refuse {α : Type} : Step α := fun _ => none

/-- Goes on only if something holds. -/
def require (holds : Bool) : Step Unit := if holds then pure () else refuse

/-- The next mark, left where it is. -/
def peek : Step (Option Mark) := do pure (← get).rest.head?

/-- The next mark, if there is one. -/
def next : Step (Option Mark) := do
  let k ← get
  set { k with rest := k.rest.tail }
  pure k.rest.head?

/-- Skips a character, if it comes next. -/
def skip (c : Char) : Step Bool := do
  if (← peek) = some (.plain c) then let _ ← next; pure true else pure false

/-- A character that has to come next. -/
def close : Step Unit := do require (← skip ')')

/-- Plain characters of a class, at most so many. -/
def run (inClass : Char → Bool) : (most : Nat) → Step (List Char)
  | 0 => pure []
  | most + 1 => do
    match ← peek with
    | some (.plain c) =>
      if inClass c then
        let _ ← next
        pure (c :: (← run inClass most))
      else pure []
    | _ => pure []

/-- The text before a character, which is skipped. It may not be empty. -/
def before (stop : Char) : Step String := do
  let k ← get
  let name := k.rest.takeWhile (· ≠ .plain stop)
  require (!name.isEmpty && name.length < k.rest.length)
  set { k with rest := k.rest.drop (name.length + 1) }
  pure (String.ofList (name.flatMap fun
    | .plain c => [c]
    | .escaped c => ['\\', c]))

/-! ## Characters -/

/-- Whether a character is a decimal digit. -/
def isDigit (c : Char) : Bool := '0' ≤ c && c ≤ '9'

/-- Whether a character is an octal digit. -/
def isOctal (c : Char) : Bool := '0' ≤ c && c ≤ '7'

/-- Whether a character is a hexadecimal digit. -/
def isHexadecimal (c : Char) : Bool :=
  isDigit c || ('a' ≤ c && c ≤ 'f') || ('A' ≤ c && c ≤ 'F')

/-- Whether a character is a letter without an accent. -/
def isLetter (c : Char) : Bool := ('a' ≤ c && c ≤ 'z') || ('A' ≤ c && c ≤ 'Z')

/-- The number that digits spell. -/
def number (base : Nat) (digits : List Char) : Nat :=
  digits.foldl (fun n c =>
    base * n + if isDigit c then c.toNat - 48 else (c.toNat ||| 32) - 87) 0

/-- A character that is written with a backslash and a letter. -/
def control? : Char → Option Nat
  | 'a' => some 7
  | 'b' => some 8
  | 't' => some 9
  | 'n' => some 10
  | 'v' => some 11
  | 'f' => some 12
  | 'r' => some 13
  | '\\' => some 92
  | _ => none

/-- Whether a letter with a backslash stands for a class of characters. -/
def isClass (c : Char) : Bool := "dDsSwW".toList.contains c

/-- So many hexadecimal digits, as a number. -/
def hexadecimal (count : Nat) : Step Nat := do
  let digits ← run isHexadecimal count
  require (digits.length = count)
  pure (number 16 digits)

/-- Whether a character may stand in the name of one. -/
def inCharacterName (c : Char) : Bool := isLetter c || isDigit c || c == ' ' || c == '-'

/-- A character that is named by its number, or by its name. Names are not looked up. -/
def named (c : Char) : Step Nat := do
  match c with
  | 'x' => hexadecimal 2
  | 'u' => hexadecimal 4
  | 'U' =>
    let n ← hexadecimal 8
    require (n ≤ 0x10FFFF)
    pure n
  | 'N' =>
    require (← skip '\x7b')
    require ((← before '\x7d').toList.all inCharacterName)
    pure 0
  | c =>
    require (!isLetter c && !isDigit c)
    pure c.toNat

/-- An octal number of at most three digits that starts with a digit. -/
def octal (first : Char) : Step Nat := do
  let n := number 8 (first :: (← run isOctal 2))
  require (n ≤ 0xFF)
  pure n

/-! ## Classes in brackets -/

/-- A character of a class, by its number; nothing for a class inside the class. -/
def member : Mark → Step (Option Nat)
  | .plain c => pure (some c.toNat)
  | .escaped c =>
    match control? c with
    | some n => pure (some n)
    | none =>
      if isClass c then pure none
      else if isOctal c then some <$> octal c
      else some <$> named c

/-- The members of a class up to its bracket. The first one may be a bracket. -/
def members : (fuel : Nat) → (first : Bool) → Step Unit
  | 0, _ => refuse
  | fuel + 1, first => do
    match ← next with
    | none => refuse
    | some mark =>
      if mark = .plain ']' ∧ !first then pure ()
      else
        let low ← member mark
        if ← skip '-' then
          match ← next with
          | none => refuse
          | some (.plain ']') => pure ()
          | some mark =>
            match low, ← member mark with
            | some low, some high =>
              require (low ≤ high)
              members fuel false
            | _, _ => refuse
        else members fuel false

/-! ## References to groups -/

/-- How much a group matches, if it is closed and may be referred to. -/
def reference (group : Nat) : Step Extent := do
  let k ← get
  match k.groups[group - 1]? with
  | some (some extent) =>
    require ((k.behind.map fun count => decide (group ≤ count)).getD true)
    pure extent
  | _ => refuse

/-- A number with a backslash before it: a character by its octal number, or a group. -/
def numbered (first : Char) : Step (Last × Extent) := do
  if first = '0' then
    let _ ← run isOctal 2
    pure (.part, .one)
  else
    let second ← run isDigit 1
    let octals := first :: second
    let third ←
      if octals.length = 2 ∧ octals.all isOctal then run isOctal 1 else pure []
    if !third.isEmpty then
      require (number 8 (octals ++ third) ≤ 0xFF)
      pure (.part, .one)
    else pure (.part, ← reference (number 10 octals))

/-- A part that starts with a backslash. -/
def escape (c : Char) : Step (Last × Extent) := do
  if "AbBZ".toList.contains c then pure (.place, .none)
  else if isClass c ∨ (control? c).isSome then pure (.part, .one)
  else if isDigit c then numbered c
  else
    let _ ← named c
    pure (.part, .one)

/-! ## Repetitions -/

/-- A number of repetitions that is too large. -/
def repetitionLimit : Nat := 0xFFFFFFFF

/-- A number of repetitions, if digits give one. -/
def count (digits : List Char) : Step (Option Nat) := do
  if digits.isEmpty then pure none
  else
    require (number 10 digits < repetitionLimit)
    pure (some (number 10 digits))

/-- The least and the greatest number of repetitions after a brace; nothing if it is only a brace,
and then nothing is read. -/
def braces : Step (Option (Nat × Option Nat)) := do
  let start ← get
  if (← peek) = some (.plain '\x7d') then pure none
  else
    let low ← run isDigit start.rest.length
    let comma ← skip ','
    let high ← if comma then run isDigit start.rest.length else pure low
    if ← skip '\x7d' then
      let least := (← count low).getD 0
      let greatest ← count high
      require ((greatest.map fun n => decide (least ≤ n)).getD true)
      pure (some (least, greatest))
    else
      set start
      pure none

/-- The sequence with its last part repeated. -/
def repeatLast (s : Sequence) (least : Nat) (greatest : Option Nat) : Step Sequence := do
  require (s.last = .part)
  if !(← skip '?') then let _ ← skip '+'
  modify fun k => { k with repeats := true }
  pure { s with extent := s.extent.repeated least greatest, last := .repetition }

/-! ## Options -/

/-- Whether a letter is an option. -/
def isOption (c : Char) : Bool := "imsxatu".toList.contains c

/-- Whether two options exclude each other. -/
def exclude (c d : Char) : Bool := (c == 'a' && d == 'u') || (c == 'u' && d == 'a')

/-- Options up to a character that ends them, with that character. -/
def optionsUntil (stops : List Char) : (fuel : Nat) → List Char → Step (List Char × Char)
  | 0, _ => refuse
  | fuel + 1, soFar => do
    match ← next with
    | some (.plain c) =>
      if stops.contains c ∧ !soFar.isEmpty then pure (soFar, c)
      else
        require (isOption c && !soFar.any (exclude c))
        optionsUntil stops fuel (soFar ++ [c])
    | _ => refuse

/-- The options of a group: those for the whole pattern, or those turned on and off in the group. -/
inductive Options where
  | whole (on : List Char)
  | group (on off : List Char)

/-- Options after a question mark. -/
def readOptions : Step Options := do
  let fuel := (← get).rest.length + 1
  let turnedOff (on : List Char) : Step Options := do
    let (off, _) ← optionsUntil [':'] fuel []
    require (!on.contains 't' && !off.any "atu".toList.contains && !off.any on.contains)
    pure (.group on off)
  if ← skip '-' then turnedOff []
  else
    let (on, stop) ← optionsUntil [')', '-', ':'] fuel []
    if stop = ')' then pure (.whole on)
    else
      require (!on.contains 't')
      if stop = '-' then turnedOff on else pure (.group on [])

/-! ## Groups and alternatives -/

/-- The most characters that can be looked for behind a place. -/
def behindLimit : Nat := 0xFFFFFFFF

/-- What a group is, after its opening parenthesis. -/
inductive Opening where
  /-- a group that is counted, with its name if it has one -/
  | counted (name : Option String)
  /-- a group that is not, with the options turned on and off in it -/
  | plain (on off : List Char)
  | ahead
  | behind
  | condition
  /-- what is complete already -/
  | complete (part : Option (Last × Extent))

/-- A reference to a group by name. -/
def byName : Step Nat := do
  let name ← before ')'
  require (Text.isName name)
  match (← get).names.lookup name with
  | some group => pure group
  | none => refuse

/-- The most digits that the number of a group is read from. -/
def groupDigitLimit : Nat := 4300

/-- A group has a smaller number than this. -/
def groupLimit : Nat := 0x3FFFFFFF

/-- The number that digits spell after those that spell `n`, in any script and with single low lines
between them. `due` holds where a digit has to come. -/
def spelled? (due : Bool) (n : Nat) : List Char → Option Nat
  | [] => if due then none else some n
  | '_' :: cs => if due then none else spelled? true n cs
  | c :: cs => do spelled? false (10 * n + (← Text.digit? c)) cs

/-- The number of a group, as a text that can have blanks at its ends and a plus sign. -/
def groupNumber? (text : String) : Option Nat := do
  let digits := match Text.trim text.toList with
    | '+' :: digits => digits
    | digits => digits
  guard ((digits.filter (· ≠ '_')).length ≤ groupDigitLimit)
  let n ← spelled? true 0 digits
  guard (0 < n ∧ n < groupLimit)
  pure n

/-- A group by the name or the number in a condition. -/
def condition : Step Unit := do
  let text ← before ')'
  let k ← get
  let group ←
    if Text.isName text then
      match k.names.lookup text with
      | some group => pure group
      | none => refuse
    else
      match groupNumber? text with
      | some n =>
        modify fun k => { k with asked := n :: k.asked }
        pure n
      | none => refuse
  if k.behind.isSome then let _ ← reference group

/-- What a group is. `atStart` holds where options for the whole pattern may stand. -/
def opening (atStart : Bool) : Step Opening := do
  if !(← skip '?') then pure (.counted none)
  else
    match ← peek with
    | some (.plain 'P') =>
      let _ ← next
      if ← skip '<' then
        let name ← before '>'
        require (Text.isName name)
        pure (.counted (some name))
      else
        require (← skip '=')
        pure (.complete (some (.part, ← reference (← byName))))
    | some (.plain '#') =>
      let k ← get
      let comment := k.rest.takeWhile (· ≠ .plain ')')
      set { k with rest := k.rest.drop comment.length }
      close
      pure (.complete none)
    | some (.plain '<') =>
      let _ ← next
      require ((← skip '=') || (← skip '!'))
      pure .behind
    | some (.plain c) =>
      if c = ':' ∨ c = '>' then
        let _ ← next
        pure (.plain [] [])
      else if c = '=' ∨ c = '!' then
        let _ ← next
        pure .ahead
      else if c = '(' then
        let _ ← next
        condition
        pure .condition
      else
        match ← readOptions with
        | .group on off => pure (.plain on off)
        | .whole on =>
          require atStart
          modify fun k => { k with options := k.options ++ on }
          pure (.complete none)
    | _ => refuse

/-- Opens a group and gives its number. -/
def openGroup (name : Option String) : Step Nat := do
  let k ← get
  let group := k.groups.length + 1
  match name with
  | some name => require (k.names.lookup name).isNone
  | none => pure ()
  set { k with
    groups := k.groups ++ [none]
    names := (name.map fun name => (name, group)).toList ++ k.names }
  pure group

/-- Closes a group. -/
def closeGroup (group : Nat) (extent : Extent) : Step Unit :=
  modify fun k => { k with groups := k.groups.set (group - 1) (some extent) }

/-- Whether a character is skipped where blanks and comments are allowed. -/
def isGap (c : Char) : Bool := c == ' ' || (9 ≤ c.toNat && c.toNat ≤ 13)

/-- Skips a comment up to the end of its line. -/
def skipComment : Step Unit :=
  modify fun k => { k with rest := (k.rest.dropWhile (· ≠ .plain '\n')).tail }

mutual

/-- Alternatives, and how much they match. `spaced` holds where blanks and comments are allowed. -/
def alternatives (fuel : Nat) (spaced atStart : Bool) : Step Extent := do
  match fuel with
  | 0 => refuse
  | fuel + 1 =>
    let first ← sequence fuel spaced atStart {}
    if ← skip '|' then
      let k ← get
      let others ← alternatives fuel (if atStart then k.options.contains 'x' else spaced) false
      pure (first.orElse others)
    else pure first

/-- The parts of a sequence after those read so far, and how much all of them match. -/
def sequence (fuel : Nat) (spaced atStart : Bool) (s : Sequence) : Step Extent := do
  match fuel with
  | 0 => refuse
  | fuel + 1 =>
    match ← peek with
    | none | some (.plain '|') | some (.plain ')') => pure s.total
    | some mark =>
      let _ ← next
      let goOn (s : Sequence) : Step Extent := sequence fuel spaced atStart s
      let repetition (least : Nat) (greatest : Option Nat) : Step Extent := do
        goOn (← repeatLast s least greatest)
      match mark with
      | .escaped c =>
        let (last, extent) ← escape c
        goOn (s.add last extent)
      | .plain c =>
        if spaced && isGap c then goOn s
        else if spaced && c == '#' then
          skipComment
          goOn s
        else
          match c with
          | '[' =>
            let _ ← skip '^'
            members ((← get).rest.length + 1) true
            goOn (s.add .part .one)
          | '?' => repetition 0 (some 1)
          | '*' => repetition 0 none
          | '+' => repetition 1 none
          | '\x7b' =>
            match ← braces with
            | some (least, greatest) => repetition least greatest
            | none => goOn (s.add .part .one)
          | '(' =>
            let (options, part) ← group fuel spaced (atStart && s.last = .nothing)
            let s := match part with
              | some (last, extent) => s.add last extent
              | none => s
            sequence fuel (spaced || options) atStart s
          | '^' | '$' => goOn (s.add .place .none)
          | _ => goOn (s.add .part .one)

/-- A group after its opening parenthesis: whether it allows blanks and comments from now on, and
the part that it is. -/
def group (fuel : Nat) (spaced atStart : Bool) : Step (Bool × Option (Last × Extent)) := do
  match fuel with
  | 0 => refuse
  | fuel + 1 =>
    match ← opening atStart with
    | .complete part =>
      let k ← get
      pure (part.isNone && atStart && k.options.contains 'x', part)
    | .counted name =>
      let number ← openGroup name
      let extent ← alternatives fuel spaced false
      close
      closeGroup number extent
      pure (false, some (.part, extent))
    | .plain on off =>
      let extent ← alternatives fuel ((spaced || on.contains 'x') && !off.contains 'x') false
      close
      pure (false, some (.part, extent))
    | .ahead =>
      let _ ← alternatives fuel spaced false
      close
      pure (false, some (.part, .none))
    | .behind =>
      let outer := (← get).behind
      modify fun k => { k with behind := some (outer.getD k.groups.length) }
      let extent ← alternatives fuel spaced false
      modify fun k => { k with behind := outer }
      close
      require (extent.least = extent.greatest && extent.least ≤ behindLimit)
      pure (false, some (.part, .none))
    | .condition =>
      let yes ← sequence fuel spaced false {}
      let no ← if ← skip '|' then sequence fuel spaced false {} else pure .none
      close
      pure (false, some (.part, yes.orElse no))

end

/-- The options that a pattern starts with; nothing if the text is no pattern. -/
def options? (text : String) : Option (List Char) := do
  let marks ← marks? text.toList
  let (_, known) ← (alternatives (4 * marks.length + 4) false true).run { rest := marks }
  guard (known.rest.isEmpty && known.asked.all (· ≤ known.groups.length))
  guard (!(known.options.contains 'a' && known.options.contains 'u'))
  guard (!(known.options.contains 't' && known.repeats))
  pure known.options

/-- The names of options, in the order in which they are quoted. -/
def optionNames : List (Char × String) :=
  [('t', "re.TEMPLATE"), ('i', "re.IGNORECASE"), ('m', "re.MULTILINE"), ('s', "re.DOTALL"),
    ('x', "re.VERBOSE"), ('a', "re.ASCII")]

/-- How much of a pattern is quoted in a message, with its quotes. -/
def quotedLength : Nat := 200

/-- A pattern as it is quoted in messages, with the options that it starts with. -/
def literal (text : String) : String :=
  let on := (options? text).getD []
  let names := (optionNames.filter fun option => on.contains option.1).map Prod.snd
  "re.compile(" ++ ((Text.quoted text).take quotedLength).toString ++
    (if names.isEmpty then "" else ", " ++ String.intercalate "|" names) ++ ")"

end EnclaveAudit.Pattern
