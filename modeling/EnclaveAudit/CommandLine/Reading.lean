import EnclaveAudit.CommandLine.Grammar
import EnclaveAudit.Journal.Record
import EnclaveAudit.Text.Digit

/-!
# `EnclaveAudit/CommandLine/Reading.lean` — from arguments to an invocation

Arguments are read in two steps. First each argument becomes a token, by itself: a word, or a flag,
which can be spelled by any beginning of its long spelling that no other flag has. Then the tokens
are read from left to right. In front of the command the first word is the command, and everything
after it belongs to the command's scope and is made into tokens anew.

Nothing that is left over is dropped: it is remembered as a stray, and strays are refused at the end,
when nothing else was.
-/

set_option autoImplicit false

namespace EnclaveAudit.CommandLine

/-! ## Misuse -/

/-- Why arguments are refused. -/
inductive Misuse where
  | ambiguous (given : String) (candidates : List String)
  | noValue (f : Flag)
  | uselessValue (f : Flag) (given : String)
  | noChoice (f : Flag) (choices : List String) (given : String)
  | noCommand (given : String)
  | excluded (f other : Flag)
  | strays (given : List String)
  deriving DecidableEq, Repr

namespace Misuse

/-- A choice that there is not, and those that there are. -/
def invalidChoice (given : String) (choices : List String) : String :=
  "invalid choice: " ++ Text.quoted given ++ " (choose from " ++
    String.intercalate ", " (choices.map Text.quoted) ++ ")"

/-- What is said about it. -/
def message : Misuse → String
  | .ambiguous given candidates =>
    "ambiguous option: " ++ given ++ " could match " ++ String.intercalate ", " candidates
  | .noValue f => "argument " ++ f.name ++ ": expected one argument"
  | .uselessValue f given =>
    "argument " ++ f.name ++ ": ignored explicit argument " ++ Text.quoted given
  | .noChoice f choices given => "argument " ++ f.name ++ ": " ++ invalidChoice given choices
  | .noCommand given =>
    "argument command: " ++ invalidChoice given (Scope.commands.map Scope.name)
  | .excluded f other => "argument " ++ f.name ++ ": not allowed with argument " ++ other.name
  | .strays given => "unrecognized arguments: " ++ String.intercalate " " given

end Misuse

/-- Why arguments make no invocation: they ask for help, or are refused. -/
inductive Stop where
  | help (scope : Scope)
  | misuse (scope : Scope) (cause : Misuse)
  deriving DecidableEq, Repr

/-! ## Tokens -/

/-- An argument by itself. -/
inductive Token where
  | word (raw : String)
  /-- the mark after which everything is a word -/
  | mark
  | flag (raw : String) (f : Flag) (value : Option String)
  /-- a short flag with more letters after it -/
  | letters (raw : String) (f : Flag) (more : List Char)
  /-- a flag that this scope does not have -/
  | unknown (raw : String)
  deriving DecidableEq, Repr

namespace Token

/-- The argument. -/
def raw : Token → String
  | .mark => "--"
  | .word raw | .flag raw _ _ | .letters raw _ _ | .unknown raw => raw

/-- An argument at its first equals sign. -/
def atEquals (cs : List Char) : List Char × Option String :=
  let before := cs.takeWhile (· ≠ '=')
  match cs.drop before.length with
  | [] => (before, none)
  | _ :: value => (before, some (String.ofList value))

/-- Whether digits follow, with at most one point before the last of them. A line break may end
them. -/
def isNumber (cs : List Char) : Bool :=
  let cs := if cs.getLast? = some '\n' then cs.dropLast else cs
  let fraction := cs.dropWhile Text.isDecimalDigit
  match fraction with
  | [] => !cs.isEmpty
  | '.' :: digits => !digits.isEmpty && digits.all Text.isDecimalDigit
  | _ => false

/-- What an argument can be a spelling of: a long flag by its beginning, a short one by its first
letter. -/
def candidates (scope : Scope) (given : String) : List (String × Token) :=
  match given.toList with
  | '-' :: '-' :: _ =>
    let (before, value) := atEquals given.toList
    scope.spellings.filterMap fun (spelling, f) =>
      if before.isPrefixOf spelling.toList then some (spelling, .flag given f value) else none
  | '-' :: letter :: more =>
    scope.spellings.filterMap fun (spelling, f) =>
      if spelling.toList = ['-', letter] then some (spelling, .letters given f more) else none
  | _ => []

/-- The token of an argument that starts with a hyphen and has more to it. -/
def ofHyphenated (scope : Scope) (given : String) : Except Misuse Token :=
  let (before, value) := atEquals given.toList
  match scope.spellings.lookup given, scope.spellings.lookup (String.ofList before) with
  | some f, _ => .ok (.flag given f none)
  | none, some f =>
    match given.toList, value.map String.toList with
    | '-' :: '-' :: _, _ => .ok (.flag given f value)
    | _, some (letter :: more) => .ok (.letters given f (letter :: more))
    | _, _ => .ok (.flag given f value)
  | none, none =>
    match candidates scope given with
    | [(_, token)] => .ok token
    | [] =>
      if isNumber given.toList.tail || given.toList.contains ' ' then .ok (.word given)
      else .ok (.unknown given)
    | several => .error (.ambiguous given (several.map Prod.fst))

/-- The token of an argument. -/
def ofArgument (scope : Scope) (given : String) : Except Misuse Token :=
  match given.toList with
  | '-' :: _ :: _ => ofHyphenated scope given
  | _ => .ok (.word given)

/-- The tokens of all arguments. -/
def ofArguments (scope : Scope) : List String → Except Misuse (List Token)
  | [] => .ok []
  | given :: rest =>
    if given = "--" then .ok (.mark :: rest.map .word)
    else do
      let token ← ofArgument scope given
      let tokens ← ofArguments scope rest
      pure (token :: tokens)

end Token

/-! ## One scope -/

/-- What the arguments of one scope said: flags in order, each with its value if it has one, and
what was left over. -/
structure Said where
  flags : List (Flag × Option String) := []
  strays : List String := []
  deriving DecidableEq, Repr

namespace Said

/-- What was said last about a flag, if it was given. -/
def last? (s : Said) (f : Flag) : Option (Option String) := s.flags.reverse.lookup f

/-- The last value of a flag. -/
def value? (s : Said) (f : Flag) : Option String := (s.last? f).join

/-- What was said about a flag each time that it was given. -/
def all (s : Said) (f : Flag) : List (Option String) :=
  s.flags.filterMap fun (g, v) => if g = f then some v else none

/-- Whether a flag was given. -/
def has (s : Said) (f : Flag) : Bool := s.flags.any fun (g, _) => g = f

/-- One more stray. -/
def stray (s : Said) (given : String) : Said := { s with strays := s.strays ++ [given] }

/-- One more flag, if its value is one and no flag excludes it. Asking for help ends the reading. The
mark is no value: a flag that is given it has been given, and has none. -/
def take (s : Said) (scope : Scope) (f : Flag) (value : Option String) : Except Stop Said :=
  let value := value.filter (· ≠ "--")
  let taken : Said := { s with flags := s.flags ++ [(f, value)] }
  if f = .help then .error (.help scope)
  else match f.choices?, value with
    | some choices, some given =>
      if choices.contains given then .ok taken
      else .error (.misuse scope (.noChoice f choices given))
    | _, _ =>
      match f.excluded? with
      | some other => if s.has other then .error (.misuse scope (.excluded f other)) else .ok taken
      | none => .ok taken

end Said

/-- The flags that a short flag and the letters after it are. None of them takes a value, so each
letter has to be a flag: those from the first that is none on are a value that nothing takes. -/
def letterFlags (scope : Scope) (f : Flag) : List Char → Except Misuse (List Flag)
  | [] => .ok [f]
  | letter :: more =>
    match scope.spellings.lookup (String.ofList ['-', letter]) with
    | none => .error (.uselessValue f (String.ofList (letter :: more)))
    | some next => (letterFlags scope next more).map (f :: ·)

/-- Takes the flags of a short flag and the letters after it. -/
def Said.takeLetters (s : Said) (scope : Scope) (f : Flag) (more : List Char) : Except Stop Said :=
  match letterFlags scope f more with
  | .error cause => .error (.misuse scope cause)
  | .ok flags => flags.foldlM (fun s f => s.take scope f none) s

/-- Reads tokens from left to right, in front of the command only up to the command: it and what
follows it come back as they were given. -/
def readTokens (scope : Scope) : List Token → Said → Except Stop (Said × Option (String × List String))
  | [], s => .ok (s, none)
  | .word raw :: rest, s =>
    if scope = .program then .ok (s, some (raw, rest.map Token.raw))
    else readTokens scope rest (s.stray raw)
  | .mark :: rest, s =>
    if scope = .program ∧ rest ≠ [] then .ok (s, some ("--", rest.map Token.raw))
    else readTokens scope rest (s.stray "--")
  | .unknown raw :: rest, s => readTokens scope rest (s.stray raw)
  | .letters _ f more :: rest, s => do readTokens scope rest (← s.takeLetters scope f more)
  | .flag _ f (some value) :: rest, s =>
    if f.takesValue then do readTokens scope rest (← s.take scope f (some value))
    else .error (.misuse scope (.uselessValue f value))
  | .flag _ f none :: rest, s =>
    if f.takesValue then
      match rest with
      | .word value :: rest => do readTokens scope rest (← s.take scope f (some value))
      | _ => .error (.misuse scope (.noValue f))
    else do readTokens scope rest (← s.take scope f none)

/-- Reads the arguments of one scope. -/
def readScope (scope : Scope) (arguments : List String) :
    Except Stop (Said × Option (String × List String)) :=
  match Token.ofArguments scope arguments with
  | .error cause => .error (.misuse scope cause)
  | .ok tokens => readTokens scope tokens {}

/-! ## Invocations -/

/-- Where the device is. A simulated one may have been given a digest or a fault that there is not. -/
inductive Source where
  | file (path : Option String)
  | simulated (digest : Digest) (faults : List Fault)
  | impossible (cause : NoChoice)
  deriving Repr

/-- What the program is to do. -/
inductive Command where
  | run (source : Source) (json : Bool)
  | describe (source : Source)
  | checks
  deriving Repr

/-- A use of the program. What says nothing about the log leaves it to the settings. -/
structure Invocation where
  logLevel : Option String
  logStyle : Option LineStyle
  command : Command
  deriving Repr

namespace Said

/-- What a flag was given, as a value: nothing is an array without items. -/
def given : Option String → Value
  | some s => .text s
  | none => .array []

/-- The simulated device that was asked for. -/
def simulated (s : Said) : Except NoChoice Source := do
  let digest ← match s.last? .digest with
    | some said => Digest.choose (given said)
    | none => pure .sha384
  let faults ← (s.all .fault).mapM fun said => Fault.choose (given said)
  pure (.simulated digest faults)

/-- The device that was asked for. An empty path is none. -/
def source (s : Said) : Source :=
  if s.has .simulate then
    match s.simulated with
    | .ok source => source
    | .error cause => .impossible cause
  else .file ((s.value? .device).filter (· ≠ ""))

/-- The command of a scope that was asked for. -/
def command? (s : Said) : Scope → Option Command
  | .program => none
  | .run => some (.run s.source (s.has .json))
  | .describe => some (.describe s.source)
  | .checks => some .checks

/-- How the log is to be written. -/
def logStyle (s : Said) : Option LineStyle :=
  (s.value? .logFormat).map fun style => if style = "json" then .document else .text

end Said

/-- Reads the arguments of the program. Without a command they ask for help. -/
def read (arguments : List String) : Except Stop Invocation := do
  let (program, rest) ← readScope .program arguments
  let (scope, said) ← match rest with
    | none => pure (Scope.program, {})
    | some (name, arguments) =>
      match Scope.ofName? name with
      | none => .error (.misuse .program (.noCommand name))
      | some scope => do pure (scope, (← readScope scope arguments).1)
  let strays := program.strays ++ said.strays
  if strays ≠ [] then .error (.misuse .program (.strays strays))
  else match said.command? scope with
    | none => .error (.help .program)
    | some command =>
      pure ⟨(program.value? .logLevel).filter (· ≠ ""), program.logStyle, command⟩

end EnclaveAudit.CommandLine
