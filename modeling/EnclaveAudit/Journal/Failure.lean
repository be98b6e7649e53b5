import EnclaveAudit.Wire.Literal

/-!
# `EnclaveAudit/Journal/Failure.lean` — failures that a line of the log is about

A failure has a kind and what it was raised with, and becomes a line: the kind, and what it says if
it says anything. Most failures say what they were raised with. A few kinds have words of their own:
a key that was not found, the operating system, source text, and texts that cannot be coded. The
operating system reports by number, and some numbers are kinds of failures of their own.
-/

set_option autoImplicit false

namespace EnclaveAudit

/-- A failure that a line is about: its kind, and what it was raised with. -/
structure Failure where
  kind : String
  arguments : List Value
  deriving Repr

namespace Failure

/-! ## The operating system -/

/-- The names of the general failure of the operating system. -/
def systemNames : List String := ["OSError", "EnvironmentError", "IOError"]

/-- The numbers of the operating system that are kinds of failures of their own. -/
def systemKinds : List (Int × String) := [
  (1, "PermissionError"), (2, "FileNotFoundError"), (3, "ProcessLookupError"),
  (4, "InterruptedError"), (10, "ChildProcessError"), (11, "BlockingIOError"),
  (13, "PermissionError"), (17, "FileExistsError"), (20, "NotADirectoryError"),
  (21, "IsADirectoryError"), (32, "BrokenPipeError"), (103, "ConnectionAbortedError"),
  (104, "ConnectionResetError"), (108, "BrokenPipeError"), (110, "TimeoutError"),
  (111, "ConnectionRefusedError"), (114, "BlockingIOError"), (115, "BlockingIOError")
]

/-- A number that a failure was raised with. A truth value is zero or one. -/
def number? : Value → Option Int
  | .int n => some n
  | .bool b => some (if b then 1 else 0)
  | _ => none

/-- The kind by which a failure is named. -/
def name (f : Failure) : String :=
  if systemNames.contains f.kind then
    match f.arguments with
    | number :: _ :: rest =>
      if rest.length ≤ 3 then ((number? number).bind fun n => systemKinds.lookup n).getD "OSError"
      else "OSError"
    | _ => "OSError"
  else f.kind

/-- Whether a failure is one of the operating system. -/
def isSystem (f : Failure) : Bool :=
  systemNames.contains f.kind || (systemKinds.map Prod.snd).contains f.kind ||
    f.kind == "ConnectionError"

/-- A file that a failure of the operating system is about, with the arrow to another one. -/
def places (f : Failure) : List Value → String
  | [] | .null :: _ => ""
  | place :: rest =>
    if f.name = "BlockingIOError" ∧ (number? place).isSome then ""
    else ": " ++ place.literal ++
      match rest with
      | [_, .null] => ""
      | [_, other] => " -> " ++ other.literal
      | _ => ""

/-! ## What failures say -/

/-- What was raised with the failure: one value by itself, several in parentheses. -/
def plainly : List Value → String
  | [] => ""
  | [v] => v.inWords
  | several => Value.tupleOf (several.map Value.literal)

/-- A character by its number. -/
def characterText (c : Char) : String :=
  let n := c.toNat
  if n < 0x100 then "\\x" ++ String.ofList (Text.hexDigits 2 n)
  else if n < 0x10000 then "\\u" ++ String.ofList (Text.hexDigits 4 n)
  else "\\U" ++ String.ofList (Text.hexDigits 8 n)

/-- Where a text cannot be coded: one character or octet, or the range of several. -/
def codedAt (verb : String) (one several : String) (found : Option String) (start stop : Int)
    (reason : String) : String :=
  (match found with
    | some text => verb ++ " " ++ one ++ " " ++ text ++ " in position " ++ toString start
    | none => verb ++ " " ++ several ++ " in position " ++ toString start ++ "-" ++
        toString (stop - 1)) ++ ": " ++ reason

/-- The element of a list at a position, if the range from it holds no other. -/
def only? {α : Type} (xs : List α) (start stop : Int) : Option α :=
  if 0 ≤ start ∧ stop = start + 1 then xs[start.toNat]? else none

/-- What the failure says. A key that was not found is quoted, so that an empty one can be seen. -/
def message (f : Failure) : String :=
  match f.kind, f.arguments with
  | "KeyError", [v] => v.literal
  | "UnicodeDecodeError", [.text coding, .bytes b, .int start, .int stop, .text reason] =>
    "'" ++ coding ++ "' codec " ++ codedAt "can't decode" "byte" "bytes"
      ((only? b start stop).map fun octet => "0x" ++ Bytes.hex [octet]) start stop reason
  | "UnicodeEncodeError", [.text coding, .text s, .int start, .int stop, .text reason] =>
    "'" ++ coding ++ "' codec " ++ codedAt "can't encode" "character" "characters"
      ((only? s.toList start stop).map fun c => "'" ++ characterText c ++ "'") start stop reason
  | "UnicodeTranslateError", [.text s, .int start, .int stop, .text reason] =>
    codedAt "can't translate" "character" "characters"
      ((only? s.toList start stop).map fun c => "'" ++ characterText c ++ "'") start stop reason
  | kind, arguments =>
    if ["SyntaxError", "IndentationError", "TabError"].contains kind then
      let reason := arguments.headD .null
      if reason.holds then reason.inWords else "<no detail available>"
    else
      match f.isSystem, arguments with
      | true, number :: words :: rest =>
        if rest.length ≤ 3 then
          "[Errno " ++ number.inWords ++ "] " ++ words.inWords ++ f.places rest
        else plainly arguments
      | _, _ => plainly arguments

/-- The failure as a line: its kind alone if it says nothing. -/
def text (f : Failure) : String :=
  if f.message = "" then f.name else f.name ++ ": " ++ f.message

end Failure

end EnclaveAudit
