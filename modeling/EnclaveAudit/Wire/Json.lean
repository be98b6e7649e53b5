import EnclaveAudit.Wire.Literal

/-!
# `EnclaveAudit/Wire/Json.lean` — values as documents

Reports and log lines leave the program as JSON. The text is plain ASCII: every other character is
escaped by its UTF-16 units, so it passes through any terminal or log collector unchanged. JSON has
fewer kinds of value than the wire has. A kind it lacks is written as the text that quotes it,
except in a key, where only numbers, truth values and null turn into texts and anything else is
refused (`BadKey`).
-/

set_option autoImplicit false

namespace EnclaveAudit

/-- How a document is laid out: on one line, or indented by so many blanks a level. -/
inductive DocumentStyle where
  | line
  | indented (step : Nat)
  deriving DecidableEq, Repr

/-- A key that no document can hold, by the name of its kind. -/
structure BadKey where
  kind : String
  deriving DecidableEq, Repr

namespace BadKey

/-- What is said about such a key. -/
def message (e : BadKey) : String := "keys must be str, int, float, bool or None, not " ++ e.kind

end BadKey

namespace Json

/-- One UTF-16 unit, escaped. -/
def unit (n : Nat) : List Char := '\\' :: 'u' :: Text.hexDigits 4 n

/-- One character of a text. -/
def escape (c : Char) : List Char :=
  let n := c.toNat
  if c = '"' then ['\\', '"']
  else if c = '\\' then ['\\', '\\']
  else if c = '\n' then ['\\', 'n']
  else if c = '\r' then ['\\', 'r']
  else if c = '\t' then ['\\', 't']
  else if n = 8 then ['\\', 'b']
  else if n = 12 then ['\\', 'f']
  else if 0x20 ≤ n ∧ n < 0x7F then [c]
  else if n < 0x10000 then unit n
  else unit (0xD800 + (n - 0x10000) / 0x400) ++ unit (0xDC00 + (n - 0x10000) % 0x400)

/-- A text in double quotes. -/
def text (s : String) : String := String.ofList ('"' :: s.toList.flatMap escape ++ ['"'])

/-- The text of a key. -/
def key : Value → Except BadKey String
  | .text s => .ok s
  | .null => .ok "null"
  | .bool b => .ok (if b then "true" else "false")
  | .int n => .ok (toString n)
  | .float bits => .ok (Layout.json.float bits)
  | v => .error ⟨v.kindName⟩

/-- Parts of an array or a map, at a depth of nesting. -/
def enclose (style : DocumentStyle) (depth : Nat) (opening closing : String) :
    List String → String
  | [] => opening ++ closing
  | parts =>
    match style with
    | .line => opening ++ String.intercalate ", " parts ++ closing
    | .indented step =>
      let lineAt (depth : Nat) := "\n" ++ String.ofList (List.replicate (step * depth) ' ')
      opening ++ lineAt (depth + 1) ++ String.intercalate ("," ++ lineAt (depth + 1)) parts ++
        lineAt depth ++ closing

mutual

/-- A value at a depth of nesting. -/
def render (style : DocumentStyle) (depth : Nat) : Value → Except BadKey String
  | .null => .ok "null"
  | .bool b => .ok (if b then "true" else "false")
  | .int n => .ok (toString n)
  | .float bits => .ok (Layout.json.float bits)
  | .text s => .ok (text s)
  | .array items | .tuple items => do
    pure (enclose style depth "[" "]" (← renderItems style (depth + 1) items))
  | .map entries => do
    pure (enclose style depth "\x7b" "\x7d" (← renderEntries style (depth + 1) entries))
  | v => .ok (text v.literal)

/-- Several values. -/
def renderItems (style : DocumentStyle) (depth : Nat) : List Value → Except BadKey (List String)
  | [] => .ok []
  | item :: items => do
    let first ← render style depth item
    let others ← renderItems style depth items
    pure (first :: others)

/-- Several entries. -/
def renderEntries (style : DocumentStyle) (depth : Nat) :
    List (Value × Value) → Except BadKey (List String)
  | [] => .ok []
  | entry :: entries => do
    let first ← renderEntry style depth entry
    let others ← renderEntries style depth entries
    pure (first :: others)

/-- Key and value with a colon between them. -/
def renderEntry (style : DocumentStyle) (depth : Nat) : Value × Value → Except BadKey String
  | (k, value) => do
    let name ← key k
    pure (text name ++ ": " ++ (← render style depth value))

end

end Json

/-- A value as a document. -/
def Value.json (style : DocumentStyle) (v : Value) : Except BadKey String := Json.render style 0 v

end EnclaveAudit
