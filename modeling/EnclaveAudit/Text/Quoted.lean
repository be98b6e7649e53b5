import EnclaveAudit.Bytes
import EnclaveAudit.Text.Printable

/-!
# `EnclaveAudit/Text/Quoted.lean` — texts and octets between quotes

Messages quote what they are about, so that an empty text, a line break or a stray byte can be
seen. The quote is an apostrophe, unless the text has an apostrophe and no double quote in it; then
nothing has to be escaped. Octet strings are quoted by the same rule after a `b`.
-/

set_option autoImplicit false

namespace EnclaveAudit.Text

/-- The mark that a quoted text starts and ends with. -/
def quoteFor (s : List Char) : Char :=
  if s.contains '\'' && !s.contains '"' then '"' else '\''

/-- `width` lower-case hexadecimal digits. -/
def hexDigits : (width n : Nat) → List Char
  | 0, _ => []
  | width + 1, n => hexDigits width (n / 16) ++ [Bytes.hexDigit (n % 16)]

/-- A character that is not shown as itself: its code point in the shortest of three widths. -/
def escapeCode (n : Nat) : List Char :=
  if n < 0x100 then '\\' :: 'x' :: hexDigits 2 n
  else if n < 0x10000 then '\\' :: 'u' :: hexDigits 4 n
  else '\\' :: 'U' :: hexDigits 8 n

/-- One character between the given quotes. -/
def escape (quote c : Char) : List Char :=
  if c = quote ∨ c = '\\' then ['\\', c]
  else if c = '\n' then ['\\', 'n']
  else if c = '\r' then ['\\', 'r']
  else if c = '\t' then ['\\', 't']
  else if isPrintable c then [c]
  else escapeCode c.toNat

/-- A text between quotes. -/
def quoted (s : String) : String :=
  let quote := quoteFor s.toList
  String.ofList (quote :: s.toList.flatMap (escape quote) ++ [quote])

/-- One octet between the given quotes: as the character of that code if it is visible and below
127, spelled out otherwise. -/
def escapeOctet (quote : Char) (octet : UInt8) : List Char :=
  let n := octet.toNat
  if n < 0x7F then escape quote (Char.ofNat n) else escapeCode n

/-- An octet string between quotes. -/
def quotedBytes (b : Bytes) : String :=
  let quote := quoteFor (b.map fun octet => Char.ofNat octet.toNat)
  String.ofList ('b' :: quote :: b.flatMap (escapeOctet quote) ++ [quote])

end EnclaveAudit.Text
