/-!
# `EnclaveAudit/Text/Blank.lean` — white space around a number

Numbers that arrive as text may be surrounded by blanks, and a blank is any character of the
standard's white space property, not only the four of the first 128.
-/

set_option autoImplicit false

namespace EnclaveAudit.Text

/-- Whether a character is white space. -/
def isBlank (c : Char) : Bool :=
  let n := c.toNat
  (0x9 ≤ n && n ≤ 0xD) || (0x2000 ≤ n && n ≤ 0x200A) ||
    [0x20, 0x85, 0xA0, 0x1680, 0x2028, 0x2029, 0x202F, 0x205F, 0x3000].contains n

/-- A text without the blanks at its ends. -/
def trim (s : List Char) : List Char :=
  (((s.dropWhile isBlank).reverse).dropWhile isBlank).reverse

end EnclaveAudit.Text
