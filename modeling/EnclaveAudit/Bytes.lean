/-!
# `EnclaveAudit/Bytes.lean` — octet strings

Register values, nonces, documents and wire messages are all octet strings. They are *lists*, not
arrays, because everything said about them later is an induction: a value extends another, an
encoding is a prefix of a message, a sample has a length. Arrays appear only where an operation
of the standard library wants one.

The numbers written into octet strings are big-endian throughout; the little-endian reading that
signatures need is the same function on the reversed list.
-/

set_option autoImplicit false

namespace EnclaveAudit

/-- An octet string, first octet first. -/
abbrev Bytes := List UInt8

namespace Bytes

/-- `n` octets, all zero: what a register holds before anything was measured into it. -/
def zeros (n : Nat) : Bytes := List.replicate n 0

/-- `n` copies of one octet. -/
def fill (octet : UInt8) (n : Nat) : Bytes := List.replicate n octet

/-- Whether every octet is zero. The empty string is zero too. -/
def isZero (b : Bytes) : Bool := b.all (· == 0)

/-- The number whose big-endian digits in base 256 are `b`. -/
def toNat (b : Bytes) : Nat := b.foldl (fun n octet => n * 256 + octet.toNat) 0

/-- The last `width` base-256 digits of `n`, most significant first. -/
def ofNat : (width n : Nat) → Bytes
  | 0, _ => []
  | width + 1, n => ofNat width (n / 256) ++ [UInt8.ofNat n]

/-- How many base-256 digits `n` has; zero has none. -/
def digits (n : Nat) : Nat := if n = 0 then 0 else n.log2 / 8 + 1

/-- The base-256 digits of `n` without leading zeros. -/
def minimal (n : Nat) : Bytes := ofNat (digits n) n

/-- The octets of a text in UTF-8. -/
def ofString (s : String) : Bytes := s.toUTF8.data.toList

/-- The text that `b` spells in UTF-8, when it spells one. Overlong forms, surrogates and code
points beyond the last one are not text. -/
def toString? (b : Bytes) : Option String := String.fromUTF8? ⟨b.toArray⟩

/-! ## Hexadecimal -/

/-- One hexadecimal digit, lower case. -/
def hexDigit (n : Nat) : Char := if n < 10 then Char.ofNat (48 + n) else Char.ofNat (87 + n)

/-- Two lower-case hexadecimal digits per octet. -/
def hex (b : Bytes) : String :=
  String.ofList (b.flatMap fun octet => [hexDigit (octet.toNat / 16), hexDigit (octet.toNat % 16)])

/-- The value of one hexadecimal digit, in either case. -/
def hexValue? (c : Char) : Option Nat :=
  if '0' ≤ c ∧ c ≤ '9' then some (c.toNat - 48)
  else if 'a' ≤ c ∧ c ≤ 'f' then some (c.toNat - 87)
  else if 'A' ≤ c ∧ c ≤ 'F' then some (c.toNat - 55)
  else none

/-- Reads pairs of hexadecimal digits; an odd count or a foreign character is refused. -/
def ofHexDigits? : List Char → Option Bytes
  | [] => some []
  | [_] => none
  | high :: low :: rest => do
    let h ← hexValue? high
    let l ← hexValue? low
    let others ← ofHexDigits? rest
    pure (UInt8.ofNat (16 * h + l) :: others)

/-- The octets that a hexadecimal text names. -/
def ofHex? (s : String) : Option Bytes := ofHexDigits? s.toList

/-! ## Lengths -/

@[simp] theorem length_zeros (n : Nat) : (zeros n).length = n := List.length_replicate

@[simp] theorem length_fill (octet : UInt8) (n : Nat) : (fill octet n).length = n :=
  List.length_replicate

@[simp] theorem length_ofNat (width n : Nat) : (ofNat width n).length = width := by
  induction width generalizing n with
  | zero => rfl
  | succ width ih => simp [ofNat, ih]

theorem isZero_iff {b : Bytes} : b.isZero = true ↔ b = zeros b.length := by
  rw [isZero, zeros, List.all_eq_true, List.eq_replicate_iff]
  simp

/-- The text of an encoding is the text that was encoded. -/
@[simp] theorem toString?_ofString (s : String) : toString? (ofString s) = some s := by
  have h : ByteArray.mk (ofString s).toArray = s.toByteArray := by simp [ofString]
  rw [toString?, h, String.fromUTF8?, dif_pos s.isValidUTF8]
  rfl

end Bytes

end EnclaveAudit
