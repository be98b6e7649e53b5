import EnclaveAudit.Wire.Value

/-!
# `EnclaveAudit/Wire/Cbor/Encoding.lean` — values as octets

An encoded item starts with a *head*: three bits that name the kind, and a number — an integer, a
length, the number of a tag — in the least of five widths that holds it. What follows depends on the
kind. Lengths are always written in front, so an encoding is a concatenation of the encodings of
its parts, and the size of a message is a sum over its values.

Integers that need more than 64 bits are written as tagged octet strings. Floats are never
shortened, except those that are not a number or not finite; these have the half-width form.
-/

set_option autoImplicit false

namespace EnclaveAudit.Cbor

/-- The kind that the first three bits of an item name, and the number after it. -/
def head (kind n : Nat) : Bytes :=
  if n < 24 then [UInt8.ofNat (32 * kind + n)]
  else if n < 0x100 then UInt8.ofNat (32 * kind + 24) :: Bytes.ofNat 1 n
  else if n < 0x10000 then UInt8.ofNat (32 * kind + 25) :: Bytes.ofNat 2 n
  else if n < 0x100000000 then UInt8.ofNat (32 * kind + 26) :: Bytes.ofNat 4 n
  else UInt8.ofNat (32 * kind + 27) :: Bytes.ofNat 8 n

/-- An octet string. -/
def octets (b : Bytes) : Bytes := head 2 b.length ++ b

/-- A text, in UTF-8. -/
def text (s : String) : Bytes := head 3 (Bytes.ofString s).length ++ Bytes.ofString s

/-- An integer. Negative ones are counted from minus one downward. -/
def integer : Int → Bytes
  | .ofNat n => if n < 0x10000000000000000 then head 0 n else head 6 2 ++ octets (Bytes.minimal n)
  | .negSucc n => if n < 0x10000000000000000 then head 1 n else head 6 3 ++ octets (Bytes.minimal n)

/-- A float. -/
def float (bits : UInt64) : Bytes :=
  match Binary64.meaning bits with
  | .nan => [0xF9, 0x7E, 0x00]
  | .infinite false => [0xF9, 0x7C, 0x00]
  | .infinite true => [0xF9, 0xFC, 0x00]
  | .finite _ _ => 0xFB :: Bytes.ofNat 8 bits.toNat

/-- A simple value. -/
def simple (code : Nat) : Bytes :=
  if code < 24 then [UInt8.ofNat (0xE0 + code)] else [0xF8, UInt8.ofNat code]

/-- An array of which the items are encoded already. -/
def packed (items : List Bytes) : Bytes := head 4 items.length ++ items.flatten

/-- A value that only a tag can spell: the tag, and what it is spelled by. -/
def denoted : Denoted → Bytes
  | .moment m => head 6 0 ++ text m.text
  | .day d => head 6 1004 ++ text d.text
  | .decimal x =>
    let digits : Int := x.digits
    head 6 4 ++ packed [integer x.exponent, integer (if x.negative then -digits else digits)]
  | .ratio x => head 6 30 ++ packed [integer x.num, integer (x.den : Int)]
  | .complex real imaginary => head 6 43000 ++ packed [float real, float imaginary]
  | .pattern s => head 6 35 ++ text s
  | .mail s => head 6 36 ++ text s
  | .identifier b => head 6 37 ++ octets b
  | .address a => head 6 (if a.octets.length = 4 then 52 else 54) ++ octets a.octets
  | .network a width =>
    let prefixOctets := (a.octets.reverse.dropWhile (· == 0)).reverse
    head 6 (if a.octets.length = 4 then 52 else 54) ++
      packed [integer (width : Int), octets prefixOctets]
  | .interface a width =>
    head 6 (if a.octets.length = 4 then 52 else 54) ++
      packed [octets a.octets, integer (width : Int)]

mutual

/-- A value. A reference to what encloses it has no encoding; undefined stands for it. -/
def encode : Value → Bytes
  | .null => simple 22
  | .undefined => simple 23
  | .bool b => simple (if b then 21 else 20)
  | .int n => integer n
  | .float bits => float bits
  | .text s => text s
  | .bytes b => octets b
  | .array items => head 4 items.length ++ encodeItems items
  | .map entries => head 5 entries.length ++ encodeEntries entries
  | .simple code => simple code
  | .tag number content => head 6 number ++ encode content
  | .tuple items => head 4 items.length ++ encodeItems items
  | .frozenMap entries => head 5 entries.length ++ encodeEntries entries
  | .set _ members => head 6 258 ++ head 4 members.length ++ encodeItems members
  | .denoted d => denoted d
  | .enclosing _ => simple 23

/-- Values, one after the other. -/
def encodeItems : List Value → Bytes
  | [] => []
  | item :: items => encode item ++ encodeItems items

/-- Entries, one after the other. -/
def encodeEntries : List (Value × Value) → Bytes
  | [] => []
  | entry :: entries => encodeEntry entry ++ encodeEntries entries

/-- Key, then value. -/
def encodeEntry : Value × Value → Bytes
  | (key, value) => encode key ++ encode value

end

end EnclaveAudit.Cbor
