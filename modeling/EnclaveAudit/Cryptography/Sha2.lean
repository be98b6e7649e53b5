import EnclaveAudit.Bytes
import EnclaveAudit.Cryptography.Digest

/-!
# `EnclaveAudit/Cryptography/Sha2.lean` — the hash family of the registers

The three digests are one algorithm. SHA-512 works on words of 64 bits and SHA-256 on words of 32;
they differ in nothing but the width, the number of rounds and the amounts by which words are
rotated, and the constants of the narrow one are the upper halves of the constants of the wide one.
SHA-384 is SHA-512 from another starting point with the result cut. So there is one definition
here, over a class of words, and a table of constants.

A block is compressed in one pass: the words of the schedule are made as they are used, from a
window on the last sixteen of them.
-/

set_option autoImplicit false

namespace EnclaveAudit.Sha2

/-! ## Words -/

/-- Amounts of rotation. In the two `mix` ones the third amount is a shift. -/
structure Amounts where
  sum0 : Nat × Nat × Nat
  sum1 : Nat × Nat × Nat
  mix0 : Nat × Nat × Nat
  mix1 : Nat × Nat × Nat

/-- The words that a member of the family works on. -/
class Word (α : Type) extends Add α, AndOp α, XorOp α, Complement α where
  /-- the width of a word -/
  octets : Nat
  rounds : Nat
  amounts : Amounts
  /-- the word of a 64-bit constant: as much of its upper end as fits -/
  constant : UInt64 → α
  ofNat : Nat → α
  toNat : α → Nat
  /-- rotation to the right -/
  rotate : α → Nat → α
  /-- shift to the right -/
  shift : α → Nat → α

instance : Word UInt32 where
  octets := 4
  rounds := 64
  amounts := ⟨(2, 13, 22), (6, 11, 25), (7, 18, 3), (17, 19, 10)⟩
  constant k := (k >>> 32).toUInt32
  ofNat n := UInt32.ofNat n
  toNat x := x.toNat
  rotate x n := (x >>> UInt32.ofNat n) ||| (x <<< UInt32.ofNat (32 - n))
  shift x n := x >>> UInt32.ofNat n

instance : Word UInt64 where
  octets := 8
  rounds := 80
  amounts := ⟨(28, 34, 39), (14, 18, 41), (1, 8, 7), (19, 61, 6)⟩
  constant k := k
  ofNat n := UInt64.ofNat n
  toNat x := x.toNat
  rotate x n := (x >>> UInt64.ofNat n) ||| (x <<< UInt64.ofNat (64 - n))
  shift x n := x >>> UInt64.ofNat n

/-! ## Constants -/

/-- The first 64 bits of the fractional parts of the cube roots of the first eighty primes. -/
def roundConstants : List UInt64 := [
  0x428a2f98d728ae22, 0x7137449123ef65cd, 0xb5c0fbcfec4d3b2f,
  0xe9b5dba58189dbbc, 0x3956c25bf348b538, 0x59f111f1b605d019,
  0x923f82a4af194f9b, 0xab1c5ed5da6d8118, 0xd807aa98a3030242,
  0x12835b0145706fbe, 0x243185be4ee4b28c, 0x550c7dc3d5ffb4e2,
  0x72be5d74f27b896f, 0x80deb1fe3b1696b1, 0x9bdc06a725c71235,
  0xc19bf174cf692694, 0xe49b69c19ef14ad2, 0xefbe4786384f25e3,
  0x0fc19dc68b8cd5b5, 0x240ca1cc77ac9c65, 0x2de92c6f592b0275,
  0x4a7484aa6ea6e483, 0x5cb0a9dcbd41fbd4, 0x76f988da831153b5,
  0x983e5152ee66dfab, 0xa831c66d2db43210, 0xb00327c898fb213f,
  0xbf597fc7beef0ee4, 0xc6e00bf33da88fc2, 0xd5a79147930aa725,
  0x06ca6351e003826f, 0x142929670a0e6e70, 0x27b70a8546d22ffc,
  0x2e1b21385c26c926, 0x4d2c6dfc5ac42aed, 0x53380d139d95b3df,
  0x650a73548baf63de, 0x766a0abb3c77b2a8, 0x81c2c92e47edaee6,
  0x92722c851482353b, 0xa2bfe8a14cf10364, 0xa81a664bbc423001,
  0xc24b8b70d0f89791, 0xc76c51a30654be30, 0xd192e819d6ef5218,
  0xd69906245565a910, 0xf40e35855771202a, 0x106aa07032bbd1b8,
  0x19a4c116b8d2d0c8, 0x1e376c085141ab53, 0x2748774cdf8eeb99,
  0x34b0bcb5e19b48a8, 0x391c0cb3c5c95a63, 0x4ed8aa4ae3418acb,
  0x5b9cca4f7763e373, 0x682e6ff3d6b2b8a3, 0x748f82ee5defb2fc,
  0x78a5636f43172f60, 0x84c87814a1f0ab72, 0x8cc702081a6439ec,
  0x90befffa23631e28, 0xa4506cebde82bde9, 0xbef9a3f7b2c67915,
  0xc67178f2e372532b, 0xca273eceea26619c, 0xd186b8c721c0c207,
  0xeada7dd6cde0eb1e, 0xf57d4f7fee6ed178, 0x06f067aa72176fba,
  0x0a637dc5a2c898a6, 0x113f9804bef90dae, 0x1b710b35131c471b,
  0x28db77f523047d84, 0x32caab7b40c72493, 0x3c9ebe0a15c9bebc,
  0x431d67c49c100d4c, 0x4cc5d4becb3e42b6, 0x597f299cfc657e2a,
  0x5fcb6fab3ad6faec, 0x6c44198c4a475817
]

/-- The first 64 bits of the fractional parts of the square roots of the first eight primes. -/
def start : List UInt64 := [
  0x6a09e667f3bcc908, 0xbb67ae8584caa73b, 0x3c6ef372fe94f82b,
  0xa54ff53a5f1d36f1, 0x510e527fade682d1, 0x9b05688c2b3e6c1f,
  0x1f83d9abfb41bd6b, 0x5be0cd19137e2179
]

/-- The same of the next eight primes: where SHA-384 starts. -/
def start384 : List UInt64 := [
  0xcbbb9d5dc1059ed8, 0x629a292a367cd507, 0x9159015a3070dd17,
  0x152fecd8f70e5939, 0x67332667ffc00b31, 0x8eb44a8768581511,
  0xdb0c2e0d64f98fa7, 0x47b5481dbefa4fa4
]

/-! ## Compression -/

/-- The eight words that a hash is made of. -/
structure State (α : Type) where
  a : α
  b : α
  c : α
  d : α
  e : α
  f : α
  g : α
  h : α

namespace State

variable {α : Type}

/-- The words in order. -/
def toList (s : State α) : List α := [s.a, s.b, s.c, s.d, s.e, s.f, s.g, s.h]

/-- The state of eight words; a word that is missing is `default`. -/
def ofList (default : α) (words : List α) : State α :=
  let word (i : Nat) := words.getD i default
  ⟨word 0, word 1, word 2, word 3, word 4, word 5, word 6, word 7⟩

/-- Word by word. -/
@[inline] def add [Add α] (s t : State α) : State α :=
  ⟨s.a + t.a, s.b + t.b, s.c + t.c, s.d + t.d, s.e + t.e, s.f + t.f, s.g + t.g, s.h + t.h⟩

end State

section

variable {α : Type} [Word α]

/-- The sum of three rotations of a word. -/
@[inline] def sum (amounts : Nat × Nat × Nat) (x : α) : α :=
  Word.rotate x amounts.1 ^^^ Word.rotate x amounts.2.1 ^^^ Word.rotate x amounts.2.2

/-- The sum of two rotations of a word and a shift. -/
@[inline] def mix (amounts : Nat × Nat × Nat) (x : α) : α :=
  Word.rotate x amounts.1 ^^^ Word.rotate x amounts.2.1 ^^^ Word.shift x amounts.2.2

/-- One round, with its constant and its word of the schedule. -/
@[specialize] def round (k w : α) (s : State α) : State α :=
  let amounts := Word.amounts α
  let choice := (s.e &&& s.f) ^^^ (~~~s.e &&& s.g)
  let majority := (s.a &&& s.b) ^^^ (s.a &&& s.c) ^^^ (s.b &&& s.c)
  let fresh := s.h + sum amounts.sum1 s.e + choice + k + w
  ⟨fresh + (sum amounts.sum0 s.a + majority), s.a, s.b, s.c, s.d + fresh, s.e, s.f, s.g⟩

/-- The next word of the schedule, from the last sixteen. -/
@[specialize] def next (window : List α) : α :=
  let word (i : Nat) := window.getD i (Word.ofNat 0)
  mix (Word.amounts α).mix1 (word 14) + word 9 + mix (Word.amounts α).mix0 (word 1) + word 0

/-- The rounds of one block, a constant each. The window starts as the words of the block. -/
@[specialize] def compress : List UInt64 → (window : List α) → State α → State α
  | k :: ks, w :: window, s =>
    compress ks (window ++ [next (w :: window)]) (round (Word.constant k) w s)
  | _, _, s => s

/-! ## Messages -/

/-- Pieces of `size` from the front, as many as the fuel. -/
def pieces {β : Type} (size : Nat) : (fuel : Nat) → List β → List (List β)
  | 0, _ => []
  | fuel + 1, xs => if xs.isEmpty then [] else xs.take size :: pieces size fuel (xs.drop size)

/-- A message made up to whole blocks: a one bit, zeros, and its length in bits. -/
def padded (octets : Nat) (message : Bytes) : Bytes :=
  let block := 16 * octets
  let tail := 2 * octets
  let used := (message.length + 1 + tail) % block
  message ++ 0x80 :: Bytes.zeros ((block - used) % block) ++ Bytes.ofNat tail (8 * message.length)

/-- The words of a block. -/
@[specialize] def wordsOf (block : Bytes) : List α :=
  (pieces (Word.octets α) 16 block).map fun digits => Word.ofNat (Bytes.toNat digits)

/-- The hash of a message from a starting point, uncut. -/
@[specialize] def digest (start : List UInt64) (message : Bytes) : Bytes :=
  let whole := padded (Word.octets α) message
  let constants := roundConstants.take (Word.rounds α)
  let first : State α := State.ofList (Word.ofNat 0) (start.map Word.constant)
  let last := (pieces (16 * Word.octets α) whole.length whole).foldl
    (fun s block => s.add (compress constants (wordsOf block) s)) first
  last.toList.flatMap fun x => Bytes.ofNat (Word.octets α) (Word.toNat x)

theorem length_digest (start : List UInt64) (message : Bytes) :
    (digest (α := α) start message).length = 8 * Word.octets α := by
  simp only [digest, State.toList, List.flatMap_cons, List.flatMap_nil, List.length_append,
    Bytes.length_ofNat, List.length_nil]
  omega

end

/-- The hash of a message. -/
def hash : Digest → Bytes → Bytes
  | .sha256, message => digest (α := UInt32) start message
  | .sha384, message => (digest (α := UInt64) start384 message).take 48
  | .sha512, message => digest (α := UInt64) start message

/-- A hash has the width of its digest. -/
@[simp] theorem length_hash (d : Digest) (message : Bytes) : (hash d message).length = d.width := by
  cases d
  · exact length_digest start message
  · simp only [hash, List.length_take, length_digest]
    rfl
  · exact length_digest start message

end EnclaveAudit.Sha2
