import EnclaveAudit.Bytes
import EnclaveAudit.Cryptography.Sha2

/-!
# `EnclaveAudit/Cryptography/Ed25519.lean` — signatures of attestation documents

Documents are signed with Edwards-curve signatures over the field of `2 ^ 255 - 19` elements. A
signature depends on nothing but key and message, so a document is a function of what it attests.

Field elements are natural numbers below `p`, and points have the extended coordinates in which one
formula adds any two of them, equal ones included. Numbers are written into octets least
significant octet first, which is the big-endian form reversed.
-/

set_option autoImplicit false

namespace EnclaveAudit.Ed25519

/-! ## The field -/

/-- The size of the field. -/
def p : Nat := Nat.pow 2 255 - 19

/-- The order of the base point. -/
def order : Nat := Nat.pow 2 252 + 27742317777372353535851937790883648493

/-- The sum of two field elements. -/
@[inline] def plus (x y : Nat) : Nat := (x + y) % p

/-- The difference of two field elements. -/
@[inline] def minus (x y : Nat) : Nat := (x + (p - y)) % p

/-- The product of two field elements. -/
@[inline] def mul (x y : Nat) : Nat := x * y % p

/-- A power, by squaring, with the bits of the exponent as fuel. -/
def power (x : Nat) : (bits exponent : Nat) → Nat
  | 0, _ => 1
  | bits + 1, exponent =>
    let root := power x bits (exponent / 2)
    if exponent % 2 = 1 then mul (mul root root) x else mul root root

/-- The inverse of a field element other than zero. -/
def inverse (x : Nat) : Nat := power x 255 (p - 2)

/-! ## The curve -/

/-- A point `(x / z, y / z)` of the curve, with `t = x · y / z`. -/
structure Point where
  x : Nat
  y : Nat
  z : Nat
  t : Nat

namespace Point

/-- The coefficient of the curve `- x² + y² = 1 + d · x² · y²`. -/
def d : Nat := 0x52036cee2b6ffe738cc740797779e89800700a4d4141d8ab75eb4dca135978a3

/-- The neutral point. -/
def zero : Point := ⟨0, 1, 1, 0⟩

/-- The point with these coordinates. -/
def ofAffine (x y : Nat) : Point := ⟨x, y, 1, mul x y⟩

/-- The base point. -/
def base : Point :=
  ofAffine 0x216936d3cd6e53fec0a4e231fdd6dc5c692cc7609525a7b2c9562d608f25d51a
    0x6666666666666666666666666666666666666666666666666666666666666658

/-- The sum of two points. -/
def add (u v : Point) : Point :=
  let a := mul (minus u.y u.x) (minus v.y v.x)
  let b := mul (plus u.y u.x) (plus v.y v.x)
  let c := mul (mul u.t (plus d d)) v.t
  let e := mul (plus u.z u.z) v.z
  let ba := minus b a
  let ec := minus e c
  let ce := plus e c
  let ab := plus b a
  ⟨mul ba ec, mul ce ab, mul ec ce, mul ba ab⟩

/-- The point with the opposite sign. -/
def neg (u : Point) : Point := { u with x := minus 0 u.x, t := minus 0 u.t }

/-- A multiple of a point, by doubling, with the bits of the factor as fuel. -/
def times (u : Point) : (bits factor : Nat) → Point
  | 0, _ => zero
  | bits + 1, factor =>
    let half := times u bits (factor / 2)
    if factor % 2 = 1 then (half.add half).add u else half.add half

/-- The last coordinate, and above it the lowest bit of the first one. -/
def encode (u : Point) : Bytes :=
  let scale := inverse u.z
  (Bytes.ofNat 32 (mul u.y scale + mul u.x scale % 2 * Nat.pow 2 255)).reverse

/-- The point that 32 octets encode, if they encode one. -/
def decode? (b : Bytes) : Option Point :=
  let n := Bytes.toNat b.reverse
  let y := n % Nat.pow 2 255
  if b.length = 32 ∧ y < p then
    let square := mul (minus (mul y y) 1) (inverse (plus (mul d (mul y y)) 1))
    let candidate := power square 252 ((p + 3) / 8)
    let root :=
      if mul candidate candidate = square then candidate
      else mul candidate (power 2 253 ((p - 1) / 4))
    if mul root root = square ∧ ¬(root = 0 ∧ n / Nat.pow 2 255 = 1) then
      some (ofAffine (if root % 2 = n / Nat.pow 2 255 then root else p - root) y)
    else none
  else none

end Point

/-! ## Keys and signatures -/

/-- The hash that keys and signatures are made with, as a number. -/
def hashNumber (b : Bytes) : Nat := Bytes.toNat (Sha2.hash .sha512 b).reverse

/-- The secret factor of a key: the lower half of the hash of its seed, with the lowest three bits
and the highest bit cleared and the second highest set. -/
def secret (seed : Bytes) : Nat :=
  let n := hashNumber seed % Nat.pow 2 254
  Nat.pow 2 254 + (n - n % 8)

/-- The verification key of a seed. -/
def verificationKey (seed : Bytes) : Bytes := (Point.base.times 255 (secret seed)).encode

/-- The signature of a message. -/
def sign (seed message : Bytes) : Bytes :=
  let key := verificationKey seed
  let nonce := hashNumber ((Sha2.hash .sha512 seed).drop 32 ++ message) % order
  let commitment := (Point.base.times 253 nonce).encode
  let challenge := hashNumber (commitment ++ key ++ message) % order
  commitment ++ (Bytes.ofNat 32 ((nonce + challenge * secret seed) % order)).reverse

/-- Whether a signature is one of a message under a verification key. -/
def verify (key message signature : Bytes) : Bool :=
  let commitment := signature.take 32
  let response := Bytes.toNat (signature.drop 32).reverse
  let challenge := hashNumber (commitment ++ key ++ message) % order
  match Point.decode? key with
  | some point =>
    signature.length == 64 && response < order &&
      ((Point.base.times 253 response).add (point.times 253 challenge).neg).encode == commitment
  | none => false

@[simp] theorem length_verificationKey (seed : Bytes) : (verificationKey seed).length = 32 := by
  simp [verificationKey, Point.encode]

@[simp] theorem length_sign (seed message : Bytes) : (sign seed message).length = 64 := by
  simp [sign, Point.encode]

end EnclaveAudit.Ed25519
