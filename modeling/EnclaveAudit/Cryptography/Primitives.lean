import EnclaveAudit.Cryptography.Ed25519

/-!
# `EnclaveAudit/Cryptography/Primitives.lean` — the cryptography that the rest is built on

A register bank hashes, and a document is signed. Everything else takes the two from here, as
values of one record, so that what is said about registers and audits holds of any hash and any
signature scheme. What needs results of the right widths names them (`Primitives.Sized`), and what
needs that signatures verify assumes it.
-/

set_option autoImplicit false

namespace EnclaveAudit

/-- A hash for each digest, and a signature scheme. -/
structure Primitives where
  hash : Digest → Bytes → Bytes
  verificationKey : (seed : Bytes) → Bytes
  sign : (seed message : Bytes) → Bytes
  verify : (key message signature : Bytes) → Bool

namespace Primitives

/-- The primitives in use. -/
def standard : Primitives where
  hash := Sha2.hash
  verificationKey := Ed25519.verificationKey
  sign := Ed25519.sign
  verify := Ed25519.verify

/-- Results of the right widths. -/
structure Sized (c : Primitives) : Prop where
  length_hash : ∀ d b, (c.hash d b).length = d.width
  length_verificationKey : ∀ seed, (c.verificationKey seed).length = 32
  length_sign : ∀ seed message, (c.sign seed message).length = 64

/-- One extension of a value: the hash of the value and the data after it. -/
def extend (c : Primitives) (d : Digest) (value data : Bytes) : Bytes := c.hash d (value ++ data)

end Primitives

end EnclaveAudit
