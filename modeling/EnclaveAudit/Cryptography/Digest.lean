/-!
# `EnclaveAudit/Cryptography/Digest.lean` — the digests of a register bank

A register bank is built on one of three digests, which fixes the width of every value in it. A
device names its digest by a tag, and a tag that is none of the three names no digest: nothing else
is tried.
-/

set_option autoImplicit false

namespace EnclaveAudit

/-- A digest that a register bank can be built on. -/
inductive Digest where
  | sha256
  | sha384
  | sha512
  deriving DecidableEq, Repr, Inhabited

namespace Digest

/-- The digests, narrowest first. -/
def all : List Digest := [.sha256, .sha384, .sha512]

/-- The name by which devices and commands know a digest. -/
def tag : Digest → String
  | .sha256 => "SHA256"
  | .sha384 => "SHA384"
  | .sha512 => "SHA512"

/-- The name by which hash libraries know it. -/
def hashName : Digest → String
  | .sha256 => "sha256"
  | .sha384 => "sha384"
  | .sha512 => "sha512"

/-- How many octets a value has. -/
def width : Digest → Nat
  | .sha256 => 32
  | .sha384 => 48
  | .sha512 => 64

/-- The digest that a tag names. -/
def ofTag? (s : String) : Option Digest :=
  if s = "SHA256" then some .sha256
  else if s = "SHA384" then some .sha384
  else if s = "SHA512" then some .sha512
  else none

@[simp] theorem ofTag?_tag (d : Digest) : ofTag? d.tag = some d := by cases d <;> rfl

theorem ofTag?_eq_some_iff {s : String} {d : Digest} : ofTag? s = some d ↔ s = d.tag := by
  constructor
  · intro h
    unfold ofTag? at h
    split at h
    · cases h; assumption
    · split at h
      · cases h; assumption
      · split at h
        · cases h; assumption
        · cases h
  · rintro rfl
    exact ofTag?_tag d

end Digest

end EnclaveAudit
