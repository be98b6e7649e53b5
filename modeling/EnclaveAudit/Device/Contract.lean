import EnclaveAudit.Cryptography.Digest
import EnclaveAudit.Device.Description
import EnclaveAudit.Wire.Literal

/-!
# `EnclaveAudit/Device/Contract.lean` — the shape a register bank must have

The bank has 32 registers. The first sixteen are locked when the machine starts: four of them hold
measurements of the platform and of the instance that launched this one, the others are empty. The
second sixteen are free. A `Contract` is that shape with a digest, derived once from the description
that the device gives of itself; a description that no bank can be modelled on is a fault of the
setup (`DescriptionFault`), not a violation.

The four layout questions (`lockedAtBoot`, `zeroAtBoot?`, `zeroAfterLock`, `freeRegisters`) are asked
of any index, also of one that no bank has.
-/

set_option autoImplicit false

namespace EnclaveAudit

/-! ## The layout -/

/-- How many registers a bank has. -/
def registerCount : Nat := 32

/-- How many of them are locked when the machine starts. -/
def bootLockedCount : Nat := 16

/-- The longest module identifier, in octets. -/
def moduleIdLimit : Nat := 100

/-- How many octets one request for random octets yields. -/
def randomChunk : Nat := 256

/-- The registers that hold measurements of the platform. -/
def platformRegisters : List Nat := [0, 1, 2]

/-- The register that holds the measurement of the parent instance. -/
def parentInstanceRegister : Nat := 4

/-- The locked registers that are empty. -/
def emptyBootRegisters : List Nat := [3, 5, 6, 7, 8, 9, 10, 11, 12, 13, 14, 15]

/-! ## Faults of a description -/

/-- Why no bank can be modelled on a description. -/
inductive DescriptionFault where
  | registerCount (reported : Int)
  | moduleIdMissing
  | moduleIdTooLong (reported : String)
  /-- the tag, whatever it is, names no digest -/
  | unknownDigest (reported : Value)
  deriving Repr

namespace DescriptionFault

/-- What is wrong. -/
def reason : DescriptionFault → String
  | .registerCount _ => "PCR count must be " ++ toString EnclaveAudit.registerCount
  | .moduleIdMissing => "module ID is missing"
  | .moduleIdTooLong _ => "module ID longer than " ++ toString moduleIdLimit ++ " bytes"
  | .unknownDigest _ => "unknown digest"

/-- What was reported instead. -/
def observed : DescriptionFault → Value
  | .registerCount n => .int n
  | .moduleIdMissing => .text ""
  | .moduleIdTooLong s => .text s
  | .unknownDigest v => v

/-- What is said about the description. -/
def message (f : DescriptionFault) : String :=
  "Invalid NSM description: " ++ f.reason ++ " (observed: " ++ f.observed.literal ++ ")"

/-- The fault as part of a document. -/
def document (f : DescriptionFault) : Value :=
  .record [("reason", .text f.reason), ("observed", .text f.observed.literal)]

end DescriptionFault

/-- The digest that a tag of any kind names. -/
def Digest.ofWire (tag : Value) : Except DescriptionFault Digest :=
  match tag with
  | .text s =>
    match Digest.ofTag? s with
    | some d => .ok d
    | none => .error (.unknownDigest tag)
  | _ => .error (.unknownDigest tag)

/-! ## The contract -/

/-- The bank that a device must have. -/
structure Contract where
  registerCount : Int
  digest : Digest
  digestWidth : Nat
  deriving DecidableEq, Repr

namespace Contract

/-- The bank that a description promises. The conditions are tried in this order, and the first
that fails is the fault. -/
def ofDescription (d : Description) : Except DescriptionFault Contract :=
  if d.registerCount ≠ (EnclaveAudit.registerCount : Int) then
    .error (.registerCount d.registerCount)
  else if d.moduleId = "" then .error .moduleIdMissing
  else if moduleIdLimit < (Bytes.ofString d.moduleId).length then
    .error (.moduleIdTooLong d.moduleId)
  else
    match Digest.ofWire (.text d.digest) with
    | .error fault => .error fault
    | .ok digest => .ok ⟨d.registerCount, digest, digest.width⟩

/-- The registers of the bank. -/
def allRegisters (c : Contract) : List Nat := List.range c.registerCount.toNat

/-- The registers that are locked when the machine starts. -/
def initialLocked (_ : Contract) : List Nat := List.range bootLockedCount

/-- The registers that are not. -/
def freeRegisters (c : Contract) : List Nat :=
  List.range' bootLockedCount (c.registerCount.toNat - bootLockedCount)

/-- What an empty register holds. -/
def zeroValue (c : Contract) : Bytes := Bytes.zeros c.digestWidth

/-- Whether a register is locked when the machine starts. -/
def lockedAtBoot (index : Int) : Bool := index < (bootLockedCount : Int)

/-- Whether a register must be empty before anything is locked: it must be, must not be, or may be
either. -/
def zeroAtBoot? (index : Int) : Option Bool :=
  if (emptyBootRegisters.map Int.ofNat).contains index then some true
  else if (platformRegisters.map Int.ofNat).contains index || index == (parentInstanceRegister : Int)
  then some false
  else none

/-- Whether a register must be empty once the whole bank is locked; all others must not be. -/
def zeroAfterLock (index : Int) : Bool := (emptyBootRegisters.map Int.ofNat).contains index

end Contract

end EnclaveAudit
