import EnclaveAudit.Device.Contract
import EnclaveAudit.Device.Register
import EnclaveAudit.Device.Status

/-!
# `EnclaveAudit/Device/Operation.lean` — what a device can be asked

There are seven operations. Each has a name on the wire, a request, and a type of result
(`Result`), so that what a device may answer depends on what it was asked. A request without
arguments is the bare name, one with arguments a map from the name to them.

Indices are values and not numbers, and so is what a document is to attest: a caller may send any of
them, and refusing a senseless one is the device's part of the contract.
-/

set_option autoImplicit false

namespace EnclaveAudit

/-- An operation with its arguments. -/
inductive Operation where
  | describe
  | describeRegister (index : Value)
  | extendRegister (index : Value) (data : Bytes)
  | lockRegister (index : Value)
  /-- lock every register below `count` -/
  | lockRegisters (count : Value)
  | attest (userData nonce publicKey : Value)
  /-- `length` octets of a fresh chunk of random octets -/
  | random (length : Int)

namespace Operation

/-- The name on the wire. -/
def name : Operation → String
  | .describe => "DescribeNSM"
  | .describeRegister _ => "DescribePCR"
  | .extendRegister _ _ => "ExtendPCR"
  | .lockRegister _ => "LockPCR"
  | .lockRegisters _ => "LockPCRs"
  | .attest _ _ _ => "Attestation"
  | .random _ => "GetRandom"

/-- A name with arguments. -/
def call (name : String) (arguments : List (String × Value)) : Value :=
  .record [(name, .record arguments)]

/-- The request that asks for the operation. -/
def request : Operation → Value
  | .describe => .text "DescribeNSM"
  | .describeRegister index => call "DescribePCR" [("index", index)]
  | .extendRegister index data => call "ExtendPCR" [("index", index), ("data", .bytes data)]
  | .lockRegister index => call "LockPCR" [("index", index)]
  | .lockRegisters count => call "LockPCRs" [("range", count)]
  | .attest userData nonce publicKey =>
    call "Attestation" [("user_data", userData), ("nonce", nonce), ("public_key", publicKey)]
  | .random _ => .text "GetRandom"

/-- What a register read tells: the lock and the value. -/
structure Reading where
  lock : Bool
  value : Bytes
  deriving DecidableEq, Repr, Inhabited

/-- What a device answers that does not refuse. -/
abbrev Result : Operation → Type
  | .describe => Description
  | .describeRegister _ => Reading
  | .extendRegister _ _ => Bytes
  | .lockRegister _ => Unit
  | .lockRegisters _ => Unit
  | .attest _ _ _ => Bytes
  | .random _ => Bytes

/-- Whether an operation may be sent at all. A request for random octets yields one chunk, so a
length that no chunk has is refused before the device is asked. -/
def sendable : Operation → Bool
  | .random length => 0 < length && length ≤ (randomChunk : Int)
  | _ => true

end Operation

/-- An operation that was refused, and how. -/
structure Refusal where
  status : Status
  operation : String
  deriving DecidableEq, Repr

namespace Refusal

/-- What is said about the refusal. -/
def message (r : Refusal) : String :=
  "Request::" ++ r.operation ++ " got error response: " ++ r.status.description

/-- The refusal as part of a document. -/
def document (r : Refusal) : Value :=
  .record [("operation", .text r.operation), ("code", .text r.status.name)]

end Refusal

end EnclaveAudit
