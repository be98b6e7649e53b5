import EnclaveAudit.Simulator.Bank
import EnclaveAudit.Wire.Cbor.Encoding

/-!
# `EnclaveAudit/Simulator/Document.lean` — attestation documents

A document says which device it comes from and what the locked registers hold, repeats what the
caller asked to have attested, and is signed. Its form is that of a real one; the certificate is the
bare verification key, so no document of a simulated device leads to a root of trust.

What is signed is the payload together with the header, under a name that keeps such signatures
apart from any other use of the key.
-/

set_option autoImplicit false

namespace EnclaveAudit.Simulator

/-- The longest octet string that a document attests. -/
def attestationLimit : Nat := 1024

/-- The header that names the signature scheme. -/
def protectedHeader : Bytes := Cbor.encode (.map [(.int 1, .int (-8))])

/-- What a document says. -/
def payload (e : Surroundings) (s : Settings) (bank : Bank)
    (userData nonce publicKey : Option Bytes) : Value :=
  .record [
    ("module_id", .text s.moduleId),
    ("digest", .text s.digest.tag),
    ("timestamp", .int e.now.milliseconds),
    ("pcrs", .map ((lockedRegisters bank).map fun r => (.int r.index, .bytes r.value))),
    ("certificate", .bytes (e.primitives.verificationKey s.seed)),
    ("cabundle", .array []),
    ("public_key", .ofBytes? publicKey),
    ("user_data", .ofBytes? userData),
    ("nonce", .ofBytes? nonce)]

/-- What the signature of a payload is a signature of. -/
def toBeSigned (payload : Bytes) : Bytes :=
  Cbor.encode (.array [.text "Signature1", .bytes protectedHeader, .bytes [], .bytes payload])

/-- A document. -/
def document (e : Surroundings) (s : Settings) (bank : Bank)
    (userData nonce publicKey : Option Bytes) : Bytes :=
  let body := Cbor.encode (payload e s bank userData nonce publicKey)
  let signature := e.primitives.sign s.seed (toBeSigned body)
  Cbor.encode (.array [.bytes protectedHeader, .map [], .bytes body, .bytes signature])

end EnclaveAudit.Simulator
