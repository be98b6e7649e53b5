import EnclaveAudit.Device.Operation

/-!
# `EnclaveAudit/Device/Answer.lean` — reading what a device answers

An answer is either an error, a map from `Error` to a status; or a map from the name of the
operation to a body; or, for the operations that return nothing, the bare name. Anything else is an
invalid response, whatever the device meant by it, and so is a body with a field missing or of
another kind than the operation defines. A body may be a map that cannot be changed, the answer may
not. Fields that a body has beyond those are left alone: newer
firmware may add some.

The list of locked registers is the exception. Anything that holds integers one after the other is
taken for it, and a mail without headers, which holds nothing, for an empty one.

An error that carries the status of success is malformed too.
-/

set_option autoImplicit false

namespace EnclaveAudit.Operation

/-- The status of an answer that is an error. -/
def refusal? : Value → Option Status
  | .map [(.text "Error", status)] =>
    some (if Status.ofWire status = .success then .invalidResponse else Status.ofWire status)
  | _ => none

theorem refusal?_ne_success {answer : Value} {status : Status}
    (h : refusal? answer = some status) : status ≠ .success := by
  unfold refusal? at h
  split at h
  · cases h
    split
    · decide
    · assumption
  · cases h

/-- What an answer holds under a name, if it holds nothing else. -/
def body? (name : String) : Value → Option Value
  | .map [(.text key, body)] => if key = name then some body else none
  | _ => none

/-! ## Bodies -/

/-- A field that is an integer and not negative. -/
def natural? (name : String) (body : Value) : Option Int := do
  let n ← (← body.entry? name).int?
  if 0 ≤ n then some n else none

/-- The locked registers of a description: none if they are not listed. A set of them is taken in
the order in which it shows them; the names of headers are no integers, so a mail can have none. -/
def lockedRegisters? (body : Value) : Option (List Int) :=
  match body.entry? "locked_pcrs" with
  | none => some []
  | some listed => do (← listed.items?).mapM Value.int?

/-- A description. -/
def description? (body : Value) : Option Description := do
  let versionMajor ← natural? "version_major" body
  let versionMinor ← natural? "version_minor" body
  let versionPatch ← natural? "version_patch" body
  let moduleId ← (← body.entry? "module_id").text?
  let registerCount ← natural? "max_pcrs" body
  let lockedRegisters ← lockedRegisters? body
  let digest ← (← body.entry? "digest").text?
  pure { versionMajor, versionMinor, versionPatch, moduleId, registerCount, digest, lockedRegisters }

/-- A register read. -/
def reading? (body : Value) : Option Reading := do
  let lock ← (← body.entry? "lock").bool?
  let value ← (← body.entry? "data").bytes?
  pure ⟨lock, value⟩

/-- A field that is an octet string. -/
def octets? (name : String) (body : Value) : Option Bytes := do (← body.entry? name).bytes?

/-! ## Answers -/

/-- An answer with a body. -/
def readBody {α : Type} (name : String) (read : Value → Option α) (answer : Value) :
    Except Status α :=
  match refusal? answer with
  | some status => .error status
  | none =>
    match (body? name answer).bind read with
    | some result => .ok result
    | none => .error .invalidResponse

/-- An answer that is a bare name. -/
def readUnit (name : String) (answer : Value) : Except Status Unit :=
  match refusal? answer with
  | some status => .error status
  | none =>
    match answer with
    | .text s => if s = name then .ok () else .error .invalidResponse
    | _ => .error .invalidResponse

/-- The result that an answer to an operation carries, or the status that it refuses it with. -/
def read : (operation : Operation) → Value → Except Status operation.Result
  | .describe, answer => readBody "DescribeNSM" description? answer
  | .describeRegister _, answer => readBody "DescribePCR" reading? answer
  | .extendRegister _ _, answer => readBody "ExtendPCR" (octets? "data") answer
  | .lockRegister _, answer => readUnit "LockPCR" answer
  | .lockRegisters _, answer => readUnit "LockPCRs" answer
  | .attest _ _ _, answer => readBody "Attestation" (octets? "document") answer
  | .random length, answer =>
    (readBody "GetRandom" (octets? "random") answer).map (·.take length.toNat)

end EnclaveAudit.Operation
