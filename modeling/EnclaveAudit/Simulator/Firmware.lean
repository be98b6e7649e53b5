import EnclaveAudit.Device.Status
import EnclaveAudit.Simulator.Document

/-!
# `EnclaveAudit/Simulator/Firmware.lean` — how a simulated device answers

The device answers every request, whatever it is: a request that makes no sense is an invalid
operation, and one that breaks a rule is refused with the status of the rule. A refused request
changes no register; the most it leaves behind is a count.

`Request.ofValue` reads a request, in the order in which the firmware looks at its parts, and
`serve` carries it out. Everything that reading can refuse is decided before the device is touched,
except what depends on the registers themselves.
-/

set_option autoImplicit false

namespace EnclaveAudit.Simulator

/-! ## Requests -/

/-- A request that makes sense. -/
inductive Request where
  | describe
  | describeRegister (index : Nat)
  | extendRegister (index : Nat) (data : Bytes)
  | lockRegister (index : Nat)
  | lockRegisters (count : Nat)
  | attest (userData nonce publicKey : Option Bytes)
  | random
  deriving DecidableEq, Repr

namespace Request

/-- The name and the arguments of a request. -/
def parts? : Value → Option (String × Value)
  | .text name => some (name, .null)
  | .map [(.text name, body)] => some (name, body)
  | _ => none

/-- An argument that is an integer and not negative. -/
def number (name : String) (body : Value) : Except Status Nat :=
  match (body.field? name).bind Value.nat? with
  | some n => .ok n
  | none => .error .invalidOperation

/-- The index of a register of the bank. -/
def index (s : Settings) (body : Value) : Except Status Nat := do
  let n ← number "index" body
  if (n : Int) < s.registerCount then pure n else throw .invalidIndex

/-- The largest number of registers that can be locked at once. -/
def lockLimit (s : Settings) : Int :=
  if s.has .looseLockRange then s.registerCount + 1 else s.registerCount

/-- An octet string to be attested, if there is one. -/
def attested (name : String) (body : Value) : Except Status (Option Bytes) :=
  match body.field? name with
  | none | some .null => .ok none
  | some (.bytes b) => if attestationLimit < b.length then .error .inputTooLarge else .ok (some b)
  | some _ => .error .invalidOperation

/-- Whether a value can be the arguments of an attestation. -/
def isAttestationBody : Value → Bool
  | .null | .map _ => true
  | _ => false

/-- The request that a value is, or the status that it is refused with. -/
def ofValue (s : Settings) (request : Value) : Except Status Request :=
  match parts? request with
  | some ("DescribeNSM", _) => .ok .describe
  | some ("DescribePCR", body) => do pure (.describeRegister (← index s body))
  | some ("ExtendPCR", body) => do
    let i ← index s body
    match (body.field? "data").bind Value.bytes? with
    | some data => pure (.extendRegister i data)
    | none => throw .invalidOperation
  | some ("LockPCR", body) => do pure (.lockRegister (← index s body))
  | some ("LockPCRs", body) => do
    let count ← number "range" body
    if (count : Int) ≤ lockLimit s then pure (.lockRegisters count) else throw .invalidIndex
  | some ("Attestation", body) => do
    if isAttestationBody body then
      let userData ← attested "user_data" body
      let nonce ← attested "nonce" body
      let publicKey ← attested "public_key" body
      pure (.attest userData nonce publicKey)
    else throw .invalidOperation
  | some ("GetRandom", _) => .ok .random
  | _ => .error .invalidOperation

end Request

/-! ## State -/

/-- A simulated device at one point in time. -/
structure State where
  bank : Bank
  isOpen : Bool := false
  openCount : Nat := 0
  closeCount : Nat := 0
  requestCount : Nat := 0
  /-- how many draws of random octets were made -/
  draws : Nat := 0
  /-- the octets that a stuck source gives again and again -/
  stuck : Option Bytes := none

namespace State

/-- A device that was just made. -/
def fresh (e : Surroundings) (s : Settings) : State := { bank := boot e.primitives s }

/-- The registers. -/
def registers (d : State) : List Register := d.bank.map Cell.register

/-- The device with one cell changed. -/
def setCell (index : Nat) (c : Cell) (d : State) : State := { d with bank := d.bank.set index c }

end State

/-! ## Answers -/

/-- An answer with a body. -/
def reply (name : String) (body : List (String × Value)) : Value :=
  .record [(name, .record body)]

/-- An answer that is a refusal. -/
def refuse (status : Status) : Value := .record [("Error", .text status.name)]

/-- What a device says about itself. -/
def describe (s : Settings) (d : State) : Value :=
  reply "DescribeNSM" [
    ("version_major", .int s.version.1),
    ("version_minor", .int s.version.2.1),
    ("version_patch", .int s.version.2.2),
    ("module_id", .text s.moduleId),
    ("max_pcrs", .int s.registerCount),
    ("locked_pcrs", .array ((lockedRegisters d.bank).map fun r => .int r.index)),
    ("digest", .text s.reported)]

/-- Reading a register. -/
def serveRead (s : Settings) (index : Nat) (c : Cell) (d : State) : Value × State :=
  let (lock, after) := c.read s
  (reply "DescribePCR" [("lock", .bool lock), ("data", .bytes c.register.value)],
    d.setCell index after)

/-- Extending a register. -/
def serveExtend (e : Surroundings) (s : Settings) (index : Nat) (c : Cell) (data : Bytes)
    (d : State) : Except Status (Value × State) :=
  if c.register.lock && !s.has .extendLocked then .error .readOnlyIndex
  else
    let previous :=
      if s.has .idempotentExtend then Bytes.zeros c.register.value.length else c.register.value
    let value := e.primitives.extend s.digest previous data
    .ok (reply "ExtendPCR" [("data", .bytes value)], d.setCell index (c.write value))

/-- Locking a register. An attempt on a locked one is counted, also if it is refused. -/
def serveLock (s : Settings) (index : Nat) (c : Cell) (d : State) : Value × State :=
  if c.register.lock then
    let attempt := c.relocks + 1
    (if Cell.relockIsSilent s attempt then .text "LockPCR" else refuse .readOnlyIndex,
      d.setCell index { c with relocks := attempt })
  else (.text "LockPCR", d.setCell index c.lock)

/-- Random octets. -/
def serveRandom (e : Surroundings) (s : Settings) (d : State) : Value × State :=
  let answer (b : Bytes) : Value := reply "GetRandom" [("random", .bytes b)]
  match s.has .stuckRandom, d.stuck with
  | true, some b => (answer b, d)
  | stuck, _ =>
    let b := e.entropy d.draws randomChunk
    (answer b, { d with draws := d.draws + 1, stuck := if stuck then some b else d.stuck })

/-- Carries out a request that makes sense. -/
def serve (e : Surroundings) (s : Settings) (d : State) : Request → Except Status (Value × State)
  | .describe => .ok (describe s d, d)
  | .describeRegister index =>
    match d.bank[index]? with
    | some c => .ok (serveRead s index c d)
    | none => .error .invalidIndex
  | .extendRegister index data =>
    match d.bank[index]? with
    | some c => serveExtend e s index c data d
    | none => .error .invalidIndex
  | .lockRegister index =>
    match d.bank[index]? with
    | some c => .ok (serveLock s index c d)
    | none => .error .invalidIndex
  | .lockRegisters count =>
    .ok (.text "LockPCRs", { d with bank := lockFirst count d.bank })
  | .attest userData nonce publicKey =>
    let document :=
      if s.has .emptyDocument then [] else document e s d.bank userData nonce publicKey
    .ok (reply "Attestation" [("document", .bytes document)], d)
  | .random => .ok (serveRandom e s d)

/-- Answers any request. -/
def answer (e : Surroundings) (s : Settings) (request : Value) (d : State) : Value × State :=
  match Request.ofValue s request with
  | .error status => (refuse status, d)
  | .ok r =>
    match serve e s d r with
    | .error status => (refuse status, d)
    | .ok answered => answered

end EnclaveAudit.Simulator
