import EnclaveAudit.Journal.Entry

/-!
# `EnclaveAudit/Device/Transport.lean` — channels to a device

A transport carries values to a device and brings values back. It is given as three functions on its
state, so a device is a state machine and a conversation with it an ordinary function: two
conversations with the same device in the same state are the same conversation. A transport may
answer anything, and it may be interrupted instead of answering; being released always succeeds.

`recorded` remembers how a transport was used, and changes nothing else.
-/

set_option autoImplicit false

namespace EnclaveAudit

/-- Why a transport did not bring back an answer. -/
inductive Interruption where
  /-- the device at a path cannot be had -/
  | unavailable (path reason : String)
  /-- the session on a transport of this name is over -/
  | sessionClosed (transport : String)
  /-- the simulated device was not opened -/
  | simulatorClosed
  /-- the device file at a path was not opened -/
  | fileClosed (path : String)
  /-- any other failure, by its kind and its words -/
  | failed (kind message : String)
  deriving DecidableEq, Repr

namespace Interruption

/-- What is said about the interruption. -/
def message : Interruption → String
  | .unavailable path reason => "Device file '" ++ path ++ "' failed to open: " ++ reason
  | .sessionClosed transport => "session on " ++ transport ++ " is closed"
  | .simulatorClosed => "simulated device is not open"
  | .fileClosed path => "device file '" ++ path ++ "' is not open"
  | .failed _ message => message

/-- Whether the device could not be had, which is a matter of the setup. -/
def isUnavailable : Interruption → Bool
  | .unavailable _ _ => true
  | _ => false

end Interruption

/-- What came of using a transport. -/
structure Outcome (σ α : Type) where
  result : Except Interruption α
  remarks : List Remark
  device : σ

/-- A channel to a device whose state is a `σ`. -/
structure Transport (σ : Type) where
  name : String
  acquire : σ → Outcome σ Unit
  release : σ → List Remark × σ
  exchange : Value → σ → Outcome σ Value

/-! ## Recording -/

/-- One use of a transport. -/
inductive Use where
  | acquire
  | release
  | exchange (request : Value)
  deriving BEq, Repr

namespace Use

/-- The request that a use carries. -/
def request? : Use → Option Value
  | .exchange request => some request
  | _ => none

end Use

/-- A device, and how it was used so far. -/
structure Recorded (σ : Type) where
  device : σ
  uses : Array Use := #[]

namespace Recorded

variable {σ : Type}

/-- The requests that reached the device. -/
def requests (r : Recorded σ) : List Value := r.uses.toList.filterMap Use.request?

/-- One more use, which left the device in a state. -/
def after (r : Recorded σ) (use : Use) (device : σ) : Recorded σ := ⟨device, r.uses.push use⟩

end Recorded

namespace Transport

variable {σ : Type}

/-- The transport with a memory of its uses. -/
def recorded (t : Transport σ) : Transport (Recorded σ) where
  name := t.name
  acquire r :=
    let o := t.acquire r.device
    ⟨o.result, o.remarks, r.after .acquire o.device⟩
  release r :=
    let (remarks, device) := t.release r.device
    (remarks, r.after .release device)
  exchange request r :=
    let o := t.exchange request r.device
    ⟨o.result, o.remarks, r.after (.exchange request) o.device⟩

end Transport

end EnclaveAudit
