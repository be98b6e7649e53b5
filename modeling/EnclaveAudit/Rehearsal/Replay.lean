import EnclaveAudit.DeviceFile.Transport
import EnclaveAudit.Simulator.Firmware

/-!
# `EnclaveAudit/Rehearsal/Replay.lean` — an operating system that is not there

Over this operating system a device file can be opened and closed, or not, and each control call
gets the next of a list of replies: an error number, or octets, which need not be an encoded answer
and may come with a length that is not theirs. When the list is used up a simulated device answers
the request that the octets encode, if there is one. Every call is remembered.
-/

set_option autoImplicit false

namespace EnclaveAudit.Rehearsal

/-- The reply to one control call. -/
inductive ScriptedReply where
  | failure (number : Int)
  | octets (octets : Bytes) (length : Option Nat)
  deriving Repr

/-- A call of the operating system. -/
inductive SystemCall where
  | openFile (path : String)
  | closeFile (descriptor : Nat)
  | control (descriptor : Nat) (request : Bytes)
  deriving DecidableEq, Repr

/-- A recorded operating system. An error number of zero is no error. -/
structure Replay where
  openError : Int := 0
  closeError : Int := 0
  replies : List ScriptedReply := []
  backend : Option (Simulator.Settings × Simulator.State) := none
  calls : Array SystemCall := #[]

namespace Replay

/-- The descriptor of every file. -/
def descriptor : Nat := 7

/-- The system after one more call. -/
def after (call : SystemCall) (r : Replay) : Replay := { r with calls := r.calls.push call }

/-- The reply of the simulated device, if there is one and the octets encode a request. -/
def askBackend (e : Surroundings) (request : Bytes) (r : Replay) :
    Except Int DeviceFile.Reply × Replay :=
  match r.backend, Cbor.decode request with
  | some (settings, device), .ok v =>
    let (answer, device) := Simulator.answer e settings v device
    let octets := Cbor.encode answer
    (.ok ⟨octets, octets.length⟩, { r with backend := some (settings, device) })
  | _, _ => (.error Errno.inputOutput, r)

/-- The operating system. -/
def system (e : Surroundings) : DeviceFile.System Replay where
  openFile path r :=
    (if r.openError = 0 then .ok descriptor else .error r.openError, r.after (.openFile path))
  closeFile fd r :=
    (if r.closeError = 0 then .ok () else .error r.closeError, r.after (.closeFile fd))
  control fd request r :=
    let r := r.after (.control fd request)
    match r.replies with
    | .failure number :: replies => (.error number, { r with replies })
    | .octets octets length :: replies =>
      (.ok ⟨octets, length.getD octets.length⟩, { r with replies })
    | [] => askBackend e request r

end Replay

end EnclaveAudit.Rehearsal
