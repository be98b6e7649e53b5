import EnclaveAudit.Device.Status
import EnclaveAudit.Device.Transport
import EnclaveAudit.DeviceFile.Errno
import EnclaveAudit.Text.Quoted
import EnclaveAudit.Wire.Cbor.Decoding
import EnclaveAudit.Wire.Cbor.Encoding

/-!
# `EnclaveAudit/DeviceFile/Transport.lean` — a device behind a file

A real module is reached through a device file. A message holds an encoded request and an empty
buffer; one control call exchanges it, and leaves the encoded answer in the buffer and its length
beside it. The operating system is a parameter (`System`), so the transport is the same over the
kernel and over a recording. What reads a value from the octets is a parameter as well, and is given
with the system: the transport asks it once and knows nothing about it.

Failures of the exchange are reported the way the device reports its own, as error answers. A caller
sees one shape, and what it does with a refusal it does with a broken file too.
-/

set_option autoImplicit false

namespace EnclaveAudit.DeviceFile

/-- The file of a device that was given none. -/
def defaultPath : String := "/dev/nsm"

/-- The longest request, in octets. -/
def requestLimit : Nat := 0x1000

/-- The size of the buffer for an answer, in octets. -/
def responseLimit : Nat := 0x3000

/-- The size of a message: two buffers, each an address and a length. -/
def messageSize : Nat := 32

/-- The number of the control call: a read and a write of a message, of this magic, with number
zero. -/
def controlNumber : Nat := 3 * 0x40000000 + messageSize * 0x10000 + 0x0A * 0x100

/-- What a control call left in the buffer, and the length it reports. -/
structure Reply where
  octets : Bytes
  length : Nat
  deriving DecidableEq, Repr

/-- What reads a value from octets, or says why there is none. -/
abbrev Decoder := Bytes → Except Cbor.Malformed Value

/-- An operating system whose state is a `φ`: opening a path for reading and writing, closing a
descriptor, and the control call on one. Failures are error numbers. With it comes the reader of what
it brings back. -/
structure System (φ : Type) where
  openFile : String → φ → Except Int Nat × φ
  closeFile : Nat → φ → Except Int Unit × φ
  control : Nat → Bytes → φ → Except Int Reply × φ
  decode : Decoder := Cbor.decode

/-- A device file: the operating system, and the descriptor if the file is open. -/
structure State (φ : Type) where
  system : φ
  descriptor : Option Nat := none

/-- The octets that an answer is read from: what the reply left in the buffer, zeros after it, up to
the length that it reports. -/
def window (reply : Reply) : Bytes :=
  let filled := reply.octets.take responseLimit
  (filled ++ Bytes.zeros (responseLimit - filled.length)).take (min reply.length responseLimit)

/-- The answer of a device that could not be asked. -/
def errorAnswer (status : Status) : Value := .record [("Error", .text status.name)]

/-- The answer that a control call brings back, as the decoder reads it. -/
def answerOf (decode : Decoder) : Except Int Reply → Value × List Remark
  | .error number =>
    (errorAnswer (if number = Errno.messageTooLong then .inputTooLarge else .internalError),
      [.controlFailed (Errno.message number)])
  | .ok reply =>
    match decode (window reply) with
    | .ok v => (v, [])
    | .error cause => (errorAnswer .internalError, [.undecodable cause.message])

variable {φ : Type}

/-- Opens the file. If that fails, a descriptor that was open stays. -/
def acquire (system : System φ) (path : String) (d : State φ) : Outcome (State φ) Unit :=
  match system.openFile path d.system with
  | (.ok descriptor, after) => ⟨.ok (), [.opened path], ⟨after, some descriptor⟩⟩
  | (.error number, after) =>
    let reason := Errno.messageAbout number path
    ⟨.error (.unavailable path reason), [.notOpened path reason], { d with system := after }⟩

/-- Closes the file, if it is open. -/
def release (system : System φ) (d : State φ) : List Remark × State φ :=
  match d.descriptor with
  | none => ([], d)
  | some descriptor =>
    match system.closeFile descriptor d.system with
    | (.ok (), after) => ([.closed descriptor], ⟨after, none⟩)
    | (.error number, after) => ([.notClosed descriptor (Errno.message number)], ⟨after, none⟩)

/-- Exchanges a message, unless the request is too long for one. -/
def exchange (system : System φ) (path : String) (request : Value) (d : State φ) :
    Outcome (State φ) Value :=
  match d.descriptor with
  | none => ⟨.error (.fileClosed path), [], d⟩
  | some descriptor =>
    let encoded := Cbor.encode request
    if requestLimit < encoded.length then ⟨.ok (errorAnswer .inputTooLarge), [], d⟩
    else
      let (outcome, after) := system.control descriptor encoded d.system
      let (value, remarks) := answerOf system.decode outcome
      ⟨.ok value, remarks, { d with system := after }⟩

/-- The channel to a device behind a file. -/
def transport (system : System φ) (path : String) : Transport (State φ) where
  name := "nsm-driver"
  acquire := acquire system path
  release := release system
  exchange := exchange system path

end EnclaveAudit.DeviceFile
