import EnclaveAudit.Wire.Value

/-!
# `EnclaveAudit/Device/Status.lean` — how a device answers when it does not answer

A device that refuses an operation answers with a status. There are nine, each with a name on the
wire and a description for people. Firmware that answers with anything else has failed in a way that
the module does not define, which is an internal error of the device.
-/

set_option autoImplicit false

namespace EnclaveAudit

/-- The outcome that a device reports for an operation. -/
inductive Status where
  | success
  | invalidArgument
  | invalidIndex
  | invalidResponse
  | readOnlyIndex
  | invalidOperation
  | bufferTooSmall
  | inputTooLarge
  | internalError
  deriving DecidableEq, Repr, Inhabited

namespace Status

/-- All of them. -/
def all : List Status :=
  [.success, .invalidArgument, .invalidIndex, .invalidResponse, .readOnlyIndex, .invalidOperation,
    .bufferTooSmall, .inputTooLarge, .internalError]

/-- The name on the wire. -/
def name : Status → String
  | .success => "Success"
  | .invalidArgument => "InvalidArgument"
  | .invalidIndex => "InvalidIndex"
  | .invalidResponse => "InvalidResponse"
  | .readOnlyIndex => "ReadOnlyIndex"
  | .invalidOperation => "InvalidOperation"
  | .bufferTooSmall => "BufferTooSmall"
  | .inputTooLarge => "InputTooLarge"
  | .internalError => "InternalError"

/-- The description for people. -/
def description : Status → String
  | .success => "Success"
  | .invalidArgument => "Invalid argument"
  | .invalidIndex => "Invalid index"
  | .invalidResponse => "Invalid response"
  | .readOnlyIndex => "Read-only index"
  | .invalidOperation => "Invalid operation"
  | .bufferTooSmall => "Buffer too small"
  | .inputTooLarge => "Input too large"
  | .internalError => "Internal error"

/-- The status with a name on the wire. -/
def ofName? (s : String) : Option Status := all.find? fun status => status.name == s

/-- The status that a value on the wire stands for: the named one, or an internal error. -/
def ofWire : Value → Status
  | .text s => (ofName? s).getD .internalError
  | _ => .internalError

@[simp] theorem ofName?_name (s : Status) : ofName? s.name = some s := by
  cases s <;> decide +kernel

@[simp] theorem ofWire_name (s : Status) : ofWire (.text s.name) = s := by simp [ofWire]

end Status

end EnclaveAudit
