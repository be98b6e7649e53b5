import EnclaveAudit.Journal.Notice

/-!
# `EnclaveAudit/Journal/Entry.lean` — what a session remembers for the log

A session keeps its trail as data: the notices of the audit, every request and answer, and what the
transport had to say about its file. Whether and how an entry becomes a line is decided when the log
is written, so an audit is the same at every log level.
-/

set_option autoImplicit false

namespace EnclaveAudit

/-- What a transport over a file has to say about it. -/
inductive Remark where
  | opened (path : String)
  | notOpened (path reason : String)
  | closed (descriptor : Nat)
  | notClosed (descriptor : Nat) (reason : String)
  | controlFailed (reason : String)
  | undecodable (reason : String)
  deriving DecidableEq, Repr

namespace Remark

/-- What went wrong is an error, the rest is detail. -/
def level : Remark → Level
  | .opened _ | .closed _ => .debug
  | _ => .error

/-- The log line. -/
def text : Remark → String
  | .opened path => "Device file '" ++ path ++ "' opened successfully."
  | .notOpened path reason => "Device file '" ++ path ++ "' failed to open: " ++ reason
  | .closed descriptor => "File of descriptor " ++ toString descriptor ++ " closed successfully."
  | .notClosed descriptor reason =>
    "File of descriptor " ++ toString descriptor ++ " failed to close: " ++ reason
  | .controlFailed reason => "NSM ioctl failed: " ++ reason
  | .undecodable reason => "NSM response could not be decoded: " ++ reason

end Remark

/-- One entry of a session's trail. -/
inductive Entry where
  | notice (n : Notice)
  | asked (request : Value)
  | answered (answer : Value)
  | remark (r : Remark)
  deriving Repr, Inhabited

namespace Entry

/-- The notice that an entry is. -/
def notice? : Entry → Option Notice
  | .notice n => some n
  | _ => none

/-- The request that an entry is. -/
def request? : Entry → Option Value
  | .asked request => some request
  | _ => none

/-- How much an entry matters. Requests and answers are detail. -/
def level : Entry → Level
  | .notice n => n.level
  | .asked _ | .answered _ => .debug
  | .remark r => r.level

/-- The log that an entry is written to. -/
def logger : Entry → String
  | .notice _ => "nsmcheck.conformance"
  | .asked _ | .answered _ => "nsmcheck.device"
  | .remark _ => "nsmcheck.driver"

/-- The log line. -/
def text : Entry → String
  | .notice n => n.text
  | .asked request => "NSM request: " ++ request.literal
  | .answered answer => "NSM response: " ++ answer.literal
  | .remark r => r.text

end Entry

end EnclaveAudit
