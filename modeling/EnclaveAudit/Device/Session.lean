import EnclaveAudit.Device.Answer
import EnclaveAudit.Device.Transport

/-!
# `EnclaveAudit/Device/Session.lean` — using a device

A session owns a transport between opening and closing. Every operation goes through `perform`,
which tells three things apart: the transport was interrupted, the device refused, the device
answered. A session that is closed sends nothing, and closing it a second time does nothing.
-/

set_option autoImplicit false

namespace EnclaveAudit

/-- A session on a device whose state is a `σ`, with its trail. -/
structure Session (σ : Type) where
  device : σ
  closed : Bool := false
  journal : Array Entry := #[]

namespace Session

variable {σ : Type}

/-- The session with one more entry in its trail. -/
def note (entry : Entry) (s : Session σ) : Session σ := { s with journal := s.journal.push entry }

/-- The session after the transport was used. -/
def used (device : σ) (remarks : List Remark) (s : Session σ) : Session σ :=
  { s with device, journal := s.journal ++ (remarks.map Entry.remark).toArray }

/-- The notices of the trail. -/
def notices (s : Session σ) : List Notice := s.journal.toList.filterMap Entry.notice?

/-- Sends a request and brings back the answer. -/
def send (t : Transport σ) (request : Value) (s : Session σ) :
    Except Interruption Value × Session σ :=
  if s.closed then (.error (.sessionClosed t.name), s)
  else
    let o := t.exchange request s.device
    let s := (s.note (.asked request)).used o.device o.remarks
    match o.result with
    | .ok answer => (.ok answer, s.note (.answered answer))
    | .error interruption => (.error interruption, s)

/-- Performs an operation. One that must not be sent is refused here, also if the session is
closed. -/
def perform (t : Transport σ) (operation : Operation) (s : Session σ) :
    Except Interruption (Except Status operation.Result) × Session σ :=
  if operation.sendable then
    match s.send t operation.request with
    | (.ok answer, s) => (.ok (operation.read answer), s)
    | (.error interruption, s) => (.error interruption, s)
  else (.ok (.error .invalidArgument), s)

/-- Closes the session and releases the transport, once. -/
def close (t : Transport σ) (s : Session σ) : Session σ :=
  if s.closed then s
  else
    let (remarks, device) := t.release s.device
    (({ s with closed := true }).used device remarks).note (.notice (.sessionClosed (.text t.name)))

/-- Acquires a transport. The session is new if that succeeds; the trail goes on in either case. -/
def acquire (t : Transport σ) (s : Session σ) : Except Interruption Unit × Session σ :=
  let o := t.acquire s.device
  let s := s.used o.device o.remarks
  match o.result with
  | .ok () => (.ok (), ({ s with closed := false }).note (.notice (.sessionOpened (.text t.name))))
  | .error interruption => (.error interruption, s)

end Session

end EnclaveAudit
