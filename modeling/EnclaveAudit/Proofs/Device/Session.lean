import EnclaveAudit.Clock
import EnclaveAudit.Device.Session

/-!
# `EnclaveAudit/Proofs/Device/Session.lean` — what an operation does to a session

While a session is open, an operation that may be sent is one exchange: its result is read off the
answer, and the device is where the exchange left it. An operation that may not be sent does nothing
at all. A session stays open whatever is performed on it, so operations can be performed one after
the other (`performAll`).
-/

set_option autoImplicit false

namespace EnclaveAudit

/-- A request that is exchanged is remembered, whatever comes of it. -/
theorem Recorded.requests_exchange {σ : Type} {t : Transport σ} (request : Value)
    (r : Recorded σ) : (t.recorded.exchange request r).device.requests = r.requests ++ [request] := by
  simp [Transport.recorded, after, requests, Use.request?]

namespace Session

variable {σ : Type} {t : Transport σ} {s : Session σ} {operation : Operation}

/-- Performs operations one after the other, each at its time, and collects their results. -/
def performAll (t : Instant → Transport σ) : List (Instant × Operation) → Session σ →
    List ((operation : Operation) × Except Interruption (Except Status operation.Result)) ×
      Session σ
  | [], s => ([], s)
  | (now, operation) :: later, s =>
    let (result, s) := s.perform (t now) operation
    let (rest, s) := performAll t later s
    (⟨operation, result⟩ :: rest, s)

theorem result_perform (hopen : s.closed = false) (hsend : operation.sendable = true) :
    (s.perform t operation).1 =
      (t.exchange operation.request s.device).result.map operation.read := by
  unfold perform send
  rw [if_pos hsend, hopen, if_neg Bool.false_ne_true]
  dsimp only
  cases (t.exchange operation.request s.device).result <;> rfl

theorem device_perform (hopen : s.closed = false) (hsend : operation.sendable = true) :
    (s.perform t operation).2.device = (t.exchange operation.request s.device).device := by
  unfold perform send
  rw [if_pos hsend, hopen, if_neg Bool.false_ne_true]
  dsimp only
  cases (t.exchange operation.request s.device).result <;> rfl

theorem perform_of_not_sendable (hsend : operation.sendable = false) :
    s.perform t operation = (.ok (.error .invalidArgument), s) := by
  unfold perform
  rw [hsend, if_neg Bool.false_ne_true]

theorem perform_of_closed (hclosed : s.closed = true) (hsend : operation.sendable = true) :
    s.perform t operation = (.error (.sessionClosed t.name), s) := by
  unfold perform send
  rw [if_pos hsend, if_pos hclosed]

theorem closed_perform (hopen : s.closed = false) : (s.perform t operation).2.closed = false := by
  cases hsend : operation.sendable with
  | false => rw [perform_of_not_sendable hsend, hopen]
  | true =>
    unfold perform send
    rw [if_pos hsend, hopen, if_neg Bool.false_ne_true]
    dsimp only
    cases (t.exchange operation.request s.device).result <;> exact hopen

end Session

end EnclaveAudit
