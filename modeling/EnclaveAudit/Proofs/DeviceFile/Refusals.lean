import EnclaveAudit.Check.Examination
import EnclaveAudit.Proofs.Check.Complements
import EnclaveAudit.Proofs.Check.Passing
import EnclaveAudit.Proofs.Device.Answer
import EnclaveAudit.Proofs.Device.Session
import EnclaveAudit.Proofs.DeviceFile.Exchange
import EnclaveAudit.Rehearsal.Replay

/-!
# `EnclaveAudit/Proofs/DeviceFile/Refusals.lean` — who refuses behind a device file

Three examinations wait for a refusal. Over a device file a refusal need not come from the device:
a request that is too long for a message is refused before the device is asked, and a control call
that fails, or brings back octets that encode nothing, is reported as an error answer too. Each of
these passes the examination, with the status that stands for it. Of the answers that a device does
encode, only a refusal passes.
-/

set_option autoImplicit false

namespace EnclaveAudit

/-- The answer refuses, and `status` is what the refusal is taken for. -/
def RefusesWith (answer : Value) (status : Status) : Prop :=
  ∃ wire, answer = .map [(.text "Error", wire)] ∧ wire ≠ .text "Success" ∧
    wire ≠ .text "InvalidResponse" ∧ status = Status.ofWire wire

theorem Operation.read_eq_error_iff_refusesWith {operation : Operation} {answer : Value}
    {status : Status} :
    operation.read answer = .error status ∧ status ≠ .invalidResponse ↔
      RefusesWith answer status := by
  constructor
  · rintro ⟨hread, hvalid⟩
    have hrefusal := (read_eq_error_iff_refusal? hvalid).mp hread
    obtain ⟨wire, rfl, rfl, hne⟩ := (refusal?_eq_some_iff hvalid).mp hrefusal
    refine ⟨wire, rfl, ?_, ?_, rfl⟩
    · rintro rfl
      exact hne (Status.ofWire_name .success)
    · rintro rfl
      exact hvalid (Status.ofWire_name .invalidResponse)
  · rintro ⟨wire, rfl, hsuccess, hinvalid, rfl⟩
    have hvalid : Status.ofWire wire ≠ .invalidResponse :=
      fun h => hinvalid ((Status.ofWire_eq_iff (by decide)).mp h)
    have hne : Status.ofWire wire ≠ .success :=
      fun h => hsuccess ((Status.ofWire_eq_iff (by decide)).mp h)
    have hrefusal := (refusal?_eq_some_iff hvalid).mpr ⟨wire, rfl, rfl, hne⟩
    exact ⟨(read_eq_error_iff_refusal? hvalid).mpr hrefusal, hvalid⟩

namespace Examination

/-- The examinations that a refusal passes. -/
inductive AwaitsRefusal : Examination Status → Prop
  | relock (index : Int) : AwaitsRefusal (relock index)
  | lockBeyond (c : Contract) : AwaitsRefusal (lockBeyond c)
  | extendLocked (index : Int) (data : Bytes) : AwaitsRefusal (extendLocked index data)

variable {σ : Type} {t : Transport σ} {x : Examination Status} {s : Session σ} {status : Status}

theorem AwaitsRefusal.sendable (h : x.AwaitsRefusal) : x.operation.sendable = true := by
  cases h <;> rfl

theorem AwaitsRefusal.judge_eq_ok_iff (h : x.AwaitsRefusal)
    {outcome : Except Status x.operation.Result} :
    x.judge outcome = .ok status ↔ outcome = .error status ∧ status ≠ .invalidResponse := by
  cases h <;> exact Check.refused_eq_ok_iff

/-- Such an examination is about the answer alone. -/
theorem AwaitsRefusal.perform_eq_ok_iff (h : x.AwaitsRefusal) (hopen : s.closed = false)
    {answer : Value} (hanswer : (t.exchange x.operation.request s.device).result = .ok answer) :
    (x.perform t s).1 = .ok (.ok status) ↔ RefusesWith answer status := by
  rw [result_perform, Session.result_perform hopen h.sendable, hanswer]
  show Except.ok (x.judge (x.operation.read answer)) = .ok (.ok status) ↔ _
  rw [Except.ok.injEq, h.judge_eq_ok_iff, Operation.read_eq_error_iff_refusesWith]

end Examination

namespace DeviceFile

/-- An error answer that the transport makes up refuses with the status it was made for. -/
theorem refusesWith_errorAnswer_iff {made status : Status} (hsuccess : made ≠ .success)
    (hinvalid : made ≠ .invalidResponse) :
    RefusesWith (errorAnswer made) status ↔ status = made := by
  constructor
  · rintro ⟨wire, hanswer, -, -, rfl⟩
    cases hanswer
    exact Status.ofWire_name made
  · rintro rfl
    refine ⟨_, rfl, ?_, ?_, (Status.ofWire_name status).symm⟩
    · intro h
      exact hsuccess ((Status.ofWire_name status).symm.trans
        ((Status.ofWire_eq_iff (by decide)).mpr h))
    · intro h
      exact hinvalid ((Status.ofWire_name status).symm.trans
        ((Status.ofWire_eq_iff (by decide)).mpr h))

/-- The status that stands for a control call that failed. -/
def failureStatus (number : Int) : Status :=
  if number = Errno.messageTooLong then .inputTooLarge else .internalError

theorem failureStatus_ne (number : Int) :
    failureStatus number ≠ .success ∧ failureStatus number ≠ .invalidResponse := by
  unfold failureStatus
  split <;> decide

/-- What a control call that was made is taken for. -/
theorem refusesWith_answerOf_iff {decode : Decoder} {outcome : Except Int Reply}
    {status : Status} :
    RefusesWith (answerOf decode outcome).1 status ↔
      (∃ number, outcome = .error number ∧ status = failureStatus number) ∨
      ∃ reply, outcome = .ok reply ∧
        ((∃ cause, decode (window reply) = .error cause ∧ status = .internalError) ∨
        ∃ answer, decode (window reply) = .ok answer ∧ RefusesWith answer status) := by
  cases outcome with
  | error number =>
    obtain ⟨hsuccess, hinvalid⟩ := failureStatus_ne number
    have h : RefusesWith (answerOf decode (.error number)).1 status ↔
        status = failureStatus number := refusesWith_errorAnswer_iff hsuccess hinvalid
    simpa using h
  | ok reply =>
    cases hdecode : decode (window reply) with
    | error cause =>
      have h : RefusesWith (errorAnswer .internalError) status ↔ status = .internalError :=
        refusesWith_errorAnswer_iff (by decide) (by decide)
      simpa [answerOf, hdecode] using h
    | ok answer => simp [answerOf, hdecode]

variable {φ : Type} {system : System φ} {path : String} {d : State φ} {descriptor : Nat}
  {request : Value} {status : Status}

/-- The device refuses the request: it was sent, the control call brought back an answer, and the
answer is a refusal. -/
def RefusedByDevice (system : System φ) (descriptor : Nat) (request : Value) (before : φ)
    (status : Status) : Prop :=
  (Cbor.encode request).length ≤ requestLimit ∧
    ∃ reply answer, (system.control descriptor (Cbor.encode request) before).1 = .ok reply ∧
      system.decode (window reply) = .ok answer ∧ RefusesWith answer status

/-- The transport refuses the request in place of the device: it was not sent, or the control call
failed, or it brought back no answer. -/
def RefusedByTransport (system : System φ) (descriptor : Nat) (request : Value) (before : φ)
    (status : Status) : Prop :=
  let encoded := Cbor.encode request
  let outcome := (system.control descriptor encoded before).1
  (requestLimit < encoded.length ∧ status = .inputTooLarge) ∨
  (encoded.length ≤ requestLimit ∧
    ((∃ number, outcome = .error number ∧ status = failureStatus number) ∨
    ∃ reply cause, outcome = .ok reply ∧ system.decode (window reply) = .error cause ∧
      status = .internalError))

section

variable {x : Examination Status} {s : Session (State φ)}

theorem passes_iff_of_limit_lt (hx : x.AwaitsRefusal) (hopen : s.closed = false)
    (hfile : s.device.descriptor = some descriptor)
    (hlong : requestLimit < (Cbor.encode x.operation.request).length) :
    (x.perform (transport system path) s).1 = .ok (.ok status) ↔ status = .inputTooLarge := by
  have hresult : ((transport system path).exchange x.operation.request s.device).result =
      .ok (errorAnswer .inputTooLarge) :=
    congrArg Outcome.result (exchange_of_limit_lt hfile hlong)
  rw [hx.perform_eq_ok_iff hopen hresult, refusesWith_errorAnswer_iff (by decide) (by decide)]

theorem passes_iff_of_length_le (hx : x.AwaitsRefusal) (hopen : s.closed = false)
    (hfile : s.device.descriptor = some descriptor)
    (hshort : (Cbor.encode x.operation.request).length ≤ requestLimit) :
    (x.perform (transport system path) s).1 = .ok (.ok status) ↔
      RefusesWith (answerOf system.decode
        (system.control descriptor (Cbor.encode x.operation.request) s.device.system).1).1
        status := by
  have hresult : ((transport system path).exchange x.operation.request s.device).result = .ok
      (answerOf system.decode
        (system.control descriptor (Cbor.encode x.operation.request) s.device.system).1).1 :=
    congrArg Outcome.result (exchange_of_length_le hfile hshort)
  rw [hx.perform_eq_ok_iff hopen hresult]

/-- **Who refuses**: an examination that waits for a refusal is passed by the device, or by the
transport in its place, and by nothing else. -/
theorem passes_iff_refused (hx : x.AwaitsRefusal) (hopen : s.closed = false)
    (hfile : s.device.descriptor = some descriptor) :
    (x.perform (transport system path) s).1 = .ok (.ok status) ↔
      RefusedByDevice system descriptor x.operation.request s.device.system status ∨
      RefusedByTransport system descriptor x.operation.request s.device.system status := by
  unfold RefusedByDevice RefusedByTransport
  dsimp only
  rcases Nat.lt_or_ge requestLimit (Cbor.encode x.operation.request).length with hlong | hshort
  · rw [passes_iff_of_limit_lt hx hopen hfile hlong]
    simp [hlong, Nat.not_le.mpr hlong]
  · rw [passes_iff_of_length_le hx hopen hfile hshort, refusesWith_answerOf_iff]
    simp only [hshort, Nat.not_lt.mpr hshort, true_and, false_and, false_or]
    grind

end

/-! ## Over a recorded file -/

/-- A session on a file that is open and has these replies recorded. -/
def replaying (replies : List Rehearsal.ScriptedReply) : Session (State Rehearsal.Replay) :=
  { device := { system := { replies }, descriptor := some Rehearsal.Replay.descriptor } }

/-- Surroundings that no recorded reply depends on. -/
def silent : Surroundings := ⟨(0 : Int), fun _ _ => [], .standard⟩

/-- The device refuses in an answer, and a control call fails. -/
theorem relock_passes_refused_and_failed :
    let t := transport (Rehearsal.Replay.system silent) defaultPath
    let answer := Cbor.encode (errorAnswer .readOnlyIndex)
    ((Examination.relock 0).perform t (replaying [.octets answer none])).1 =
        .ok (.ok .readOnlyIndex) ∧
      ((Examination.relock 0).perform t (replaying [.failure Errno.inputOutput])).1 =
        .ok (.ok .internalError) := by
  constructor
  · refine (passes_iff_refused (.relock 0) rfl rfl).mpr (.inl ⟨by decide +kernel, ?_⟩)
    have hrefuses : RefusesWith (errorAnswer .readOnlyIndex) .readOnlyIndex :=
      (refusesWith_errorAnswer_iff (by decide) (by decide)).mpr rfl
    exact ⟨_, errorAnswer .readOnlyIndex, rfl, by rfl, hrefuses⟩
  · refine (passes_iff_refused (.relock 0) rfl rfl).mpr (.inr (.inr ⟨by decide +kernel, .inl ?_⟩))
    exact ⟨Errno.inputOutput, rfl, by decide⟩

/-- A control call that fails, octets that encode nothing, and a request that is too long pass, and
the device refused none of them. -/
theorem refusals_without_the_device :
    let system := Rehearsal.Replay.system silent
    let t := transport system defaultPath
    let failed := replaying [.failure Errno.inputOutput]
    let undecodable := replaying [.octets [0xFF] none]
    let relock := Examination.relock 0
    let beyond := Examination.lockBeyond ⟨32, .sha384, 48⟩
    let long := Examination.extendLocked 0 (Bytes.zeros 4096)
    ((relock.perform t failed).1 = .ok (.ok .internalError) ∧
      ¬ RefusedByDevice system 7 relock.operation.request failed.device.system .internalError) ∧
    ((beyond.perform t undecodable).1 = .ok (.ok .internalError) ∧
      ¬ RefusedByDevice system 7 beyond.operation.request undecodable.device.system
        .internalError) ∧
    ((long.perform t (replaying [])).1 = .ok (.ok .inputTooLarge) ∧
      ¬ RefusedByDevice system 7 long.operation.request (replaying []).device.system
        .inputTooLarge) := by
  intro system t failed undecodable relock beyond long
  have hmade : RefusesWith (errorAnswer .internalError) .internalError :=
    (refusesWith_errorAnswer_iff (by decide) (by decide)).mpr rfl
  have hlong : requestLimit < (Cbor.encode long.operation.request).length := by decide +kernel
  refine ⟨⟨?_, ?_⟩, ⟨?_, ?_⟩, ?_, ?_⟩
  · exact (passes_iff_of_length_le (.relock 0) rfl rfl (by decide +kernel)).mpr hmade
  · rintro ⟨-, reply, answer, hreply, -⟩
    cases hreply
  · exact (passes_iff_of_length_le (.lockBeyond _) rfl rfl (by decide +kernel)).mpr hmade
  · rintro ⟨-, reply, answer, hreply, hdecode, -⟩
    cases hreply
    have hbreak : Cbor.decode (window ⟨[0xFF], 1⟩) = .error .strayBreak := by rfl
    cases hbreak.symm.trans hdecode
  · exact (passes_iff_of_limit_lt (.extendLocked _ _) rfl rfl hlong).mpr rfl
  · rintro ⟨hshort, -⟩
    exact absurd hshort (Nat.not_le.mpr hlong)

end DeviceFile

end EnclaveAudit
