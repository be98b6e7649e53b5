import EnclaveAudit.Proofs.Device.Session
import EnclaveAudit.Proofs.DeviceFile.Exchange
import EnclaveAudit.Proofs.Simulator.Messages
import EnclaveAudit.Rehearsal.Replay

/-!
# `EnclaveAudit/Proofs/DeviceFile/Backed.lean` — a simulated device behind a file

A simulated device can be used directly, or behind a device file whose control calls it answers.
Between the two stand an encoding and a decoding of every request and of every answer, and nothing
else, so as long as the messages fit, nobody can tell which of them a session is on.

`Backs` ties a file to the device that could be used in its place. One exchange keeps them tied and
brings back the same answer; operations, and runs of operations, follow.
-/

set_option autoImplicit false

namespace EnclaveAudit.DeviceFile

open Rehearsal (Replay)

/-- The file is open, and behind it a simulated device answers that is like this one. -/
structure Backs (s : Simulator.Settings) (d : Simulator.State) (f : State Replay) : Prop where
  isOpen : d.isOpen = true
  descriptor : ∃ descriptor, f.descriptor = some descriptor
  replies : f.system.replies = []
  backend : ∃ d', f.system.backend = some (s, d') ∧ d'.Alike d

/-- A request and its answer fit into a message. -/
def Fits (turn : Value × Except Interruption Value) : Prop :=
  (Cbor.encode turn.1).length ≤ requestLimit ∧
    ∀ answer, turn.2 = .ok answer → (Cbor.encode answer).length ≤ responseLimit

section

variable {e : Surroundings} {s : Simulator.Settings} {path : String} {d d' : Simulator.State}
  {f : State Replay} {request : Value}

theorem decode_portable {v : Value} (hv : Cbor.Portable 4 v) {limit : Nat}
    (hlimit : limit < 2 ^ 64) (hfits : (Cbor.encode v).length ≤ limit) :
    Cbor.decode (Cbor.encode v) = .ok v := by
  have h := Cbor.decode_encode (hv.mono (by decide)) (Nat.lt_of_le_of_lt hfits hlimit) []
  rwa [List.append_nil] at h

/-- A control call is answered by the device behind the file. -/
theorem control_eq {r : Replay} {descriptor : Nat} (hrequest : Cbor.Portable 4 request)
    (hfits : (Cbor.encode request).length ≤ requestLimit) (hreplies : r.replies = [])
    (hbackend : r.backend = some (s, d)) :
    (Replay.system e).control descriptor (Cbor.encode request) r =
      let (answer, after) := Simulator.answer e s request d
      let octets := Cbor.encode answer
      (.ok ⟨octets, octets.length⟩,
        { r.after (.control descriptor (Cbor.encode request)) with
          backend := some (s, after) }) := by
  have hdecode := decode_portable hrequest (by decide) hfits
  simp only [Replay.system, Replay.after, hreplies, Replay.askBackend, hbackend, hdecode]

/-- An answer that fits is brought back as it is. -/
theorem answerOf_encoded {answer : Value} (hanswer : Cbor.Portable 4 answer)
    (hfits : (Cbor.encode answer).length ≤ responseLimit) :
    answerOf Cbor.decode (.ok ⟨Cbor.encode answer, (Cbor.encode answer).length⟩) = (answer, []) := by
  have hdecode := decode_portable hanswer (by decide) hfits
  simp only [answerOf, window_of_length_le hfits, hdecode]

/-- **One exchange** with the file is one with the device, as long as it fits. -/
theorem Backs.exchange (h : Backs s d f) (path : String) (hrequest : Cbor.Portable 4 request)
    (hfits : Fits (request, ((Simulator.transport e s).exchange request d).result)) :
    let direct := (Simulator.transport e s).exchange request d
    let filed := (transport (Replay.system e) path).exchange request f
    filed.result = direct.result ∧ Backs s direct.device filed.device := by
  intro direct filed
  obtain ⟨descriptor, hdescriptor⟩ := h.descriptor
  obtain ⟨d', hbackend, halike⟩ := h.backend
  obtain ⟨hshort, hanswer⟩ := hfits
  obtain ⟨hresult, hafter⟩ := halike.exchange h.isOpen e s request
  have hlimit := hanswer _ hresult
  have hfiled : filed = ⟨.ok (Simulator.answer e s request d').1, [],
      { f with system := { f.system.after (.control descriptor (Cbor.encode request)) with
        backend := some (s, (Simulator.answer e s request d').2) } }⟩ := by
    show EnclaveAudit.DeviceFile.exchange (Replay.system e) path request f = _
    rw [exchange_of_length_le hdescriptor hshort, control_eq hrequest hshort h.replies hbackend]
    dsimp only
    rw [show (Replay.system e).decode = Cbor.decode from rfl,
      answerOf_encoded (Simulator.portable_answer request) hlimit]
  rw [hfiled]
  exact ⟨hresult.symm, Simulator.isOpen_exchange h.isOpen request, ⟨descriptor, hdescriptor⟩,
    h.replies, _, rfl, hafter⟩

/-- A device that has little to say keeps to that, and a request that fits is answered by something
that fits. -/
theorem fits_exchange (hs : s.Brief) (he : e.Usual) (hopen : d.isOpen = true) (hkept : d.Kept s)
    (hshort : (Cbor.encode request).length ≤ requestLimit) :
    Fits (request, ((Simulator.transport e s).exchange request d).result) ∧
      ((Simulator.transport e s).exchange request d).device.Kept s := by
  refine ⟨⟨hshort, ?_⟩, hkept.exchange he hopen request⟩
  rw [Simulator.result_exchange hopen]
  rintro answer ⟨⟩
  exact Simulator.length_answer_le hs he hkept request

/-- Requests that fit are all that is needed of such a device. -/
theorem fits_transcript (hs : s.Brief) {requests : List (Instant × Value)}
    (he : ∀ r ∈ requests, ({ e with now := r.1 } : Surroundings).Usual)
    (hrequests : ∀ r ∈ requests, (Cbor.encode r.2).length ≤ requestLimit)
    (hopen : d.isOpen = true) (hkept : d.Kept s) :
    ∀ turn ∈ (Simulator.transcript e s requests d).1, Fits turn := by
  induction requests generalizing d with
  | nil => exact fun turn hturn => absurd hturn List.not_mem_nil
  | cons next later ih =>
    obtain ⟨now, request⟩ := next
    obtain ⟨henow, helater⟩ := List.forall_mem_cons.mp he
    obtain ⟨hnow, hlater⟩ := List.forall_mem_cons.mp hrequests
    obtain ⟨hfits, hdevice⟩ := fits_exchange hs henow hopen hkept hnow
    intro turn hturn
    rcases List.mem_cons.mp hturn with rfl | hturn
    · exact hfits
    · exact ih helater hlater (Simulator.isOpen_exchange hopen request) hdevice turn hturn

/-! ## Sessions -/

variable {a : Session Simulator.State} {b : Session (State Replay)} {operation : Operation}

/-- **One operation** has the same result on both. -/
theorem Backs.perform (h : Backs s a.device b.device) (path : String) (ha : a.closed = false)
    (hb : b.closed = false) (htyped : operation.Typed)
    (hfits : operation.sendable = true → Fits (operation.request,
      ((Simulator.transport e s).exchange operation.request a.device).result)) :
    let direct := a.perform (Simulator.transport e s) operation
    let filed := b.perform (transport (Replay.system e) path) operation
    filed.1 = direct.1 ∧ Backs s direct.2.device filed.2.device := by
  intro direct filed
  cases hsend : operation.sendable with
  | true =>
    obtain ⟨hresult, hafter⟩ := h.exchange path (portable_request htyped) (hfits hsend)
    constructor
    · show (b.perform _ operation).1 = (a.perform _ operation).1
      rw [Session.result_perform hb hsend, Session.result_perform ha hsend]
      exact congrArg _ hresult
    · show Backs s (a.perform _ operation).2.device (b.perform _ operation).2.device
      rwa [Session.device_perform hb hsend, Session.device_perform ha hsend]
  | false =>
    -- nothing is sent on either
    have hdirect : direct = _ := Session.perform_of_not_sendable hsend
    have hfiled : filed = _ := Session.perform_of_not_sendable hsend
    rw [hdirect, hfiled]
    exact ⟨rfl, h⟩

/-- The requests of operations, without those that are not sent. -/
def sent (steps : List (Instant × Operation)) : List (Instant × Value) :=
  (steps.filter fun step => step.2.sendable).map fun step => (step.1, step.2.request)

theorem sent_cons_of_sendable {now : Instant} {steps : List (Instant × Operation)}
    (hsend : operation.sendable = true) :
    sent ((now, operation) :: steps) = (now, operation.request) :: sent steps := by
  simp [sent, hsend]

theorem sent_cons_of_not_sendable {now : Instant} {steps : List (Instant × Operation)}
    (hsend : operation.sendable = false) : sent ((now, operation) :: steps) = sent steps := by
  simp [sent, hsend]

/-- **Any operations** have the same results on both, step by step. -/
theorem Backs.performAll (h : Backs s a.device b.device) (path : String) (ha : a.closed = false)
    (hb : b.closed = false) {steps : List (Instant × Operation)}
    (htyped : ∀ step ∈ steps, step.2.Typed)
    (hfits : ∀ turn ∈ (Simulator.transcript e s (sent steps) a.device).1, Fits turn) :
    let direct := a.performAll (fun now => Simulator.transport { e with now } s) steps
    let filed := b.performAll (fun now => transport (Replay.system { e with now }) path) steps
    filed.1 = direct.1 ∧ Backs s direct.2.device filed.2.device := by
  induction steps generalizing a b with
  | nil => exact ⟨rfl, h⟩
  | cons step later ih =>
    obtain ⟨now, operation⟩ := step
    obtain ⟨hfirst, hlater⟩ := List.forall_mem_cons.mp htyped
    have hstep : operation.sendable = true → Fits (operation.request,
        ((Simulator.transport { e with now } s).exchange operation.request a.device).result) := by
      intro hsend
      rw [sent_cons_of_sendable hsend] at hfits
      exact hfits _ List.mem_cons_self
    obtain ⟨hresult, hafter⟩ := h.perform path ha hb hfirst hstep
    have hrest : ∀ turn ∈ (Simulator.transcript e s (sent later)
        (a.perform (Simulator.transport { e with now } s) operation).2.device).1, Fits turn := by
      cases hsend : operation.sendable with
      | true =>
        rw [sent_cons_of_sendable hsend] at hfits
        rw [Session.device_perform ha hsend]
        exact fun turn hturn => hfits turn (List.mem_cons_of_mem _ hturn)
      | false =>
        rw [sent_cons_of_not_sendable hsend] at hfits
        rwa [Session.perform_of_not_sendable hsend]
    obtain ⟨hresults, hlast⟩ :=
      ih hafter (Session.closed_perform ha) (Session.closed_perform hb) hlater hrest
    exact ⟨congrArg₂ List.cons (congrArg (Sigma.mk operation) hresult) hresults, hlast⟩

end

/-- **A file with a simulated device behind it is that device.** Take a device in any state in which
it is open, and any operations with arguments of the right kinds. If every request that is sent fits
into a message, and every answer to it, then a session on the file has the results, one after the
other, that a session on the device has, and the registers are the same at the end. -/
theorem operations_agree_over_file (e : Surroundings) (s : Simulator.Settings) (path : String)
    (d : Simulator.State) (hopen : d.isOpen = true) (descriptor : Nat) (replay : Replay)
    (hreplies : replay.replies = []) (hbackend : replay.backend = some (s, d))
    (steps : List (Instant × Operation)) (htyped : ∀ step ∈ steps, step.2.Typed)
    (hfits : ∀ turn ∈ (Simulator.transcript e s (sent steps) d).1, Fits turn) :
    let direct := Session.performAll (fun now => Simulator.transport { e with now } s) steps
      { device := d }
    let filed := Session.performAll (fun now => transport (Replay.system { e with now }) path) steps
      { device := ⟨replay, some descriptor⟩ }
    filed.1 = direct.1 ∧
      filed.2.device.system.backend.map (fun behind => behind.2.bank) =
        some direct.2.device.bank := by
  intro direct filed
  let onDevice : Session Simulator.State := { device := d }
  let onFile : Session (State Replay) := { device := ⟨replay, some descriptor⟩ }
  have hbacks : Backs s onDevice.device onFile.device :=
    ⟨hopen, ⟨descriptor, rfl⟩, hreplies, d, hbackend, rfl, rfl, rfl⟩
  obtain ⟨hresults, hlast⟩ := hbacks.performAll path rfl rfl htyped hfits
  obtain ⟨d', hbehind, halike⟩ := hlast.backend
  refine ⟨hresults, ?_⟩
  show filed.2.device.system.backend.map _ = _
  rw [hbehind, Option.map_some, halike.bank]

/-- One of each operation, with indices that no register has among them. -/
theorem operations_agree_over_file_for_each :
    let e : Surroundings := ⟨0, fun _ n => Bytes.zeros n, .standard⟩
    let d := (Simulator.State.fresh e {}).opened
    let replay : Replay := { backend := some ({}, d) }
    let steps : List (Instant × Operation) :=
      [(0, .describe), (1, .describeRegister (.int (-1))), (1, .describeRegister (.int (2 ^ 70))),
        (2, .extendRegister (.int 16) [1, 2]), (2, .lockRegister (.int 16)),
        (2, .extendRegister (.int 16) [3]), (3, .lockRegisters (.int 33)),
        (3, .attest (.ofBytes? (some [4])) (.ofBytes? none) (.ofBytes? none)), (4, .random 32),
        (4, .random 0)]
    let direct := Session.performAll (fun now => Simulator.transport { e with now } {}) steps
      { device := d }
    let filed := Session.performAll
      (fun now => transport (Replay.system { e with now }) defaultPath) steps
      { device := ⟨replay, some Replay.descriptor⟩ }
    filed.1 = direct.1 ∧
      filed.2.device.system.backend.map (fun behind => behind.2.bank) =
        some direct.2.device.bank := by
  intro e d replay steps
  have htyped : ∀ step ∈ steps, step.2.Typed := by
    intro step hstep
    simp only [steps, List.mem_cons, List.not_mem_nil, or_false] at hstep
    rcases hstep with rfl | rfl | rfl | rfl | rfl | rfl | rfl | rfl | rfl | rfl <;> constructor
  have hbrief : Simulator.Settings.Brief {} := Simulator.Settings.brief_default
  have husual : ∀ now : Instant, now.milliseconds.natAbs < floatBound →
      ({ e with now } : Surroundings).Usual :=
    fun now hnow => ⟨Primitives.sized_standard, hnow, fun _ n => Bytes.length_zeros n⟩
  have htimes : ∀ r ∈ sent steps, r.1.milliseconds.natAbs < floatBound := by decide +kernel
  have hrequests : ∀ r ∈ sent steps, (Cbor.encode r.2).length ≤ requestLimit := by decide +kernel
  have hfits : ∀ turn ∈ (Simulator.transcript e {} (sent steps) d).1, Fits turn :=
    fits_transcript hbrief (fun r hr => husual r.1 (htimes r hr)) hrequests rfl
      (Simulator.kept_fresh (husual 0 (by decide +kernel)))
  exact operations_agree_over_file e {} defaultPath d rfl Replay.descriptor replay rfl rfl steps
    htyped hfits

end EnclaveAudit.DeviceFile
