import EnclaveAudit.Proofs.Audit.Agreement
import EnclaveAudit.Proofs.Audit.Messages
import EnclaveAudit.Proofs.Audit.Reporting
import EnclaveAudit.Proofs.Audit.Requests
import EnclaveAudit.Proofs.DeviceFile.Backed
import EnclaveAudit.Proofs.Simulator.Verdict

/-!
# `EnclaveAudit/Proofs/DeviceFile/Boundary.lean` — audits over a device file, and how far they go

An audit of a simulated device finds the same whether the device is used directly or behind a file,
as long as the extensions fit into a message. Beyond that the file keeps the first extension that
does not fit from the device, and reports it as a refusal: an audit that directly goes on fails
there. Everything else that an audit asks or hears fits, whatever the parameters are.
-/

set_option autoImplicit false

namespace EnclaveAudit

/-! ## The steps around the extensions -/

namespace Parameters

/-- Everything that an audit does before it extends registers. -/
def untilExtension (p : Parameters) : List Step :=
  (Scenario.description.slots p).map .ask ++ ([.pass .description] ++
  ((Scenario.initialRegisters.slots p).map .ask ++ ([.pass .initialRegisters] ++
  ((List.range p.relockAttempts).flatMap fun k => (List.range 16).map (Slot.relock k)).map .ask)))

/-- The places where free registers are extended. -/
def extensions (p : Parameters) : List Slot :=
  (List.range p.extendRounds).flatMap fun k => (List.range' 16 16).map (Slot.extension k)

/-- After the extensions register 16 is locked. -/
theorem exists_steps_eq (p : Parameters) :
    ∃ later, p.steps = (p.untilExtension ++ p.extensions.map .ask) ++ .ask (.lock 16) :: later := by
  have hlocks : (List.range' 16 16).map Slot.lock =
      Slot.lock 16 :: (List.range' 17 15).map Slot.lock := rfl
  refine ⟨?later, ?split⟩
  case split =>
    rw [p.steps_eq, Scenario.steps_locksAndExtension, hlocks]
    simp only [untilExtension, extensions, List.append_assoc, List.map_cons, List.cons_append]
    rfl

/-- The first round extends every register before the next. -/
theorem exists_extensions_eq (p : Parameters) {i : Nat} (hge : 16 ≤ i) (hi : i < 32) :
    ∃ later, p.extensions =
      (List.range' 16 (i - 16)).map (Slot.extension 0) ++ .extension 0 i :: later := by
  obtain ⟨rounds, hrounds⟩ : ∃ rounds, p.extendRounds = rounds + 1 :=
    Nat.exists_eq_add_one.mpr p.extendRounds_pos
  have hsplit : List.range' 16 (i - 16) ++ i :: List.range' (i + 1) (31 - i) =
      List.range' 16 16 := by
    have happend : List.range' 16 (i - 16) ++ List.range' (16 + (i - 16)) (31 - i + 1) =
      List.range' 16 (i - 16 + (31 - i + 1)) := List.range'_append_1
    have hstart : 16 + (i - 16) = i := by omega
    have hlength : i - 16 + (31 - i + 1) = 16 := by omega
    rwa [List.range'_succ, hstart, hlength] at happend
  refine ⟨?later, ?split⟩
  case split =>
    rw [extensions, hrounds, List.range_succ_eq_map, List.flatMap_cons, ← hsplit, List.map_append,
      List.map_cons, List.append_assoc, List.cons_append]

theorem mem_untilExtension {p : Parameters} {x : Slot} (h : x ∈ asked p.untilExtension) :
    x = .bootDocument ∨ (∃ i < 32, x = .firstRead i) ∨ ∃ k, ∃ i < 16, x = .relock k i := by
  simp only [untilExtension, asked_append, asked_map_ask, List.mem_append, asked_pass,
    asked_nil, List.not_mem_nil, false_or, List.mem_flatMap, List.mem_map, List.mem_range,
    Scenario.slots] at h
  rcases h with h | ⟨i, hi, rfl⟩ | ⟨k, -, i, hi, rfl⟩
  · split_ifs at h
    · exact .inl (List.mem_singleton.mp h)
    · cases h
  · exact .inr (.inl ⟨i, hi, rfl⟩)
  · exact .inr (.inr ⟨k, i, hi, rfl⟩)

theorem mem_extensions {p : Parameters} {x : Slot} (h : x ∈ p.extensions) :
    ∃ k i, x = .extension k i := by
  simp only [extensions, List.mem_flatMap, List.mem_map] at h
  obtain ⟨k, -, i, -, rfl⟩ := h
  exact ⟨k, i, rfl⟩

/-- Before register `i` is first extended, only free registers below it were. -/
theorem registers_before {p : Parameters} {i : Nat} (hi : i < 32) {x : Slot}
    (h : x ∈ asked (p.untilExtension ++
      ((List.range' 16 (i - 16)).map (Slot.extension 0)).map .ask)) :
    (∀ j ∈ x.register?, j < 32) ∧ ∀ j ∈ x.extended?, 16 ≤ j ∧ j < i := by
  rw [asked_append, asked_map_ask, List.mem_append] at h
  rcases h with h | h
  · rcases mem_untilExtension h with rfl | ⟨j, hj, rfl⟩ | ⟨k, j, hj, rfl⟩ <;>
      exact ⟨by rintro _ ⟨⟩ <;> omega, by rintro _ ⟨⟩⟩
  · obtain ⟨j, hj, rfl⟩ := List.mem_map.mp h
    have hj := List.mem_range'_1.mp hj
    exact ⟨by rintro _ ⟨⟩; omega, by rintro _ ⟨⟩; omega⟩

/-- Nobody asks to lock register 16 before that. -/
theorem request_ne_lock {p : Parameters} {x : Slot}
    (h : x ∈ asked (p.untilExtension ++ p.extensions.map .ask)) :
    x.request p ≠ (Slot.lock 16).request p := by
  rw [asked_append, asked_map_ask, List.mem_append] at h
  rcases h with h | h
  · rcases mem_untilExtension h with rfl | ⟨i, -, rfl⟩ | ⟨k, i, hi, rfl⟩
    · simp [Slot.request, Operation.call, Value.record]
    · simp [Slot.request, Operation.call, Value.record]
    · simp only [Slot.request, Operation.call, Value.record, List.map_cons, List.map_nil]
      intro heq
      simp at heq
      omega
  · obtain ⟨k, i, rfl⟩ := mem_extensions h
    simp [Slot.request, Operation.call, Value.record]

theorem lock_mem_script {p : Parameters} : (Slot.lock 16).request p ∈ p.script := by
  obtain ⟨later, hsteps⟩ := p.exists_steps_eq
  refine List.mem_cons_of_mem _ (List.mem_map_of_mem ?_)
  rw [← asked_steps, hsteps, asked_append, asked_ask]
  exact List.mem_append_right _ List.mem_cons_self

/-- So register 16 is asked to be locked exactly if all rounds of extensions pass. -/
theorem lock_mem_requests_iff {σ : Type} {t : Transport σ} {p : Parameters} {r : Recorded σ}
    (hr : r.requests = []) :
    (Slot.lock 16).request p ∈
        (Course.last (Course.whole t.recorded p ⟨r, .empty⟩)).device.requests ↔
      ∃ s st st', Course.identify t.recorded ⟨r, .empty⟩ = .ok s st ∧
        Course.steps t.recorded p s (p.untilExtension ++ p.extensions.map .ask) st =
          .ok () st' := by
  obtain ⟨later, hsteps⟩ := p.exists_steps_eq
  exact Course.mem_requests_whole_iff hr hsteps
    (by simp [Slot.request, Operation.call, Value.record]) fun _ => request_ne_lock

end Parameters

namespace Slot

variable {p : Parameters}

theorem fits_of_mem_script (hdata : p.extendInput.length ≤ 4068) {request : Value}
    (h : request ∈ p.script) :
    Cbor.Portable 4 request ∧ (Cbor.encode request).length ≤ DeviceFile.requestLimit := by
  rcases List.mem_cons.mp h with rfl | h
  · exact ⟨.text _, by decide +kernel⟩
  · obtain ⟨x, hx, rfl⟩ := List.mem_map.mp h
    obtain ⟨s, -, hx⟩ := List.mem_flatMap.mp hx
    refine ⟨x.portable_request p, length_request_le (lt_of_mem_slots hx) fun i _ => ?_⟩
    split_ifs <;> omega

end Slot

/-! ## A simulated device, directly and behind a file -/

namespace DeviceFile

open Rehearsal (Replay)

variable {e : Surroundings} {s : Simulator.Settings} {p : Parameters}

/-- A simulated device that has little to say, and a file that it could stand behind. -/
def Stands (s : Simulator.Settings) (d : Simulator.State) (f : State Replay) : Prop :=
  Backs s d f ∧ d.Kept s

/-- **They agree on every request that fits.** -/
theorem agreesOn (hs : s.Brief) (he : e.Usual) (path : String) {request : Value}
    (h : Cbor.Portable 4 request ∧ (Cbor.encode request).length ≤ requestLimit) :
    (Simulator.transport e s).AgreesOn (transport (Replay.system e) path) (Stands s) request := by
  rintro d f ⟨hbacks, hkept⟩
  obtain ⟨hfits, hafter⟩ := fits_exchange hs he hbacks.isOpen hkept h.2
  obtain ⟨hresult, hbehind⟩ := hbacks.exchange path h.1 hfits
  exact ⟨hresult, hbehind, hafter⟩

theorem answers_open (hs : s.Brief) (he : e.Usual) :
    (Simulator.transport e s).Answers fun d => d.isOpen = true ∧ d.Kept s where
  answers _ request h := ⟨_, Simulator.result_exchange h.1 request⟩
  lasts _ request h := ⟨Simulator.isOpen_exchange h.1 request, h.2.exchange he h.1 request⟩
  short d answer description h hanswer hread := by
    have hdescribe : answer = Simulator.describe s d := by
      rw [Simulator.result_exchange h.1] at hanswer
      exact (Except.ok.inj hanswer).symm
    rw [hdescribe] at hread
    exact Simulator.isWritable_of_read_describe hs.registerCount hs.reported hs.major hs.minor
      hs.patch (fun _ hr => Simulator.exists_index_of_locked hs h.2 hr) hread

/-- An extension that does not fit is refused in the device's place. -/
theorem step_extension_of_limit_lt {path : String} {f : State Replay} {descriptor k i : Nat}
    (hfile : f.descriptor = some descriptor)
    (hlong : requestLimit < (Cbor.encode ((Slot.extension k i).request p)).length)
    (subject : Subject) (l : Ledger) :
    Course.step (transport (Replay.system e) path) p subject (.ask (.extension k i)) ⟨f, l⟩ =
      .error (.violated .locksAndExtension
        ⟨.extendRegister, .text "Success", .text "InputTooLarge", some i⟩) ⟨f, l⟩ := by
  have hexchange : (transport (Replay.system e) path).exchange ((Slot.extension k i).request p) f =
      ⟨.ok (errorAnswer .inputTooLarge), [], f⟩ := by
    show EnclaveAudit.DeviceFile.exchange (Replay.system e) path _ f = _
    exact exchange_of_limit_lt hfile hlong
  refine Course.step_ask_eq_error_iff.mpr (.inr ⟨errorAnswer .inputTooLarge, _, ⟨?_, ?_⟩, rfl, rfl⟩)
  · rw [hexchange]
  · rw [hexchange, Transport.Replies]

/-- **Where the audit over the file stops**: at the first extension that does not fit, if the audit
of the device itself goes on to lock register 16. -/
theorem whole_stops (hs : s.Brief) (he : e.Usual) (path : String)
    {r : Recorded Simulator.State} {f : State Replay} (hr : r.requests = [])
    (hstands : Stands s r.device f) {i : Nat} (hge : 16 ≤ i) (hi : i < 32)
    (hfits : ∀ j, 16 ≤ j → j < i → p.extendInput.length + (if j < 24 then 0 else 1) ≤ 4069)
    (hlong : ¬p.extendInput.length + (if i < 24 then 0 else 1) ≤ 4069)
    (hsent : (Slot.lock 16).request p ∈
      (Course.last
        (Course.whole (Simulator.transport e s).recorded p ⟨r, .empty⟩)).device.requests) :
    ∃ st, Course.whole (transport (Replay.system e) path) p ⟨f, .empty⟩ =
      .error (.violated .locksAndExtension
        ⟨.extendRegister, .text "Success", .text "InputTooLarge", some i⟩) st := by
  obtain ⟨locking, hlocking⟩ := p.exists_steps_eq
  obtain ⟨others, hothers⟩ := p.exists_extensions_eq hge hi
  obtain ⟨subject, st, st₁, hidentify, hsteps⟩ := (Parameters.lock_mem_requests_iff hr).mp hsent
  -- the device itself passes all before the extension that does not fit
  let earlier := p.untilExtension ++ ((List.range' 16 (i - 16)).map (Slot.extension 0)).map .ask
  have hsplit : p.untilExtension ++ p.extensions.map .ask =
      earlier ++ .ask (.extension 0 i) :: others.map .ask := by
    rw [hothers, List.map_append, List.map_cons, List.append_assoc]
  rw [hsplit, Course.steps_append] at hsteps
  obtain ⟨_, st₂, hearlier, -⟩ := bind_eq_ok_iff.mp hsteps
  rw [hsplit, List.append_assoc] at hlocking
  -- and so does the file, where it is all the same
  have hfirst := (agreesOn hs he path ⟨.text "DescribeNSM", by decide +kernel⟩).recorded
  have hidentified := Course.matches_identify hfirst r f .empty hstands
  rw [hidentify] at hidentified
  obtain ⟨f₁, hidentify', hstands₁⟩ := hidentified.exists_ok
  have hrequests : ∀ x ∈ asked earlier, (Simulator.transport e s).recorded.AgreesOn
      (transport (Replay.system e) path) (fun r f => Stands s r.device f) (x.request p) := by
    intro x hx
    obtain ⟨hregister, hextended⟩ := Parameters.registers_before hi hx
    have hlength := Slot.length_request_le hregister fun j hj =>
      hfits j (hextended j hj).1 (hextended j hj).2
    exact (agreesOn hs he path ⟨x.portable_request p, hlength⟩).recorded
  have hpassed := Course.matches_steps subject hrequests st.device f₁ st.ledger hstands₁
  rw [hearlier] at hpassed
  obtain ⟨f₂, hearlier', hstands₂⟩ := hpassed.exists_ok
  obtain ⟨descriptor, hfile⟩ := hstands₂.1.descriptor
  have hlimit := (length_extension_le_iff hi p.extendInput).not.mpr hlong
  exact ⟨_, Course.whole_of_step_error hlocking hidentify' hearlier'
    (step_extension_of_limit_lt hfile (Nat.not_le.mp hlimit) subject _)⟩

theorem exists_boundary {n : Nat} (h : 4069 ≤ n) :
    ∃ i : Nat, 16 ≤ i ∧ i < 32 ∧ (i : Int) = (if n = 4069 then 24 else 16) ∧
      (∀ j, 16 ≤ j → j < i → n + (if j < 24 then 0 else 1) ≤ 4069) ∧
      ¬n + (if i < 24 then 0 else 1) ≤ 4069 := by
  by_cases hn : n = 4069
  · refine ⟨24, by decide, by decide, (if_pos hn).symm, fun j _ hj => ?_, ?_⟩
    · rw [if_pos hj, hn]
    · rw [hn]
      decide
  · refine ⟨16, by decide, by decide, (if_neg hn).symm, fun j hge hj => ?_, ?_⟩
    · exact absurd hj (Nat.not_lt.mpr hge)
    · rw [if_pos (by decide)]
      omega

/-- A file that was opened on a new device stands where that device could. -/
theorem acquire_stands (he : e.Usual) {behind : Simulator.State}
    (hbehind : behind.Alike (.fresh e s)) (path : String) {replay : Replay}
    (hopens : replay.openError = 0) (hreplies : replay.replies = [])
    (hbackend : replay.backend = some (s, behind)) :
    let opened := (transport (Replay.system e) path).acquire { system := replay }
    opened.result = .ok () ∧ Stands s (Simulator.State.fresh e s).opened opened.device := by
  intro opened
  have hopened : opened =
      ⟨.ok (), [.opened path], ⟨replay.after (.openFile path), some Replay.descriptor⟩⟩ := by
    show acquire (Replay.system e) path _ = _
    simp only [acquire, Replay.system, if_pos hopens]
  rw [hopened]
  exact ⟨rfl, ⟨rfl, ⟨_, rfl⟩, hreplies, behind, hbackend, hbehind.bank, hbehind.draws,
    hbehind.stuck⟩, Simulator.kept_fresh he⟩

/-- Without anything to object to, the whole script is sent. -/
theorem requests_of_verdict_eq_none (a : Auditor) (runId : String) (now : Instant) (he : e.Usual)
    (hs : s.Usual) (hmax : 16384 ≤ a.parameters.maxDocumentSize)
    (hf : Simulator.Fortunate e s a.parameters)
    (hverdict : Simulator.verdict s a.parameters = none) :
    (a.run (Simulator.transport e s).recorded runId now
      { device := .fresh e s }).device.requests = a.parameters.script := by
  let t := Simulator.transport e s
  let device := Simulator.State.fresh e s
  obtain ⟨d, hreplies, hd⟩ := Simulator.exists_replies_describe (e := e) (p := a.parameters)
    hs.registerCount
  have hsteps := Simulator.comes_steps he hs hf hmax
  rw [hverdict] at hsteps
  obtain ⟨r, houtcome, hphase, -⟩ := a.run_of_brings runId now rfl hreplies
    (Simulator.readFrom_describe (p := a.parameters) hs) (T := fun _ => True)
    (hsteps.imp (by rintro _ rfl; exact ⟨hd, rfl, rfl⟩) fun _ _ => trivial)
  have hacquire : (t.acquire device).result = .ok () := rfl
  obtain ⟨st, hwhole⟩ := (a.exists_done_iff runId now hacquire).mp ⟨r, houtcome, hphase⟩
  -- the recording goes the same way
  have hends := Course.matches_whole (p := a.parameters)
    (fun request _ => t.agreesOn_recorded request) device.opened
    (t.recorded.acquire { device }).device .empty rfl
  rw [show Course.whole t a.parameters ⟨device.opened, .empty⟩ = _ from hwhole] at hends
  obtain ⟨r', hrecorded, -⟩ := hends.exists_ok
  rw [(a.run_concludes runId now rfl).2, Recorded.requests_release, hrecorded]
  exact (Course.whole_requests (Recorded.requests_acquire _) hrecorded).1

/-- **Where the reports part.** Take a simulated device with the bank of the contract and nothing
long to say about itself, with any faults, and one that is like it behind a device file. With data
of up to 4068 octets an audit ends the same on both, with reports that differ in the names of the
transport and of the run, or with the same description that no bank can be modelled on; and no
message of the script is too long, whoever sends it. With more, if the audit of the device passes
all rounds of extensions, which is when it goes on to lock register 16
(`Parameters.lock_mem_requests_iff`), the audit over the file has failed at the first extension that
does not fit: of register 24 with 4069 octets, of register 16 with more. -/
theorem audits_agree_up_to_boundary (e : Surroundings) (he : e.Usual)
    (s : Simulator.Settings) (hs : s.Brief) (a : Auditor) (path : String) (behind : Simulator.State)
    (hbehind : behind.Alike (.fresh e s)) (replay : Replay) (hopens : replay.openError = 0)
    (hreplies : replay.replies = []) (hbackend : replay.backend = some (s, behind))
    (runId runId' : String) (now : Instant) :
    let p := a.parameters
    let device := Simulator.State.fresh e s
    let direct := a.run (Simulator.transport e s).recorded runId now { device }
    let filed := a.run (transport (Replay.system e) path) runId' now { system := replay }
    (p.extendInput.length ≤ 4068 →
      ((∃ r, direct.outcome = .ok r ∧
          filed.outcome = .ok { r with transport := "nsm-driver", runId := runId' }) ∨
        ∃ fault, direct.outcome = .error (.unusable fault) ∧
          filed.outcome = .error (.unusable fault)) ∧
      ∀ turn ∈ (Simulator.transcript e s (p.script.map fun request => (e.now, request))
        device.opened).1, Fits turn) ∧
    (4069 ≤ p.extendInput.length →
      (Operation.lockRegister (.int 16)).request ∈ direct.device.requests →
      ∃ r, filed.outcome = .ok r ∧ r.phase = .failed ∧
        r.failure = some (.locksAndExtension, ⟨.extendRegister, .text "Success",
          .text "InputTooLarge", some (if p.extendInput.length = 4069 then 24 else 16)⟩)) := by
  intro p device direct filed
  obtain ⟨hacquire, hstands⟩ := acquire_stands he hbehind path hopens hreplies hbackend
  constructor
  · intro hdata
    have hfits : ∀ request ∈ p.script, Cbor.Portable 4 request ∧
        (Cbor.encode request).length ≤ requestLimit := fun _ => Slot.fits_of_mem_script hdata
    have hagrees : filed.outcome = direct.outcome.map fun r =>
        { r with transport := "nsm-driver", runId := runId' } :=
      a.run_agrees runId runId' now rfl hacquire hstands fun request hrequest =>
        (agreesOn hs he path (hfits request hrequest)).recorded
    have hreports : (∃ r, direct.outcome = .ok r) ∨
        ∃ fault, direct.outcome = .error (.unusable fault) :=
      a.run_reports runId now rfl ⟨rfl, hstands.2⟩ (answers_open hs he).recorded
    constructor
    · rw [hagrees]
      rcases hreports with ⟨r, hr⟩ | ⟨fault, hfault⟩
      · exact .inl ⟨r, hr, congrArg (Except.map _) hr⟩
      · exact .inr ⟨fault, hfault, congrArg (Except.map _) hfault⟩
    · refine fits_transcript hs ?_ ?_ rfl hstands.2
      · intro r hr
        obtain ⟨request, -, rfl⟩ := List.mem_map.mp hr
        exact he
      · intro r hr
        obtain ⟨request, hrequest, rfl⟩ := List.mem_map.mp hr
        exact (hfits request hrequest).2
  · intro hdata hsent
    obtain ⟨i, hge, hi, hindex, hfits, hlong⟩ := exists_boundary hdata
    rw [(a.run_concludes runId now rfl).2, Recorded.requests_release] at hsent
    obtain ⟨st, hwhole⟩ :=
      whole_stops hs he path (Recorded.requests_acquire _) hstands hge hi hfits hlong hsent
    have houtcome := (a.run_concludes runId' now hacquire).1
    rw [hwhole] at houtcome
    rw [← hindex]
    exact ⟨_, houtcome, st.ledger.phase_fail, rfl⟩

/-- One round of everything, with data of one octet more than so many. -/
def lengthy (n : Nat) : Parameters :=
  { Simulator.brief with
    extendRounds := 1
    extendInput := List.replicate (n + 1) 1
    extendRounds_pos := Nat.one_pos
    extendInput_ne_nil := List.cons_ne_nil _ _ }

/-- The first extension of a device without faults leaves a register with something in it. -/
theorem chain_lengthy_ne_zeros :
    Simulator.chain Simulator.numbered {} (lengthy 4068) 1 ≠ Bytes.zeros 48 := by
  decide +kernel

/-- With one octet more the audit of the device goes on as before, and that over the file fails. -/
theorem audits_part_at_4069_octets :
    let e := Simulator.numbered
    let replay : Replay := { backend := some ({}, .fresh e {}) }
    let direct (n : Nat) := ((⟨lengthy n, .empty⟩ : Auditor).run
      (Simulator.transport e {}).recorded "" (0 : Int) { device := .fresh e {} }).outcome
    let sent (n : Nat) := ((⟨lengthy n, .empty⟩ : Auditor).run
      (Simulator.transport e {}).recorded "" (0 : Int) { device := .fresh e {} }).device.requests
    let filed (n : Nat) := ((⟨lengthy n, .empty⟩ : Auditor).run
      (transport (Replay.system e) defaultPath) "" (0 : Int) { system := replay }).outcome
    ((∃ r, direct 4067 = .ok r ∧
        filed 4067 = .ok { r with transport := "nsm-driver", runId := "" }) ∨
      ∃ fault, direct 4067 = .error (.unusable fault) ∧
        filed 4067 = .error (.unusable fault)) ∧
    (Operation.lockRegister (.int 16)).request ∈ sent 4068 ∧
    ∃ r, filed 4068 = .ok r ∧ r.phase = .failed ∧
      r.failure = some (.locksAndExtension,
        ⟨.extendRegister, .text "Success", .text "InputTooLarge", some 24⟩) := by
  intro e replay direct sent filed
  have hbrief : Simulator.Settings.Brief {} := Simulator.Settings.brief_default
  have husual : Simulator.Settings.Usual {} := by
    refine ⟨rfl, rfl, ?_, ?_, ?_, ?_, ?_⟩ <;> decide
  have hfortunate : Simulator.Fortunate e {} (lengthy 4068) := {
    measured := by decide +kernel
    extended := fun _ k hk => by
      obtain rfl : k = 0 := Nat.lt_one_iff.mp hk
      exact chain_lengthy_ne_zeros
    changed := fun _ _ k hk => by
      obtain rfl : k = 0 := Nat.lt_one_iff.mp hk
      exact chain_lengthy_ne_zeros
    drawn := fun _ n hn => by
      have hlt : n < 15 := Nat.lt_of_succ_lt_succ hn
      clear hn
      revert n
      decide +kernel }
  have hlength : ∀ n, (lengthy n).extendInput.length = n + 1 := fun n => List.length_replicate
  have hlock : (Operation.lockRegister (.int 16)).request ∈ sent 4068 := by
    have hscript : sent 4068 = (lengthy 4068).script :=
      requests_of_verdict_eq_none ⟨lengthy 4068, .empty⟩ "" (0 : Int) Simulator.numbered_usual
        husual (by decide) hfortunate (by decide)
    exact hscript ▸ Parameters.lock_mem_script
  have hboth : ∀ n, _ := fun n => audits_agree_up_to_boundary e Simulator.numbered_usual {} hbrief
    ⟨lengthy n, .empty⟩ defaultPath (.fresh e {}) ⟨rfl, rfl, rfl⟩ replay rfl rfl rfl "" "" (0 : Int)
  obtain ⟨r, hr, hphase, hfailure⟩ := (hboth 4068).2 (hlength 4068).ge hlock
  refine ⟨((hboth 4067).1 (hlength 4067).le).1, hlock, r, hr, hphase, ?_⟩
  rw [hfailure, if_pos (hlength 4068)]

end DeviceFile

end EnclaveAudit
