import EnclaveAudit.Proofs.Audit.Ending
import EnclaveAudit.Proofs.Audit.Rehearsed
import EnclaveAudit.Proofs.Audit.Tally
import EnclaveAudit.Proofs.Device.Session

/-!
# `EnclaveAudit/Proofs/Audit/Requests.lean` — an audit follows its script and stops where it fails

What reaches a device is decided before the audit starts: the requests are the beginning of a list
that depends on the parameters only (`Parameters.script`), whatever the device answers and wherever
the transport is interrupted. An audit that is done has sent the whole list. One that failed has
sent it up to the request whose answer failed, and every answer before that one passed; so the last
request, the violation and the number of passed checks all tell of the same place
(`Auditor.run_follows_script`).
-/

set_option autoImplicit false

namespace EnclaveAudit

/-! ## What a recorded transport remembers -/

namespace Recorded

variable {σ : Type} {t : Transport σ}

theorem requests_acquire (r : Recorded σ) :
    (t.recorded.acquire r).device.requests = r.requests := by
  simp [Transport.recorded, after, requests, Use.request?]

theorem requests_release (r : Recorded σ) :
    (t.recorded.release r).2.requests = r.requests := by
  simp [Transport.recorded, after, requests, Use.request?]

/-- A dialogue with the recording is one with what is recorded, and is remembered. -/
theorem of_replies {pairs : List (Value × Value)} {r r' : Recorded σ}
    (h : t.recorded.Replies r pairs r') :
    r'.requests = r.requests ++ pairs.map Prod.fst ∧ t.Replies r.device pairs r'.device := by
  induction pairs generalizing r with
  | nil =>
    obtain rfl : r' = r := h
    simp [Transport.Replies]
  | cons pair pairs ih =>
    obtain ⟨request, answer⟩ := pair
    obtain ⟨hanswer, hrest⟩ := h
    obtain ⟨hrequests, hreplies⟩ := ih hrest
    refine ⟨?_, hanswer, hreplies⟩
    rw [hrequests, requests_exchange, List.append_assoc, List.map_cons, List.singleton_append]

/-- Every dialogue with what is recorded is one with the recording. -/
theorem exists_replies {pairs : List (Value × Value)} {r : Recorded σ} {d : σ}
    (h : t.Replies r.device pairs d) :
    ∃ r', t.recorded.Replies r pairs r' ∧ r'.device = d := by
  induction pairs generalizing r with
  | nil => exact ⟨r, rfl, h.symm⟩
  | cons pair pairs ih =>
    obtain ⟨hanswer, hrest⟩ := h
    obtain ⟨r', hreplies, hdevice⟩ := ih (r := (t.recorded.exchange pair.1 r).device) hrest
    exact ⟨r', ⟨hanswer, hreplies⟩, hdevice⟩

end Recorded

theorem Parameters.map_fst_exchanges (p : Parameters) (described : Value) (given : Slot → Value)
    (xs : List Slot) :
    (p.exchanges described given xs).map Prod.fst =
      .text "DescribeNSM" :: xs.map (Slot.request p) := by
  simp [exchanges]

/-- What is sent up to a place of the script is a beginning of it. -/
theorem Parameters.prefix_script {p : Parameters} {before after : List Slot}
    (h : p.slots = before ++ after) :
    (Value.text "DescribeNSM" :: before.map (Slot.request p)) <+: p.script := by
  refine ⟨after.map (Slot.request p), ?_⟩
  rw [script, h, List.map_append, List.cons_append]

/-! ## The place of a failure -/

/-- Given the answers, the violation is the first: those at earlier places pass, and the one at the
place does not. -/
def FirstFailure (p : Parameters) (s : Subject) (given : Slot → Value) (x : Slot) (v : Violation) :
    Prop :=
  ∃ earlier later l l', p.steps = earlier ++ .ask x :: later ∧
    examine p s given earlier (.identified s.description) = .ok () l ∧
    x.review p s (given x) l = .error v l'

namespace Course

variable {σ : Type} {t : Transport σ} {p : Parameters} {d : σ} {st : Standing σ}

/-- A violation is one of the first request, or of the first place whose answer does not pass. -/
theorem whole_violated {scenario : Scenario} {v : Violation}
    (h : whole t p ⟨d, .empty⟩ = .error (.violated scenario v) st) :
    (∃ answer, t.Replies d [(.text "DescribeNSM", answer)] st.device ∧
      Check.judgeDescribe (Operation.describe.read answer) = .error v ∧
      scenario = .description ∧ v.Names .describe none ∧ st.ledger.checks = 0) ∨
    ∃ before x after s described given, p.slots = before ++ x :: after ∧
      t.Replies d (p.exchanges described given (before ++ [x])) st.device ∧
      s.ReadFrom described ∧ FirstFailure p s given x v ∧ scenario = x.scenario ∧ x.Concerns v ∧
      st.ledger.checks = 2 + (before.map Slot.checks).sum + v.check.precedence := by
  rcases whole_eq_error h with hidentify |
    ⟨s, described, given, earlier, x, later, d₁, l, hsteps, ⟨hanswer, hreplies⟩, hread, hearlier,
      hx⟩
  · rcases identify_eq_error hidentify with ⟨_, hi, -⟩ | ⟨answer, hreplies, hends⟩
    · cases hi
    · rcases hends with ⟨_, hv, hjudge, hledger⟩ | ⟨_, hfault⟩
      · cases hv
        exact .inl ⟨answer, hreplies, hjudge, rfl, Check.succeed_names hjudge, hledger ▸ rfl⟩
      · cases hfault
  · rcases step_ask_eq_error_iff.mp hx with ⟨_, -, hi, -⟩ | ⟨answer, _, hlast, hv, hreview⟩
    · cases hi
    cases hv
    have hslots : p.slots = asked earlier ++ x :: asked later := by
      rw [← asked_steps, hsteps, asked_append, asked_ask]
    -- no place comes twice, so the answer there can be added to the earlier ones
    have hfresh : x ∉ asked earlier := by
      have hnodup := nodup_slots p
      rw [hslots, List.nodup_append] at hnodup
      exact fun hmem => hnodup.2.2 x hmem x List.mem_cons_self rfl
    have hagree : ∀ y ∈ asked earlier, Function.update given x answer y = given y := fun y hy =>
      Function.update_of_ne (ne_of_mem_of_not_mem hy hfresh) _ _
    have hgiven : Function.update given x answer x = answer := Function.update_self ..
    -- the steps before it are orderly, so the count up to it is known
    have hobserved : (Ledger.identified s.description).Observed 0 := rfl
    obtain ⟨n, hl, ⟨hfits, -⟩, hchecks⟩ :=
      examine_eq_ok (hsteps ▸ orderly_steps p) hobserved hearlier
    obtain ⟨hconcerns, hcount⟩ := Slot.review_eq_error hfits hl hreview
    refine .inr ⟨asked earlier, x, asked later, s, described, Function.update given x answer,
      hslots, ⟨hanswer, ?_⟩, hread, ⟨earlier, later, l, st.ledger, hsteps, ?_, ?_⟩, rfl, hconcerns,
      ?_⟩
    · rw [List.map_append, Transport.Replies.append]
      refine ⟨d₁, ?_, ?_⟩
      · rw [List.map_congr_left fun y hy => by rw [hagree y hy]]
        exact hreplies
      · simpa only [List.map_cons, List.map_nil, hgiven] using hlast
    · rw [examine_congr hagree]
      exact hearlier
    · rw [hgiven]
      exact hreview
    · rw [hcount, hchecks]
      rfl

/-- The first request is sent, whatever comes of it. -/
theorem requests_identify (r : Recorded σ) :
    (last (identify t.recorded ⟨r, .empty⟩)).device.requests =
      r.requests ++ [.text "DescribeNSM"] := by
  cases h : identify t.recorded ⟨r, .empty⟩ with
  | ok s st =>
    obtain ⟨described, hreplies, -⟩ := identify_eq_ok_iff.mp h
    exact (Recorded.of_replies hreplies).1
  | error halt st =>
    rcases identify_eq_error h with ⟨_, -, hdevice⟩ | ⟨answer, hreplies, -⟩
    · rw [last, hdevice, Recorded.requests_exchange]
    · exact (Recorded.of_replies hreplies).1

/-- The request of a place is sent, whatever comes of it. -/
theorem requests_step {s : Subject} (x : Slot) (st : Standing (Recorded σ)) :
    (last (step t.recorded p s (.ask x) st)).device.requests =
      st.device.requests ++ [x.request p] := by
  cases h : step t.recorded p s (.ask x) st with
  | ok _ st' =>
    obtain ⟨_, hreplies, -⟩ := step_ask_eq_ok_iff.mp h
    exact (Recorded.of_replies hreplies).1
  | error halt st' =>
    rcases step_ask_eq_error_iff.mp h with ⟨_, -, -, rfl⟩ | ⟨_, _, hreplies, -, -⟩
    · exact Recorded.requests_exchange _ _
    · exact (Recorded.of_replies hreplies).1

/-- Steps that do not pass have sent the requests of some of them, from the first on. -/
theorem steps_requests {s : Subject} {xs : List Step} {h : Halt} {st st' : Standing (Recorded σ)}
    (hnodup : (asked xs).Nodup) (hs : steps t.recorded p s xs st = .error h st') :
    ∃ sent, sent <+: asked xs ∧
      st'.device.requests = st.device.requests ++ sent.map (Slot.request p) := by
  obtain ⟨before, x, after, st₁, rfl, hbefore, hx⟩ := steps_eq_error hs
  rw [asked_append, asked_ask] at hnodup ⊢
  obtain ⟨given, hreplies, -⟩ := exists_replies (List.nodup_append.mp hnodup).1 hbefore
  have hsent : st₁.device.requests = st.device.requests ++ (asked before).map (Slot.request p) := by
    rw [(Recorded.of_replies hreplies).1, List.map_map]
    rfl
  have hlast := requests_step (t := t) (p := p) (s := s) x st₁
  rw [hx, last] at hlast
  refine ⟨asked before ++ [x], ⟨asked after, by simp⟩, ?_⟩
  rw [hlast, hsent, List.append_assoc, List.map_append, List.map_singleton]

/-- Steps only add to what was sent before. -/
theorem prefix_requests_steps {s : Subject} {xs : List Step} (hnodup : (asked xs).Nodup)
    (st : Standing (Recorded σ)) :
    st.device.requests <+: (last (steps t.recorded p s xs st)).device.requests := by
  cases h : steps t.recorded p s xs st with
  | ok _ st' =>
    obtain ⟨given, hreplies, -⟩ := exists_replies hnodup h
    exact ⟨_, (Recorded.of_replies hreplies).1.symm⟩
  | error halt st' =>
    obtain ⟨sent, -, hrequests⟩ := steps_requests hnodup h
    exact ⟨_, hrequests.symm⟩

/-- Once the device has described itself, the steps decide what it is left with. -/
theorem device_whole {s : Subject} (h : identify t ⟨d, .empty⟩ = .ok s st) :
    (last (whole t p ⟨d, .empty⟩)).device = (last (steps t p s p.steps st)).device := by
  cases hsteps : steps t p s p.steps st with
  | ok _ st' =>
    have hwhole : whole t p ⟨d, .empty⟩ = .ok () { st' with ledger := st'.ledger.finish } :=
      bind_eq_ok_iff.mpr ⟨s, st, h, bind_eq_ok_iff.mpr ⟨(), st', hsteps, rfl⟩⟩
    rw [hwhole, last, last]
  | error halt st' =>
    have hwhole : whole t p ⟨d, .empty⟩ = .error halt st' :=
      bind_eq_error_iff.mpr (.inr ⟨s, st, h, bind_eq_error_iff.mpr (.inl hsteps)⟩)
    rw [hwhole]

/-- The request of a place is sent if all that comes before the place passes. -/
theorem prefix_requests_whole {r : Recorded σ} {earlier later : List Step} {x : Slot} {s : Subject}
    {st st₁ : Standing (Recorded σ)} (hsteps : p.steps = earlier ++ .ask x :: later)
    (hidentify : identify t.recorded ⟨r, .empty⟩ = .ok s st)
    (hearlier : steps t.recorded p s earlier st = .ok () st₁) :
    st₁.device.requests ++ [x.request p] <+:
      (last (whole t.recorded p ⟨r, .empty⟩)).device.requests := by
  have hlater : (asked later).Nodup := by
    have hnodup := (asked_steps p).symm ▸ nodup_slots p
    rw [hsteps, asked_append, asked_ask] at hnodup
    exact (List.nodup_cons.mp (List.nodup_append.mp hnodup).2.1).2
  have hasked := requests_step (t := t) (p := p) (s := s) x st₁
  rw [device_whole hidentify, hsteps, steps_append, bind_of_eq_ok hearlier, steps]
  cases hx : step t.recorded p s (.ask x) st₁ with
  | error halt st₂ =>
    rw [hx, last] at hasked
    rw [bind_eq_error_iff.mpr (.inl hx), last]
    exact ⟨[], by rw [hasked, List.append_nil]⟩
  | ok _ st₂ =>
    rw [hx, last] at hasked
    rw [bind_of_eq_ok hx, ← hasked]
    exact prefix_requests_steps hlater st₂

/-- The request of a place that no earlier place has is sent exactly if all that comes before the
place passes. -/
theorem mem_requests_whole_iff {r : Recorded σ} {earlier later : List Step} {x : Slot}
    (hr : r.requests = []) (hsteps : p.steps = earlier ++ .ask x :: later)
    (hfirst : x.request p ≠ .text "DescribeNSM")
    (hnew : ∀ y ∈ asked earlier, y.request p ≠ x.request p) :
    x.request p ∈ (last (whole t.recorded p ⟨r, .empty⟩)).device.requests ↔
      ∃ s st st', identify t.recorded ⟨r, .empty⟩ = .ok s st ∧
        steps t.recorded p s earlier st = .ok () st' := by
  have hnodup : (asked (earlier ++ .ask x :: later)).Nodup :=
    hsteps ▸ (asked_steps p).symm ▸ nodup_slots p
  rw [asked_append, asked_ask, List.nodup_append] at hnodup
  obtain ⟨hearlier_nodup, -, -⟩ := hnodup
  have hidentified := requests_identify (t := t) r
  rw [hr, List.nil_append] at hidentified
  constructor
  · intro hsent
    cases hidentify : identify t.recorded ⟨r, .empty⟩ with
    | error halt st =>
      have hwhole : whole t.recorded p ⟨r, .empty⟩ = .error halt st :=
        bind_eq_error_iff.mpr (.inl hidentify)
      rw [hidentify, last] at hidentified
      rw [hwhole, last, hidentified] at hsent
      exact absurd (List.mem_singleton.mp hsent) hfirst
    | ok s st =>
      rw [hidentify, last] at hidentified
      cases hearlier : steps t.recorded p s earlier st with
      | ok _ st' => exact ⟨s, st, st', rfl, hearlier⟩
      | error halt st' =>
        have hall : steps t.recorded p s p.steps st = .error halt st' := by
          rw [hsteps, steps_append]
          exact bind_eq_error_iff.mpr (.inl hearlier)
        obtain ⟨sent, hbeginning, hlater⟩ := steps_requests hearlier_nodup hearlier
        rw [device_whole hidentify, hall, last, hlater, hidentified] at hsent
        rcases List.mem_append.mp hsent with hsent | hsent
        · exact absurd (List.mem_singleton.mp hsent) hfirst
        · obtain ⟨y, hy, heq⟩ := List.mem_map.mp hsent
          exact absurd heq (hnew y (hbeginning.subset hy))
  · rintro ⟨s, st, st₁, hidentify, hearlier⟩
    exact (prefix_requests_whole hsteps hidentify hearlier).subset
      (List.mem_append_right _ List.mem_cons_self)

/-- An audit that nothing stops sends the whole script and passes all checks. -/
theorem whole_requests {r : Recorded σ} {u : Unit} {st : Standing (Recorded σ)}
    (hr : r.requests = []) (h : whole t.recorded p ⟨r, .empty⟩ = .ok u st) :
    st.device.requests = p.script ∧ st.ledger.checks = 2 + (p.slots.map Slot.checks).sum := by
  obtain ⟨s, described, given, l, hreplies, -, hexamine, hledger⟩ := whole_eq_ok_iff.mp h
  have hobserved : (Ledger.identified s.description).Observed 0 := rfl
  have horder : Orderly 0 (p.steps ++ []) := (List.append_nil p.steps).symm ▸ orderly_steps p
  obtain ⟨_, -, -, hchecks⟩ := examine_eq_ok horder hobserved hexamine
  constructor
  · rw [(Recorded.of_replies hreplies).1, hr, p.map_fst_exchanges]
    rfl
  · rw [hledger, ← asked_steps]
    exact hchecks

/-- One that something stops has sent a beginning of it. -/
theorem whole_prefix {r : Recorded σ} {halt : Halt} {st : Standing (Recorded σ)}
    (hr : r.requests = []) (h : whole t.recorded p ⟨r, .empty⟩ = .error halt st) :
    st.device.requests <+: p.script := by
  have hidentified := requests_identify (t := t) r
  rw [hr, List.nil_append] at hidentified
  rcases bind_eq_error_iff.mp h with hidentify | ⟨s, st₁, hidentify, h⟩
  · rw [hidentify, last] at hidentified
    exact hidentified ▸ p.prefix_script (List.nil_append p.slots).symm
  · rw [hidentify, last] at hidentified
    rcases bind_eq_error_iff.mp h with hsteps | ⟨_, _, -, h⟩
    · obtain ⟨sent, ⟨rest, hslots⟩, hrequests⟩ :=
        steps_requests ((asked_steps p).symm ▸ nodup_slots p) hsteps
      rw [hrequests, hidentified]
      exact p.prefix_script (hslots.trans (asked_steps p)).symm
    · exact absurd h modify_ne_error

end Course

/-! ## Runs -/

/-- After the course the transport is only released, and that sends nothing. -/
theorem Auditor.run_requests {σ : Type} (a : Auditor) {t : Transport σ} (runId : String)
    (now : Instant) {r : Recorded σ} (h : (t.recorded.acquire r).result = .ok ()) :
    match Course.whole t.recorded a.parameters ⟨(t.recorded.acquire r).device, .empty⟩ with
    | .ok _ st => (a.run t.recorded runId now r).device.requests = st.device.requests
    | .error _ st => (a.run t.recorded runId now r).device.requests = st.device.requests := by
  have hends := a.run_ends runId now h
  cases hwhole : Course.whole t.recorded a.parameters ⟨(t.recorded.acquire r).device, .empty⟩ with
  | ok _ st =>
    rw [hwhole] at hends
    exact hends.1 ▸ Recorded.requests_release st.device
  | error halt st =>
    rw [hwhole] at hends
    have hdevice : (a.run t.recorded runId now r).device = (t.recorded.release st.device).2 := by
      cases halt with
      | violated scenario v => exact hends.1
      | unusable fault => exact hends.1
      | interrupted i => exact hends.1
    exact hdevice ▸ Recorded.requests_release st.device

/-- The device that passes is audited to the end while it is recorded. -/
theorem Auditor.exists_done_of_passing (a : Auditor) (name runId : String) (now : Instant) :
    ∃ r, (a.run (Rehearsal.Scripted.transport name none).recorded runId now
      { device := .passing a.parameters }).outcome = .ok r ∧ r.phase = .done := by
  let t := Rehearsal.Scripted.transport name none
  let start : Recorded Rehearsal.Scripted := { device := .passing a.parameters }
  obtain ⟨after, hreplies, -⟩ := Recorded.exists_replies (t := t)
    (r := (t.recorded.acquire start).device)
    (Rehearsal.Scripted.replies_passing name a.parameters)
  exact a.exists_done_of_conforms runId now rfl hreplies (conforms_model a.parameters)

/-- **An audit follows its script and stops at the first answer that fails.** What reaches a device
is a beginning of the script, however the run ends. If it is done, that is the whole script. If it
failed, the last request is the one whose answer the violation is about: all answers before it
passed, and the passed checks are those of these answers, and those that come before the failed one
on the last. -/
theorem Auditor.run_follows_script {σ : Type} (a : Auditor) (t : Transport σ) (runId : String)
    (now : Instant) (device : σ) :
    let p := a.parameters
    let c := a.run t.recorded runId now { device }
    let sent := c.device.requests
    sent <+: p.script ∧
    match c.outcome with
    | .error _ => True
    | .ok r =>
      match r.failure with
      | none => r.phase = .done ∧ sent = p.script ∧
          r.checksPassed = 2 + (p.slots.map Slot.checks).sum
      | some (scenario, v) => r.phase = .failed ∧
        ((∃ answer d, t.Replies (t.acquire device).device [(.text "DescribeNSM", answer)] d ∧
            Check.judgeDescribe (Operation.describe.read answer) = .error v ∧
            scenario = .description ∧ v.Names .describe none ∧
            sent = [.text "DescribeNSM"] ∧ r.checksPassed = 0) ∨
          ∃ before x after s described given d, p.slots = before ++ x :: after ∧
            t.Replies (t.acquire device).device (p.exchanges described given (before ++ [x])) d ∧
            s.ReadFrom described ∧ FirstFailure p s given x v ∧
            scenario = x.scenario ∧ x.Concerns v ∧
            sent = .text "DescribeNSM" :: (before ++ [x]).map (Slot.request p) ∧
            r.checksPassed = 2 + (before.map Slot.checks).sum + v.check.precedence) := by
  intro p c sent
  have hnew : (t.recorded.acquire { device }).device.requests = [] := Recorded.requests_acquire _
  cases hacquire : (t.recorded.acquire { device }).result with
  | error i =>
    obtain ⟨houtcome, hdevice⟩ := a.run_of_not_acquired runId now hacquire
    have hsent : sent = [] := by rw [← hnew, ← hdevice]
    refine ⟨hsent ▸ List.nil_prefix, ?_⟩
    rw [show c.outcome = _ from houtcome]
    trivial
  | ok _ =>
    have hends := a.run_ends runId now hacquire
    have hrequests := a.run_requests runId now hacquire
    cases hwhole : Course.whole t.recorded p ⟨(t.recorded.acquire { device }).device, .empty⟩ with
    | ok _ st =>
      rw [hwhole] at hends hrequests
      obtain ⟨-, r, houtcome, hphase, hfailure, hcount⟩ := hends
      obtain ⟨hall, hchecks⟩ := Course.whole_requests hnew hwhole
      have hsent : sent = p.script := hrequests.trans hall
      refine ⟨hsent ▸ List.prefix_rfl, ?_⟩
      rw [show c.outcome = _ from houtcome]
      simp only [hfailure]
      exact ⟨hphase, hsent, hcount.trans hchecks⟩
    | error halt st =>
      rw [hwhole] at hends hrequests
      have hsent : sent = st.device.requests := hrequests
      refine ⟨hsent ▸ Course.whole_prefix hnew hwhole, ?_⟩
      cases halt with
      | violated scenario v =>
        obtain ⟨-, hends⟩ := hends
        split_ifs at hends with hv
        · obtain ⟨r, houtcome, hphase, hfailure, hcount⟩ := hends
          rw [show c.outcome = _ from houtcome]
          simp only [hfailure]
          refine ⟨hphase, ?_⟩
          -- the violation is of the first request or of a later one
          rcases Course.whole_violated hwhole with
            ⟨answer, hreplies, hjudge, hscenario, hnames, hchecks⟩ |
            ⟨before, x, after, s, described, given, hslots, hreplies, hread, hfirst, hscenario,
              hconcerns, hchecks⟩
          · obtain ⟨hrequests, hreplies⟩ := Recorded.of_replies hreplies
            rw [hnew] at hrequests
            exact .inl ⟨answer, _, hreplies, hjudge, hscenario, hnames, hsent.trans hrequests,
              hcount.trans hchecks⟩
          · obtain ⟨hrequests, hreplies⟩ := Recorded.of_replies hreplies
            rw [hnew, p.map_fst_exchanges] at hrequests
            exact .inr ⟨before, x, after, s, described, given, _, hslots, hreplies, hread, hfirst,
              hscenario, hconcerns, hsent.trans hrequests, hcount.trans hchecks⟩
        · rw [show c.outcome = _ from hends]
          trivial
      | unusable fault =>
        obtain ⟨-, cause, houtcome⟩ := hends
        rw [show c.outcome = _ from houtcome]
        trivial
      | interrupted i =>
        obtain ⟨-, cause, houtcome⟩ := hends
        rw [show c.outcome = _ from houtcome]
        trivial

/-- A device that is audited to the end is sent the whole script. -/
theorem Auditor.run_follows_script_to_the_end :
    let a : Auditor := ⟨.default, .empty⟩
    let c := a.run (Rehearsal.Scripted.transport "scripted" none).recorded "" (0 : Int)
      { device := .passing .default }
    (∃ r, c.outcome = .ok r ∧ r.phase = .done ∧ r.checksPassed = 1743) ∧
      c.device.requests = Parameters.default.script := by
  intro a c
  obtain ⟨r, houtcome, hphase⟩ := a.exists_done_of_passing "scripted" "" (0 : Int)
  have hfollows := a.run_follows_script (Rehearsal.Scripted.transport "scripted" none) ""
    (0 : Int) (.passing a.parameters)
  simp only [houtcome] at hfollows
  cases hfailure : r.failure with
  | none =>
    simp only [hfailure] at hfollows
    obtain ⟨-, -, hsent, hchecks⟩ := hfollows
    exact ⟨⟨r, houtcome, hphase, hchecks.trans (by decide +kernel)⟩, hsent⟩
  | some failure =>
    simp only [hfailure] at hfollows
    cases hphase.symm.trans hfollows.2.1

end EnclaveAudit
