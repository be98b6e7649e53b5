import EnclaveAudit.Proofs.Audit.Memory
import EnclaveAudit.Proofs.Audit.Requests
import EnclaveAudit.Rehearsal.Scripted

/-!
# `EnclaveAudit/Proofs/Audit/Attribution.lean` — which check a wrong read fails

Of a register that is read again an audit knows that it must be locked, whether it must be empty,
and what it held last. A read that is right in all of this passes. This file says of every other
read which of the four checks fails, by what is wrong with it, in terms of the round and the
register only: which check comes first depends on what is remembered, and `Ledger.Recalls` says what
that is.

The result is about runs: a read that was sent is one that an audit arrived at
(`Course.exists_arrives`), and the run ends there if the read is wrong.
-/

set_option autoImplicit false

namespace EnclaveAudit

/-! ## The table, by round and register -/

/-- The registers that nothing is measured into. -/
def EmptyAtBoot (i : Nat) : Prop := i = 3 ∨ 5 ≤ i ∧ i < 16

instance : DecidablePred EmptyAtBoot := fun i =>
  inferInstanceAs (Decidable (i = 3 ∨ 5 ≤ i ∧ i < 16))

theorem zeroAfterLock_iff_emptyAtBoot : ∀ i < 32,
    (Contract.zeroAfterLock (i : Nat) = true ↔ EmptyAtBoot i) := by
  decide

/-- The check that a read in round `k` at register `i` fails, by what is wrong with it. Rounds are
counted from zero; `last` is the value that the register held when it was last observed. -/
structure Attributed (zero : Bytes) (k i : Nat) (reading : Operation.Reading) (last : Bytes)
    (check : Check) : Prop where
  among : check ∈ [.lockMonotonic, .postLockLocked, .postLockValue, .registerValueStable]
  lockMonotonic : check = .lockMonotonic ↔ reading.lock = false ∧ (i < 16 ∨ 1 ≤ k)
  postLockLocked : check = .postLockLocked ↔ reading.lock = false ∧ 16 ≤ i ∧ k = 0
  postLockValue : check = .postLockValue ↔ reading.lock = true ∧
    (EmptyAtBoot i ∧ reading.value ≠ zero ∨ ¬EmptyAtBoot i ∧ reading.value = zero)
  registerValueStable : check = .registerValueStable ↔
    reading.lock = true ∧ ¬EmptyAtBoot i ∧ reading.value ≠ zero ∧ reading.value ≠ last

/-- **A wrong read fails one of the four checks**, and the round, the register and the read say
which one. -/
theorem exists_readObjection {zero : Bytes} {k i : Nat} {last : Register}
    {reading : Operation.Reading} (hi : i < 32) (hlock : last.lock = true ↔ i < 16 ∨ 1 ≤ k)
    (hzero : EmptyAtBoot i ↔ last.value = zero) (hwrong : reading ≠ ⟨true, last.value⟩) :
    ∃ check, readObjection zero i last reading = some check ∧
      Attributed zero k i reading last.value check := by
  obtain ⟨lock, value⟩ := reading
  simp only [readObjection, zeroAfterLock_iff_emptyAtBoot i hi]
  cases lock with
  | false =>
    by_cases hseen : i < 16 ∨ 1 ≤ k
    · refine ⟨.lockMonotonic, if_pos ⟨hlock.mpr hseen, rfl⟩, ?_⟩
      exact {
        among := by simp
        lockMonotonic := iff_of_true rfl ⟨rfl, hseen⟩
        postLockLocked := iff_of_false nofun fun h => by omega
        postLockValue := iff_of_false nofun fun h => nomatch h.1
        registerValueStable := iff_of_false nofun fun h => nomatch h.1 }
    · have hfree : ¬(last.lock = true ∧ false = false) := fun h => hseen (hlock.mp h.1)
      refine ⟨.postLockLocked, by rw [if_neg hfree, if_pos rfl], ?_⟩
      exact {
        among := by simp
        lockMonotonic := iff_of_false nofun fun h => hseen h.2
        postLockLocked := iff_of_true rfl ⟨rfl, by omega⟩
        postLockValue := iff_of_false nofun fun h => nomatch h.1
        registerValueStable := iff_of_false nofun fun h => nomatch h.1 }
  | true =>
    have hlocked : ¬(last.lock = true ∧ true = false) := fun h => nomatch h.2
    rw [if_neg hlocked, if_neg Bool.true_eq_false_eq_False]
    by_cases hkind : EmptyAtBoot i ↔ value ≠ zero
    · refine ⟨.postLockValue, if_pos hkind, ?_⟩
      exact {
        among := by simp
        lockMonotonic := iff_of_false nofun fun h => nomatch h.1
        postLockLocked := iff_of_false nofun fun h => nomatch h.1
        postLockValue := iff_of_true rfl ⟨rfl, by tauto⟩
        registerValueStable := iff_of_false nofun fun h => h.2.1 (hkind.mpr h.2.2.1) }
    · -- the value is of the right kind, so it is another one than before
      have hright : EmptyAtBoot i ↔ value = zero := not_iff_not.mp (not_iff.mp hkind)
      have hchanged : value ≠ last.value := fun h => hwrong (by rw [h])
      have hfull : ¬EmptyAtBoot i := fun h => hchanged ((hright.mp h).trans (hzero.mp h).symm)
      refine ⟨.registerValueStable, by rw [if_neg hkind, if_pos hchanged], ?_⟩
      exact {
        among := by simp
        lockMonotonic := iff_of_false nofun fun h => nomatch h.1
        postLockLocked := iff_of_false nofun fun h => nomatch h.1
        postLockValue := iff_of_false nofun fun h => by tauto
        registerValueStable :=
          iff_of_true rfl ⟨rfl, hfull, fun h => hfull (hright.mpr h), hchanged⟩ }

/-! ## One read -/

section

variable {p : Parameters} {s : Subject} {given : Slot → Value} {described answer : Value}
variable {earlier later : List Step} {k i : Nat} {l l' : Ledger} {reading : Operation.Reading}

/-- A read of the right width that is not what was last observed is objected to. -/
theorem review_wrong_read (hsteps : p.steps = earlier ++ .ask (.read k i) :: later)
    (hread : s.ReadFrom described)
    (hearlier : examine p s given earlier (.identified s.description) = .ok () l)
    (hreading : Slot.readRegister answer = .ok reading)
    (hwidth : reading.value.length = s.contract.digestWidth) {last : Register}
    (hlast : l.bank[i]? = some last) (hwrong : reading ≠ ⟨true, last.value⟩) :
    ∃ v l', (Slot.read k i).review p s answer l = .error v l' ∧ v.register = some (i : Int) ∧
      v.isWritable = true ∧ Attributed s.contract.zeroValue k i reading last.value v.check := by
  obtain ⟨hi, f, rfl, htold, hbank⟩ := told_before_read hsteps hread hearlier
  obtain rfl : last = f.remembered p k i i := by
    rw [hbank] at hlast
    simpa [hi, eq_comm] using hlast
  have hlock : (f.remembered p k i i).lock = true ↔ i < 16 ∨ 1 ≤ k := by
    simp only [Findings.remembered, decide_eq_true_iff]
    omega
  have hzero : EmptyAtBoot i ↔ (f.remembered p k i i).value = f.zero :=
    (zeroAfterLock_iff_emptyAtBoot i hi).symm.trans
      (zeroAfterLock_iff_value htold.start htold.extension hi)
  obtain ⟨check, hobjection, hattributed⟩ := exists_readObjection hi hlock hzero hwrong
  obtain ⟨v, l', hreview, ⟨rfl, hregister⟩, hwritable⟩ :=
    review_read_of_objection (p := p) (k := k) hlast hreading hwidth hobjection
  exact ⟨v, l', hreview, hregister, hwritable, hattributed⟩

/-- A read that is objected to for its lock or its value is one of the right width, and wrong. -/
theorem exists_wrong_read (hsteps : p.steps = earlier ++ .ask (.read k i) :: later)
    (hread : s.ReadFrom described)
    (hearlier : examine p s given earlier (.identified s.description) = .ok () l) {v : Violation}
    (h : (Slot.read k i).review p s answer l = .error v l') (hcheck : v.check ≠ .describeRegister) :
    ∃ reading last, Attributed s.contract.zeroValue k i reading last v.check := by
  obtain ⟨hi, f, rfl, htold, hbank⟩ := told_before_read hsteps hread hearlier
  have hlast : l.bank[i]? = some (f.remembered p k i i) := by
    rw [hbank]
    simp [hi]
  obtain ⟨reading, hreading, hwidth⟩ : ∃ reading, Slot.readRegister answer = .ok reading ∧
      reading.value.length = f.subject.contract.digestWidth := by
    rw [review_of_ne (x := .read k i) nofun, Slot.judge_read] at h
    cases hjudge : Check.judgeRead i f.subject.contract (Slot.readRegister answer) with
    | ok r =>
      obtain ⟨reading, hreading, hwidth, -⟩ := Check.judgeRead_eq_ok_iff.mp hjudge
      exact ⟨reading, hreading, hwidth⟩
    | error w =>
      rw [hjudge, bind_eq_error_iff] at h
      rcases h with h | ⟨_, _, h, -⟩
      · obtain ⟨heq, -⟩ := Judgement.counted_eq_error_iff.mp h
        cases heq
        exact absurd (Check.judgeRead_names hjudge).1 hcheck
      · cases (Judgement.counted_eq_ok_iff.mp h).1
  by_cases hwrong : reading = ⟨true, (f.remembered p k i i).value⟩
  -- what is right passes
  · have hzero := zeroAfterLock_iff_value htold.start htold.extension hi
    have hpass := (Slot.judge_read_eq_ok_iff (p := p) (k := k) (u := ()) hlast).mpr
      ⟨reading, hreading, hwidth, by rw [hwrong], by rw [hwrong]; exact hzero, by rw [hwrong], rfl⟩
    rw [review_of_ne (x := .read k i) nofun, hpass] at h
    cases h
  · obtain ⟨w, l'', hreview, -, -, hattributed⟩ :=
      review_wrong_read hsteps hread hearlier hreading hwidth hlast hwrong
    cases h.symm.trans hreview
    exact ⟨reading, _, hattributed⟩

/-- Checks that only a later read can fail are about the register that is read. -/
theorem exists_read_of_concerns {x : Slot} {v : Violation} (hx : x.Concerns v)
    (hcheck : v.check = .postLockLocked ∨ v.check = .registerValueStable) :
    ∃ k i, x = .read k i ∧ v.register = some (i : Int) := by
  cases x with
  | read k i =>
    refine ⟨k, i, rfl, ?_⟩
    rcases hx with hv | hv | hv | hv | hv <;> exact hv.2
  | _ =>
    exfalso
    simp only [Slot.Concerns, Violation.Names] at hx
    grind

end

/-! ## Arriving at a place -/

/-- An audit arrives at a place of the script: the device describes itself as the subject, these are
its answers at the places before, all of them pass, and the audit stands like that then. -/
def Arrives {σ : Type} (t : Transport σ) (p : Parameters) (start : σ) (x : Slot) (s : Subject)
    (given : Slot → Value) (st : Standing σ) : Prop :=
  ∃ described earlier later, p.steps = earlier ++ .ask x :: later ∧ s.ReadFrom described ∧
    t.Replies start (p.exchanges described given (asked earlier)) st.device ∧
    examine p s given earlier (.identified s.description) = .ok () st.ledger

theorem Arrives.of_recorded {σ : Type} {t : Transport σ} {p : Parameters} {r : Recorded σ}
    {x : Slot} {s : Subject} {given : Slot → Value} {st : Standing (Recorded σ)}
    (h : Arrives t.recorded p r x s given st) :
    Arrives t p r.device x s given ⟨st.device.device, st.ledger⟩ := by
  obtain ⟨described, earlier, later, hsteps, hread, hreplies, hexamine⟩ := h
  exact ⟨described, earlier, later, hsteps, hread, (Recorded.of_replies hreplies).2, hexamine⟩

namespace Course

variable {σ : Type} {t : Transport σ} {p : Parameters} {s : Subject} {given : Slot → Value}
variable {described : Value} {start d : σ} {x : Slot} {earlier later xs : List Step} {l : Ledger}

/-- Who passes some steps has arrived at every place among them and at the one after them. -/
theorem exists_arrives_of_prefix (hsteps : p.steps = earlier ++ .ask x :: later)
    (hbegins : earlier <+: xs) (hread : s.ReadFrom described)
    (hreplies : t.Replies start (p.exchanges described given (asked xs)) d)
    (hexamine : examine p s given xs (.identified s.description) = .ok () l) :
    ∃ st, Arrives t p start x s given st := by
  obtain ⟨rest, rfl⟩ := hbegins
  rw [examine_append] at hexamine
  obtain ⟨_, l₁, hearlier, -⟩ := bind_eq_ok_iff.mp hexamine
  have hexchanges : p.exchanges described given (asked (earlier ++ rest)) =
      p.exchanges described given (asked earlier) ++
        (asked rest).map fun x => (x.request p, given x) := by
    simp [Parameters.exchanges]
  rw [hexchanges, Transport.Replies.append] at hreplies
  obtain ⟨d₁, hreplies, -⟩ := hreplies
  exact ⟨⟨d₁, l₁⟩, described, earlier, later, hsteps, hread, hreplies, hearlier⟩

/-- **A request that was sent** is one that the audit arrived at. -/
theorem exists_arrives {r : Recorded σ} (hr : r.requests = [])
    (hsteps : p.steps = earlier ++ .ask x :: later)
    (hsent : (asked earlier).length + 1 <
      (last (whole t.recorded p ⟨r, .empty⟩)).device.requests.length) :
    ∃ s given st, Arrives t.recorded p r x s given st := by
  cases hwhole : whole t.recorded p ⟨r, .empty⟩ with
  | ok _ st =>
    obtain ⟨s, described, given, l, hreplies, hread, hexamine, -⟩ := whole_eq_ok_iff.mp hwhole
    rw [← asked_steps] at hreplies
    obtain ⟨st, h⟩ := exists_arrives_of_prefix hsteps ⟨_, hsteps.symm⟩ hread hreplies hexamine
    exact ⟨s, given, st, h⟩
  | error halt st =>
    rw [hwhole, last] at hsent
    rcases whole_eq_error hwhole with hidentify |
      ⟨s, described, given, passed, y, rest, d₁, l, hsplit, hreplies, hread, hexamine, hstep⟩
    · have hidentified := requests_identify (t := t) r
      rw [hidentify, last, hr] at hidentified
      rw [hidentified] at hsent
      simp at hsent
    · have hlast := requests_step (t := t) (p := p) (s := s) y ⟨d₁, l⟩
      rw [hstep, last] at hlast
      rw [hlast, (Recorded.of_replies hreplies).1, hr, p.map_fst_exchanges] at hsent
      -- the place is not behind the one that ends the course
      have hle : (asked earlier).length ≤ (asked passed).length := by
        simp only [List.nil_append, List.length_append, List.length_cons, List.length_map,
          List.length_nil] at hsent
        omega
      have hshort : ¬passed ++ [.ask y] <+: earlier := by
        rintro ⟨between, rfl⟩
        simp at hle
      have hpassed : passed ++ [.ask y] <+: p.steps := ⟨rest, by rw [hsplit]; simp⟩
      have hearlier : earlier <+: p.steps := ⟨_, hsteps.symm⟩
      rcases List.prefix_or_prefix_of_prefix hearlier hpassed with hbegins | hbegins
      · rcases List.prefix_concat_iff.mp hbegins with rfl | hbegins
        · exact absurd List.prefix_rfl hshort
        · obtain ⟨st, h⟩ := exists_arrives_of_prefix hsteps hbegins hread hreplies hexamine
          exact ⟨s, given, st, h⟩
      · exact absurd hbegins hshort

/-- What was sent by then is the script up to the place. -/
theorem length_requests_of_arrives {r : Recorded σ} {st : Standing (Recorded σ)}
    (h : Arrives t.recorded p r x s given st) (hr : r.requests = [])
    (hsteps : p.steps = earlier ++ .ask x :: later) :
    st.device.requests.length = (asked earlier).length + 1 := by
  obtain ⟨described, earlier', later', hsteps', -, hreplies, -⟩ := h
  obtain rfl := before_unique hsteps hsteps'
  rw [(Recorded.of_replies hreplies).1, hr, p.map_fst_exchanges]
  simp

/-- An audit that arrived at a place has gone the course up to there. -/
theorem steps_of_arrives {st : Standing σ} (h : Arrives t p start x s given st) :
    ∃ earlier later st₀, p.steps = earlier ++ .ask x :: later ∧
      identify t ⟨start, .empty⟩ = .ok s st₀ ∧ steps t p s earlier st₀ = .ok () st := by
  obtain ⟨described, earlier, later, hsteps, hread, ⟨hdescribed, hreplies⟩, hexamine⟩ := h
  exact ⟨earlier, later, ⟨(t.exchange (.text "DescribeNSM") start).device,
    .identified s.description⟩, hsteps,
    identify_eq_ok_iff.mpr ⟨described, ⟨hdescribed, rfl⟩, hread, rfl⟩,
    steps_of_replies hreplies hexamine⟩

/-- There is one way to arrive at a place. -/
theorem arrives_unique {s' : Subject} {given' : Slot → Value} {st st' : Standing σ}
    (h : Arrives t p start x s given st) (h' : Arrives t p start x s' given' st') :
    s = s' ∧ st = st' := by
  obtain ⟨earlier, later, st₀, hsteps, hidentify, hearlier⟩ := steps_of_arrives h
  obtain ⟨earlier', later', st₀', hsteps', hidentify', hearlier'⟩ := steps_of_arrives h'
  obtain rfl := before_unique hsteps hsteps'
  cases hidentify.symm.trans hidentify'
  cases hearlier.symm.trans hearlier'
  exact ⟨rfl, rfl⟩

/-- Whoever arrived at a place sends the request. -/
theorem sent_of_arrives {r : Recorded σ} {st : Standing (Recorded σ)}
    (h : Arrives t.recorded p r x s given st) (hr : r.requests = [])
    (hsteps : p.steps = earlier ++ .ask x :: later) :
    (asked earlier).length + 1 <
      (last (whole t.recorded p ⟨r, .empty⟩)).device.requests.length := by
  obtain ⟨earlier', later', st₀, hsteps', hidentify, hearlier⟩ := steps_of_arrives h
  have hle := (prefix_requests_whole hsteps' hidentify hearlier).length_le
  rw [List.length_append, length_requests_of_arrives h hr hsteps, List.length_singleton] at hle
  exact hle

/-- An answer that is objected to ends the course of an audit that arrived there. -/
theorem whole_of_arrives {st : Standing σ} {answer : Value} {v : Violation} {l' : Ledger}
    (h : Arrives t p start x s given st)
    (hanswer : (t.exchange (x.request p) st.device).result = .ok answer)
    (hreview : x.review p s answer st.ledger = .error v l') :
    whole t p ⟨start, .empty⟩ =
      .error (.violated x.scenario v) ⟨(t.exchange (x.request p) st.device).device, l'⟩ := by
  obtain ⟨earlier, later, st₀, hsteps, hidentify, hearlier⟩ := steps_of_arrives h
  exact whole_of_step_error hsteps hidentify hearlier
    (step_ask_eq_error_iff.mpr (.inr ⟨answer, v, ⟨hanswer, rfl⟩, rfl, hreview⟩))

end Course

/-! ## Runs -/

/-- A place splits the script in one way. -/
theorem exists_steps_of_slots {p : Parameters} {before after : List Slot} {x : Slot}
    (h : p.slots = before ++ x :: after) :
    ∃ earlier later, p.steps = earlier ++ .ask x :: later ∧ asked earlier = before := by
  rw [← asked_steps, asked, List.filterMap_eq_append_iff] at h
  obtain ⟨front, back, hsteps, hfront, hback⟩ := h
  obtain ⟨passes, step, later, rfl, hpasses, hstep, -⟩ := List.filterMap_eq_cons_iff.mp hback
  have hask : step = .ask x := by
    cases step with
    | ask y => exact congrArg Step.ask (Option.some.inj hstep)
    | pass scenario => cases hstep
  refine ⟨front ++ passes, later, by rw [hsteps, hask, List.append_assoc], ?_⟩
  rw [asked_append, asked, asked, hfront, List.filterMap_eq_nil_iff.mpr hpasses, List.append_nil]

/-- What is sent in a run is sent in its course. -/
theorem Auditor.requests_eq_last {σ : Type} (a : Auditor) {t : Transport σ} (runId : String)
    (now : Instant) {r : Recorded σ} (hacquire : (t.recorded.acquire r).result = .ok ()) :
    (a.run t.recorded runId now r).device.requests =
      (Course.last (Course.whole t.recorded a.parameters
        ⟨(t.recorded.acquire r).device, .empty⟩)).device.requests := by
  have hrequests := a.run_requests runId now hacquire
  revert hrequests
  cases Course.whole t.recorded a.parameters ⟨(t.recorded.acquire r).device, .empty⟩ <;> exact id

/-- What an audit says when it objects to a later read. -/
theorem Auditor.run_of_violation {σ : Type} (a : Auditor) {t : Transport σ} (runId : String)
    (now : Instant) {r : Recorded σ} (hacquire : (t.recorded.acquire r).result = .ok ())
    {scenario : Scenario} {v : Violation} {st : Standing (Recorded σ)}
    (hwhole : Course.whole t.recorded a.parameters ⟨(t.recorded.acquire r).device, .empty⟩ =
      .error (.violated scenario v) st) (hwritable : v.isWritable = true) :
    let c := a.run t.recorded runId now r
    c.device.requests = st.device.requests ∧
      ∃ r, c.outcome = .ok r ∧ r.phase = .failed ∧ r.failure = some (scenario, v) := by
  have hends := a.run_ends runId now hacquire
  have hrequests := a.run_requests runId now hacquire
  rw [hwhole] at hends hrequests
  obtain ⟨-, hends⟩ := hends
  rw [if_pos hwritable] at hends
  obtain ⟨r, houtcome, hphase, hfailure, -⟩ := hends
  exact ⟨hrequests, r, houtcome, hphase, hfailure⟩

/-- Who arrived at a later read recalls the last answers about every register. -/
theorem Arrives.recalls {σ : Type} {t : Transport σ} {p : Parameters} {start : σ} {k i : Nat}
    {s : Subject} {given : Slot → Value} {st : Standing σ}
    (h : Arrives t p start (.read k i) s given st) : st.ledger.Recalls p given k i := by
  obtain ⟨described, earlier, later, hsteps, hread, -, hexamine⟩ := h
  obtain ⟨-, f, -, htold, hbank⟩ := told_before_read hsteps hread hexamine
  exact htold.recalls hbank

/-- A read that is objected to ends the run of an audit that arrived there. -/
theorem Auditor.run_of_wrong_read {σ : Type} (a : Auditor) {t : Transport σ} (runId : String)
    (now : Instant) {r : Recorded σ} (hacquire : (t.recorded.acquire r).result = .ok ())
    {k i : Nat} {s : Subject} {given : Slot → Value} {st : Standing (Recorded σ)}
    (harrives :
      Arrives t.recorded a.parameters (t.recorded.acquire r).device (.read k i) s given st)
    {answer : Value} {reading : Operation.Reading} {last : Register}
    (hanswer : (t.recorded.exchange ((Slot.read k i).request a.parameters) st.device).result =
      .ok answer) (hreading : Slot.readRegister answer = .ok reading)
    (hwidth : reading.value.length = s.contract.digestWidth)
    (hlast : st.ledger.bank[i]? = some last) (hwrong : reading ≠ ⟨true, last.value⟩) :
    let c := a.run t.recorded runId now r
    c.device.requests = st.device.requests ++ [(Slot.read k i).request a.parameters] ∧
      ∃ r v, c.outcome = .ok r ∧ r.phase = .failed ∧ r.failure = some (.locksAndExtension, v) ∧
        v.register = some (i : Int) ∧
        Attributed s.contract.zeroValue k i reading last.value v.check := by
  obtain ⟨described, earlier, later, hsteps, hread, -, hexamine⟩ := id harrives
  obtain ⟨v, l', hreview, hregister, hwritable, hattributed⟩ :=
    review_wrong_read hsteps hread hexamine hreading hwidth hlast hwrong
  obtain ⟨hrequests, r, houtcome, hphase, hfailure⟩ := a.run_of_violation runId now hacquire
    (Course.whole_of_arrives harrives hanswer hreview) hwritable
  rw [Recorded.requests_exchange] at hrequests
  exact ⟨hrequests, r, v, houtcome, hphase, hfailure, hregister, hattributed⟩

/-- A violation of one of the checks that only later reads can fail is one of a wrong read. -/
theorem Course.exists_wrong_read_of_violated {σ : Type} {t : Transport σ} {p : Parameters}
    {start : σ} {scenario : Scenario} {v : Violation} {st : Standing σ}
    (h : whole t p ⟨start, .empty⟩ = .error (.violated scenario v) st)
    (hcheck : v.check = .postLockLocked ∨ v.check = .registerValueStable) :
    ∃ k i : Nat, i < 32 ∧ v.register = some (i : Int) ∧
      ∃ zero reading last, Attributed zero k i reading last v.check := by
  rcases whole_violated h with ⟨-, -, -, -, ⟨hdescribe, -⟩, -⟩ |
    ⟨-, x, -, s, described, given, -, -, hread, hfirst, -, hconcerns, -⟩
  · rw [hdescribe] at hcheck
    rcases hcheck with hcheck | hcheck <;> cases hcheck
  · obtain ⟨k, i, rfl, hregister⟩ := exists_read_of_concerns hconcerns hcheck
    obtain ⟨earlier, later, l, l', hsteps, hearlier, hreview⟩ := hfirst
    have hne : v.check ≠ .describeRegister := by
      rcases hcheck with hcheck | hcheck <;> rw [hcheck] <;> nofun
    obtain ⟨reading, last, hattributed⟩ := exists_wrong_read hsteps hread hearlier hreview hne
    have hi := (told_before_read hsteps hread hearlier).1
    exact ⟨k, i, hi, hregister, _, reading, last, hattributed⟩

/-- A run that fails one of the checks that only later reads can fail fails one of the four, at a
register that was read. -/
theorem Auditor.exists_wrong_read_of_run {σ : Type} (a : Auditor) {t : Transport σ}
    (runId : String) (now : Instant) {device : σ} {r : Report} {scenario : Scenario}
    {v : Violation} (houtcome : (a.run t runId now device).outcome = .ok r)
    (hfailure : r.failure = some (scenario, v))
    (hcheck : v.check = .postLockLocked ∨ v.check = .registerValueStable) :
    ∃ k i : Nat, i < 32 ∧ v.register = some (i : Int) ∧
      ∃ zero reading last, Attributed zero k i reading last v.check := by
  cases hacquire : (t.acquire device).result with
  | error interruption =>
    obtain ⟨hnone, -⟩ := a.run_of_not_acquired runId now hacquire
    cases houtcome.symm.trans hnone
  | ok _ =>
    have hends := a.run_ends runId now hacquire
    cases hwhole : Course.whole t a.parameters ⟨(t.acquire device).device, .empty⟩ with
    | ok _ st =>
      rw [hwhole] at hends
      obtain ⟨-, r', houtcome', -, hnone, -⟩ := hends
      cases houtcome.symm.trans houtcome'
      cases hfailure.symm.trans hnone
    | error halt st =>
      rw [hwhole] at hends
      cases halt with
      | unusable _ | interrupted _ =>
        obtain ⟨-, _, hnone⟩ := hends
        cases houtcome.symm.trans hnone
      | violated scenario' v' =>
        obtain ⟨-, hends⟩ := hends
        split_ifs at hends
        · obtain ⟨r', houtcome', -, hfailure', -⟩ := hends
          cases houtcome.symm.trans houtcome'
          cases hfailure.symm.trans hfailure'
          exact Course.exists_wrong_read_of_violated hwhole hcheck
        · cases houtcome.symm.trans hends

/-- **Attribution in the read rounds**, on every transport and for all parameters. An audit that
sends the request of a later read has arrived there, and its bank is what the last answers about
each register told. If the read is answered with a value of the right width, and the answer is not
that the register is locked and has the value last observed, then the run fails there, at this
register, with nothing sent after it, and the check is the one of the table. So a register that
nothing is measured into is never said to have changed, and those that were locked from the start
are never said not to have been locked. Rounds are counted from zero. -/
theorem Auditor.run_attributes_reads {σ : Type} (a : Auditor) (t : Transport σ) (runId : String)
    (now : Instant) (device : σ) :
    let p := a.parameters
    let c := a.run t.recorded runId now { device }
    let sent := c.device.requests
    (∀ before k i after, p.slots = before ++ .read k i :: after →
      before.length + 1 < sent.length →
      ∃ s given st, Arrives t p (t.acquire device).device (.read k i) s given st ∧
        st.ledger.Recalls p given k i ∧
        ∀ answer reading last,
          (t.exchange ((Slot.read k i).request p) st.device).result = .ok answer →
          Slot.readRegister answer = .ok reading →
          reading.value.length = s.contract.digestWidth →
          st.ledger.bank[i]? = some last → reading ≠ ⟨true, last.value⟩ →
          ∃ r v, c.outcome = .ok r ∧ r.phase = .failed ∧
            r.failure = some (.locksAndExtension, v) ∧ v.register = some (i : Int) ∧
            sent.length = before.length + 2 ∧
            Attributed s.contract.zeroValue k i reading last.value v.check) ∧
    ∀ r scenario v, c.outcome = .ok r → r.failure = some (scenario, v) →
      (v.check = .registerValueStable →
        ∃ i < 32, v.register = some (i : Nat) ∧ ¬EmptyAtBoot i) ∧
      (v.check = .postLockLocked → ∃ i < 32, v.register = some (i : Nat) ∧ 16 ≤ i) := by
  intro p c sent
  have hnew : (t.recorded.acquire { device }).device.requests = [] := Recorded.requests_acquire _
  constructor
  · intro before k i after hslots hsent
    obtain ⟨earlier, later, hsteps, rfl⟩ := exists_steps_of_slots hslots
    cases hacquire : (t.recorded.acquire { device }).result with
    | error interruption =>
      obtain ⟨-, hdevice⟩ := a.run_of_not_acquired runId now hacquire
      have hnone : sent = [] := by rw [← hnew, ← hdevice]
      rw [hnone] at hsent
      exact absurd hsent (Nat.not_lt_zero _)
    | ok _ =>
      have hlast : sent = (Course.last (Course.whole t.recorded p
          ⟨(t.recorded.acquire { device }).device, .empty⟩)).device.requests :=
        a.requests_eq_last runId now hacquire
      rw [hlast] at hsent
      obtain ⟨s, given, st, harrives⟩ := Course.exists_arrives hnew hsteps hsent
      refine ⟨s, given, _, harrives.of_recorded, harrives.recalls, ?_⟩
      intro answer reading last hanswer hreading hwidth hknown hwrong
      obtain ⟨hrequests, r, v, houtcome, hphase, hfailure, hregister, hattributed⟩ :=
        a.run_of_wrong_read runId now hacquire harrives hanswer hreading hwidth hknown hwrong
      refine ⟨r, v, houtcome, hphase, hfailure, hregister, ?_, hattributed⟩
      have hall : sent = st.device.requests ++ [(Slot.read k i).request p] := hrequests
      rw [hall, List.length_append, Course.length_requests_of_arrives harrives hnew hsteps,
        List.length_singleton]
  · intro r scenario v houtcome hfailure
    constructor
    · intro hcheck
      obtain ⟨k, i, hi, hregister, _, _, _, hattributed⟩ :=
        a.exists_wrong_read_of_run runId now houtcome hfailure (.inr hcheck)
      exact ⟨i, hi, hregister, (hattributed.registerValueStable.mp hcheck).2.1⟩
    · intro hcheck
      obtain ⟨k, i, hi, hregister, _, _, _, hattributed⟩ :=
        a.exists_wrong_read_of_run runId now houtcome hfailure (.inl hcheck)
      exact ⟨i, hi, hregister, (hattributed.postLockLocked.mp hcheck).2.1⟩

/-! ## A device with an open lock -/

/-- One round of everything. -/
def single : Parameters :=
  { Parameters.default with
    extendRounds := 1
    readRounds := 1
    relockAttempts := 1
    attestAtBoot := false
    extendRounds_pos := Nat.le_refl 1
    readRounds_pos := Nat.le_refl 1
    relockAttempts_pos := Nat.le_refl 1 }

namespace OpenLock

/-- How the device describes itself. -/
def description : Description where
  versionMajor := 1
  versionMinor := 0
  versionPatch := 0
  moduleId := "m"
  registerCount := 32
  digest := "SHA256"
  lockedRegisters := (List.range 16).map Int.ofNat

/-- The description as an answer. -/
def described : Value :=
  .record [("DescribeNSM", .record [
    ("version_major", .int 1), ("version_minor", .int 0), ("version_patch", .int 0),
    ("module_id", .text "m"), ("max_pcrs", .int 32), ("digest", .text "SHA256"),
    ("locked_pcrs", .array ((List.range 16).map fun (i : Nat) => .int i))])]

/-- What a register holds at first: ones if something is measured into it. -/
def octet (i : Nat) : UInt8 := if i ∈ [0, 1, 2, 4] then 1 else 0

/-- How a register is shown. -/
def shown (lock : Bool) (octet : UInt8) : Value :=
  .record [("DescribePCR", .record [("lock", .bool lock), ("data", .bytes (Bytes.fill octet 32))])]

/-- The answers: register 16 is said to be locked, and is shown to be free. -/
def given : Slot → Value
  | .firstRead i => shown (decide (i < 16)) (octet i)
  | .extension _ _ => .record [("ExtendPCR", .record [("data", .bytes (Bytes.fill 2 32))])]
  | .lock _ => .text "LockPCR"
  | .lockRange => .text "LockPCRs"
  | .read _ i => shown (decide (i ≠ 16)) (if i < 16 then octet i else 2)
  | _ => .record [("Error", .text "ReadOnlyIndex")]

/-- What they tell. -/
def findings : Findings where
  description := description
  digest := .sha256
  first i := ⟨decide (i < 16), Bytes.fill (octet i) 32⟩
  extended _ _ := Bytes.fill 2 32
  sample _ := []

theorem refuses : Refuses (.record [("Error", .text "ReadOnlyIndex")]) :=
  ⟨.text "ReadOnlyIndex", rfl, by simp, by simp⟩

theorem octet_of_le {i : Nat} (h : 16 ≤ i) : octet i = 0 := by
  refine if_neg ?_
  simp only [List.mem_cons, List.not_mem_nil, or_false]
  omega

theorem toldBefore : findings.ToldBefore single given 0 16 where
  bootDocument x hx := by simp [Scenario.slots, single] at hx
  firstRead j _ := ⟨rfl, rfl⟩
  start := ⟨fun i _ => by simp [findings], by decide, by decide, List.Perm.refl _⟩
  relock _ _ _ _ := refuses
  extension m hm j hge _ := by
    obtain rfl : m = 0 := Nat.lt_one_iff.mp hm
    have hfull : Bytes.fill 2 32 ≠ Bytes.zeros 32 := by decide
    refine ⟨rfl, rfl, hfull, ?_⟩
    show Bytes.fill 2 32 ≠ Bytes.fill (octet j) 32
    rw [octet_of_le hge]
    decide
  lock _ _ _ := rfl
  lockRange := rfl
  lockBeyond := refuses
  lockedExtension _ _ := refuses
  round m hm := absurd hm (Nat.not_lt_zero m)
  read j hj := by
    have hlocked : decide (j ≠ 16) = true := decide_eq_true (by omega)
    rw [findings.value_eq_of_lt _ hj, given, hlocked, if_pos hj]
    rfl

theorem covers : findings.Covers single given where
  first _ _ _ h := (Except.ok.inj h).symm
  extended _ _ _ _ _ _ h := (Except.ok.inj h).symm
  sample _ _ _ h := by cases h

theorem readFrom : findings.subject.ReadFrom described := ⟨rfl, rfl⟩

/-- The device, with its answers up to the first read of register 16 and that one. -/
def device : Rehearsal.Scripted where
  responses := (single.exchanges described given (asked (single.stepsBefore 0 16))).map Prod.snd ++
    [shown false 2]

end OpenLock

/-- A scripted device gives the answers that it has. -/
theorem replies_scripted {name : String} (pairs : List (Value × Value)) (rest : List Value)
    (openCount closeCount : Nat) :
    (Rehearsal.Scripted.transport name none).Replies
      ⟨pairs.map Prod.snd ++ rest, openCount, closeCount⟩ pairs ⟨rest, openCount, closeCount⟩ := by
  induction pairs with
  | nil => rfl
  | cons pair pairs ih => exact ⟨rfl, ih⟩

/-- An audit of the device arrives at the first read of register 16. -/
theorem OpenLock.exists_arrives :
    let t := Rehearsal.Scripted.transport "script" none
    ∃ r l, r.device = ⟨[shown false 2], 1, 0⟩ ∧
      Arrives t.recorded single (t.recorded.acquire { device }).device (.read 0 16)
        findings.subject given ⟨r, l⟩ := by
  intro t
  obtain ⟨later, hsteps⟩ := exists_stepsBefore_eq (p := single) (k := 0) (i := 16) (by decide)
    (by decide)
  obtain ⟨l, hexamine⟩ := (exists_examine_before_iff covers (by decide)).mpr toldBefore
  have hreplies : t.Replies (t.recorded.acquire { device }).device.device
      (single.exchanges described given (asked (single.stepsBefore 0 16)))
      ⟨[shown false 2], 1, 0⟩ := replies_scripted _ _ _ _
  obtain ⟨r, hrecorded, hdevice⟩ := Recorded.exists_replies hreplies
  exact ⟨r, l, hdevice, described, _, later, hsteps, readFrom, hrecorded, hexamine⟩

/-- A device that says of register 16 that it was locked, and shows it free. -/
theorem Auditor.run_attributes_reads_of_an_open_lock :
    let t := Rehearsal.Scripted.transport "script" none
    let c := (⟨single, .empty⟩ : Auditor).run t.recorded "" (0 : Int) { device := OpenLock.device }
    ∃ r v, c.outcome = .ok r ∧ r.failure = some (.locksAndExtension, v) ∧ v.register = some 16 ∧
      v.check = .postLockLocked := by
  intro t c
  obtain ⟨d, l, hleft, harrives⟩ := OpenLock.exists_arrives
  obtain ⟨later, hsteps⟩ := exists_stepsBefore_eq (p := single) (k := 0) (i := 16) (by decide)
    (by decide)
  have hslots : single.slots = asked (single.stepsBefore 0 16) ++ .read 0 16 :: asked later := by
    rw [← asked_steps, hsteps, asked_append, asked_ask]
  have hsent := Course.sent_of_arrives harrives (Recorded.requests_acquire _) hsteps
  rw [← Auditor.requests_eq_last ⟨single, .empty⟩ "" (0 : Int) rfl] at hsent
  obtain ⟨s, given, st, hst, hrecalls, hends⟩ := (Auditor.run_attributes_reads ⟨single, .empty⟩ t
    "" (0 : Int) OpenLock.device).1 _ 0 16 _ hslots hsent
  obtain ⟨rfl, rfl⟩ := Course.arrives_unique hst harrives.of_recorded
  have hanswer : (t.exchange ((Slot.read 0 16).request single) d.device).result =
      .ok (OpenLock.shown false 2) := by
    rw [hleft]
    rfl
  obtain ⟨last, hlast, -⟩ := hrecalls.last 16 (by decide)
  obtain ⟨r, v, houtcome, -, hfailure, hregister, -, hattributed⟩ :=
    hends (OpenLock.shown false 2) ⟨false, Bytes.fill 2 32⟩ last hanswer rfl rfl hlast
      (fun h => nomatch congrArg Operation.Reading.lock h)
  exact ⟨r, v, houtcome, hfailure, hregister,
    hattributed.postLockLocked.mpr ⟨rfl, le_rfl, rfl⟩⟩

end EnclaveAudit
