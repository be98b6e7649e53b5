import EnclaveAudit.Proofs.Audit.Closing
import EnclaveAudit.Proofs.Audit.Reporting
import EnclaveAudit.Proofs.Audit.Requests

/-!
# `EnclaveAudit/Proofs/Audit/Consistency.lean` — reports that agree with themselves

A device may answer anything. As long as it answers, with integers that can be written, a run ends
in a report or in a description that no bank can be modelled on; and what a report says of the
scenarios, the states, the violation and the description is one story.

The integers matter because a violation shows what was observed. `Value.isBrief` is about all of
them, at whatever depth, and nothing else about the answers is assumed.
-/

set_option autoImplicit false

namespace EnclaveAudit

/-! ## Answers with short integers -/

namespace Value

mutual

/-- Whether all integers in a value, at whatever depth, are short enough to be written. -/
def isBrief : Value → Bool
  | .int n => isShort n
  | .array items | .tuple items | .set _ items => areBrief items
  | .map entries | .frozenMap entries => entriesAreBrief entries
  | .tag _ content => isBrief content
  | _ => true

/-- Whether all integers in several values are. -/
def areBrief : List Value → Bool
  | [] => true
  | item :: items => isBrief item && areBrief items

/-- Whether all integers in several entries are. -/
def entriesAreBrief : List (Value × Value) → Bool
  | [] => true
  | entry :: entries => entryIsBrief entry && entriesAreBrief entries

/-- Whether all integers of a key and of what it holds are. -/
def entryIsBrief : Value × Value → Bool
  | (key, value) => isBrief key && isBrief value

end

section

variable {item key value : Value} {items : List Value} {entries : List (Value × Value)}

@[simp] theorem isBrief_text (s : String) : (text s).isBrief = true := rfl

@[simp] theorem isBrief_int (n : Int) : (int n).isBrief = isShort n := rfl

@[simp] theorem isBrief_array : (array items).isBrief = areBrief items := rfl

@[simp] theorem isBrief_map : (map entries).isBrief = entriesAreBrief entries := rfl

@[simp] theorem areBrief_cons :
    areBrief (item :: items) = true ↔ item.isBrief = true ∧ areBrief items = true :=
  Bool.and_eq_true_iff

@[simp] theorem entriesAreBrief_nil : entriesAreBrief [] = true := rfl

@[simp] theorem entriesAreBrief_cons : entriesAreBrief ((key, value) :: entries) = true ↔
    (key.isBrief = true ∧ value.isBrief = true) ∧ entriesAreBrief entries = true :=
  Bool.and_eq_true_iff.trans (and_congr_left' Bool.and_eq_true_iff)

end

theorem isBrief_lookup? {entries : List (Value × Value)} {name : String} {v : Value}
    (h : entriesAreBrief entries = true) (hv : lookup? name entries = some v) :
    v.isBrief = true := by
  induction entries with
  | nil => cases hv
  | cons entry entries ih =>
    obtain ⟨key, value⟩ := entry
    obtain ⟨hentry, hentries⟩ := entriesAreBrief_cons.mp h
    unfold lookup? at hv
    split at hv
    · cases hv
    · next heq =>
      cases heq
      split_ifs at hv
      · cases hv
        exact hentry.2
      · exact ih hentries hv
    · next heq =>
      cases heq
      exact ih hentries hv

theorem isBrief_entry? {body v : Value} {name : String} (h : body.isBrief = true)
    (hv : body.entry? name = some v) : v.isBrief = true := by
  cases body with
  | map entries | frozenMap entries => exact isBrief_lookup? h hv
  | _ => cases hv

theorem areBrief_of_forall {items : List Value} (h : ∀ item ∈ items, isBrief item = true) :
    areBrief items = true := by
  induction items with
  | nil => rfl
  | cons item items ih =>
    obtain ⟨hitem, hitems⟩ := List.forall_mem_cons.mp h
    exact areBrief_cons.mpr ⟨hitem, ih hitems⟩

theorem areBrief_map_text (texts : List String) : areBrief (texts.map .text) = true := by
  refine areBrief_of_forall fun item hitem => ?_
  obtain ⟨_, -, rfl⟩ := List.mem_map.mp hitem
  rfl

theorem areBrief_items? {v : Value} {items : List Value} (h : v.isBrief = true)
    (hitems : v.items? = some items) : areBrief items = true := by
  cases v with
  | array _ | tuple _ | set _ _ =>
    cases hitems
    exact h
  | denoted d =>
    cases d with
    | mail text =>
      cases hitems
      exact areBrief_map_text _
    | _ => cases hitems
  | _ => cases hitems

theorem isShort_of_mapM_int? {items : List Value} {ns : List Int} (h : areBrief items = true)
    (hns : items.mapM int? = some ns) : ∀ n ∈ ns, isShort n = true := by
  induction items generalizing ns with
  | nil =>
    cases hns
    exact fun n hn => absurd hn List.not_mem_nil
  | cons item items ih =>
    obtain ⟨hitem, hlisted⟩ := areBrief_cons.mp h
    rw [List.mapM_cons] at hns
    obtain ⟨n, hn, hns⟩ := Option.bind_eq_some_iff.mp hns
    obtain ⟨later, hlater, hns⟩ := Option.bind_eq_some_iff.mp hns
    cases hns
    refine List.forall_mem_cons.mpr ⟨?_, ih hlisted hlater⟩
    cases item with
    | int m =>
      cases hn
      exact hitem
    | _ => cases hn

end Value

namespace Operation

variable {body answer : Value} {d : Description}

theorem isShort_natural? {name : String} {n : Int} (h : body.isBrief = true)
    (hn : natural? name body = some n) : Value.isShort n = true := by
  obtain ⟨v, hv, hn⟩ := Option.bind_eq_some_iff.mp hn
  have hbrief := Value.isBrief_entry? h hv
  cases v with
  | int m =>
    obtain ⟨_, hm, hn⟩ := Option.bind_eq_some_iff.mp hn
    cases hm
    split_ifs at hn
    cases hn
    exact hbrief
  | _ => cases hn

theorem isShort_lockedRegisters? {ns : List Int} (h : body.isBrief = true)
    (hns : lockedRegisters? body = some ns) : ∀ n ∈ ns, Value.isShort n = true := by
  unfold lockedRegisters? at hns
  split at hns
  · cases hns
    exact fun n hn => absurd hn List.not_mem_nil
  · next listed hlisted =>
    obtain ⟨items, hitems, hns⟩ := Option.bind_eq_some_iff.mp hns
    have hbrief := Value.areBrief_items? (Value.isBrief_entry? h hlisted) hitems
    exact Value.isShort_of_mapM_int? hbrief hns

theorem isBrief_body? {name : String} (h : answer.isBrief = true)
    (hbody : body? name answer = some body) : body.isBrief = true := by
  unfold body? at hbody
  split at hbody
  · split_ifs at hbody
    cases hbody
    exact (Value.entriesAreBrief_cons.mp h).1.2
  · cases hbody

theorem isWritable_description? (h : body.isBrief = true) (hd : description? body = some d) :
    d.isWritable = true := by
  obtain ⟨major, hmajor, hd⟩ := Option.bind_eq_some_iff.mp hd
  obtain ⟨minor, hminor, hd⟩ := Option.bind_eq_some_iff.mp hd
  obtain ⟨patch, hpatch, hd⟩ := Option.bind_eq_some_iff.mp hd
  obtain ⟨_, -, hd⟩ := Option.bind_eq_some_iff.mp hd
  obtain ⟨_, -, hd⟩ := Option.bind_eq_some_iff.mp hd
  obtain ⟨count, hcount, hd⟩ := Option.bind_eq_some_iff.mp hd
  obtain ⟨locked, hlocked, hd⟩ := Option.bind_eq_some_iff.mp hd
  obtain ⟨_, -, hd⟩ := Option.bind_eq_some_iff.mp hd
  obtain ⟨_, -, hd⟩ := Option.bind_eq_some_iff.mp hd
  cases hd
  refine List.all_eq_true.mpr fun n hn => ?_
  simp only [Description.version, List.mem_append, List.mem_cons, List.not_mem_nil, or_false] at hn
  rcases hn with (rfl | rfl | rfl) | rfl | hn
  · exact isShort_natural? h hmajor
  · exact isShort_natural? h hminor
  · exact isShort_natural? h hpatch
  · exact isShort_natural? h hcount
  · exact isShort_lockedRegisters? h hlocked n hn

/-- A description in an answer with short integers is in short integers. -/
theorem isWritable_of_read (h : answer.isBrief = true)
    (hd : Operation.describe.read answer = .ok d) : d.isWritable = true := by
  have hread : readBody "DescribeNSM" description? answer = .ok d := hd
  unfold readBody at hread
  split at hread
  · cases hread
  · split at hread
    · next hd =>
      cases hread
      obtain ⟨body, hbody, hd⟩ := Option.bind_eq_some_iff.mp hd
      exact isWritable_description? (isBrief_body? h hbody) hd
    · cases hread

end Operation

/-- On a device of a kind, the transport always answers, with integers that are short enough, and
leaves one of that kind. -/
structure Transport.AnswersBriefly {σ : Type} (t : Transport σ) (I : σ → Prop) : Prop where
  answers : ∀ d request, I d →
    ∃ answer, (t.exchange request d).result = .ok answer ∧ answer.isBrief = true
  lasts : ∀ d request, I d → I (t.exchange request d).device

theorem Transport.AnswersBriefly.toAnswers {σ : Type} {t : Transport σ} {I : σ → Prop}
    (h : t.AnswersBriefly I) : t.Answers I where
  answers d request hd := by
    obtain ⟨answer, hanswer, -⟩ := h.answers d request hd
    exact ⟨answer, hanswer⟩
  lasts := h.lasts
  short d answer description hd hanswer hread := by
    obtain ⟨answer', hanswer', hbrief⟩ := h.answers d (.text "DescribeNSM") hd
    cases hanswer.symm.trans hanswer'
    exact Operation.isWritable_of_read hbrief hread

/-! ## Reports -/

/-- What a report says is one story. -/
structure Report.Consistent (r : Report) : Prop where
  /-- the scenarios that passed are the first so many -/
  passed : r.scenariosPassed = Scenario.all.take r.scenariosPassed.length
  /-- the states are the first, the target of each scenario that passed, and the last -/
  history : r.history = .init :: (r.scenariosPassed.map Scenario.target ++ [r.phase])
  done_iff : r.phase = .done ↔ r.scenariosPassed.length = 5
  failed_iff : r.phase = .failed ↔ r.scenariosPassed.length < 5
  /-- there is a violation exactly if the audit failed -/
  failure_iff : r.failure.isSome ↔ r.phase = .failed
  /-- it is in the scenario after those that passed, and of a check of that scenario -/
  failure : ∀ s v, r.failure = some (s, v) →
    Scenario.all[r.scenariosPassed.length]? = some s ∧ v.check ∈ s.criteria
  /-- there is no description exactly if the device could not be described -/
  description_iff : r.description = none ↔ ∃ s v, r.failure = some (s, v) ∧ v.check = .describe

theorem Report.Accounted.consistent {p : Parameters} {r : Report} (h : r.Accounted p) :
    r.Consistent := by
  obtain ⟨hhistory, -, ⟨hphase, hpassed, hfailure, hdescription, -⟩ |
    ⟨s, after, v, hphase, hall, hfailure, hmem, hdescription⟩⟩ := h
  · have hlength : r.scenariosPassed.length = 5 := by rw [hpassed]; rfl
    exact {
      passed := by rw [hlength, hpassed]; rfl
      history := hhistory
      done_iff := iff_of_true hphase hlength
      failed_iff := by simp [hphase, hlength]
      failure_iff := by simp [hphase, hfailure]
      failure := fun s v h => by simp [hfailure] at h
      description_iff := by simp [hfailure, hdescription] }
  · have hlength : r.scenariosPassed.length < 5 := by
      have hfive := congrArg List.length hall
      simp only [Scenario.all, List.length_append, List.length_cons, List.length_nil] at hfive
      omega
    exact {
      passed := by rw [hall, List.take_left]
      history := hhistory
      done_iff := by simp [hphase, hlength.ne]
      failed_iff := iff_of_true hphase hlength
      failure_iff := by simp [hphase, hfailure]
      failure := by
        intro s' v' h
        cases hfailure.symm.trans h
        refine ⟨?_, hmem⟩
        rw [hall, List.getElem?_append_right (Nat.le_refl _), Nat.sub_self]
        rfl
      description_iff := by simp [hfailure, hdescription] }

/-! ## A run that passes some scenarios -/

namespace Findings

theorem isBrief_described : described.isBrief = true := by
  have hlisted : Value.areBrief ((List.range 16).map fun i : Nat => .int i) = true := by
    refine Value.areBrief_of_forall fun item hitem => ?_
    obtain ⟨i, hi, rfl⟩ := List.mem_map.mp hitem
    have hlt := List.mem_range.mp hi
    exact Value.isShort_of_lt (by omega)
  have hone : Value.isShort 1 = true := Value.isShort_of_lt (by decide)
  have hzero : Value.isShort 0 = true := Value.isShort_of_lt (by decide)
  have hcount : Value.isShort 32 = true := Value.isShort_of_lt (by decide)
  simp [described, Simulator.reply, Value.record, hlisted, hone, hzero, hcount]

theorem isBrief_answers {f : Findings} (p : Parameters) (x : Slot) :
    (f.answers p x).isBrief = true := by
  cases x <;> rfl

end Findings

namespace Rehearsal.Scripted

/-- All answers that are left can be written. -/
def IsBrief (d : Scripted) : Prop := ∀ answer ∈ d.responses, answer.isBrief = true

/-- A scripted device answers briefly if its list does. -/
theorem answersBriefly (name : String) : (transport name none).AnswersBriefly IsBrief where
  answers d _ hd := by
    obtain ⟨responses, _, _⟩ := d
    cases responses with
    | nil => exact ⟨.null, rfl, rfl⟩
    | cons answer responses => exact ⟨answer, rfl, hd answer List.mem_cons_self⟩
  lasts d _ hd := by
    obtain ⟨responses, _, _⟩ := d
    cases responses with
    | nil => exact hd
    | cons answer responses => exact fun later hlater => hd later (List.mem_cons_of_mem _ hlater)

theorem isBrief_relocking (p : Parameters) : IsBrief (relocking p) := by
  intro answer hanswer
  simp only [relocking, modelExchanges, Parameters.exchanges, List.map_cons, List.map_map,
    List.cons_append, List.mem_cons, List.mem_append, List.mem_map, List.not_mem_nil,
    or_false] at hanswer
  rcases hanswer with rfl | ⟨x, -, rfl⟩ | rfl
  · exact Findings.isBrief_described
  · exact Findings.isBrief_answers p x
  · rfl

end Rehearsal.Scripted

theorem Scenario.take_all {s : Scenario} {n : Nat} (h : all[n]? = some s) :
    all.take n = all.takeWhile (· ≠ s) := by
  have hall : ∀ n < 5, all[n]? = some s → all.take n = all.takeWhile (· ≠ s) := by
    cases s <;> decide
  exact hall n (List.getElem?_eq_some_iff.mp h).1 h

/-- The scenarios that passed are those before the one that failed. -/
theorem Report.Consistent.passed_of_failure {r : Report} {s : Scenario} {v : Violation}
    (h : r.Consistent) (hfailure : r.failure = some (s, v)) :
    r.scenariosPassed = Scenario.all.takeWhile (· ≠ s) :=
  h.passed.trans (Scenario.take_all (h.failure s v hfailure).1)

/-- A device that starts as it must and takes a lock that it has passes two scenarios. -/
theorem Auditor.run_of_relock {σ : Type} (a : Auditor) {t : Transport σ} (runId : String)
    (now : Instant) {device d : σ} {described : Value} {given : Slot → Value} {f : Findings}
    (hacquire : (t.acquire device).result = .ok ())
    (hreplies : t.Replies (t.acquire device).device
      (a.parameters.exchanges described given (asked a.parameters.opening) ++
        [((Slot.relock 0 0).request a.parameters, .text "LockPCR")]) d)
    (h : Conforms a.parameters described given f) :
    ∃ r, (a.run t runId now device).outcome = .ok r ∧
      r.scenariosPassed = [.description, .initialRegisters] ∧
      (a.run t runId now device).ledger.history =
        [.init, .descriptionValidated, .initialRegistersAudited, .failed] := by
  obtain ⟨r, houtcome, hphase, v, hfailure, -⟩ := a.shows_relock runId now hacquire hreplies h
  rcases a.run_account runId now hacquire with
    ⟨r', houtcome', haccounted, -, -, hhistory⟩ | ⟨_, h, -⟩ | h | ⟨_, h⟩
  · cases houtcome.symm.trans houtcome'
    have hpassed := haccounted.consistent.passed_of_failure hfailure
    refine ⟨r, houtcome, hpassed, ?_⟩
    rw [hhistory, haccounted.consistent.history, hpassed, hphase]
    rfl
  · cases houtcome.symm.trans h
  · cases houtcome.symm.trans h
  · cases houtcome.symm.trans h

/-- So does the device that takes a lock it has, while it is recorded. -/
theorem Auditor.recorded_run_of_relocking (p : Parameters) (name runId : String) (now : Instant) :
    ∃ r, (Auditor.run ⟨p, .empty⟩ (Rehearsal.Scripted.transport name none).recorded runId now
        { device := .relocking p }).outcome = .ok r ∧
      r.scenariosPassed = [.description, .initialRegisters] ∧
      (Auditor.run ⟨p, .empty⟩ (Rehearsal.Scripted.transport name none).recorded runId now
        { device := .relocking p }).ledger.history =
          [.init, .descriptionValidated, .initialRegistersAudited, .failed] := by
  let t := Rehearsal.Scripted.transport name none
  let start : Recorded Rehearsal.Scripted := { device := .relocking p }
  obtain ⟨after, hreplies, -⟩ := Recorded.exists_replies (t := t)
    (r := (t.recorded.acquire start).device) (Rehearsal.Scripted.replies_relocking name p)
  exact Auditor.run_of_relock ⟨p, .empty⟩ runId now rfl hreplies (conforms_model p)

/-! ## Runs -/

/-- A course that ends in a description that is no use has sent one request. -/
theorem Course.requests_of_unusable {σ : Type} {t : Transport σ} {p : Parameters}
    {r : Recorded σ} {fault : DescriptionFault} {st : Standing (Recorded σ)}
    (h : whole t.recorded p ⟨r, .empty⟩ = .error (.unusable fault) st) :
    st.device.requests = r.requests ++ [.text "DescribeNSM"] := by
  rcases whole_eq_error h with hidentify | ⟨s, _, _, _, x, _, _, _, -, -, -, -, hx⟩
  · have hrequests := requests_identify (t := t) r
    rw [hidentify] at hrequests
    exact hrequests
  · rcases step_ask_eq_error_iff.mp hx with ⟨_, -, hi, -⟩ | ⟨_, _, -, hv, -⟩
    · cases hi
    · cases hv

theorem Course.conclude_eq_unusable {σ α : Type} {name runId : String} {now : Instant}
    {fault : DescriptionFault} {r : EStateM.Result Halt (Standing σ) α}
    (h : conclude name runId now r = .error (.unusable fault)) :
    ∃ fault' st, r = .error (.unusable fault') st := by
  cases r with
  | ok a st => cases h
  | error halt st =>
    cases halt with
    | violated s v =>
      simp only [conclude] at h
      split_ifs at h
      cases h
    | unusable fault' => exact ⟨fault', st, rfl⟩
    | interrupted i => cases h

/-- **Every run ends in a consistent report, or with a description that is no use.** The transport
is any that can be acquired and always answers, with whatever it likes, as long as the integers in
it can be written. No violation and no refusal gets out of the run otherwise. Where there is no
report the audit is still in its first state, and has sent one request; where there is one, it says
what the auditor's own history says. -/
theorem Auditor.run_is_consistent {σ : Type} {I : σ → Prop} (a : Auditor) {t : Transport σ}
    (runId : String) (now : Instant) {d : σ} (hacquire : (t.acquire d).result = .ok ())
    (hd : I (t.acquire d).device) (ht : t.AnswersBriefly I) :
    let c := a.run t.recorded runId now { device := d }
    (∃ fault, c.outcome = .error (.unusable fault) ∧ c.ledger.history = [.init] ∧
        c.device.requests = [.text "DescribeNSM"]) ∨
      ∃ r, c.outcome = .ok r ∧ r.Consistent ∧ c.ledger.history = r.history := by
  intro c
  let r : Recorded σ := { device := d }
  have hrecorded : (t.recorded.acquire r).result = .ok () := hacquire
  have hreports := a.run_reports runId now hrecorded hd ht.toAnswers.recorded
  rcases a.run_account runId now hrecorded with
    ⟨report, houtcome, haccounted, -, -, hhistory⟩ | ⟨fault, houtcome, hhistory, -⟩ |
    houtcome | ⟨i, houtcome⟩
  · exact .inr ⟨report, houtcome, haccounted.consistent, hhistory⟩
  · refine .inl ⟨fault, houtcome, hhistory, ?_⟩
    have hrequests := a.run_requests runId now hrecorded
    have hconclude := (a.run_concludes runId now hrecorded).1
    obtain ⟨fault', st, hwhole⟩ := Course.conclude_eq_unusable (hconclude.symm.trans houtcome)
    rw [hwhole] at hrequests
    show (a.run t.recorded runId now r).device.requests = _
    rw [hrequests, Course.requests_of_unusable hwhole, Recorded.requests_acquire]
    rfl
  · rcases hreports with ⟨_, h⟩ | ⟨_, h⟩ <;> cases houtcome.symm.trans h
  · rcases hreports with ⟨_, h⟩ | ⟨_, h⟩ <;> cases houtcome.symm.trans h

/-- Two scenarios pass on a device that takes a lock it has, and the report is about the third. -/
theorem Auditor.run_is_consistent_of_relocking :
    let t := Rehearsal.Scripted.transport "scripted" none
    let d := Rehearsal.Scripted.relocking .default
    let c := (⟨.default, .empty⟩ : Auditor).run t.recorded "" (0 : Int) { device := d }
    (t.acquire d).result = .ok () ∧ (t.acquire d).device.IsBrief ∧
    t.AnswersBriefly Rehearsal.Scripted.IsBrief ∧
    ∃ r, c.outcome = .ok r ∧ r.Consistent ∧ c.ledger.history = r.history ∧
      r.scenariosPassed = [.description, .initialRegisters] ∧
      r.history = [.init, .descriptionValidated, .initialRegistersAudited, .failed] := by
  have hbrief := Rehearsal.Scripted.isBrief_relocking .default
  have hanswers := Rehearsal.Scripted.answersBriefly "scripted"
  obtain ⟨r, houtcome, hpassed, hended⟩ :=
    Auditor.recorded_run_of_relocking .default "scripted" "" (0 : Int)
  refine ⟨rfl, hbrief, hanswers, r, houtcome, ?_⟩
  rcases Auditor.run_is_consistent ⟨.default, .empty⟩ "" (0 : Int)
    (t := Rehearsal.Scripted.transport "scripted" none) (d := .relocking .default) rfl hbrief
    hanswers with ⟨fault, houtcome', -⟩ | ⟨r', houtcome', hconsistent, hhistory⟩
  · cases houtcome.symm.trans houtcome'
  · cases houtcome.symm.trans houtcome'
    exact ⟨hconsistent, hhistory, hpassed, hhistory.symm.trans hended⟩

end EnclaveAudit
