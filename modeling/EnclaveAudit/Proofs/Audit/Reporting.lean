import Mathlib.Algebra.Order.Ring.Nat
import EnclaveAudit.Proofs.Audit.Ending
import EnclaveAudit.Proofs.Audit.Showing

/-!
# `EnclaveAudit/Proofs/Audit/Reporting.lean` — audits that end with a report

A transport may be interrupted, and a violation may hold a number that is too long to be written;
either way an audit ends without a report. Neither happens on a device that always answers and
describes itself with numbers that are short: of all that a violation holds, only the registers that
the device lists as locked are numbers of its own choice. What is left is a report, or a description
that no bank can be modelled on (`Auditor.run_reports`).
-/

set_option autoImplicit false

namespace EnclaveAudit

/-! ## Violations that can be written -/

theorem Value.areWritable_map_int {ns : List Int} (h : ∀ n ∈ ns, Value.isShort n = true) :
    Value.areWritable (ns.map .int) = true := by
  induction ns with
  | nil => rfl
  | cons n ns ih =>
    obtain ⟨hn, hns⟩ := List.forall_mem_cons.mp h
    rw [List.map_cons, Value.areWritable, ih hns, Bool.and_true]
    exact hn

theorem Value.isShort_of_lt {n : Int} (h : n.natAbs < 2 ^ 64) : Value.isShort n = true := by
  have hlimit : 2 ^ 64 ≤ tenTo digitLimit := by decide +kernel
  exact decide_eq_true (Nat.lt_of_lt_of_le h hlimit)

/-- What a violation shows can be written if the numbers that the device listed can. -/
theorem Violation.Shows.isWritable {listed : List Int} {v : Violation} (h : v.Shows listed)
    (hlisted : ∀ n ∈ listed, Value.isShort n = true) : v.isWritable = true := by
  have hstring : ∀ {w : Value}, w.isString = true → w.isWritable = true := by
    intro w hw
    cases w with
    | text _ | bytes _ => rfl
    | _ => cases hw
  cases h with
  | strings hexpected hobserved =>
    exact Bool.and_eq_true_iff.mpr ⟨hstring hexpected, hstring hobserved⟩
  | lockedSet =>
    -- what is expected is sixteen small numbers, and only what is observed is the device's choice
    have hexpected : Value.areWritable (((List.range bootLockedCount).map Int.ofNat).map .int) =
        true := by
      refine Value.areWritable_map_int fun n hn => ?_
      obtain ⟨i, hi, rfl⟩ := List.mem_map.mp hn
      have hi : i < 16 := List.mem_range.mp hi
      exact Value.isShort_of_lt (by simp only [Int.ofNat_eq_natCast, Int.natAbs_natCast]; omega)
    have hobserved : Value.areWritable (listed.mergeSort.map .int) = true :=
      Value.areWritable_map_int fun n hn => hlisted n (List.mem_mergeSort.mp hn)
    exact Bool.and_eq_true_iff.mpr ⟨hexpected, hobserved⟩

/-! ## Devices that always answer -/

/-- What ends an audit leaves something to be said about the device. -/
def Halt.Telling : Halt → Prop
  | .violated _ v => v.isWritable = true
  | .unusable fault => fault.observed.isWritable = true
  | .interrupted _ => False

/-- On a device of a kind, the transport always answers, leaves one of that kind, and what the
device says about itself is in short numbers. -/
structure Transport.Answers {σ : Type} (t : Transport σ) (I : σ → Prop) : Prop where
  answers : ∀ d request, I d → ∃ answer, (t.exchange request d).result = .ok answer
  lasts : ∀ d request, I d → I (t.exchange request d).device
  short : ∀ d answer description, I d →
    (t.exchange (.text "DescribeNSM") d).result = .ok answer →
    Operation.describe.read answer = .ok description → description.isWritable = true

theorem Transport.Answers.recorded {σ : Type} {t : Transport σ} {I : σ → Prop} (h : t.Answers I) :
    t.recorded.Answers fun r => I r.device where
  answers r request hr := h.answers r.device request hr
  lasts r request hr := h.lasts r.device request hr
  short r answer description hr := h.short r.device answer description hr

namespace Course

variable {σ α β : Type} {I : σ → Prop}

/-- From a standing with a device of a kind, the course ends with one of that kind and with a result
of some sort, or in something that can be told. -/
def Tells (I : σ → Prop) (m : Course σ α) (A : α → Prop) : Prop :=
  ∀ st, I st.device →
    match m st with
    | .ok a st' => I st'.device ∧ A a
    | .error halt _ => halt.Telling

theorem Tells.bind {m : Course σ α} {f : α → Course σ β} {A : α → Prop} {B : β → Prop}
    (hm : Tells I m A) (hf : ∀ a, A a → Tells I (f a) B) : Tells I (m >>= f) B := by
  intro st hst
  have h := hm st hst
  simp only [Bind.bind, EStateM.bind]
  generalize m st = x at h ⊢
  cases x with
  | ok a st' => exact hf a h.2 st' h.1
  | error halt st' => exact h

theorem Tells.imp {m : Course σ α} {A B : α → Prop} (hm : Tells I m A) (h : ∀ a, A a → B a) :
    Tells I m B := by
  intro st hst
  have hends := hm st hst
  generalize m st = x at hends ⊢
  cases x with
  | ok a st' => exact ⟨hends.1, h a hends.2⟩
  | error halt st' => exact hends

theorem tells_pure {a : α} {A : α → Prop} (h : A a) : Tells I (pure a) A := fun _ hst => ⟨hst, h⟩

theorem tells_modify (f : Ledger → Ledger) :
    Tells I (modify fun st => { st with ledger := f st.ledger }) fun _ => True :=
  fun _ hst => ⟨hst, trivial⟩

theorem tells_judge (s : Scenario) {listed : List Int} {j : Judgement α} (h : j.Shows listed)
    (hlisted : ∀ n ∈ listed, Value.isShort n = true) :
    Tells I (judge s j) fun a => ∃ l l', j l = .ok a l' := by
  intro st hst
  simp only [judge]
  cases hj : j st.ledger with
  | ok a l => exact ⟨hst, _, _, hj⟩
  | error v l => exact (h _ v l hj).isWritable hlisted

variable {t : Transport σ} {p : Parameters}

theorem tells_ask (ht : t.Answers I) (operation : Operation) :
    Tells I (ask t operation) fun outcome => ∃ d answer, I d ∧
      (t.exchange operation.request d).result = .ok answer ∧ operation.read answer = outcome := by
  intro st hst
  obtain ⟨answer, hanswer⟩ := ht.answers st.device operation.request hst
  simp only [ask, hanswer]
  exact ⟨ht.lasts _ _ hst, st.device, answer, hst, hanswer, rfl⟩

theorem tells_step (ht : t.Answers I) {s : Subject} (hs : s.description.isWritable = true)
    (step : Step) : Tells I (Course.step t p s step) fun _ => True := by
  cases step with
  | pass scenario => exact tells_modify (Ledger.pass scenario)
  | ask x =>
    have hshort : ∀ n ∈ s.description.lockedRegisters, Value.isShort n = true := fun n hn =>
      List.all_eq_true.mp hs n (List.mem_append_right _ (List.mem_cons_of_mem _ hn))
    have hprobe : Tells I (probe t p s x) fun _ => True :=
      (tells_ask ht (x.probe p).operation).bind fun outcome _ =>
        (tells_judge x.scenario (Probe.shows_judge p s.contract _ outcome) hshort).imp
          fun _ _ => trivial
    exact hprobe.bind fun _ _ =>
      (tells_judge x.scenario (x.shows_closing s) hshort).imp fun _ _ => trivial

theorem tells_steps (ht : t.Answers I) {s : Subject} (hs : s.description.isWritable = true)
    (xs : List Step) : Tells I (steps t p s xs) fun _ => True := by
  induction xs with
  | nil => exact tells_pure trivial
  | cons x xs ih => exact (tells_step ht hs x).bind fun _ _ => ih

/-- A description in short numbers has no fault that could not be told. -/
theorem isWritable_observed {d : Description} {fault : DescriptionFault}
    (hd : d.isWritable = true) (h : Contract.ofDescription d = .error fault) :
    fault.observed.isWritable = true := by
  unfold Contract.ofDescription at h
  split_ifs at h
  · cases h
    exact List.all_eq_true.mp hd _ (List.mem_append_right _ List.mem_cons_self)
  · cases h
    rfl
  · cases h
    rfl
  · simp only [Digest.ofWire] at h
    cases hdigest : Digest.ofTag? d.digest with
    | some digest =>
      rw [hdigest] at h
      cases h
    | none =>
      rw [hdigest] at h
      cases h
      rfl

theorem tells_identify (ht : t.Answers I) :
    Tells I (identify t) fun s => s.description.isWritable = true := by
  refine (tells_ask ht .describe).bind fun outcome hask => ?_
  obtain ⟨d, answer, hd, hanswer, rfl⟩ := hask
  have hnothing : ∀ n ∈ ([] : List Int), Value.isShort n = true := nofun
  refine (tells_judge .description (Check.shows_succeed _ _ _).counted hnothing).bind ?_
  rintro description ⟨l, l', hjudge⟩
  -- the check passed, so the description is the one that was read off the answer
  have hread := Check.succeed_eq_ok_iff.mp (Judgement.counted_eq_ok_iff.mp hjudge).1
  have hshort := ht.short d answer description hd hanswer hread
  refine (tells_modify fun l => { l with description := some description }).bind fun _ _ => ?_
  cases hc : Contract.ofDescription description with
  | error fault => exact fun _ _ => isWritable_observed hshort hc
  | ok contract =>
    dsimp only
    rw [Check.requireDescription_of_ofDescription hc]
    exact (tells_judge .description (Check.shows_pure ()).counted hnothing).bind fun _ _ =>
      tells_pure hshort

theorem tells_whole (ht : t.Answers I) : Tells I (whole t p) fun _ => True :=
  (tells_identify ht).bind fun _ hs => (tells_steps ht hs p.steps).bind fun _ _ =>
    tells_modify Ledger.finish

end Course

/-- **An audit of a device that always answers ends with a report**, or with a description that no
bank can be modelled on. -/
theorem Auditor.run_reports {σ : Type} {I : σ → Prop} (a : Auditor) {t : Transport σ}
    (runId : String) (now : Instant) {d : σ} (hacquire : (t.acquire d).result = .ok ())
    (hd : I (t.acquire d).device) (ht : t.Answers I) :
    (∃ r, (a.run t runId now d).outcome = .ok r) ∨
      ∃ fault, (a.run t runId now d).outcome = .error (.unusable fault) := by
  have htells := Course.tells_whole (p := a.parameters) ht ⟨_, .empty⟩ hd
  rw [(a.run_concludes runId now hacquire).1]
  generalize Course.whole t a.parameters _ = x at htells ⊢
  cases x with
  | ok _ st => exact .inl ⟨_, rfl⟩
  | error halt st =>
    cases halt with
    | violated s v => exact .inl ⟨_, if_pos htells⟩
    | unusable fault =>
      have hfault : Setback.ofFault fault = .unusable fault := if_pos htells
      exact .inr ⟨fault, congrArg Except.error hfault⟩
    | interrupted i => exact htells.elim

end EnclaveAudit
