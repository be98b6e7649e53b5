import EnclaveAudit.Proofs.Audit.Keeping
import EnclaveAudit.Proofs.Audit.Setup
import EnclaveAudit.Proofs.Wire.Json

/-!
# `EnclaveAudit/Proofs/Audit/Documents.lean` — reports as documents

The report of a run is a document whatever the device did: at every depth it is made of texts, truth
values, integers, arrays, and maps from texts. Octets would not do, and a violation shows octets; the
report shows them in hexadecimal. What a description holds cannot spoil the document, and where it
comes from is said here too: the first answer (`Auditor.run_describes`).
-/

set_option autoImplicit false

namespace EnclaveAudit

/-! ## Documents -/

namespace Value

theorem plain_array_map {α : Type} {f : α → Value} (h : ∀ a, (f a).Plain) (xs : List α) :
    (Value.array (xs.map f)).Plain :=
  .array (List.forall_mem_map.mpr fun a _ => h a)

theorem plain_render_of_isString {v : Value} (h : v.isString = true) :
    (Violation.render v).Plain := by
  cases v with
  | text s => exact .text s
  | bytes b => exact .text b.hex
  | _ => cases h

theorem plain_render_ints (ns : List Int) :
    (Violation.render (.array (ns.map .int))).Plain := by
  have hitems : Violation.renderItems (ns.map .int) = ns.map .int := by
    induction ns with
    | nil => rfl
    | cons n ns ih => simp only [List.map_cons, Violation.renderItems, Violation.render, ih]
  rw [Violation.render, hitems]
  exact plain_array_map .int ns

end Value

theorem Violation.Shows.plain_document {listed : List Int} {v : Violation} (h : v.Shows listed) :
    v.document.Plain := by
  have hplain : (Violation.render v.expected).Plain ∧ (Violation.render v.observed).Plain := by
    cases h with
    | strings hexpected hobserved =>
      exact ⟨Value.plain_render_of_isString hexpected, Value.plain_render_of_isString hobserved⟩
    | lockedSet => exact ⟨Value.plain_render_ints _, Value.plain_render_ints _⟩
  unfold Violation.document
  refine .record (by cases v.register <;> simp) (List.forall_mem_append.mpr ⟨?_, ?_⟩)
  · simp only [List.forall_mem_cons]
    exact ⟨.text _, .text _, hplain.1, hplain.2, nofun⟩
  · cases v.register with
    | none => exact nofun
    | some index => exact List.forall_mem_singleton.mpr (.int index)

theorem Description.plain_document (d : Description) : d.document.Plain := by
  refine .record (by simp) ?_
  simp only [List.forall_mem_cons]
  exact ⟨.text _, .text _, .int _, Value.plain_array_map .int _, .text _, nofun⟩

/-- A report is a document if its violation is. -/
theorem Report.plain_document {r : Report}
    (h : ∀ s v, r.failure = some (s, v) → v.document.Plain) : r.document.Plain := by
  unfold Report.document
  refine .record ?_ (List.forall_mem_append.mpr ⟨List.forall_mem_append.mpr ⟨?_, ?_⟩, ?_⟩)
  · cases r.description <;> cases r.failure <;> simp
  · simp only [List.forall_mem_cons]
    exact ⟨.text _, .text _, .text _, .bool _, Value.plain_array_map (fun _ => .text _) _, .text _,
      .text _, .int _, Value.plain_array_map (fun _ => .text _) _, nofun⟩
  · cases r.description with
    | none => exact nofun
    | some d => exact List.forall_mem_singleton.mpr d.plain_document
  · cases hfailure : r.failure with
    | none => exact nofun
    | some failure =>
      obtain ⟨s, v⟩ := failure
      exact List.forall_mem_cons.mpr ⟨.text _, List.forall_mem_singleton.mpr (h s v hfailure)⟩

/-! ## Courses -/

theorem keeps_review (p : Parameters) (s : Subject) (x : Slot) (answer : Value) :
    Keeps Ledger.record (x.review p s answer) := by
  refine (Probe.keeps_judge p s.contract _ _).bind fun _ => ?_
  unfold Slot.closing
  split_ifs
  · exact Scenario.keeps_closing s _
  · exact keeps_pure ()

/-- The description stays what it is once it is known. -/
theorem keeps_examine (p : Parameters) (s : Subject) (given : Slot → Value) (xs : List Step) :
    Keeps Ledger.description (examine p s given xs) := by
  induction xs with
  | nil => exact keeps_pure ()
  | cons step xs ih =>
    refine Keeps.bind ?_ fun _ => ih
    cases step with
    | ask x => exact (keeps_review p s x (given x)).part (·.2.2)
    | pass scenario => exact keeps_modify fun _ => rfl

namespace Course

variable {σ : Type} {t : Transport σ} {p : Parameters} {d : σ}

/-- What a violation shows that ends a course. -/
theorem shows_of_violated {s : Scenario} {v : Violation} {st : Standing σ}
    (h : whole t p ⟨d, .empty⟩ = .error (.violated s v) st) : ∃ listed, v.Shows listed := by
  rcases whole_eq_error h with hidentify | ⟨subject, _, _, _, x, _, _, l, -, -, -, -, hx⟩
  · rcases identify_eq_error hidentify with ⟨_, hi, -⟩ | ⟨_, -, ⟨v', hv', hjudge, -⟩ | ⟨_, hfault⟩⟩
    · cases hi
    · cases hv'
      exact ⟨[], Check.shows_succeed _ _ _ v hjudge⟩
    · cases hfault
  · rcases step_ask_eq_error_iff.mp hx with ⟨_, -, hi, -⟩ | ⟨answer, v', -, hv', hreview⟩
    · cases hi
    · cases hv'
      exact ⟨_, x.shows_review p subject answer l v st.ledger hreview⟩

/-- Where a course ends that leaves a report, the description is the one of the first answer. -/
theorem describes {r : EStateM.Result Halt (Standing σ) Unit}
    (hr : whole t p ⟨d, .empty⟩ = r)
    (hends : ∀ halt st, r = .error halt st → ∃ s v, halt = .violated s v) {description : Description}
    (h : (last r).ledger.description = some description) :
    ∃ answer, (t.exchange (.text "DescribeNSM") d).result = .ok answer ∧
      Operation.describe.read answer = .ok description := by
  cases r with
  | ok u st =>
    obtain ⟨s, described, given, l, ⟨hanswer, -⟩, ⟨hread, -⟩, hexamine, hl⟩ := whole_eq_ok_iff.mp hr
    have hkept := keeps_examine p s given p.steps (.identified s.description)
    rw [hexamine] at hkept
    have hsame : some description = some s.description := by
      rw [← h]
      show st.ledger.description = _
      rw [hl]
      exact hkept
    cases hsame
    exact ⟨described, hanswer, hread⟩
  | error halt st =>
    obtain ⟨scenario, v, rfl⟩ := hends halt st rfl
    rcases whole_eq_error hr with hidentify | ⟨s, described, given, earlier, x, _, d₁, l, -,
      ⟨hanswer, -⟩, ⟨hread, -⟩, hexamine, hx⟩
    · -- the first check failed, and nothing is known
      rcases identify_eq_error hidentify with ⟨_, hi, -⟩ | ⟨_, -, ⟨_, -, -, hl⟩ | ⟨_, hfault⟩⟩
      · cases hi
      · have hnone : st.ledger.description = some description := h
        rw [hl] at hnone
        cases hnone
      · cases hfault
    · rcases step_ask_eq_error_iff.mp hx with ⟨_, -, hi, -⟩ | ⟨answer, v', -, -, hreview⟩
      · cases hi
      · have hkept := keeps_examine p s given earlier (.identified s.description)
        have hlast := (keeps_review p s x answer).part (·.2.2) l
        rw [hexamine] at hkept
        rw [hreview] at hlast
        have hsame : some description = some s.description := h.symm.trans (hlast.trans hkept)
        cases hsame
        exact ⟨described, hanswer, hread⟩

end Course

/-! ## Runs -/

namespace Auditor

variable {σ : Type} (a : Auditor) {t : Transport σ} {runId : String} {now : Instant} {device : σ}
  {r : Report}

/-- **The report of a run is a document.** Nothing is asked of the transport: it may answer anything,
and be interrupted at any time. -/
theorem run_report_is_plain (h : (a.run t runId now device).outcome = .ok r) :
    r.document.Plain := by
  refine Report.plain_document fun s v hfailure => ?_
  obtain ⟨-, ⟨_, -, rfl⟩ | ⟨s', v', st, hwhole, -, rfl⟩⟩ := a.run_eq_ok h
  · cases hfailure
  · cases hfailure
    obtain ⟨listed, hv⟩ := Course.shows_of_violated hwhole
    exact hv.plain_document

/-- The description in a report was read from the first answer. -/
theorem run_describes (h : (a.run t runId now device).outcome = .ok r) {d : Description}
    (hd : r.description = some d) :
    ∃ answer, t.FirstAnswer device answer ∧ Operation.describe.read answer = .ok d := by
  obtain ⟨hacquire, ⟨st, hwhole, rfl⟩ | ⟨s, v, st, hwhole, -, rfl⟩⟩ := a.run_eq_ok h
  · obtain ⟨answer, hanswer, hread⟩ := Course.describes hwhole
      (fun _ _ heq => by cases heq) hd
    exact ⟨answer, ⟨hacquire, hanswer⟩, hread⟩
  · obtain ⟨answer, hanswer, hread⟩ := Course.describes hwhole
      (fun _ _ heq => by cases heq; exact ⟨s, v, rfl⟩) hd
    exact ⟨answer, ⟨hacquire, hanswer⟩, hread⟩

end Auditor

end EnclaveAudit
