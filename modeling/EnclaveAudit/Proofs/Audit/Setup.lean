import EnclaveAudit.Proofs.Audit.Closing
import EnclaveAudit.Proofs.Audit.Reporting

/-!
# `EnclaveAudit/Proofs/Audit/Setup.lean` — setting up, and what is left to check

A description is looked at twice: when the contract is derived from it, and by the checks of the
first scenario. The derivation asks for everything that these checks ask for, so a description that
fails one of them has been refused before, as a fault of the setup. `Description.FirstFault` says
which fault that is, for every description.

A run therefore goes one of three ways from its first answer. An answer that does not read as a
description is a violation of the first check; a description that is refused ends the run without a
report; and after any other no violation is about the number of registers, the identifier or the
digest.
-/

set_option autoImplicit false

namespace EnclaveAudit

/-! ## The description -/

namespace Description

/-- The fault is the first that the description has: whatever is asked for before is in order. -/
def FirstFault (d : Description) : DescriptionFault → Prop
  | .registerCount n => d.registerCount ≠ 32 ∧ n = d.registerCount
  | .moduleIdMissing => d.registerCount = 32 ∧ d.moduleId = ""
  | .moduleIdTooLong s =>
    d.registerCount = 32 ∧ d.moduleId ≠ "" ∧ 100 < d.moduleId.utf8ByteSize ∧ s = d.moduleId
  | .unknownDigest tag =>
    d.registerCount = 32 ∧ d.moduleId ≠ "" ∧ d.moduleId.utf8ByteSize ≤ 100 ∧
      d.digest ∉ ["SHA256", "SHA384", "SHA512"] ∧ tag = .text d.digest

/-- The contract is the one that the description promises. -/
def Promises (d : Description) (c : Contract) : Prop :=
  d.registerCount = 32 ∧ d.moduleId ≠ "" ∧ d.moduleId.utf8ByteSize ≤ 100 ∧
    (d.digest, c) ∈ [("SHA256", ⟨32, .sha256, 32⟩), ("SHA384", ⟨32, .sha384, 48⟩),
      ("SHA512", ⟨32, .sha512, 64⟩)]

end Description

theorem Bytes.length_ofString (s : String) : (Bytes.ofString s).length = s.utf8ByteSize := by
  rfl

namespace Contract

variable {d : Description} {c : Contract} {fault : DescriptionFault}

theorem ofDescription_eq_ok_iff_promises : ofDescription d = .ok c ↔ d.Promises c := by
  rw [Check.ofDescription_eq_ok_iff, Description.Promises, Bytes.length_ofString]
  refine and_congr_right fun _ => and_congr_right fun _ => and_congr_right fun _ => ?_
  constructor
  · rintro ⟨digest, hd, rfl⟩
    cases digest <;> simp [hd, Digest.tag, Digest.width]
  · intro h
    simp only [List.mem_cons, Prod.mk.injEq, List.not_mem_nil, or_false] at h
    rcases h with ⟨hd, rfl⟩ | ⟨hd, rfl⟩ | ⟨hd, rfl⟩
    · exact ⟨.sha256, hd, rfl⟩
    · exact ⟨.sha384, hd, rfl⟩
    · exact ⟨.sha512, hd, rfl⟩

theorem ofDescription_of_firstFault (h : d.FirstFault fault) :
    ofDescription d = .error fault := by
  -- the conditions as the contract has them, with the limits by their names
  have hbank : d.registerCount = 32 → ¬d.registerCount ≠ (EnclaveAudit.registerCount : Int) :=
    not_not.mpr
  have hshort : d.moduleId.utf8ByteSize ≤ 100 →
      ¬moduleIdLimit < (Bytes.ofString d.moduleId).length := Nat.not_lt.mpr
  unfold ofDescription
  cases fault with
  | registerCount n =>
    obtain ⟨hcount, rfl⟩ := h
    exact if_pos hcount
  | moduleIdMissing =>
    obtain ⟨hcount, hid⟩ := h
    rw [if_neg (hbank hcount), if_pos hid]
  | moduleIdTooLong s =>
    obtain ⟨hcount, hid, hlength, rfl⟩ := h
    rw [if_neg (hbank hcount), if_neg hid]
    exact if_pos hlength
  | unknownDigest tag =>
    obtain ⟨hcount, hid, hlength, hdigest, rfl⟩ := h
    have hnone : Digest.ofTag? d.digest = none := by
      refine Option.eq_none_iff_forall_ne_some.mpr fun digest htag => hdigest ?_
      rw [Digest.ofTag?_eq_some_iff.mp htag]
      cases digest <;> simp [Digest.tag]
    rw [if_neg (hbank hcount), if_neg hid, if_neg (hshort hlength)]
    simp only [Digest.ofWire, hnone]

/-- Every description promises a bank or has a first fault. -/
theorem promises_or_firstFault (d : Description) :
    (∃ c, d.Promises c) ∨ ∃ fault, d.FirstFault fault := by
  by_cases hcount : d.registerCount = 32
  case neg => exact .inr ⟨.registerCount d.registerCount, hcount, rfl⟩
  by_cases hid : d.moduleId = ""
  case pos => exact .inr ⟨.moduleIdMissing, hcount, hid⟩
  by_cases hlength : d.moduleId.utf8ByteSize ≤ 100
  case neg => exact .inr ⟨.moduleIdTooLong d.moduleId, hcount, hid, Nat.not_le.mp hlength, rfl⟩
  by_cases hdigest : d.digest ∈ ["SHA256", "SHA384", "SHA512"]
  case neg => exact .inr ⟨.unknownDigest (.text d.digest), hcount, hid, hlength, hdigest, rfl⟩
  simp only [List.mem_cons, List.not_mem_nil, or_false] at hdigest
  rcases hdigest with hd | hd | hd
  · exact .inl ⟨⟨32, .sha256, 32⟩, hcount, hid, hlength, by simp [hd]⟩
  · exact .inl ⟨⟨32, .sha384, 48⟩, hcount, hid, hlength, by simp [hd]⟩
  · exact .inl ⟨⟨32, .sha512, 64⟩, hcount, hid, hlength, by simp [hd]⟩

theorem ofDescription_eq_error_iff : ofDescription d = .error fault ↔ d.FirstFault fault := by
  refine ⟨fun h => ?_, ofDescription_of_firstFault⟩
  rcases promises_or_firstFault d with ⟨c, hc⟩ | ⟨fault', hfault⟩
  · cases h.symm.trans (ofDescription_eq_ok_iff_promises.mpr hc)
  · cases h.symm.trans (ofDescription_of_firstFault hfault)
    exact hfault

/-- Thirty-four characters of three octets each are too many. -/
example : ofDescription ⟨1, 0, 0, "€€€€€€€€€€€€€€€€€€€€€€€€€€€€€€€€€€", 32, "SHA384", []⟩ =
    .error (.moduleIdTooLong "€€€€€€€€€€€€€€€€€€€€€€€€€€€€€€€€€€") := by rfl

end Contract

/-! ## The first answer -/

/-- The transport can be acquired, and brings back the answer to the first request. -/
def Transport.FirstAnswer {σ : Type} (t : Transport σ) (device : σ) (answer : Value) : Prop :=
  let opened := t.acquire device
  opened.result = .ok () ∧ (t.exchange (.text "DescribeNSM") opened.device).result = .ok answer

namespace Course

variable {σ : Type} {t : Transport σ} {p : Parameters} {d : σ} {answer : Value}

/-- An answer that is no description violates the first check. -/
theorem identify_of_unread {status : Status}
    (hanswer : (t.exchange (.text "DescribeNSM") d).result = .ok answer)
    (hread : Operation.describe.read answer = .error status) :
    identify t ⟨d, .empty⟩ = .error (.violated .description
        ⟨.describe, .text Status.success.name, .text status.name, none⟩)
      ⟨(t.exchange (.text "DescribeNSM") d).device, .empty⟩ := by
  have hask : ask t .describe ⟨d, .empty⟩ = .ok (.error status)
      ⟨(t.exchange (.text "DescribeNSM") d).device, .empty⟩ :=
    ask_eq_ok_iff.mpr ⟨answer, hanswer, rfl, hread⟩
  have hjudge : Check.judgeDescribe (.error status) =
      .error ⟨.describe, .text Status.success.name, .text status.name, none⟩ := rfl
  refine (bind_of_eq_ok hask).trans (bind_eq_error_iff.mpr (.inl ?_))
  exact judge_counted_eq_error_iff.mpr ⟨_, hjudge, rfl, rfl⟩

/-- A description that is refused ends the course. -/
theorem identify_of_fault {description : Description} {fault : DescriptionFault}
    (hanswer : (t.exchange (.text "DescribeNSM") d).result = .ok answer)
    (hread : Operation.describe.read answer = .ok description)
    (hfault : Contract.ofDescription description = .error fault) :
    identify t ⟨d, .empty⟩ = .error (.unusable fault)
      ⟨(t.exchange (.text "DescribeNSM") d).device,
        { description := some description, checks := 1 }⟩ := by
  have hask : ask t .describe ⟨d, .empty⟩ = .ok (.ok description)
      ⟨(t.exchange (.text "DescribeNSM") d).device, .empty⟩ :=
    ask_eq_ok_iff.mpr ⟨answer, hanswer, rfl, hread⟩
  have hjudge : judge .description (Judgement.counted (Check.judgeDescribe (.ok description)))
      ⟨(t.exchange (.text "DescribeNSM") d).device, .empty⟩ =
      .ok description ⟨(t.exchange (.text "DescribeNSM") d).device, { checks := 1 }⟩ :=
    judge_counted_eq_ok_iff.mpr ⟨Check.succeed_eq_ok_iff.mpr rfl, rfl⟩
  refine (bind_of_eq_ok hask).trans ((bind_of_eq_ok hjudge).trans ?_)
  refine bind_eq_error_iff.mpr (.inr ⟨(), _, modify_eq_ok_iff.mpr rfl, ?_⟩)
  rw [hfault]
  rfl

/-- A course is ended by a fault exactly if the first answer is a description that has it. -/
theorem whole_unusable_iff {fault : DescriptionFault} :
    (∃ st, whole t p ⟨d, .empty⟩ = .error (.unusable fault) st) ↔
      ∃ answer description, (t.exchange (.text "DescribeNSM") d).result = .ok answer ∧
        Operation.describe.read answer = .ok description ∧
        Contract.ofDescription description = .error fault := by
  constructor
  · rintro ⟨st, hwhole⟩
    have hidentify : identify t ⟨d, .empty⟩ = .error (.unusable fault) st := by
      rcases whole_eq_error hwhole with hidentify | ⟨s, _, _, _, x, _, _, _, -, -, -, -, hx⟩
      · exact hidentify
      · rcases step_ask_eq_error_iff.mp hx with ⟨_, -, hi, -⟩ | ⟨_, _, -, hv, -⟩
        · cases hi
        · cases hv
    rcases identify_eq_error hidentify with ⟨_, hi, -⟩ | ⟨answer, ⟨hanswer, -⟩, -⟩
    · cases hi
    cases hread : Operation.describe.read answer with
    | error status =>
      rw [identify_of_unread hanswer hread] at hidentify
      cases hidentify
    | ok description =>
      cases hc : Contract.ofDescription description with
      | error fault' =>
        rw [identify_of_fault hanswer hread hc] at hidentify
        cases hidentify
        exact ⟨answer, description, hanswer, hread, hc⟩
      | ok c =>
        have hknown : identify t ⟨d, .empty⟩ = .ok ⟨description, c⟩
            ⟨(t.exchange (.text "DescribeNSM") d).device, .identified description⟩ :=
          identify_eq_ok_iff.mpr ⟨answer, ⟨hanswer, rfl⟩, ⟨hread, hc⟩, rfl⟩
        rw [hknown] at hidentify
        cases hidentify
  · rintro ⟨answer, description, hanswer, hread, hfault⟩
    exact ⟨_, bind_eq_error_iff.mpr (.inl (identify_of_fault hanswer hread hfault))⟩

/-- What is concluded is a fault if the course ended at it, and it can be written. -/
theorem conclude_eq_unusable_iff {α : Type} {name runId : String} {now : Instant}
    {fault : DescriptionFault} {r : EStateM.Result Halt (Standing σ) α} :
    conclude name runId now r = .error (.unusable fault) ↔
      (∃ st, r = .error (.unusable fault) st) ∧ fault.observed.isWritable = true := by
  cases r with
  | ok a st => simp [conclude]
  | error halt st =>
    cases halt with
    | violated s v =>
      simp only [conclude]
      split_ifs <;> simp
    | unusable fault' =>
      simp only [conclude, Setback.ofFault]
      split_ifs with h
      · simp only [Except.error.injEq, Setback.unusable.injEq, EStateM.Result.error.injEq,
          Halt.unusable.injEq, exists_and_left, exists_eq']
        constructor
        · rintro rfl
          exact ⟨⟨rfl, trivial⟩, h⟩
        · rintro ⟨⟨rfl, -⟩, -⟩
          rfl
      · simp only [Except.error.injEq, reduceCtorEq, false_iff, not_and]
        rintro ⟨_, hst⟩
        cases hst
        exact h
    | interrupted i => simp [conclude]

end Course

/-! ## Runs -/

namespace Auditor

variable {σ : Type}

/-- A violation that a run reports is never about the number of registers, the identifier or the
digest. -/
theorem report_names_no_setup (a : Auditor) {t : Transport σ} {runId : String} {now : Instant}
    {device : σ} {r : Report} {s : Scenario} {v : Violation}
    (houtcome : (a.run t runId now device).outcome = .ok r) (hfailure : r.failure = some (s, v)) :
    v.check ∉ [.registerCount, .moduleId, .digest] := by
  cases hacquire : (t.acquire device).result with
  | error i =>
    have hnone := (a.run_of_not_acquired runId now hacquire).1
    cases houtcome.symm.trans hnone
  | ok u =>
    rcases a.run_account runId now hacquire with
      ⟨r', houtcome', haccounted, -⟩ | ⟨_, houtcome', -⟩ | houtcome' | ⟨_, houtcome'⟩
    · cases houtcome.symm.trans houtcome'
      rcases haccounted.ends with ⟨-, -, hnone, -⟩ | ⟨s', _, v', -, -, hsome, hmem, -⟩
      · cases hfailure.symm.trans hnone
      · cases hfailure.symm.trans hsome
        -- none of the three is among the checks that can fail in a scenario
        have hcriteria : ∀ s : Scenario, ∀ check ∈ s.criteria,
            check ∉ [.registerCount, .moduleId, .digest] := by
          intro s
          cases s <;> decide
        exact hcriteria s v.check hmem
    all_goals cases houtcome.symm.trans houtcome'

theorem run_unusable_iff (a : Auditor) {t : Transport σ} {runId : String} {now : Instant}
    {device : σ} {fault : DescriptionFault} :
    (a.run t runId now device).outcome = .error (.unusable fault) ↔
      ∃ answer description, t.FirstAnswer device answer ∧
        Operation.describe.read answer = .ok description ∧
        Contract.ofDescription description = .error fault ∧ fault.observed.isWritable = true := by
  cases hacquire : (t.acquire device).result with
  | error i =>
    rw [(a.run_of_not_acquired runId now hacquire).1]
    refine iff_of_false nofun ?_
    rintro ⟨_, _, ⟨hopened, -⟩, -⟩
    cases hacquire.symm.trans hopened
  | ok u =>
    rw [(a.run_concludes runId now hacquire).1, Course.conclude_eq_unusable_iff,
      Course.whole_unusable_iff]
    constructor
    · rintro ⟨⟨answer, description, hanswer, hread, hfault⟩, hwritable⟩
      exact ⟨answer, description, ⟨hacquire, hanswer⟩, hread, hfault, hwritable⟩
    · rintro ⟨answer, description, ⟨-, hanswer⟩, hread, hfault, hwritable⟩
      exact ⟨⟨answer, description, hanswer, hread, hfault⟩, hwritable⟩

theorem run_of_unread (a : Auditor) {t : Transport σ} (runId : String) (now : Instant) {device : σ}
    {answer : Value} {status : Status} (hanswer : t.FirstAnswer device answer)
    (hread : Operation.describe.read answer = .error status) :
    ∃ r, (a.run t runId now device).outcome = .ok r ∧ r.phase = .failed ∧
      r.failure = some (.description,
        ⟨.describe, .text "Success", .text status.name, none⟩) := by
  obtain ⟨hacquire, hanswer⟩ := hanswer
  have hwhole : Course.whole t a.parameters ⟨(t.acquire device).device, .empty⟩ = _ :=
    bind_eq_error_iff.mpr (.inl (Course.identify_of_unread hanswer hread))
  have hends := a.run_ends runId now hacquire
  rw [hwhole] at hends
  obtain ⟨-, r, houtcome, hphase, hfailure, -⟩ := hends
  exact ⟨r, houtcome, hphase, hfailure⟩

/-- **Setting up is exact, and leaves nothing of the description to check.** A contract is derived
from a description exactly when there is nothing wrong with it, and otherwise its first fault is
told. The checks of the description pass for every contract that was derived, so on no transport
does a run report a violation of one of them. A run ends in a fault of the setup exactly when the
first answer is a description that has the fault, and an answer that is no description violates the
first check instead. -/
theorem setup_is_exact :
    (∀ d c, Contract.ofDescription d = .ok c ↔ d.Promises c) ∧
    (∀ d fault, Contract.ofDescription d = .error fault ↔ d.FirstFault fault) ∧
    (∀ d fault, d.isWritable = true → Contract.ofDescription d = .error fault →
      Setback.ofFault fault = .unusable fault) ∧
    (∀ d c, Contract.ofDescription d = .ok c → Check.requireDescription d c = .ok ()) ∧
    ∀ (σ : Type) (a : Auditor) (t : Transport σ) (runId : String) (now : Instant) (device : σ),
      let outcome := (a.run t runId now device).outcome
      (∀ r s v, outcome = .ok r → r.failure = some (s, v) →
        v.check ∉ [.registerCount, .moduleId, .digest]) ∧
      (∀ fault, outcome = .error (.unusable fault) →
        ∃ answer d, t.FirstAnswer device answer ∧ Operation.describe.read answer = .ok d ∧
          Contract.ofDescription d = .error fault) ∧
      (∀ answer d fault, t.FirstAnswer device answer → Operation.describe.read answer = .ok d →
        d.isWritable = true → Contract.ofDescription d = .error fault →
        outcome = .error (.unusable fault)) ∧
      (∀ answer status, t.FirstAnswer device answer →
        Operation.describe.read answer = .error status →
        ∃ r, outcome = .ok r ∧ r.phase = .failed ∧
          r.failure = some (.description,
            ⟨.describe, .text "Success", .text status.name, none⟩)) := by
  refine ⟨fun _ _ => Contract.ofDescription_eq_ok_iff_promises,
    fun _ _ => Contract.ofDescription_eq_error_iff,
    fun _ _ hd h => if_pos (Course.isWritable_observed hd h),
    fun _ _ => Check.requireDescription_of_ofDescription, ?_⟩
  intro σ a t runId now device outcome
  refine ⟨fun _ _ _ => a.report_names_no_setup, fun fault h => ?_, ?_, fun _ _ => a.run_of_unread
    runId now⟩
  · obtain ⟨answer, d, hanswer, hread, hfault, -⟩ := a.run_unusable_iff.mp h
    exact ⟨answer, d, hanswer, hread, hfault⟩
  · intro answer d fault hanswer hread hd hfault
    have hwritable := Course.isWritable_observed hd hfault
    exact a.run_unusable_iff.mpr ⟨answer, d, hanswer, hread, hfault, hwritable⟩

/-- A device with a register too few is a fault of the setup, and one that describes nothing fails
the first check. -/
theorem setup_is_exact_of_two_answers :
    let answering (answer : Value) : Transport Unit := ⟨"answering", fun _ => ⟨.ok (), [], ()⟩,
      fun _ => ([], ()), fun _ _ => ⟨.ok answer, [], ()⟩⟩
    let small : Description := ⟨1, 0, 0, "m", 31, "SHA384", []⟩
    let answer : Value := .map [(.text "DescribeNSM", .map [(.text "version_major", .int 1),
      (.text "version_minor", .int 0), (.text "version_patch", .int 0),
      (.text "module_id", .text "m"), (.text "max_pcrs", .int 31),
      (.text "digest", .text "SHA384")])]
    let a : Auditor := ⟨.default, .empty⟩
    (Operation.describe.read answer = .ok small ∧
      Contract.ofDescription small = .error (.registerCount 31) ∧
      (a.run (answering answer) "" (0 : Int) ()).outcome = .error (.unusable (.registerCount 31))) ∧
    Operation.describe.read .null = .error .invalidResponse ∧
    ∃ r, (a.run (answering .null) "" (0 : Int) ()).outcome = .ok r ∧ r.phase = .failed ∧
      r.failure = some (.description,
        ⟨.describe, .text "Success", .text Status.invalidResponse.name, none⟩) := by
  intro answering small answer a
  obtain ⟨-, hfault, -, -, hrun⟩ := setup_is_exact
  have hread : Operation.describe.read answer = .ok small := rfl
  have hsmall : Contract.ofDescription small = .error (.registerCount 31) :=
    (hfault small (.registerCount 31)).mpr ⟨by decide, rfl⟩
  have hwritable : small.isWritable = true := by decide +kernel
  have hunread : Operation.describe.read .null = .error .invalidResponse := rfl
  obtain ⟨-, -, hends, -⟩ := hrun Unit a (answering answer) "" (0 : Int) ()
  obtain ⟨-, -, -, hfails⟩ := hrun Unit a (answering .null) "" (0 : Int) ()
  exact ⟨⟨hread, hsmall, hends answer small _ ⟨rfl, rfl⟩ hread hwritable hsmall⟩, hunread,
    hfails .null _ ⟨rfl, rfl⟩ hunread⟩

end Auditor

end EnclaveAudit
