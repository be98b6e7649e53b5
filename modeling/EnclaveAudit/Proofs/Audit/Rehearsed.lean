import EnclaveAudit.Proofs.Audit.Objections
import EnclaveAudit.Proofs.Audit.Verdict
import EnclaveAudit.Rehearsal.Scripted
import EnclaveAudit.Simulator.Firmware

/-!
# `EnclaveAudit/Proofs/Audit/Rehearsed.lean` — audits whose end is known

A device that answers from a list gives any answers there can be, so what an audit comes to on given
answers is what it comes to on a device. For all parameters there are answers that pass the audit
(`conforms_model`), and a device that gives them is audited to the end (`Scripted.passing`). One that
gives them up to the first reads and then takes a lock that it has already passes two scenarios and
fails in the third (`Scripted.relocking`).
-/

set_option autoImplicit false

namespace EnclaveAudit

open Simulator (reply refuse)

/-! ## Answers from a list -/

/-- A scripted device answers any requests as its list says. -/
theorem Rehearsal.Scripted.replies (name : String) (d : Scripted) (pairs : List (Value × Value))
    (later : List Value) :
    (transport name none).Replies { d with responses := pairs.map Prod.snd ++ later } pairs
      { d with responses := later } := by
  induction pairs with
  | nil => rfl
  | cons pair pairs ih => exact ⟨rfl, ih⟩

/-! ## Answers that pass -/

/-- A register as it is shown. -/
def Operation.Reading.answer (r : Operation.Reading) : Value :=
  reply "DescribePCR" [("lock", .bool r.lock), ("data", .bytes r.value)]

namespace Findings

/-- What a device that makes these findings known answers at each place of the script. Its documents
are one octet long. -/
def answers (f : Findings) (p : Parameters) : Slot → Value
  | .firstRead i => (f.first i).answer
  | .relock _ _ | .lockBeyond | .lockedExtension _ => refuse .readOnlyIndex
  | .extension k i => reply "ExtendPCR" [("data", .bytes (f.extended k i))]
  | .lock _ => .text "LockPCR"
  | .lockRange => .text "LockPCRs"
  | .read _ i => Operation.Reading.answer ⟨true, f.value p.extendRounds i⟩
  | .bootDocument | .plainDocument | .document _ _ => reply "Attestation" [("document", .bytes [1])]
  | .sample n => reply "GetRandom" [("random", .bytes (f.sample n))]

/-- Findings that nothing can be objected to. Extensions and samples have two values in turn. -/
def model (p : Parameters) : Findings where
  description := ⟨1, 0, 0, "m", 32, "SHA256", (List.range 16).map Int.ofNat⟩
  digest := .sha256
  first i := ⟨i < 16, if i ∈ [0, 1, 2, 4] then Bytes.fill 1 32 else Bytes.zeros 32⟩
  extended k _ := Bytes.fill (if k % 2 = 0 then 2 else 3) 32
  sample n := Bytes.fill (if n % 2 = 0 then 2 else 3) p.randomLength

/-- The description among them. -/
def described : Value :=
  reply "DescribeNSM" [
    ("version_major", .int 1), ("version_minor", .int 0), ("version_patch", .int 0),
    ("module_id", .text "m"), ("max_pcrs", .int 32),
    ("locked_pcrs", .array ((List.range 16).map fun i : Nat => .int i)), ("digest", .text "SHA256")]

end Findings

section

open Findings

variable (p : Parameters)

theorem Operation.Reading.read_answer (r : Operation.Reading) :
    Slot.readRegister r.answer = .ok r := rfl

theorem certifies_one : Certifies p (reply "Attestation" [("document", .bytes [1])]) :=
  ⟨[1], rfl, by decide, p.maxDocumentSize_pos⟩

theorem refuses_readOnlyIndex : Refuses (refuse .readOnlyIndex) :=
  ⟨.text Status.readOnlyIndex.name, rfl, by simp [Status.name], by simp [Status.name]⟩

theorem fill_ne {a b : UInt8} (hab : a ≠ b) {n : Nat} (hn : 0 < n) :
    Bytes.fill a n ≠ Bytes.fill b n := by
  intro h
  exact hab ((List.replicate_inj.mp h).2.resolve_left hn.ne')

/-- Two values in turn are not the same one after the other. -/
theorem fill_turn_ne (k : Nat) {n : Nat} (hn : 0 < n) :
    Bytes.fill (if (k + 1) % 2 = 0 then 2 else 3) n ≠ Bytes.fill (if k % 2 = 0 then 2 else 3) n := by
  refine fill_ne ?_ hn
  rcases Nat.mod_two_eq_zero_or_one k with h | h
  · rw [if_neg (by omega), if_pos h]
    decide
  · rw [if_pos (by omega), if_neg (by omega)]
    decide

/-- **There are answers that pass**, whatever the parameters are. -/
theorem conforms_model : Conforms p described ((model p).answers p) (model p) where
  described := rfl
  registerCount := rfl
  moduleId := (by decide : "m" ≠ "")
  moduleId_short := (by decide : (Bytes.ofString "m").length ≤ 100)
  digest := rfl
  lockedRegisters := .refl _
  bootDocument _ := certifies_one p
  firstRead i _ := by
    refine ⟨Operation.Reading.read_answer _, ?_⟩
    simp only [model]
    split_ifs <;> rfl
  firstLock i _ := decide_eq_true_iff
  firstEmpty := by simp [model, zero, Digest.width]
  firstMeasured i hi := by
    simp only [model, zero, if_pos hi]
    decide
  relock _ _ _ _ := refuses_readOnlyIndex
  extension k _ i hle _ := by
    have hzero : (model p).zero = Bytes.fill 0 32 := rfl
    refine ⟨rfl, List.length_replicate, ?_, ?_⟩
    · rw [hzero]
      exact fill_ne (by split_ifs <;> decide) (by decide)
    · cases k with
      | zero =>
        have hfree : i ∉ [0, 1, 2, 4] := by
          simp only [List.mem_cons, List.not_mem_nil, or_false]
          omega
        simp only [model, value, if_neg hfree]
        exact fill_ne (by decide) (by decide)
      | succ k =>
        rw [value, if_neg (by omega)]
        exact fill_turn_ne k (by decide)
  lock _ _ _ := rfl
  lockRange := rfl
  lockBeyond := refuses_readOnlyIndex
  lockedExtension _ _ := refuses_readOnlyIndex
  read _ _ _ _ := Operation.Reading.read_answer _
  plainDocument := certifies_one p
  document _ _ _ := certifies_one p
  sample n _ := by
    have hlength : ((model p).sample n).length = p.randomLength := List.length_replicate
    refine ⟨?_, hlength⟩
    show Except.ok (((model p).sample n).take (p.randomLength : Int).toNat) = _
    rw [Int.toNat_natCast, List.take_of_length_le hlength.le]
  sample_fresh n _ := fill_turn_ne n p.randomLength_pos

end

/-! ## A device that takes a lock it has -/

/-- What comes first once the first reads passed. -/
theorem Parameters.exists_steps_eq_relock (p : Parameters) :
    ∃ later, p.steps = p.opening ++ .ask (.relock 0 0) :: later := by
  obtain ⟨n, hn⟩ : ∃ n, p.relockAttempts = n + 1 :=
    ⟨p.relockAttempts - 1, (Nat.sub_add_cancel p.relockAttempts_pos).symm⟩
  obtain ⟨rest, hrest⟩ : ∃ rest, (Scenario.locksAndExtension.slots p).map Step.ask =
      .ask (.relock 0 0) :: rest := by
    rw [Scenario.steps_locksAndExtension, hn, List.range_succ_eq_map (n := n)]
    exact ⟨_, rfl⟩
  refine ⟨rest ++ .pass .locksAndExtension :: (Scenario.attestation.steps p ++
    Scenario.randomness.steps p), ?_⟩
  simp [steps_eq, opening, Scenario.steps, hrest]

/-- **A device that starts as it must and takes a lock that it has** fails in the third scenario. -/
theorem Auditor.shows_relock {σ : Type} (a : Auditor) {t : Transport σ} (runId : String)
    (now : Instant) {device d : σ} {described : Value} {given : Slot → Value} {f : Findings}
    (hacquire : (t.acquire device).result = .ok ())
    (hreplies : t.Replies (t.acquire device).device
      (a.parameters.exchanges described given (asked a.parameters.opening) ++
        [((Slot.relock 0 0).request a.parameters, .text "LockPCR")]) d)
    (h : Conforms a.parameters described given f) :
    ∃ r, (a.run t runId now device).outcome = .ok r ∧
      r.Shows (some ⟨.locksAndExtension, .lockRejected, some 0⟩) := by
  obtain ⟨later, hsteps⟩ := a.parameters.exists_steps_eq_relock
  obtain ⟨d₁, ⟨hanswer, hreplies⟩, hrelock⟩ := Transport.Replies.append.mp hreplies
  -- what is examined to the end passes up to there
  obtain ⟨l, hexamine⟩ := (exists_examine_iff h.covers h.readFrom).mpr h
  rw [hsteps, examine_append] at hexamine
  obtain ⟨_, l₁, hearlier, -⟩ := bind_eq_ok_iff.mp hexamine
  obtain ⟨v, l', hreview, hnames, hwritable⟩ :=
    review_relock (p := a.parameters) (u := f.subject) (l := l₁) 0 0
  have hidentify : Course.identify t ⟨(t.acquire device).device, .empty⟩ =
      .ok f.subject ⟨_, .identified f.description⟩ :=
    Course.identify_eq_ok_iff.mpr ⟨described, ⟨hanswer, rfl⟩, h.readFrom, rfl⟩
  have hwhole : Course.whole t a.parameters ⟨(t.acquire device).device, .empty⟩ =
      .error (.violated .locksAndExtension v) ⟨d, l'⟩ :=
    Course.whole_of_step_error hsteps hidentify (Course.steps_of_replies hreplies hearlier)
      (Course.step_ask_eq_error_iff.mpr (.inr ⟨_, v, hrelock, rfl, hreview⟩))
  have hends := a.run_ends runId now hacquire
  rw [hwhole] at hends
  obtain ⟨-, hends⟩ := hends
  rw [if_pos hwritable] at hends
  obtain ⟨r, houtcome, hphase, hfailure, -⟩ := hends
  exact ⟨r, houtcome, hphase, v, hfailure, hnames⟩

/-! ## Devices -/

namespace Rehearsal.Scripted

/-- The answers that pass, up to some places. -/
def modelExchanges (p : Parameters) (xs : List Slot) : List (Value × Value) :=
  p.exchanges Findings.described ((Findings.model p).answers p) xs

/-- A device that is audited to the end. -/
def passing (p : Parameters) : Scripted :=
  { responses := (modelExchanges p p.slots).map Prod.snd }

/-- A device that takes a lock it has. -/
def relocking (p : Parameters) : Scripted :=
  { responses := (modelExchanges p (asked p.opening)).map Prod.snd ++ [.text "LockPCR"] }

theorem replies_passing (name : String) (p : Parameters) :
    (transport name none).Replies ((transport name none).acquire (passing p)).device
      (modelExchanges p p.slots) { passing p with responses := [], openCount := 1 } := by
  have h := replies name { passing p with openCount := 1 } (modelExchanges p p.slots) []
  rwa [List.append_nil] at h

theorem replies_relocking (name : String) (p : Parameters) :
    (transport name none).Replies ((transport name none).acquire (relocking p)).device
      (modelExchanges p (asked p.opening) ++
        [((Slot.relock 0 0).request p, .text "LockPCR")])
      { relocking p with responses := [], openCount := 1 } :=
  Transport.Replies.append.mpr ⟨_, replies name { relocking p with openCount := 1 }
    (modelExchanges p (asked p.opening)) [.text "LockPCR"], rfl, rfl⟩

end Rehearsal.Scripted

end EnclaveAudit
