import EnclaveAudit.Proofs.Audit.Deciding
import EnclaveAudit.Proofs.Audit.Ending

/-!
# `EnclaveAudit/Proofs/Audit/Verdict.lean` — which check fails first

Exact acceptance says when an audit passes. For a device whose answers are known one wants more: the
check that stops the audit, and the register. `Brings` says what a stretch of the course comes to
from every standing of some kind, which is either a standing of another kind or a violation that
fits a `Verdict`.

The verdict of two stretches is that of the first, or else that of the second. So the verdicts of
the parts make a list, and the audit ends with the first entry of it.
-/

set_option autoImplicit false

namespace EnclaveAudit

/-- The check that fails, where, and at which register. -/
structure Verdict where
  scenario : Scenario
  check : Check
  register : Option Int := none
  deriving DecidableEq, Repr

/-- The report shows the verdict, or that there was nothing to object to. -/
def Report.Shows (r : Report) : Option Verdict → Prop
  | none => r.phase = .done ∧ r.failure = none
  | some w => r.phase = .failed ∧ ∃ v, r.failure = some (w.scenario, v) ∧ v.Names w.check w.register

section

variable {σ : Type} {t : Transport σ} {p : Parameters} {s : Subject} {given : Slot → Value}
variable {I J : σ → Prop} {K L : Ledger → Prop} {A : Prop}
variable {S S' T T' U : Standing σ → Prop} {o o' : Option Verdict}

/-- A kind of standing: one of devices and one of ledgers. -/
def Standing.With (I : σ → Prop) (K : Ledger → Prop) (st : Standing σ) : Prop :=
  I st.device ∧ K st.ledger

/-- From a standing with `S`, the steps pass and leave one with `T`, or they end in a violation. -/
def Brings (t : Transport σ) (p : Parameters) (s : Subject) (S : Standing σ → Prop)
    (xs : List Step) (o : Option Verdict) (T : Standing σ → Prop) : Prop :=
  ∀ st, S st →
    match o with
    | none => ∃ st', Course.steps t p s xs st = .ok () st' ∧ T st'
    | some w => ∃ v st', Course.steps t p s xs st = .error (.violated w.scenario v) st' ∧
        v.Names w.check w.register ∧ v.isWritable = true

theorem brings_nil : Brings t p s S [] none S := fun st hst => ⟨st, rfl, hst⟩

theorem Brings.append {xs ys : List Step} (h : Brings t p s S xs o T)
    (h' : o = none → Brings t p s T ys o' U) : Brings t p s S (xs ++ ys) (o.or o') U := by
  intro st hst
  have hxs := h st hst
  rw [Course.steps_append]
  cases o with
  | some w =>
    -- what stops the first part stops the whole
    obtain ⟨v, st', hsteps, hv⟩ := hxs
    exact ⟨v, st', bind_eq_error_iff.mpr (.inl hsteps), hv⟩
  | none =>
    obtain ⟨st₁, hsteps, hst₁⟩ := hxs
    have hys := h' rfl st₁ hst₁
    cases o' with
    | some w =>
      obtain ⟨v, st', hsteps', hv⟩ := hys
      exact ⟨v, st', bind_eq_error_iff.mpr (.inr ⟨(), st₁, hsteps, hsteps'⟩), hv⟩
    | none =>
      obtain ⟨st', hsteps', hst'⟩ := hys
      exact ⟨st', bind_eq_ok_iff.mpr ⟨(), st₁, hsteps, hsteps'⟩, hst'⟩

/-- What passes can be left out of account. -/
theorem Brings.then {xs ys : List Step} (h : Brings t p s S xs none T)
    (h' : Brings t p s T ys o U) : Brings t p s S (xs ++ ys) o U := by
  have hall := h.append fun _ => h'
  rw [Option.none_or] at hall
  exact hall

theorem Brings.imp {xs : List Step} (h : Brings t p s S xs o T) (hS : ∀ st, S' st → S st)
    (hT : ∀ st, T st → T' st) : Brings t p s S' xs o T' := by
  intro st hst
  have hxs := h st (hS st hst)
  cases o with
  | some w => exact hxs
  | none =>
    obtain ⟨st', hsteps, hst'⟩ := hxs
    exact ⟨st', hsteps, hT st' hst'⟩

/-- **The rule for rounds**: if those that fail all fail alike, the first such round decides. -/
theorem brings_rounds {part : Nat → List Slot} {S : Nat → Standing σ → Prop} {c : Nat → Prop}
    [DecidablePred c] {w : Verdict} (n : Nat)
    (h : ∀ k < n, Brings t p s (S k) ((part k).map .ask) (if c k then some w else none)
      (S (k + 1))) :
    Brings t p s (S 0) (((List.range n).flatMap part).map .ask)
      (if ∃ k < n, c k then some w else none) (S n) := by
  induction n with
  | zero =>
    have hno : ¬∃ k < 0, c k := by simp
    rw [if_neg hno]
    exact brings_nil
  | succ n ih =>
    have hrounds := ih fun k hk => h k (by omega)
    have hlast := hrounds.append fun _ => h n (Nat.lt_succ_self n)
    -- a round up to this one fails, or this one does
    have hsplit : (∃ k < n + 1, c k) ↔ (∃ k < n, c k) ∨ c n := by
      constructor
      · rintro ⟨k, hk, hc⟩
        rcases Nat.lt_or_eq_of_le (Nat.le_of_lt_succ hk) with hlt | rfl
        · exact .inl ⟨k, hlt, hc⟩
        · exact .inr hc
      · rintro (⟨k, hk, hc⟩ | hc)
        · exact ⟨k, by omega, hc⟩
        · exact ⟨n, Nat.lt_succ_self n, hc⟩
    have hverdict : (if ∃ k < n + 1, c k then some w else none) =
        (if ∃ k < n, c k then some w else none).or (if c n then some w else none) := by
      simp only [hsplit]
      by_cases hbefore : ∃ k < n, c k
      · simp [hbefore]
      · simp [hbefore]
    rw [hverdict, List.range_succ, List.flatMap_append, List.map_append, List.flatMap_singleton]
    exact hlast

/-! ## Stretches of places -/

/-- Places pass if the device answers and the examination accepts the answers. -/
theorem brings_of_decides {xs : List Slot}
    (hreplies : ∀ d, I d → ∃ d', t.Replies d (xs.map fun x => (x.request p, given x)) d' ∧ J d')
    (h : (examine p s given (xs.map .ask)).Decides K A L) (hA : A) :
    Brings t p s (Standing.With I K) (xs.map .ask) none (Standing.With J L) := by
  rintro ⟨d, l⟩ ⟨hd, hl⟩
  obtain ⟨d', hreplies, hd'⟩ := hreplies d hd
  obtain ⟨hpass, hledger⟩ := h l hl
  obtain ⟨l', hexamine⟩ := hpass.mpr hA
  refine ⟨⟨d', l'⟩, Course.steps_of_replies ?_ hexamine, hd', hledger l' hexamine⟩
  rw [asked_map_ask]
  exact hreplies

/-- They do not if the first answer is reviewed to be wrong. -/
theorem brings_of_violation {x : Slot} {xs : List Slot} {check : Check} {register : Option Int}
    (hreplies : ∀ d, I d → ∃ d', t.Replies d [(x.request p, given x)] d')
    (h : ∀ l, K l → ∃ v l', x.review p s (given x) l = .error v l' ∧ v.Names check register ∧
      v.isWritable = true) :
    Brings t p s (Standing.With I K) ((x :: xs).map .ask) (some ⟨x.scenario, check, register⟩)
      T := by
  rintro ⟨d, l⟩ ⟨hd, hl⟩
  obtain ⟨d', hreplies⟩ := hreplies d hd
  obtain ⟨v, l', hreview, hnames, hwritable⟩ := h l hl
  have hstep : Course.step t p s (.ask x) ⟨d, l⟩ = .error (.violated x.scenario v) ⟨d', l'⟩ :=
    Course.step_ask_eq_error_iff.mpr (.inr ⟨given x, v, hreplies, rfl, hreview⟩)
  exact ⟨v, ⟨d', l'⟩, bind_eq_error_iff.mpr (.inl hstep), hnames, hwritable⟩

/-- The end of a scenario is not about anything that a standing is described by. -/
theorem brings_pass (scenario : Scenario) (hK : ∀ l, K l → K (l.pass scenario)) :
    Brings t p s (Standing.With I K) [.pass scenario] none (Standing.With I K) := by
  rintro ⟨d, l⟩ ⟨hd, hl⟩
  exact ⟨⟨d, l.pass scenario⟩, rfl, hd, hK l hl⟩

end

/-! ## Runs -/

/-- **What the steps of an audit bring, its report shows.** -/
theorem Auditor.run_of_brings {σ : Type} (a : Auditor) {t : Transport σ} (runId : String)
    (now : Instant) {device d : σ} {s : Subject} {described : Value} {o : Option Verdict}
    {T : Standing σ → Prop} (hacquire : (t.acquire device).result = .ok ())
    (hreplies : t.Replies (t.acquire device).device [(.text "DescribeNSM", described)] d)
    (hread : s.ReadFrom described)
    (h : Brings t a.parameters s (· = ⟨d, .identified s.description⟩) a.parameters.steps o T) :
    ∃ r, (a.run t runId now device).outcome = .ok r ∧ r.Shows o := by
  have hidentify : Course.identify t ⟨(t.acquire device).device, .empty⟩ =
      .ok s ⟨d, .identified s.description⟩ :=
    Course.identify_eq_ok_iff.mpr ⟨described, hreplies, hread, rfl⟩
  have hends := a.run_ends runId now hacquire
  have hsteps := h _ rfl
  cases o with
  | none =>
    obtain ⟨⟨d', l'⟩, hsteps, -⟩ := hsteps
    have hwhole : Course.whole t a.parameters ⟨(t.acquire device).device, .empty⟩ =
        .ok () ⟨d', l'.finish⟩ :=
      bind_eq_ok_iff.mpr ⟨s, _, hidentify, bind_eq_ok_iff.mpr ⟨(), _, hsteps, rfl⟩⟩
    rw [hwhole] at hends
    obtain ⟨-, r, houtcome, hphase, hfailure, -⟩ := hends
    exact ⟨r, houtcome, hphase, hfailure⟩
  | some w =>
    obtain ⟨v, st', hsteps, hnames, hwritable⟩ := hsteps
    have hwhole : Course.whole t a.parameters ⟨(t.acquire device).device, .empty⟩ =
        .error (.violated w.scenario v) st' :=
      bind_eq_error_iff.mpr (.inr ⟨s, _, hidentify, bind_eq_error_iff.mpr (.inl hsteps)⟩)
    rw [hwhole] at hends
    obtain ⟨-, hends⟩ := hends
    rw [if_pos hwritable] at hends
    obtain ⟨r, houtcome, hphase, hfailure, -⟩ := hends
    exact ⟨r, houtcome, hphase, v, hfailure, hnames⟩

end EnclaveAudit
