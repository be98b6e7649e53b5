import Mathlib.Data.List.Nodup
import EnclaveAudit.Proofs.Audit.Course

/-!
# `EnclaveAudit/Proofs/Audit/Dialogue.lean` — a course is a dialogue and an examination

Following the course mixes two things: asking the device, and judging what it said. They can be
taken apart. `Transport.Replies` says what a device answers to a list of requests and in which state
that leaves it, without any audit; `Step.examine` judges answers that are given as a function on the
places of the script, without any device. `steps_eq_ok_iff` puts the two together again: steps pass
exactly when there are answers that the device gives and the examination accepts.

This needs every place of the script to be another one, so that one function can hold all answers
(`nodup_slots`).
-/

set_option autoImplicit false

namespace EnclaveAudit

/-! ## Inversion -/

section

variable {ε τ α β : Type}

theorem bind_eq_ok_iff {m : EStateM ε τ α} {f : α → EStateM ε τ β} {s s' : τ} {b : β} :
    (m >>= f) s = .ok b s' ↔ ∃ a s₁, m s = .ok a s₁ ∧ f a s₁ = .ok b s' := by
  simp only [bind, EStateM.bind]
  cases m s <;> simp

theorem bind_of_eq_ok {m : EStateM ε τ α} {f : α → EStateM ε τ β} {s s' : τ} {a : α}
    (h : m s = .ok a s') : (m >>= f) s = f a s' := by
  simp only [bind, EStateM.bind, h]

theorem bind_eq_error_iff {m : EStateM ε τ α} {f : α → EStateM ε τ β} {s s' : τ} {e : ε} :
    (m >>= f) s = .error e s' ↔
      m s = .error e s' ∨ ∃ a s₁, m s = .ok a s₁ ∧ f a s₁ = .error e s' := by
  simp only [bind, EStateM.bind]
  cases m s <;> simp

theorem pure_eq_ok_iff {a b : α} {s s' : τ} :
    (pure a : EStateM ε τ α) s = .ok b s' ↔ a = b ∧ s = s' := by
  simp [pure, EStateM.pure]

theorem pure_ne_error {a : α} {s s' : τ} {e : ε} :
    (pure a : EStateM ε τ α) s ≠ .error e s' := fun h => by cases h

theorem modify_eq_ok_iff {f : τ → τ} {s s' : τ} {u : PUnit} :
    (modify f : EStateM ε τ PUnit) s = .ok u s' ↔ s' = f s := by
  constructor
  · intro h
    cases h
    rfl
  · rintro rfl
    rfl

theorem modify_ne_error {f : τ → τ} {s s' : τ} {e : ε} :
    (modify f : EStateM ε τ PUnit) s ≠ .error e s' := fun h => by cases h

end

/-! ## Dialogues -/

/-- Sent in this order, the requests are answered so, and the device is left in a state. -/
def Transport.Replies {σ : Type} (t : Transport σ) : σ → List (Value × Value) → σ → Prop
  | d, [], d' => d' = d
  | d, (request, answer) :: rest, d' =>
    (t.exchange request d).result = .ok answer ∧ t.Replies (t.exchange request d).device rest d'

theorem Transport.Replies.append {σ : Type} {t : Transport σ} {xs ys : List (Value × Value)}
    {d d' : σ} :
    t.Replies d (xs ++ ys) d' ↔ ∃ d₁, t.Replies d xs d₁ ∧ t.Replies d₁ ys d' := by
  induction xs generalizing d with
  | nil => simp [Transport.Replies]
  | cons pair xs ih =>
    obtain ⟨request, answer⟩ := pair
    simp only [List.cons_append, Transport.Replies, ih, and_assoc, exists_and_left]

/-! ## The places of the script -/

/-- The places at which steps ask. -/
def Step.slot? : Step → Option Slot
  | .ask x => some x
  | _ => none

/-- The places at which some steps ask, in order. -/
def asked (xs : List Step) : List Slot := xs.filterMap Step.slot?

@[simp] theorem asked_nil : asked [] = [] := rfl
@[simp] theorem asked_ask (x : Slot) (xs : List Step) : asked (.ask x :: xs) = x :: asked xs := rfl
@[simp] theorem asked_pass (s : Scenario) (xs : List Step) : asked (.pass s :: xs) = asked xs := rfl
@[simp] theorem asked_append (xs ys : List Step) : asked (xs ++ ys) = asked xs ++ asked ys :=
  List.filterMap_append

@[simp] theorem asked_map_ask (xs : List Slot) : asked (xs.map .ask) = xs := by
  induction xs with
  | nil => rfl
  | cons x xs ih => rw [List.map_cons, asked_ask, ih]

theorem asked_steps (p : Parameters) : asked p.steps = p.slots := by
  simp [Parameters.steps, Parameters.slots, Scenario.all, Scenario.steps]

/-- Rounds are told apart by their number, and the places of one round by the register. -/
theorem nodup_rounds {f : Nat → Nat → Slot} (hf : Function.Injective2 f) (n : Nat)
    {xs : List Nat} (hxs : xs.Nodup) :
    ((List.range n).flatMap fun k => xs.map (f k)).Nodup := by
  rw [List.nodup_flatMap]
  refine ⟨fun k _ => hxs.map fun i j h => (hf h).2, ?_⟩
  refine (List.nodup_range (n := n)).imp_of_mem fun {k l} _ _ hkl => ?_
  intro x hk hl
  obtain ⟨i, _, rfl⟩ := List.mem_map.mp hk
  obtain ⟨j, _, h⟩ := List.mem_map.mp hl
  exact hkl (hf h).1.symm

theorem Scenario.nodup_slots (p : Parameters) (s : Scenario) : (s.slots p).Nodup := by
  cases s with
  | description => simp only [slots]; split_ifs <;> simp
  | initialRegisters => exact List.nodup_range.map fun i j h => by cases h; rfl
  | locksAndExtension =>
    have hrelock := nodup_rounds (f := .relock) (fun _ _ _ _ h => by cases h; exact ⟨rfl, rfl⟩)
      p.relockAttempts (List.nodup_range (n := 16))
    have hextend := nodup_rounds (f := .extension) (fun _ _ _ _ h => by cases h; exact ⟨rfl, rfl⟩)
      p.extendRounds (List.nodup_range' (s := 16) (n := 16))
    have hread := nodup_rounds (f := .read) (fun _ _ _ _ h => by cases h; exact ⟨rfl, rfl⟩)
      p.readRounds (List.nodup_range (n := 32))
    have hlock : ((List.range' 16 16).map Slot.lock).Nodup :=
      (List.nodup_range' (s := 16) (n := 16)).map fun i j h => by cases h; rfl
    have hlocked : ((List.range 32).map Slot.lockedExtension).Nodup :=
      List.nodup_range.map fun i j h => by cases h; rfl
    have hrange : [Slot.lockRange, Slot.lockBeyond].Nodup := by decide
    -- the parts are of different kinds, so they share nothing
    refine ((((hrelock.append hextend ?_).append hlock ?_).append hrange ?_).append hlocked
      ?_).append hread ?_ <;>
    · simp only [List.disjoint_left, List.mem_append, List.mem_flatMap, List.mem_map,
        List.mem_cons, List.not_mem_nil, or_false]
      rintro x h h'
      grind
  | attestation => simp only [slots]; decide
  | randomness => exact List.nodup_range.map fun i j h => by cases h; rfl

/-- No place of the script occurs twice. -/
theorem nodup_slots (p : Parameters) : p.slots.Nodup := by
  rw [Parameters.slots, List.nodup_flatMap]
  refine ⟨fun s _ => s.nodup_slots p, ?_⟩
  have hall : Scenario.all.Nodup := by decide
  refine hall.imp_of_mem fun {s s'} _ _ hne => ?_
  intro x h h'
  exact hne ((Scenario.scenario_of_mem_slots h).symm.trans (Scenario.scenario_of_mem_slots h'))

/-! ## Asking and judging, one step -/

namespace Course

variable {σ α : Type} {t : Transport σ} {p : Parameters} {s : Subject} {st st' : Standing σ}

theorem judge_eq_ok_iff {scenario : Scenario} {j : Judgement α} {a : α} :
    judge scenario j st = .ok a st' ↔
      st'.device = st.device ∧ j st.ledger = .ok a st'.ledger := by
  obtain ⟨d', l'⟩ := st'
  unfold judge
  cases j st.ledger with
  | ok b l => simp [eq_comm, and_left_comm]
  | error v l => simp

theorem judge_eq_error_iff {scenario : Scenario} {j : Judgement α} {h : Halt} :
    judge scenario j st = .error h st' ↔
      st'.device = st.device ∧
        ∃ v, h = .violated scenario v ∧ j st.ledger = .error v st'.ledger := by
  obtain ⟨d', l'⟩ := st'
  unfold judge
  cases j st.ledger with
  | ok b l => simp
  | error v l => simp [eq_comm, and_comm, and_assoc]

theorem ask_eq_ok_iff {operation : Operation} {outcome : Except Status operation.Result} :
    ask t operation st = .ok outcome st' ↔
      ∃ answer, (t.exchange operation.request st.device).result = .ok answer ∧
        st' = ⟨(t.exchange operation.request st.device).device, st.ledger⟩ ∧
        operation.read answer = outcome := by
  unfold ask
  cases (t.exchange operation.request st.device).result with
  | ok answer => simp [eq_comm, and_comm]
  | error i => simp

theorem ask_eq_error_iff {operation : Operation} {h : Halt} :
    ask t operation st = .error h st' ↔
      ∃ i, (t.exchange operation.request st.device).result = .error i ∧
        st' = ⟨(t.exchange operation.request st.device).device, st.ledger⟩ ∧
        h = .interrupted i := by
  unfold ask
  cases (t.exchange operation.request st.device).result with
  | ok answer => simp
  | error i => simp [eq_comm, and_comm]

/-- A step that asks passes when the device answers and the answer is reviewed to be right. -/
theorem step_ask_eq_ok_iff {x : Slot} {u : Unit} :
    step t p s (.ask x) st = .ok u st' ↔
      ∃ answer, t.Replies st.device [(x.request p, answer)] st'.device ∧
        x.review p s answer st.ledger = .ok () st'.ledger := by
  simp only [step, probe, bind_eq_ok_iff, ask_eq_ok_iff, judge_eq_ok_iff, Slot.request_probe,
    Transport.Replies, Slot.review, Slot.judge]
  constructor
  · rintro ⟨_, st₂, ⟨_, _, ⟨answer, hr, rfl, rfl⟩, hd, hl⟩, hd', hl'⟩
    exact ⟨answer, ⟨hr, hd'.trans hd⟩, (), _, hl, hl'⟩
  · rintro ⟨answer, ⟨hr, hd⟩, _, l₂, hl, hl'⟩
    exact ⟨(), ⟨_, l₂⟩, ⟨_, _, ⟨answer, hr, rfl, rfl⟩, rfl, hl⟩, hd, hl'⟩

/-- It fails when the device does not answer, or when the answer is reviewed to be wrong. -/
theorem step_ask_eq_error_iff {x : Slot} {h : Halt} :
    step t p s (.ask x) st = .error h st' ↔
      (∃ i, (t.exchange (x.request p) st.device).result = .error i ∧ h = .interrupted i ∧
        st' = ⟨(t.exchange (x.request p) st.device).device, st.ledger⟩) ∨
      ∃ answer v, t.Replies st.device [(x.request p, answer)] st'.device ∧
        h = .violated x.scenario v ∧
        x.review p s answer st.ledger = .error v st'.ledger := by
  simp only [step, probe, bind_eq_error_iff, bind_eq_ok_iff, ask_eq_ok_iff, ask_eq_error_iff,
    judge_eq_ok_iff, judge_eq_error_iff, Slot.request_probe, Transport.Replies, Slot.review,
    Slot.judge]
  constructor
  · rintro ((⟨i, hi, rfl, rfl⟩ | ⟨_, _, ⟨answer, hr, rfl, rfl⟩, hd, v, rfl, hl⟩) |
      ⟨_, st₂, ⟨_, _, ⟨answer, hr, rfl, rfl⟩, hd, hl⟩, hd', v, rfl, hl'⟩)
    · exact .inl ⟨i, hi, rfl, rfl⟩
    · exact .inr ⟨answer, v, ⟨hr, hd⟩, rfl, .inl hl⟩
    · exact .inr ⟨answer, v, ⟨hr, hd'.trans hd⟩, rfl, .inr ⟨(), _, hl, hl'⟩⟩
  · rintro (⟨i, hi, rfl, rfl⟩ | ⟨answer, v, ⟨hr, hd⟩, rfl, hl | ⟨_, l₂, hl, hl'⟩⟩)
    · exact .inl (.inl ⟨i, hi, rfl, rfl⟩)
    · exact .inl (.inr ⟨_, _, ⟨answer, hr, rfl, rfl⟩, hd, v, rfl, hl⟩)
    · exact .inr ⟨(), ⟨_, l₂⟩, ⟨_, _, ⟨answer, hr, rfl, rfl⟩, rfl, hl⟩, hd, v, rfl, hl'⟩

end Course

/-! ## Examinations -/

/-- What a step makes of answers that are given. -/
def Step.examine (p : Parameters) (s : Subject) (given : Slot → Value) : Step → Judgement Unit
  | .ask x => x.review p s (given x)
  | .pass scenario => modify (Ledger.pass scenario)

/-- What steps, one after the other, make of them. -/
def examine (p : Parameters) (s : Subject) (given : Slot → Value) : List Step → Judgement Unit
  | [] => pure ()
  | x :: xs => do
    x.examine p s given
    examine p s given xs

theorem examine_append {p : Parameters} {s : Subject} {given : Slot → Value} (xs ys : List Step) :
    examine p s given (xs ++ ys) = (do examine p s given xs; examine p s given ys) := by
  induction xs with
  | nil => exact (pure_bind () fun _ => examine p s given ys).symm
  | cons x xs ih => simp only [List.cons_append, examine, ih, bind_assoc]

/-- Only the answers at the places that are asked matter. -/
theorem examine_congr {p : Parameters} {s : Subject} {given given' : Slot → Value}
    {xs : List Step} (h : ∀ x ∈ asked xs, given x = given' x) :
    examine p s given xs = examine p s given' xs := by
  induction xs with
  | nil => rfl
  | cons step xs ih =>
    cases step with
    | ask x =>
      obtain ⟨hx, hxs⟩ := List.forall_mem_cons.mp h
      rw [examine, examine, ih hxs, Step.examine, Step.examine, hx]
    | pass scenario => rw [examine, examine, ih h, Step.examine, Step.examine]

namespace Course

variable {σ : Type} {t : Transport σ} {p : Parameters} {s : Subject}

theorem step_pass_eq_ok_iff {scenario : Scenario} {st st' : Standing σ} {u : Unit} :
    step t p s (.pass scenario) st = .ok u st' ↔
      st'.device = st.device ∧ st'.ledger = st.ledger.pass scenario := by
  obtain ⟨d', l'⟩ := st'
  simp only [step, modify_eq_ok_iff, Standing.mk.injEq]

/-- Steps pass when the device gives answers that the examination accepts. -/
theorem steps_of_replies {given : Slot → Value} {xs : List Step} {d d' : σ} {l l' : Ledger}
    (hreplies : t.Replies d ((asked xs).map fun x => (x.request p, given x)) d')
    (hexamine : examine p s given xs l = .ok () l') :
    steps t p s xs ⟨d, l⟩ = .ok () ⟨d', l'⟩ := by
  induction xs generalizing d l with
  | nil =>
    obtain ⟨-, rfl⟩ := pure_eq_ok_iff.mp hexamine
    obtain rfl : d' = d := hreplies
    rfl
  | cons step xs ih =>
    obtain ⟨_, l₁, hstep, hrest⟩ := bind_eq_ok_iff.mp hexamine
    cases step with
    | pass scenario =>
      obtain rfl := modify_eq_ok_iff.mp hstep
      exact bind_eq_ok_iff.mpr ⟨(), ⟨d, l.pass scenario⟩, rfl, ih hreplies hrest⟩
    | ask y =>
      obtain ⟨hanswer, hreplies⟩ := hreplies
      have hask : step t p s (.ask y) ⟨d, l⟩ = .ok () ⟨_, l₁⟩ :=
        step_ask_eq_ok_iff.mpr ⟨given y, ⟨hanswer, rfl⟩, hstep⟩
      exact bind_eq_ok_iff.mpr ⟨(), ⟨_, l₁⟩, hask, ih hreplies hrest⟩

/-- When they pass, it did, and its answers can be held in one function if no place comes twice. -/
theorem exists_replies {u : Unit} {xs : List Step} {st st' : Standing σ}
    (hnodup : (asked xs).Nodup) (h : steps t p s xs st = .ok u st') :
    ∃ given : Slot → Value,
      t.Replies st.device ((asked xs).map fun x => (x.request p, given x)) st'.device ∧
      examine p s given xs st.ledger = .ok () st'.ledger := by
  induction xs generalizing st with
  | nil =>
    obtain ⟨-, rfl⟩ := pure_eq_ok_iff.mp h
    exact ⟨fun _ => .null, rfl, rfl⟩
  | cons step xs ih =>
    obtain ⟨_, st₁, hstep, hrest⟩ := bind_eq_ok_iff.mp h
    cases step with
    | pass scenario =>
      rw [asked_pass] at hnodup ⊢
      obtain ⟨hdevice, hledger⟩ := step_pass_eq_ok_iff.mp hstep
      obtain ⟨given, hreplies, hexamine⟩ := ih hnodup hrest
      exact ⟨given, hdevice ▸ hreplies,
        bind_eq_ok_iff.mpr ⟨(), st₁.ledger, modify_eq_ok_iff.mpr hledger, hexamine⟩⟩
    | ask y =>
      rw [asked_ask, List.nodup_cons] at hnodup
      obtain ⟨hy, hnodup⟩ := hnodup
      obtain ⟨answer, ⟨hanswer, hdevice⟩, hreview⟩ := step_ask_eq_ok_iff.mp hstep
      obtain ⟨given, hreplies, hexamine⟩ := ih hnodup hrest
      -- the place is not asked again, so its answer can be added
      have hagree : ∀ x ∈ asked xs, Function.update given y answer x = given x := fun x hx =>
        Function.update_of_ne (ne_of_mem_of_not_mem hx hy) _ _
      refine ⟨Function.update given y answer, ⟨?_, ?_⟩,
        bind_eq_ok_iff.mpr ⟨(), st₁.ledger, ?_, ?_⟩⟩
      · rw [Function.update_self]
        exact hanswer
      · rw [← hdevice, List.map_congr_left fun x hx => by rw [hagree x hx]]
        exact hreplies
      · rw [Step.examine, Function.update_self]
        exact hreview
      · rw [examine_congr hagree]
        exact hexamine

/-- **Steps pass exactly when the device gives answers that the examination accepts.** -/
theorem steps_eq_ok_iff {u : Unit} {xs : List Step} {st st' : Standing σ} (h : (asked xs).Nodup) :
    steps t p s xs st = .ok u st' ↔
      ∃ given : Slot → Value,
        t.Replies st.device ((asked xs).map fun x => (x.request p, given x)) st'.device ∧
        examine p s given xs st.ledger = .ok () st'.ledger := by
  constructor
  · exact exists_replies h
  · rintro ⟨given, hreplies, hexamine⟩
    exact steps_of_replies hreplies hexamine

/-- Steps that do not pass end at the first that does not, which is one that asks. -/
theorem steps_eq_error {h : Halt} {xs : List Step} {st st' : Standing σ}
    (hs : steps t p s xs st = .error h st') :
    ∃ before x after st₁, xs = before ++ .ask x :: after ∧ steps t p s before st = .ok () st₁ ∧
      step t p s (.ask x) st₁ = .error h st' := by
  induction xs generalizing st with
  | nil => exact absurd hs pure_ne_error
  | cons x xs ih =>
    simp only [steps, bind_eq_error_iff] at hs
    rcases hs with hx | ⟨_, st₁, hx, hs⟩
    · cases x with
      | ask x => exact ⟨[], x, xs, st, rfl, rfl, hx⟩
      -- the end of a scenario cannot fail
      | pass scenario => exact absurd hx modify_ne_error
    · obtain ⟨before, y, after, st₂, rfl, hbefore, hy⟩ := ih hs
      exact ⟨x :: before, y, after, st₂, rfl, bind_eq_ok_iff.mpr ⟨(), st₁, hx, hbefore⟩, hy⟩

end Course

end EnclaveAudit
