import EnclaveAudit.Proofs.Audit.Script

/-!
# `EnclaveAudit/Proofs/Audit/Course.lean` — the course of an audit

An audit under way is a session with its trail and a ledger. How it goes on depends on two things
only: the device and the ledger. This file states the audit over these two (`Standing`) and over one
flat list of steps, without scenarios inside stretches inside rounds, and without the trail.

The fact that pays for the rest is `mirrors_conduct`: carrying out the nested plan and following the
flat course end alike, on every transport, whatever it answers and wherever it is interrupted.
Everything about whole audits is then an induction on a list.
-/

set_option autoImplicit false

namespace EnclaveAudit

/-- What of an audit under way decides how it goes on. -/
structure Standing (σ : Type) where
  device : σ
  ledger : Ledger

/-- The standing of an audit at its desk. -/
def Desk.standing {σ : Type} (d : Desk σ) : Standing σ := ⟨d.session.device, d.ledger⟩

/-- The ledger once a scenario is passed. -/
def Ledger.pass (s : Scenario) (l : Ledger) : Ledger :=
  { l with history := l.history ++ [s.target], passed := l.passed ++ [s] }

/-- What is made of an answer at a place of the script. -/
def Slot.judge (p : Parameters) (c : Contract) (x : Slot) (answer : Value) : Judgement Unit :=
  (x.probe p).judge p c ((x.probe p).operation.read answer)

/-- What is judged once a place of the script is done with. The last of the first reads ends its
scenario, and what is judged at the end of the scenario is judged there. -/
def Slot.closing (s : Subject) (x : Slot) : Judgement Unit :=
  if x = .firstRead 31 then Scenario.initialRegisters.closing s else pure ()

/-- All that is made of an answer at a place of the script. -/
def Slot.review (p : Parameters) (s : Subject) (x : Slot) (answer : Value) : Judgement Unit := do
  x.judge p s.contract answer
  x.closing s

/-- One step of the course of an audit. -/
inductive Step where
  | ask (x : Slot)
  | pass (s : Scenario)

def Scenario.steps (p : Parameters) (s : Scenario) : List Step :=
  (s.slots p).map .ask ++ [.pass s]

/-- The steps of an audit once the device described itself. -/
def Parameters.steps (p : Parameters) : List Step := Scenario.all.flatMap (Scenario.steps p)

theorem Parameters.steps_eq (p : Parameters) : p.steps =
    (Scenario.description.slots p).map .ask ++ ([.pass .description] ++
    ((Scenario.initialRegisters.slots p).map .ask ++ ([.pass .initialRegisters] ++
    ((Scenario.locksAndExtension.slots p).map .ask ++ ([.pass .locksAndExtension] ++
    ((Scenario.attestation.slots p).map .ask ++ ([.pass .attestation] ++
    ((Scenario.randomness.slots p).map .ask ++ [.pass .randomness])))))))) := by
  simp [Parameters.steps, Scenario.all, Scenario.steps]

theorem Scenario.steps_locksAndExtension (p : Parameters) :
    (Scenario.locksAndExtension.slots p).map Step.ask =
      ((List.range p.relockAttempts).flatMap fun k =>
        (List.range 16).map (Slot.relock k)).map .ask ++
      (((List.range p.extendRounds).flatMap fun k =>
        (List.range' 16 16).map (Slot.extension k)).map .ask ++
      (((List.range' 16 16).map Slot.lock).map .ask ++ ([.ask .lockRange] ++ ([.ask .lockBeyond] ++
      (((List.range 32).map Slot.lockedExtension).map .ask ++
      ((List.range p.readRounds).flatMap fun k => (List.range 32).map (Slot.read k)).map .ask)))))
      := by
  simp [Scenario.slots]

/-- Something that is done with a device and a ledger. -/
abbrev Course (σ α : Type) := EStateM Halt (Standing σ) α

namespace Course

variable {σ α : Type}

/-- Has the device perform an operation. -/
def ask (t : Transport σ) (operation : Operation) :
    Course σ (Except Status operation.Result) := fun st =>
  match (t.exchange operation.request st.device).result with
  | .ok answer =>
    .ok (operation.read answer)
      { st with device := (t.exchange operation.request st.device).device }
  | .error interruption =>
    .error (.interrupted interruption)
      { st with device := (t.exchange operation.request st.device).device }

/-- Judges; a violation is one of this scenario. -/
def judge (s : Scenario) (j : Judgement α) : Course σ α := fun st =>
  match j st.ledger with
  | .ok a ledger => .ok a { st with ledger }
  | .error violation ledger => .error (.violated s violation) { st with ledger }

/-- Asks at a place of the script and judges the outcome. -/
def probe (t : Transport σ) (p : Parameters) (s : Subject) (x : Slot) : Course σ Unit := do
  let outcome ← ask t (x.probe p).operation
  judge x.scenario ((x.probe p).judge p s.contract outcome)

def step (t : Transport σ) (p : Parameters) (s : Subject) : Step → Course σ Unit
  | .ask x => do
    probe t p s x
    judge x.scenario (x.closing s)
  | .pass scenario => modify fun st => { st with ledger := st.ledger.pass scenario }

/-- Steps, one after the other. -/
def steps (t : Transport σ) (p : Parameters) (s : Subject) : List Step → Course σ Unit
  | [] => pure ()
  | x :: xs => do
    step t p s x
    steps t p s xs

/-- Has the device describe itself, and derives the contract. -/
def identify (t : Transport σ) : Course σ Subject := do
  let outcome ← ask t .describe
  let description ← judge .description (Judgement.counted (Check.judgeDescribe outcome))
  modify fun st => { st with ledger := { st.ledger with description := some description } }
  match Contract.ofDescription description with
  | .error fault => throw (.unusable fault)
  | .ok contract =>
    judge .description (Judgement.counted (Check.requireDescription description contract))
    pure ⟨description, contract⟩

def whole (t : Transport σ) (p : Parameters) : Course σ Unit := do
  let subject ← identify t
  steps t p subject p.steps
  modify fun st => { st with ledger := { st.ledger with history := st.ledger.history ++ [.done] } }

theorem steps_append (t : Transport σ) (p : Parameters) (s : Subject) (xs ys : List Step) :
    steps t p s (xs ++ ys) = (do steps t p s xs; steps t p s ys) := by
  induction xs with
  | nil => exact (pure_bind () fun _ => steps t p s ys).symm
  | cons x xs ih => simp only [List.cons_append, steps, ih, bind_assoc]

theorem steps_singleton (t : Transport σ) (p : Parameters) (s : Subject) (x : Step) :
    steps t p s [x] = step t p s x := bind_pure_unit

end Course

namespace Audit

variable {σ α β : Type}

/-! ## Unrolling the plan -/

section

variable (t : Transport σ) (p : Parameters) (scenario : Scenario) (s : Subject)

theorem probes_append (xs ys : List Probe) :
    probes t p scenario s (xs ++ ys) =
      (do probes t p scenario s xs; probes t p scenario s ys) := by
  induction xs with
  | nil => exact (pure_bind () fun _ => probes t p scenario s ys).symm
  | cons x xs ih => simp only [List.cons_append, probes, ih, bind_assoc]

theorem rounds_eq_probes (xs : List Probe) (n : Nat) :
    rounds t p scenario s xs n = probes t p scenario s (List.replicate n xs).flatten := by
  induction n with
  | zero => rfl
  | succ n ih => rw [rounds, ih, List.replicate_succ, List.flatten_cons, probes_append]

theorem stretches_eq_probes (xs : List Stretch) :
    stretches t p scenario s xs = probes t p scenario s (xs.flatMap Stretch.unrolled) := by
  induction xs with
  | nil => rfl
  | cons x xs ih =>
    rw [stretches, ih, rounds_eq_probes, List.flatMap_cons, probes_append, Stretch.unrolled]

end

/-! ## Mirroring

`m` mirrors `n` when, at every desk whose session is open, the two end alike and the session is
still open. The trail is not compared: nothing that an audit does reads it. -/

/-- `m` does at a desk what `n` does to its standing. -/
def Mirrors (m : Audit σ α) (n : Course σ α) : Prop :=
  ∀ d : Desk σ, d.session.closed = false →
    match m d with
    | .ok a d' => n d.standing = .ok a d'.standing ∧ d'.session.closed = false
    | .error h d' => n d.standing = .error h d'.standing ∧ d'.session.closed = false

theorem Mirrors.pure (a : α) : Mirrors (σ := σ) (Pure.pure a) (Pure.pure a) :=
  fun _ hopen => ⟨rfl, hopen⟩

theorem Mirrors.bind {m : Audit σ α} {n : Course σ α} {f : α → Audit σ β} {g : α → Course σ β}
    (hm : Mirrors m n) (hf : ∀ a, Mirrors (f a) (g a)) : Mirrors (m >>= f) (n >>= g) := by
  intro d hopen
  have h := hm d hopen
  simp only [Bind.bind, EStateM.bind]
  cases hd : m d with
  | ok a d' =>
    rw [hd] at h
    simp only [h.1]
    exact hf a d' h.2
  | error e d' =>
    rw [hd] at h
    simp only [h.1, h.2, and_self]

theorem mirrors_judge (s : Scenario) (j : Judgement α) :
    Mirrors (σ := σ) (judge s j) (Course.judge s j) := by
  intro d hopen
  simp only [judge, Course.judge, Desk.standing]
  cases j d.ledger <;> exact ⟨rfl, hopen⟩

theorem mirrors_ask (t : Transport σ) (operation : Operation) (h : operation.sendable = true) :
    Mirrors (ask t operation) (Course.ask t operation) := by
  intro d hopen
  have hclosed : ¬d.session.closed = true := by rw [hopen]; exact Bool.false_ne_true
  simp only [ask, Session.perform, h, if_true, Session.send, if_neg hclosed, Course.ask,
    Desk.standing]
  cases (t.exchange operation.request d.session.device).result <;> exact ⟨rfl, hopen⟩

theorem mirrors_probe (t : Transport σ) (p : Parameters) (s : Subject) (x : Slot) :
    Mirrors (probe t p x.scenario s (x.probe p)) (Course.probe t p s x) :=
  (mirrors_ask t _ (x.sendable_probe p)).bind fun _ => mirrors_judge x.scenario _

/-- A place that closes nothing is probed, and that is all. -/
theorem step_ask_of_ne (t : Transport σ) (p : Parameters) (s : Subject) {x : Slot}
    (hx : x ≠ .firstRead 31) : Course.step t p s (.ask x) = Course.probe t p s x := by
  rw [Course.step, Slot.closing, if_neg hx]
  exact bind_pure_unit

theorem mirrors_probes (t : Transport σ) (p : Parameters) (s : Subject) (scenario : Scenario)
    (xs : List Slot) (h : ∀ x ∈ xs, x.scenario = scenario) (hlast : .firstRead 31 ∉ xs) :
    Mirrors (probes t p scenario s (xs.map (Slot.probe p))) (Course.steps t p s (xs.map .ask)) := by
  induction xs with
  | nil => exact Mirrors.pure ()
  | cons x xs ih =>
    obtain ⟨hx, hxs⟩ := List.forall_mem_cons.mp h
    rw [List.mem_cons, not_or] at hlast
    obtain ⟨hne, hlast⟩ := hlast
    rw [List.map_cons, List.map_cons, probes, Course.steps, step_ask_of_ne t p s (Ne.symm hne)]
    exact (hx ▸ mirrors_probe t p s x).bind fun _ => ih hxs hlast

end Audit

theorem Scenario.scenario_of_mem_slots {p : Parameters} {s : Scenario} {x : Slot}
    (h : x ∈ s.slots p) : x.scenario = s := by
  cases s with
  | description =>
    simp only [slots] at h
    split_ifs at h
    · rw [List.mem_singleton.mp h]; rfl
    · cases h
  | initialRegisters =>
    obtain ⟨_, _, rfl⟩ := List.mem_map.mp h
    rfl
  | locksAndExtension =>
    simp only [slots, List.mem_append, List.mem_flatMap, List.mem_map, List.mem_cons,
      List.not_mem_nil, or_false] at h
    rcases h with ((((⟨_, _, _, _, rfl⟩ | ⟨_, _, _, _, rfl⟩) | ⟨_, _, rfl⟩) | rfl | rfl) |
      ⟨_, _, rfl⟩) | ⟨_, _, _, _, rfl⟩ <;> rfl
  | attestation =>
    simp only [slots, List.mem_cons, List.not_mem_nil, or_false] at h
    rcases h with rfl | rfl | rfl | rfl | rfl | rfl | rfl <;> rfl
  | randomness =>
    obtain ⟨_, _, rfl⟩ := List.mem_map.mp h
    rfl

namespace Audit

variable {σ α : Type}

theorem mirrors_follow (t : Transport σ) (p : Parameters) (scenario : Scenario) (s : Subject) :
    Mirrors (follow t p scenario s) (Course.steps t p s ((scenario.slots p).map .ask)) := by
  rw [follow, stretches_eq_probes, plan_probes]
  by_cases hs : scenario = .initialRegisters
  · subst hs
    have hslots : Scenario.initialRegisters.slots p =
        (List.range 31).map Slot.firstRead ++ [.firstRead 31] := rfl
    have hscenario : ∀ x ∈ (List.range 31).map Slot.firstRead, x.scenario = .initialRegisters :=
      fun _ hx => by obtain ⟨_, _, rfl⟩ := List.mem_map.mp hx; rfl
    rw [hslots, List.map_append, List.map_append, probes_append, Course.steps_append, bind_assoc]
    refine (mirrors_probes t p s _ _ hscenario (by decide)).bind fun _ => ?_
    simp only [List.map_cons, List.map_nil, probes, Course.steps, Course.step, bind_assoc,
      pure_bind]
    refine (mirrors_probe t p s (.firstRead 31)).bind fun _ => ?_
    rw [bind_pure_unit]
    exact mirrors_judge .initialRegisters _
  · have hlast : .firstRead 31 ∉ scenario.slots p :=
      fun h => hs (Scenario.scenario_of_mem_slots h).symm
    have hclosing : judge scenario (scenario.closing s) = (Pure.pure () : Audit σ Unit) := by
      cases scenario <;> first | rfl | exact absurd rfl hs
    rw [hclosing, bind_pure_unit]
    exact mirrors_probes t p s scenario _ (fun _ => Scenario.scenario_of_mem_slots) hlast

/-- A scenario is its body, with a notice before it and the pass after it. -/
theorem scenario_apply (s : Scenario) (body : Audit σ α) (d : Desk σ) :
    scenario s body d =
      match body (d.note (.scenarioStarted (.text s.name))) with
      | .ok a d' => .ok a (d'.pass s (d'.ledger.checks - d.ledger.checks))
      | .error e d' => .error e d' := by
  have hbody : scenario s body d =
      (body >>= fun a => fun d' => .ok a (d'.pass s (d'.ledger.checks - d.ledger.checks)))
        (d.note (.scenarioStarted (.text s.name))) := rfl
  rw [hbody]
  simp only [Bind.bind, EStateM.bind]
  cases body (d.note (.scenarioStarted (.text s.name))) <;> rfl

/-- A scenario passes with its body; what it adds is a notice at either end and the pass. -/
theorem mirrors_scenario {s : Scenario} {body : Audit σ α} {n : Course σ α} (h : Mirrors body n) :
    Mirrors (scenario s body)
      (do let a ← n
          modify fun st => { st with ledger := st.ledger.pass s }
          Pure.pure a) := by
  intro d hopen
  have hb := h (d.note (.scenarioStarted (.text s.name))) hopen
  have hstanding : (d.note (.scenarioStarted (.text s.name))).standing = d.standing := rfl
  rw [hstanding] at hb
  rw [scenario_apply]
  simp only [Bind.bind, EStateM.bind]
  cases hd : body (d.note (.scenarioStarted (.text s.name))) with
  | ok a d' =>
    rw [hd] at hb
    simp only [hb.1]
    exact ⟨rfl, hb.2⟩
  | error e d' =>
    rw [hd] at hb
    simp only [hb.1, hb.2, and_self]

theorem mirrors_scenarios (t : Transport σ) (p : Parameters) (s : Subject) (xs : List Scenario) :
    Mirrors (scenarios t p s xs) (Course.steps t p s (xs.flatMap (Scenario.steps p))) := by
  induction xs with
  | nil => exact Mirrors.pure ()
  | cons x xs ih =>
    have h := (mirrors_scenario (s := x) (mirrors_follow t p x s)).bind fun _ => ih
    rw [List.flatMap_cons, Course.steps_append]
    rw [Scenario.steps, Course.steps_append, Course.steps_singleton]
    simp only [bind_assoc, pure_bind] at h ⊢
    exact h

theorem mirrors_identify (t : Transport σ) : Mirrors (identify t) (Course.identify t) := by
  refine (mirrors_ask t .describe rfl).bind fun outcome => ?_
  refine (mirrors_judge .description _).bind fun description => ?_
  refine Mirrors.bind (fun _ hopen => ⟨rfl, hopen⟩) fun _ => ?_
  cases Contract.ofDescription description with
  | error fault => exact fun _ hopen => ⟨rfl, hopen⟩
  | ok contract => exact (mirrors_judge .description _).bind fun _ => Mirrors.pure _

/-- **Carrying out the plan is following the course.** -/
theorem mirrors_conduct (t : Transport σ) (p : Parameters) :
    Mirrors (conduct t p) (Course.whole t p) := by
  have hfirst := mirrors_scenario (s := .description) <|
    (mirrors_identify t).bind fun subject =>
      (mirrors_follow t p .description subject).bind fun _ => Mirrors.pure subject
  have hdone : Mirrors (σ := σ) (modify (Desk.transition .done)) (modify fun st =>
      { st with ledger := { st.ledger with history := st.ledger.history ++ [.done] } }) :=
    fun _ hopen => ⟨rfl, hopen⟩
  have h := hfirst.bind fun subject =>
    (mirrors_scenarios t p subject Scenario.all.tail).bind fun _ => hdone
  have hsteps : p.steps = (Scenario.description.slots p).map .ask ++ [.pass .description] ++
      Scenario.all.tail.flatMap (Scenario.steps p) := rfl
  simp only [Course.whole, hsteps, Course.steps_append, Course.steps_singleton, bind_assoc,
    pure_bind] at h ⊢
  exact h

end Audit

end EnclaveAudit
