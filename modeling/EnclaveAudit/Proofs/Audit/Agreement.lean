import EnclaveAudit.Proofs.Audit.Ending

/-!
# `EnclaveAudit/Proofs/Audit/Agreement.lean` — audits that cannot tell two transports apart

Two transports can have states of different kinds and still be the same to an audit: all it sees of
them is what they answer. If a relation between their states makes them answer every request of the
script alike, and lasts, then audits of related devices end alike (`Auditor.run_agrees`).

`Matches` carries the proof. It relates a course on one transport to a course on the other, and is
closed under everything that courses are made of; only where a course asks is there something to
know.
-/

set_option autoImplicit false

namespace EnclaveAudit

/-- On related devices the transports answer the request alike, and leave related devices. -/
def Transport.AgreesOn {σ τ : Type} (t : Transport σ) (u : Transport τ) (R : σ → τ → Prop)
    (request : Value) : Prop :=
  ∀ d d', R d d' → (u.exchange request d').result = (t.exchange request d).result ∧
    R (t.exchange request d).device (u.exchange request d').device

/-- A recording answers like what is recorded. -/
theorem Transport.agreesOn_recorded {σ : Type} (t : Transport σ) (request : Value) :
    t.AgreesOn t.recorded (fun d r => r.device = d) request := by
  rintro _ r rfl
  exact ⟨rfl, rfl⟩

/-- It agrees with whatever that agrees with. -/
theorem Transport.AgreesOn.recorded {σ τ : Type} {t : Transport σ} {u : Transport τ}
    {R : σ → τ → Prop} {request : Value} (h : t.AgreesOn u R request) :
    t.recorded.AgreesOn u (fun r d' => R r.device d') request :=
  fun r d' hd => h r.device d' hd

namespace Course

variable {σ τ α β : Type} {R : σ → τ → Prop}

/-- Two ends that differ in related devices only. -/
inductive EndsAlike (R : σ → τ → Prop) :
    EStateM.Result Halt (Standing σ) α → EStateM.Result Halt (Standing τ) α → Prop
  | ok (a : α) (l : Ledger) {d : σ} {d' : τ} (h : R d d') :
    EndsAlike R (.ok a ⟨d, l⟩) (.ok a ⟨d', l⟩)
  | error (halt : Halt) (l : Ledger) {d : σ} {d' : τ} (h : R d d') :
    EndsAlike R (.error halt ⟨d, l⟩) (.error halt ⟨d', l⟩)

theorem EndsAlike.exists_ok {a : α} {st : Standing σ} {y : EStateM.Result Halt (Standing τ) α}
    (h : EndsAlike R (.ok a st) y) :
    ∃ d', y = .ok a ⟨d', st.ledger⟩ ∧ R st.device d' := by
  cases h with
  | ok a l h => exact ⟨_, rfl, h⟩

/-- From standings that differ in related devices only, the two courses end alike. -/
def Matches (R : σ → τ → Prop) (m : Course σ α) (n : Course τ α) : Prop :=
  ∀ d d' l, R d d' → EndsAlike R (m ⟨d, l⟩) (n ⟨d', l⟩)

theorem Matches.bind {m : Course σ α} {n : Course τ α} {f : α → Course σ β} {g : α → Course τ β}
    (hm : Matches R m n) (hf : ∀ a, Matches R (f a) (g a)) : Matches R (m >>= f) (n >>= g) := by
  intro d d' l h
  have hends := hm d d' l h
  simp only [Bind.bind, EStateM.bind]
  -- what `f` and `g` go on from is how `m` and `n` ended, and nothing else of them
  generalize m ⟨d, l⟩ = x at hends ⊢
  generalize n ⟨d', l⟩ = y at hends ⊢
  cases hends with
  | ok a l h => exact hf a _ _ l h
  | error halt l h => exact .error halt l h

theorem matches_pure (a : α) : Matches R (pure a) (pure a) := fun _ _ l h => .ok a l h

theorem matches_throw (halt : Halt) :
    Matches R (throw halt : Course σ α) (throw halt : Course τ α) :=
  fun _ _ l h => .error halt l h

/-- What is done to the ledger alone. -/
theorem matches_modify (f : Ledger → Ledger) :
    Matches R (modify fun st => { st with ledger := f st.ledger })
      (modify fun st => { st with ledger := f st.ledger }) :=
  fun _ _ l h => .ok () (f l) h

theorem matches_judge (s : Scenario) (j : Judgement α) : Matches R (judge s j) (judge s j) := by
  intro d d' l h
  simp only [judge]
  cases j l with
  | ok a l' => exact .ok a l' h
  | error v l' => exact .error _ l' h

section

variable {t : Transport σ} {u : Transport τ} {p : Parameters}

theorem matches_ask {operation : Operation} (h : t.AgreesOn u R operation.request) :
    Matches R (ask t operation) (ask u operation) := by
  intro d d' l hd
  obtain ⟨hresult, hdevice⟩ := h d d' hd
  simp only [ask, hresult]
  cases (t.exchange operation.request d).result with
  | ok answer => exact .ok _ l hdevice
  | error i => exact .error _ l hdevice

theorem matches_step (s : Subject) {step : Step}
    (h : ∀ x ∈ step.slot?, t.AgreesOn u R (x.request p)) :
    Matches R (Course.step t p s step) (Course.step u p s step) := by
  cases step with
  | pass scenario => exact matches_modify (Ledger.pass scenario)
  | ask x =>
    have hx : t.AgreesOn u R (x.probe p).operation.request :=
      (x.request_probe p).symm ▸ h x rfl
    have hprobe : Matches R (probe t p s x) (probe u p s x) :=
      (matches_ask hx).bind fun _ => matches_judge x.scenario _
    exact hprobe.bind fun _ => matches_judge x.scenario _

theorem matches_steps (s : Subject) {xs : List Step}
    (h : ∀ x ∈ asked xs, t.AgreesOn u R (x.request p)) :
    Matches R (steps t p s xs) (steps u p s xs) := by
  induction xs with
  | nil => exact matches_pure ()
  | cons step xs ih =>
    have hstep : ∀ x ∈ step.slot?, x ∈ asked (step :: xs) := by
      rintro x hx
      exact List.mem_filterMap.mpr ⟨step, List.mem_cons_self, hx⟩
    have hrest : ∀ x ∈ asked xs, x ∈ asked (step :: xs) :=
      (List.sublist_cons_self step xs).filterMap Step.slot? |>.subset
    exact (matches_step s fun x hx => h x (hstep x hx)).bind fun _ =>
      ih fun x hx => h x (hrest x hx)

theorem matches_identify (h : t.AgreesOn u R (.text "DescribeNSM")) :
    Matches R (identify t) (identify u) := by
  refine (matches_ask h).bind fun outcome => ?_
  refine (matches_judge .description _).bind fun description => ?_
  refine (matches_modify fun l => { l with description := some description }).bind fun _ => ?_
  cases Contract.ofDescription description with
  | error fault => exact matches_throw _
  | ok contract => exact (matches_judge .description _).bind fun _ => matches_pure _

/-- **The course is the same on both**, as far as an audit can see. -/
theorem matches_whole (h : ∀ request ∈ p.script, t.AgreesOn u R request) :
    Matches R (whole t p) (whole u p) := by
  have hfirst : Value.text "DescribeNSM" ∈ p.script := List.mem_cons_self
  refine (matches_identify (h _ hfirst)).bind fun subject => ?_
  refine (matches_steps subject fun x hx => h _ ?_).bind fun _ => matches_modify Ledger.finish
  rw [asked_steps] at hx
  exact List.mem_cons_of_mem _ (List.mem_map_of_mem hx)

/-- What is concluded says nothing of the device but the name of its transport. -/
theorem conclude_alike {x : EStateM.Result Halt (Standing σ) α}
    {y : EStateM.Result Halt (Standing τ) α} (h : EndsAlike R x y) (first second : String)
    (runId runId' : String) (now : Instant) :
    conclude second runId' now y =
      (conclude first runId now x).map fun r =>
        { r with transport := second, runId := runId' } := by
  cases h with
  | ok a l h => rfl
  | error halt l h =>
    cases halt with
    | violated s v =>
      simp only [conclude]
      split_ifs <;> rfl
    | unusable fault => rfl
    | interrupted i => rfl

end

end Course

/-- **Audits of devices that answer alike end alike**: with the same setback, or with reports that
differ in the names of the transport and of the run. -/
theorem Auditor.run_agrees {σ τ : Type} {R : σ → τ → Prop} (a : Auditor) {t : Transport σ}
    {u : Transport τ} (runId runId' : String) (now : Instant) {d : σ} {d' : τ}
    (ht : (t.acquire d).result = .ok ()) (hu : (u.acquire d').result = .ok ())
    (hacquired : R (t.acquire d).device (u.acquire d').device)
    (hscript : ∀ request ∈ a.parameters.script, t.AgreesOn u R request) :
    (a.run u runId' now d').outcome = (a.run t runId now d).outcome.map fun r =>
      { r with transport := u.name, runId := runId' } := by
  have hends := Course.matches_whole hscript _ _ .empty hacquired
  rw [(a.run_concludes runId' now hu).1, (a.run_concludes runId now ht).1]
  exact Course.conclude_alike hends t.name u.name runId runId' now

end EnclaveAudit
