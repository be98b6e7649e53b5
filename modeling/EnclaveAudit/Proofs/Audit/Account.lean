import EnclaveAudit.Proofs.Audit.Ending
import EnclaveAudit.Proofs.Audit.Keeping
import EnclaveAudit.Proofs.Audit.Tally

/-!
# `EnclaveAudit/Proofs/Audit/Account.lean` — an audit, scenario by scenario

An audit passes its scenarios in order and stops inside the first that does not pass. Each that
passes leaves three notices, a state and an entry in the list of scenarios that passed
(`Desk.Passes`); the one that does not leaves the notice that it started, and nothing more
(`Desk.Begins`). So the trail, the states and the list grow in step, and at any time one of them
tells the other two.

One scenario is accounted for by what its body leaves alone and by the count of its checks; a list
of scenarios by induction on it. `Audit.conduct_ends` is the account of a whole audit.
-/

set_option autoImplicit false

namespace EnclaveAudit

/-! ## What belongs to a scenario -/

namespace Scenario

/-- The checks that can fail in a scenario. That the description suits the bank that is modelled on
it is checked in the first, and cannot fail. -/
def criteria : Scenario → List Check
  | .description => [.describe, .attestation, .attestationNonEmpty, .attestationSize]
  | .initialRegisters => [.describeRegister, .initialValue, .initialLockedSet, .initialLockFlag]
  | .locksAndExtension =>
    [.lockRejected, .extendRegister, .extendWidth, .extendNonZero, .extendChaining, .lockRegister,
      .lockRangeExact, .lockRangeOverflow, .extendLockedRejected, .describeRegister, .lockMonotonic,
      .postLockLocked, .postLockValue, .registerValueStable]
  | .attestation => [.attestation, .attestationNonEmpty, .attestationSize]
  | .randomness => [.getRandom, .randomNotEmpty, .randomLength, .randomRepeat]

/-- How many checks a scenario consists of. The first also judges the description, twice. -/
def tally (p : Parameters) (s : Scenario) : Nat :=
  (if s = .description then 2 else 0) + ((s.slots p).map Slot.checks).sum

end Scenario

/-- A violation at a place is of a check of its scenario, and the first check is at no place. -/
theorem Slot.Concerns.check_mem {x : Slot} {v : Violation} (h : x.Concerns v) :
    v.check ∈ x.scenario.criteria ∧ v.check ≠ .describe := by
  have hnames : ∀ {s : Scenario} {check : Check} {r : Option Int}, v.Names check r →
      check ∈ s.criteria ∧ check ≠ .describe → v.check ∈ s.criteria ∧ v.check ≠ .describe := by
    rintro s check r ⟨rfl, -⟩ hmem
    exact hmem
  cases x with
  | bootDocument =>
    rcases h with h | h | h <;> exact hnames (s := .description) h (by decide)
  | plainDocument | document _ _ =>
    rcases h with h | h | h <;> exact hnames (s := .attestation) h (by decide)
  | firstRead i =>
    rcases h with h | ⟨-, ⟨_, -, h⟩ | h | ⟨_, -, h⟩⟩ <;>
      exact hnames (s := .initialRegisters) h (by decide)
  | relock _ i | lock i | lockRange | lockBeyond | lockedExtension i =>
    exact hnames (s := .locksAndExtension) h (by decide)
  | extension _ i =>
    rcases h with h | h | h | h <;> exact hnames (s := .locksAndExtension) h (by decide)
  | read _ i =>
    rcases h with h | h | h | h | h <;> exact hnames (s := .locksAndExtension) h (by decide)
  | sample _ =>
    rcases h with h | h | h | h <;> exact hnames (s := .randomness) h (by decide)

/-- This can end a scenario, and the ledger is as it is when that does. -/
def Halt.Fits (s : Scenario) (l : Ledger) : Halt → Prop
  | .violated s' v => s' = s ∧ v.check ∈ s.criteria ∧ (l.description = none ↔ v.check = .describe)
  | .unusable _ => s = .description
  | .interrupted _ => True

/-! ## Progress -/

/-- The notices of scenarios that pass, one after the other, from a state on. -/
def Parameters.passages (p : Parameters) : Phase → List Scenario → List Notice
  | _, [] => []
  | phase, s :: rest =>
    .scenarioStarted (.text s.name) :: .scenarioPassed (.text s.name) (.int (s.tally p)) ::
      .stateTransition (.text phase.name) (.text s.target.name) :: passages p s.target rest

namespace Desk

variable {σ : Type}

/-- Scenarios were passed between two desks. -/
structure Passes (p : Parameters) (xs : List Scenario) (d d' : Desk σ) : Prop where
  notices : d'.notices = d.notices ++ p.passages d.ledger.phase xs
  history : d'.ledger.history = d.ledger.history ++ xs.map Scenario.target
  passed : d'.ledger.passed = d.ledger.passed ++ xs
  checks : d'.ledger.checks = d.ledger.checks + (xs.map (Scenario.tally p)).sum

/-- A scenario was begun between two desks, and not passed. -/
structure Begins (s : Scenario) (d d' : Desk σ) : Prop where
  notices : d'.notices = d.notices ++ [.scenarioStarted (.text s.name)]
  history : d'.ledger.history = d.ledger.history
  passed : d'.ledger.passed = d.ledger.passed
  checks : d.ledger.checks ≤ d'.ledger.checks

/-- The device is described, the session open, and the bank in order for the steps to come. -/
structure Ready (rest : List Step) (d : Desk σ) : Prop where
  isOpen : d.session.closed = false
  described : d.ledger.description ≠ none
  order : ∃ n, d.ledger.Observed n ∧ Orderly n rest

section

variable {p : Parameters} {d d' d'' : Desk σ} {s : Scenario} {xs : List Scenario}

theorem Passes.refl (p : Parameters) (d : Desk σ) : Passes p [] d d :=
  ⟨(List.append_nil _).symm, (List.append_nil _).symm, (List.append_nil _).symm, rfl⟩

/-- After a scenario that passed, the state is its target. -/
theorem Passes.phase (h : Passes p [s] d d') : d'.ledger.phase = s.target := by
  simp [Ledger.phase, h.history]

theorem Passes.cons (h : Passes p [s] d d') (h' : Passes p xs d' d'') :
    Passes p (s :: xs) d d'' where
  notices := by
    rw [h'.notices, h.notices, h.phase, List.append_assoc]
    rfl
  history := by rw [h'.history, h.history, List.append_assoc]; rfl
  passed := by rw [h'.passed, h.passed, List.append_assoc]; rfl
  checks := by
    have := h.checks
    have := h'.checks
    simp only [List.map_cons, List.map_nil, List.sum_cons, List.sum_nil] at *
    omega

theorem notices_note (n : Notice) : (d.note n).notices = d.notices ++ [n] :=
  Session.notices_note n

theorem notices_transition (phase : Phase) : (d.transition phase).notices =
    d.notices ++ [.stateTransition (.text d.ledger.phase.name) (.text phase.name)] :=
  Session.notices_note _

theorem notices_pass (n : Nat) : (d.pass s n).notices = d.notices ++
    [.scenarioPassed (.text s.name) (.int n),
      .stateTransition (.text d.ledger.phase.name) (.text s.target.name)] := by
  unfold pass
  rw [notices_transition]
  show (d.note _).notices ++ _ = _
  rw [notices_note, List.append_assoc]
  rfl

end

end Desk

/-- The places of a scenario pass, or the first that does not ends the audit with a violation that
is one of the scenario. -/
theorem Course.slots_end {σ : Type} {t : Transport σ} {p : Parameters} {s : Scenario}
    (subject : Subject) {n : Nat} {st : Standing σ} {rest : List Step}
    (hobserved : st.ledger.Observed n) (horder : Orderly n ((s.slots p).map .ask ++ rest)) :
    match steps t p subject ((s.slots p).map .ask) st with
    | .ok _ st' => (∃ n', st'.ledger.Observed n' ∧ Orderly n' rest) ∧
        st'.ledger.checks = st.ledger.checks + ((s.slots p).map Slot.checks).sum
    | .error halt st' => st.ledger.checks ≤ st'.ledger.checks ∧
        ((∃ i, halt = .interrupted i) ∨
          ∃ v, halt = .violated s v ∧ v.check ∈ s.criteria ∧ v.check ≠ .describe) := by
  cases hsteps : steps t p subject ((s.slots p).map .ask) st with
  | ok _ st' =>
    have hnodup : (asked ((s.slots p).map Step.ask)).Nodup :=
      (asked_map_ask _).symm ▸ s.nodup_slots p
    obtain ⟨given, -, hexamine⟩ := exists_replies hnodup hsteps
    obtain ⟨n', hobserved', horder', hchecks⟩ := examine_eq_ok horder hobserved hexamine
    rw [asked_map_ask] at hchecks
    exact ⟨⟨n', hobserved', horder'⟩, hchecks⟩
  | error halt st' =>
    obtain ⟨earlier, x, later, st₁, hslots, hearlier, hx⟩ := steps_eq_error hsteps
    have hasked : s.slots p = asked earlier ++ x :: asked later := by
      rw [← asked_map_ask (s.slots p), hslots, asked_append, asked_ask]
    have hmem : x ∈ s.slots p := hasked ▸ List.mem_append_right _ List.mem_cons_self
    obtain rfl := Scenario.scenario_of_mem_slots hmem
    have hnodup : (asked earlier).Nodup :=
      (List.nodup_append.mp (hasked ▸ x.scenario.nodup_slots p)).1
    obtain ⟨given, -, hexamine⟩ := exists_replies hnodup hearlier
    -- what passed before the failure is in order, so the violation is one of its place
    rw [hslots, List.append_assoc] at horder
    obtain ⟨n', hobserved', ⟨hfits, -⟩, hchecks⟩ := examine_eq_ok horder hobserved hexamine
    have hsofar : st.ledger.checks ≤ st₁.ledger.checks := hchecks ▸ Nat.le_add_right _ _
    rcases step_ask_eq_error_iff.mp hx with ⟨i, -, rfl, rfl⟩ | ⟨answer, v, -, rfl, hreview⟩
    · exact ⟨hsofar, .inl ⟨i, rfl⟩⟩
    · obtain ⟨hconcerns, hcount⟩ := Slot.review_eq_error hfits hobserved' hreview
      refine ⟨by omega, .inr ⟨v, rfl, hconcerns.check_mem⟩⟩

namespace Audit

variable {σ α β : Type} {t : Transport σ} {p : Parameters} {subject : Subject} {d : Desk σ}
  {s : Scenario} {rest rest' : List Step}

/-! ## The body of a scenario -/

/-- How the body of a scenario ends that starts at this desk: it passes with so many checks and is
ready for the rest, or it ends the audit. Nothing of either is written down yet. -/
def BodyEnds (s : Scenario) (rest : List Step) (checks : Nat) (d : Desk σ) :
    EStateM.Result Halt (Desk σ) α → Prop
  | .ok _ d' => d'.Ready rest ∧ d'.written = d.written ∧ d'.ledger.checks = d.ledger.checks + checks
  | .error halt d' => d'.session.closed = false ∧ d'.written = d.written ∧
      d.ledger.checks ≤ d'.ledger.checks ∧ halt.Fits s d'.ledger

theorem bodyEnds_pure {a : α} (hd : d.Ready rest) : BodyEnds s rest 0 d ((pure a : Audit σ α) d) :=
  ⟨hd, rfl, rfl⟩

theorem BodyEnds.bind {m n : Nat} {x : Audit σ α} {f : α → Audit σ β}
    (hx : BodyEnds s rest m d (x d))
    (hf : ∀ a d₁, d₁.Ready rest → BodyEnds s rest' n d₁ (f a d₁)) :
    BodyEnds s rest' (m + n) d ((x >>= f) d) := by
  simp only [Bind.bind, EStateM.bind]
  generalize x d = r at hx ⊢
  cases r with
  | error halt d₁ => exact hx
  | ok a d₁ =>
    obtain ⟨hready, hwritten, hchecks⟩ := hx
    have hends := hf a d₁ hready
    simp only
    generalize f a d₁ = r at hends ⊢
    cases r with
    | ok b d₂ =>
      obtain ⟨hready', hwritten', hchecks'⟩ := hends
      exact ⟨hready', hwritten'.trans hwritten, by omega⟩
    | error halt d₂ =>
      obtain ⟨hopen, hwritten', hchecks', hfits⟩ := hends
      exact ⟨hopen, hwritten'.trans hwritten, by omega, hfits⟩

/-- The plan of a scenario passes with the checks of its places, or something of it ends the
audit. -/
theorem follow_ends (hd : d.Ready ((s.slots p).map .ask ++ rest)) :
    BodyEnds s rest ((s.slots p).map Slot.checks).sum d (follow t p s subject d) := by
  obtain ⟨hopen, hdescribed, n, hobserved, horder⟩ := hd
  have hmirror := mirrors_follow t p s subject d hopen
  have hkept := keeps_follow (t := t) (p := p) (s := subject) s d
  have hstanding : d.standing.ledger.Observed n := hobserved
  have hcourse := Course.slots_end (t := t) (s := s) subject hstanding horder
  have hdescription : ∀ d' : Desk σ, d'.progress = d.progress →
      d'.ledger.description = d.ledger.description := fun _ h => congrArg (·.2) h
  cases hfollow : follow t p s subject d with
  | ok _ d' =>
    rw [hfollow] at hmirror hkept
    obtain ⟨hsteps, hopen'⟩ := hmirror
    rw [hsteps] at hcourse
    obtain ⟨horder', hchecks⟩ := hcourse
    exact ⟨⟨hopen', hdescription d' hkept ▸ hdescribed, horder'⟩, congrArg (·.1) hkept, hchecks⟩
  | error halt d' =>
    rw [hfollow] at hmirror hkept
    obtain ⟨hsteps, hopen'⟩ := hmirror
    rw [hsteps] at hcourse
    obtain ⟨hchecks, hhalt⟩ := hcourse
    refine ⟨hopen', congrArg (·.1) hkept, hchecks, ?_⟩
    rcases hhalt with ⟨i, rfl⟩ | ⟨v, rfl, hmem, hne⟩
    · trivial
    · refine ⟨rfl, hmem, ?_⟩
      rw [hdescription d' hkept]
      exact iff_of_false hdescribed hne

/-- The first request is answered by a description that a bank can be modelled on, or it ends the
audit. -/
theorem identify_ends (hopen : d.session.closed = false) (hledger : d.ledger = .empty) :
    BodyEnds .description p.steps 2 d (identify t d) := by
  have hmirror := mirrors_identify t d hopen
  have hkept := keeps_identify (t := t) d
  have hstanding : d.standing = ⟨d.session.device, .empty⟩ := congrArg (Standing.mk _) hledger
  rw [hstanding] at hmirror
  cases hidentify : identify t d with
  | ok subject d' =>
    rw [hidentify] at hmirror hkept
    obtain ⟨hcourse, hopen'⟩ := hmirror
    obtain ⟨answer, -, -, hledger'⟩ := Course.identify_eq_ok_iff.mp hcourse
    have hledger' : d'.ledger = .identified subject.description := hledger'
    refine ⟨⟨hopen', ?_, 0, ?_, orderly_steps p⟩, hkept, ?_⟩
    · rw [hledger']
      exact Option.some_ne_none _
    · rw [hledger']
      rfl
    · rw [hledger', hledger]
      rfl
  | error halt d' =>
    rw [hidentify] at hmirror hkept
    obtain ⟨hcourse, hopen'⟩ := hmirror
    refine ⟨hopen', hkept, hledger ▸ Nat.zero_le _, ?_⟩
    rcases Course.identify_eq_error hcourse with ⟨i, rfl, -⟩ | ⟨answer, -, hends⟩
    · trivial
    rcases hends with ⟨v, rfl, hjudge, hledger'⟩ | ⟨fault, rfl⟩
    · have hcheck : v.check = .describe := (Check.succeed_names hjudge).1
      have hledger' : d'.ledger = .empty := hledger'
      refine ⟨rfl, ?_, ?_⟩
      · rw [hcheck]
        decide
      · rw [hledger']
        exact iff_of_true rfl hcheck
    · rfl

/-! ## Scenarios -/

/-- **A scenario** is passed and written down when its body passes, and has only begun if not. -/
theorem scenario_ends {body : Audit σ α}
    (h : BodyEnds s rest (s.tally p) (d.note (.scenarioStarted (.text s.name)))
      (body (d.note (.scenarioStarted (.text s.name))))) :
    match scenario s body d with
    | .ok _ d' => d'.Ready rest ∧ d.Passes p [s] d'
    | .error halt d' => d'.session.closed = false ∧ d.Begins s d' ∧ halt.Fits s d'.ledger := by
  have hstarted : (d.note (.scenarioStarted (.text s.name))).notices =
    d.notices ++ [.scenarioStarted (.text s.name)] := Desk.notices_note _
  rw [scenario_apply]
  generalize body _ = r at h ⊢
  cases r with
  | ok a d₁ =>
    obtain ⟨⟨hopen, hdescribed, horder⟩, hwritten, hchecks⟩ := h
    have hchecks : d₁.ledger.checks = d.ledger.checks + s.tally p := hchecks
    have hnotices : d₁.notices = d.notices ++ [.scenarioStarted (.text s.name)] :=
      (congrArg (·.1) hwritten).trans hstarted
    have hhistory : d₁.ledger.history = d.ledger.history := congrArg (·.2.1) hwritten
    have hphase : d₁.ledger.phase = d.ledger.phase := by
      rw [Ledger.phase, hhistory, Ledger.phase]
    refine ⟨⟨hopen, hdescribed, horder⟩, ?_, ?_, ?_, hchecks⟩
    · rw [Desk.notices_pass, hnotices, hphase, hchecks, Nat.add_sub_cancel_left, List.append_assoc]
      rfl
    · exact congrArg (· ++ [s.target]) hhistory
    · exact congrArg (· ++ [s]) (congrArg (·.2.2) hwritten)
  | error halt d₁ =>
    obtain ⟨hopen, hwritten, hchecks, hfits⟩ := h
    exact ⟨hopen, ⟨(congrArg (·.1) hwritten).trans hstarted, congrArg (·.2.1) hwritten,
      congrArg (·.2.2) hwritten, hchecks⟩, hfits⟩

/-- **The scenarios after the first**, one after the other. -/
theorem scenarios_ends (subject : Subject) {xs : List Scenario} (hxs : .description ∉ xs)
    (hd : d.Ready (xs.flatMap (Scenario.steps p))) :
    match scenarios t p subject xs d with
    | .ok _ d' => d'.Ready [] ∧ d.Passes p xs d'
    | .error halt d' => d'.session.closed = false ∧ ∃ before s after d₁,
        xs = before ++ s :: after ∧ d.Passes p before d₁ ∧ d₁.Begins s d' ∧
        halt.Fits s d'.ledger := by
  induction xs generalizing d with
  | nil => exact ⟨hd, .refl p d⟩
  | cons s xs ih =>
    rw [List.mem_cons, not_or] at hxs
    obtain ⟨hs, hxs⟩ := hxs
    have hplan : (s :: xs).flatMap (Scenario.steps p) =
        (s.slots p).map .ask ++ (.pass s :: xs.flatMap (Scenario.steps p)) := by
      rw [List.flatMap_cons, Scenario.steps, List.append_assoc]
      rfl
    have htally : s.tally p = ((s.slots p).map Slot.checks).sum := by
      rw [Scenario.tally, if_neg (Ne.symm hs), Nat.zero_add]
    have hbody : BodyEnds s (.pass s :: xs.flatMap (Scenario.steps p)) (s.tally p)
        (d.note (.scenarioStarted (.text s.name)))
        (follow t p s subject (d.note (.scenarioStarted (.text s.name)))) := by
      rw [htally]
      exact follow_ends ⟨hd.isOpen, hd.described, hplan ▸ hd.order⟩
    have hfirst := scenario_ends hbody
    simp only [scenarios, Bind.bind, EStateM.bind]
    generalize scenario s (follow t p s subject) d = r at hfirst ⊢
    cases r with
    | error halt d₁ =>
      obtain ⟨hopen, hbegins, hfits⟩ := hfirst
      exact ⟨hopen, [], s, xs, d, rfl, .refl p d, hbegins, hfits⟩
    | ok _ d₁ =>
      obtain ⟨⟨hopen, hdescribed, horder⟩, hpasses⟩ := hfirst
      have hrest := ih hxs ⟨hopen, hdescribed, horder⟩
      simp only
      generalize scenarios t p subject xs d₁ = r at hrest ⊢
      cases r with
      | ok _ d₂ => exact ⟨hrest.1, hpasses.cons hrest.2⟩
      | error halt d₂ =>
        obtain ⟨hopen', before, s', after, d₃, rfl, hpasses', hbegins, hfits⟩ := hrest
        exact ⟨hopen', s :: before, s', after, d₃, rfl, hpasses.cons hpasses', hbegins, hfits⟩

/-- **The account of an audit.** It passes all scenarios and is done; or it stops in one, having
passed those before it. -/
theorem conduct_ends (hopen : d.session.closed = false) (hledger : d.ledger = .empty) :
    match conduct t p d with
    | .ok _ d' => ∃ d₁, d₁.session.closed = false ∧ d₁.ledger.description ≠ none ∧
        d.Passes p Scenario.all d₁ ∧ d' = d₁.transition .done
    | .error halt d' => d'.session.closed = false ∧ ∃ before s after d₁,
        Scenario.all = before ++ s :: after ∧ d.Passes p before d₁ ∧ d₁.Begins s d' ∧
        halt.Fits s d'.ledger := by
  let later : List Step := Scenario.all.tail.flatMap (Scenario.steps p)
  have hplan : p.steps =
      (Scenario.description.slots p).map .ask ++ (.pass .description :: later) := by
    show Scenario.description.steps p ++ later = _
    rw [Scenario.steps, List.append_assoc]
    rfl
  have hbody : BodyEnds .description (.pass .description :: later) (Scenario.description.tally p)
      (d.note (.scenarioStarted (.text Scenario.description.name)))
      ((do let subject ← identify t
           follow t p .description subject
           pure subject : Audit σ Subject)
        (d.note (.scenarioStarted (.text Scenario.description.name)))) := by
    have hidentify := identify_ends (t := t) (p := p)
      (d := d.note (.scenarioStarted (.text Scenario.description.name))) hopen hledger
    refine hidentify.bind fun subject d₁ hd₁ => ?_
    rw [hplan] at hd₁
    exact (follow_ends hd₁).bind fun _ d₂ hd₂ => bodyEnds_pure hd₂
  have hfirst := scenario_ends hbody
  simp only [conduct]
  simp only [Bind.bind, EStateM.bind] at hfirst ⊢
  generalize scenario .description _ d = r at hfirst ⊢
  cases r with
  | error halt d₁ =>
    obtain ⟨hopen', hbegins, hfits⟩ := hfirst
    exact ⟨hopen', [], .description, Scenario.all.tail, d, rfl, .refl p d, hbegins, hfits⟩
  | ok subject d₁ =>
    obtain ⟨⟨hopen', hdescribed, horder⟩, hpasses⟩ := hfirst
    have hready : d₁.Ready (Scenario.all.tail.flatMap (Scenario.steps p)) :=
      ⟨hopen', hdescribed, horder⟩
    have hrest := scenarios_ends (t := t) subject (by decide) hready
    simp only
    generalize scenarios t p subject Scenario.all.tail d₁ = r at hrest ⊢
    cases r with
    | ok _ d₂ =>
      obtain ⟨⟨hopen'', hdescribed', -⟩, hpasses'⟩ := hrest
      exact ⟨d₂, hopen'', hdescribed', hpasses.cons hpasses', rfl⟩
    | error halt d₂ =>
      obtain ⟨hopen'', before, s, after, d₃, hall, hpasses', hbegins, hfits⟩ := hrest
      refine ⟨hopen'', .description :: before, s, after, d₃, ?_, hpasses.cons hpasses', hbegins,
        hfits⟩
      show .description :: Scenario.all.tail = _
      rw [hall]
      rfl

end Audit

end EnclaveAudit
