import EnclaveAudit.Proofs.Audit.Judging

/-!
# `EnclaveAudit/Proofs/Audit/Keeping.lean` — what is left alone

An audit writes down where it stands in three places: the notices of its trail, the states it went
through, the scenarios that passed. Only what stands around a scenario writes there
(`Audit.scenario`). What is done inside one, asking and judging, leaves all three as they are, and
once the device is described it leaves the description too.

`Keeps f m` says that `m` leaves `f` of the state alone, whichever way it ends. It is closed under
everything that judgements and audits are made of.
-/

set_option autoImplicit false

namespace EnclaveAudit

/-! ## Keeping -/

section

variable {ε τ α β γ δ : Type}

/-- The state that something ends in, either way. -/
def afterwards : EStateM.Result ε τ α → τ
  | .ok _ s | .error _ s => s

/-- What is done leaves this of the state as it is. -/
def Keeps (f : τ → γ) (m : EStateM ε τ α) : Prop := ∀ s, f (afterwards (m s)) = f s

variable {f : τ → γ}

theorem Keeps.bind {m : EStateM ε τ α} {g : α → EStateM ε τ β} (hm : Keeps f m)
    (hg : ∀ a, Keeps f (g a)) : Keeps f (m >>= g) := by
  intro s
  have h := hm s
  simp only [Bind.bind, EStateM.bind]
  generalize m s = r at h ⊢
  cases r with
  | ok a s' => exact (hg a s').trans h
  | error e s' => exact h

theorem keeps_pure (a : α) : Keeps f (pure a : EStateM ε τ α) := fun _ => rfl

theorem keeps_throw (e : ε) : Keeps f (throw e : EStateM ε τ α) := fun _ => rfl

theorem keeps_get : Keeps f (get : EStateM ε τ τ) := fun _ => rfl

theorem keeps_modify {g : τ → τ} (h : ∀ s, f (g s) = f s) :
    Keeps f (modify g : EStateM ε τ PUnit) := h

theorem Keeps.discard {m : EStateM ε τ α} (hm : Keeps f m) :
    Keeps f (Functor.discard m : EStateM ε τ PUnit) := by
  intro s
  have h := hm s
  simp only [Functor.discard, Functor.mapConst, Function.comp, EStateM.map]
  generalize m s = r at h ⊢
  cases r <;> exact h

/-- What is left alone is left alone in part. -/
theorem Keeps.part {m : EStateM ε τ α} (hm : Keeps f m) (g : γ → δ) : Keeps (fun s => g (f s)) m :=
  fun s => congrArg g (hm s)

end

/-! ## Judgements -/

/-- Where the audit stands, as its ledger says. -/
def Ledger.record (l : Ledger) : List Phase × List Scenario × Option Description :=
  (l.history, l.passed, l.description)

theorem keeps_counted {α : Type} (o : Except Violation α) :
    Keeps Ledger.record (Judgement.counted o) := by
  intro l
  cases o <;> rfl

theorem Probe.keeps_judge (p : Parameters) (c : Contract) (x : Probe)
    (outcome : Except Status x.operation.Result) : Keeps Ledger.record (x.judge p c outcome) := by
  cases x with
  | attest userData nonce publicKey => exact (keeps_counted _).discard
  | readFirst index => exact (keeps_counted _).bind fun _ => keeps_modify fun _ => rfl
  | relock index => exact (keeps_counted _).discard
  | extend index data =>
    refine (keeps_counted _).bind fun value => ?_
    refine keeps_get.bind fun l => ?_
    cases l.bank[index]? with
    | none => exact keeps_pure ()
    | some previous => exact (keeps_counted _).bind fun _ => keeps_modify fun _ => rfl
  | lock index => exact keeps_counted _
  | lockRange => exact keeps_counted _
  | lockBeyond => exact (keeps_counted _).discard
  | extendLocked index data => exact (keeps_counted _).discard
  | readAgain index =>
    refine (keeps_counted _).bind fun r => ?_
    refine keeps_get.bind fun l => ?_
    refine (keeps_counted _).bind fun _ => ?_
    refine (keeps_counted _).bind fun _ => ?_
    exact (keeps_counted _).bind fun _ => keeps_modify fun _ => rfl
  | random length =>
    refine keeps_get.bind fun l => ?_
    exact (keeps_counted _).bind fun _ => keeps_modify fun _ => rfl

theorem Scenario.keeps_closing (subject : Subject) (s : Scenario) :
    Keeps Ledger.record (s.closing subject) := by
  cases s with
  | initialRegisters =>
    refine keeps_get.bind fun l => ?_
    refine (keeps_counted _).bind fun _ => ?_
    refine (keeps_counted _).bind fun _ => ?_
    exact keeps_get.bind fun l' => keeps_counted _
  | description | locksAndExtension | attestation | randomness => exact keeps_pure ()

/-! ## Sessions -/

namespace Session

variable {σ : Type} {t : Transport σ} {s : Session σ}

theorem notices_note (n : Notice) : (s.note (.notice n)).notices = s.notices ++ [n] := by
  simp [notices, note, Entry.notice?]

theorem notices_note_of_none {e : Entry} (h : e.notice? = none) :
    (s.note e).notices = s.notices := by
  simp [notices, note, h]

/-- What a transport has to say is no notice. -/
theorem notices_used (device : σ) (remarks : List Remark) :
    (s.used device remarks).notices = s.notices := by
  simp [notices, used, Entry.notice?]

theorem notices_perform (operation : Operation) :
    (s.perform t operation).2.notices = s.notices := by
  unfold perform send
  split_ifs with hsend hclosed
  · rfl
  · dsimp only
    cases (t.exchange operation.request s.device).result with
    | ok answer =>
      dsimp only
      rw [notices_note_of_none rfl, notices_used, notices_note_of_none rfl]
    | error i =>
      dsimp only
      rw [notices_used, notices_note_of_none rfl]
  · rfl

theorem notices_close (hopen : s.closed = false) :
    (s.close t).notices = s.notices ++ [.sessionClosed (.text t.name)] := by
  unfold close
  rw [hopen, if_neg Bool.false_ne_true]
  dsimp only
  rw [notices_note, notices_used]
  rfl

end Session

/-! ## Audits -/

namespace Desk

variable {σ : Type}

/-- The notices of the trail. -/
def notices (d : Desk σ) : List Notice := d.session.notices

/-- Where the audit stands, as its trail and its ledger say. -/
def written (d : Desk σ) : List Notice × List Phase × List Scenario :=
  (d.notices, d.ledger.history, d.ledger.passed)

/-- Where it stands, and what the device said about itself. -/
def progress (d : Desk σ) : (List Notice × List Phase × List Scenario) × Option Description :=
  (d.written, d.ledger.description)

end Desk

namespace Audit

variable {σ α : Type} {t : Transport σ} {p : Parameters} {s : Subject}

theorem keeps_ask (operation : Operation) : Keeps Desk.progress (ask t operation) := by
  intro d
  have h := Session.notices_perform (t := t) (s := d.session) operation
  unfold ask
  generalize d.session.perform t operation = r at h ⊢
  obtain ⟨result, session⟩ := r
  let told (notices : List Notice) := ((notices, d.ledger.history, d.ledger.passed),
    d.ledger.description)
  cases result <;> exact congrArg told h

theorem keeps_judge {j : Judgement α} (scenario : Scenario) (hj : Keeps Ledger.record j) :
    Keeps Desk.progress (judge (σ := σ) scenario j) := by
  intro d
  have h := hj d.ledger
  unfold judge
  generalize j d.ledger = r at h ⊢
  cases r <;> exact congrArg (fun r => ((d.notices, r.1, r.2.1), r.2.2)) h

theorem keeps_probes (scenario : Scenario) (xs : List Probe) :
    Keeps Desk.progress (probes t p scenario s xs) := by
  induction xs with
  | nil => exact keeps_pure ()
  | cons x xs ih =>
    have hx : Keeps Desk.progress (probe t p scenario s x) :=
      (keeps_ask _).bind fun outcome => keeps_judge scenario (x.keeps_judge p s.contract outcome)
    exact hx.bind fun _ => ih

/-- **Inside a scenario** an audit does not write down where it stands. -/
theorem keeps_follow (scenario : Scenario) : Keeps Desk.progress (follow t p scenario s) := by
  unfold follow
  rw [stretches_eq_probes]
  exact (keeps_probes scenario _).bind fun _ => keeps_judge scenario (scenario.keeps_closing s)

theorem keeps_identify : Keeps Desk.written (identify t) := by
  refine ((keeps_ask _).part Prod.fst).bind fun outcome => ?_
  refine ((keeps_judge .description (keeps_counted _)).part Prod.fst).bind fun description => ?_
  refine Keeps.bind (fun _ => rfl) fun _ => ?_
  cases Contract.ofDescription description with
  | error fault => exact keeps_throw _
  | ok contract =>
    exact ((keeps_judge .description (keeps_counted _)).part Prod.fst).bind fun _ => keeps_pure _

end Audit

end EnclaveAudit
