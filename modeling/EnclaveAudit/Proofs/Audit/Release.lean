import EnclaveAudit.Proofs.Audit.Requests

/-!
# `EnclaveAudit/Proofs/Audit/Release.lean` — a transport that was acquired is released

What an audit does with a transport is a conversation: requests that are answered, one after the
other, and at most one at the end that is not. `Course.Converses` says that of a course. It is
closed under everything that courses are made of, so it holds of the whole, and nothing has to be
known of the plan.

Around the conversation stand the acquisition and the release. A run that could not acquire the
transport does nothing else with it; one that could releases it once, as the last thing it does,
whichever way it ended (`Auditor.run_uses`). An interruption is what the run ends in, unchanged.
-/

set_option autoImplicit false

namespace EnclaveAudit

/-! ## Conversations -/

namespace Course

variable {σ α β : Type}

/-- From this device on, the end is that of a conversation: the device answered everything, or it
did not answer what it was asked last, and that is the end. -/
inductive Converse (t : Transport σ) (d : σ) : EStateM.Result Halt (Standing σ) α → Prop
  | answered {r : EStateM.Result Halt (Standing σ) α} (pairs : List (Value × Value))
    (hreplies : t.Replies d pairs (last r).device)
    (hr : ∀ i st, r ≠ .error (.interrupted i) st) : Converse t d r
  | interrupted {st : Standing σ} {d' : σ} {i : Interruption} (pairs : List (Value × Value))
    (request : Value) (hreplies : t.Replies d pairs d')
    (hi : (t.exchange request d').result = .error i)
    (hst : st.device = (t.exchange request d').device) :
    Converse t d (.error (.interrupted i) st)

/-- A conversation goes on after one in which everything was answered. -/
theorem Converse.after {t : Transport σ} {d d' : σ} {pairs : List (Value × Value)}
    {r : EStateM.Result Halt (Standing σ) α} (h : Converse t d' r) (hpairs : t.Replies d pairs d') :
    Converse t d r := by
  cases h with
  | answered pairs' hreplies hr =>
    exact .answered _ (Transport.Replies.append.mpr ⟨d', hpairs, hreplies⟩) hr
  | interrupted pairs' request hreplies hi hst =>
    exact .interrupted _ request (Transport.Replies.append.mpr ⟨d', hpairs, hreplies⟩) hi hst

/-- All that is done with the device is to converse with it. -/
def Converses (t : Transport σ) (m : Course σ α) : Prop :=
  ∀ st : Standing σ, Converse t st.device (m st)

section

variable {t : Transport σ} {p : Parameters}

theorem Converses.bind {m : Course σ α} {f : α → Course σ β} (hm : Converses t m)
    (hf : ∀ a, Converses t (f a)) : Converses t (m >>= f) := by
  intro st
  have h := hm st
  simp only [Bind.bind, EStateM.bind]
  generalize m st = r at h ⊢
  cases r with
  | ok a st' =>
    cases h with
    | answered pairs hreplies hr => exact (hf a st').after hreplies
  | error halt st' =>
    cases h with
    | answered pairs hreplies hr =>
      refine .answered pairs hreplies fun i st' h => ?_
      cases h
      exact hr i st' rfl
    | interrupted pairs request hreplies hi hst => exact .interrupted pairs request hreplies hi hst

/-- What leaves the device alone, and is not an interruption, is a conversation without words. -/
theorem Converse.silent {d : σ} {r : EStateM.Result Halt (Standing σ) α}
    (hdevice : (last r).device = d) (hr : ∀ i st, r ≠ .error (.interrupted i) st) :
    Converse t d r :=
  .answered [] hdevice hr

theorem converses_pure (a : α) : Converses t (pure a) :=
  fun _ => .silent rfl fun _ _ h => nomatch h

theorem converses_unusable (fault : DescriptionFault) :
    Converses t (throw (.unusable fault) : Course σ α) := by
  intro st
  refine Converse.silent rfl fun i st' h => ?_
  cases h

/-- What is done to the ledger alone. -/
theorem converses_modify (f : Ledger → Ledger) :
    Converses t (modify fun st => { st with ledger := f st.ledger }) :=
  fun _ => .silent rfl fun _ _ h => nomatch h

theorem converses_judge (s : Scenario) (j : Judgement α) : Converses t (judge s j) := by
  intro st
  apply Converse.silent
  · unfold judge
    cases j st.ledger <;> rfl
  · intro i st' h
    obtain ⟨-, v, hv, -⟩ := judge_eq_error_iff.mp h
    cases hv

theorem converses_ask (operation : Operation) : Converses t (ask t operation) := by
  intro st
  unfold ask
  split
  · next answer h => exact .answered [(operation.request, answer)] ⟨h, rfl⟩ fun _ _ h => nomatch h
  · next i h => exact .interrupted [] operation.request rfl h rfl

theorem converses_identify : Converses t (identify t) := by
  refine (converses_ask _).bind fun outcome => ?_
  refine (converses_judge .description _).bind fun description => ?_
  refine (converses_modify fun l => { l with description := some description }).bind fun _ => ?_
  cases Contract.ofDescription description with
  | error fault => exact converses_unusable fault
  | ok contract => exact (converses_judge .description _).bind fun _ => converses_pure _

theorem converses_step (s : Subject) (x : Step) : Converses t (step t p s x) := by
  cases x with
  | pass scenario => exact converses_modify (Ledger.pass scenario)
  | ask x =>
    have hprobe : Converses t (probe t p s x) :=
      (converses_ask _).bind fun _ => converses_judge x.scenario _
    exact hprobe.bind fun _ => converses_judge x.scenario _

theorem converses_steps (s : Subject) (xs : List Step) : Converses t (steps t p s xs) := by
  induction xs with
  | nil => exact converses_pure ()
  | cons x xs ih => exact (converses_step s x).bind fun _ => ih

/-- **An audit converses** with the device and does nothing else with it. -/
theorem converses_whole (t : Transport σ) (p : Parameters) : Converses t (whole t p) :=
  converses_identify.bind fun s =>
    (converses_steps s p.steps).bind fun _ => converses_modify Ledger.finish

/-- An audit ends in an interruption exactly when its course does. -/
theorem conclude_eq_interrupted_iff {name runId : String} {now : Instant} {i : Interruption}
    {r : EStateM.Result Halt (Standing σ) α} :
    conclude name runId now r = .error (.interrupted i) ↔ ∃ st, r = .error (.interrupted i) st := by
  cases r with
  | ok a st => simp [conclude]
  | error halt st =>
    cases halt with
    | violated s v =>
      simp only [conclude]
      split_ifs <;> simp
    | unusable fault =>
      simp only [conclude, Setback.ofFault]
      split_ifs <;> simp
    | interrupted i' => simp [conclude]

end

end Course

/-! ## Uses -/

section

variable {σ : Type} {t : Transport σ}

/-- A dialogue with a recording is one with the device, each request of which was one use. -/
theorem Recorded.uses_of_replies {pairs : List (Value × Value)} {r r' : Recorded σ}
    (h : t.recorded.Replies r pairs r') :
    r'.uses.toList = r.uses.toList ++ pairs.map fun pair => .exchange pair.1 := by
  induction pairs generalizing r with
  | nil =>
    obtain rfl : r' = r := h
    simp
  | cons pair pairs ih =>
    have hrest := ih h.2
    rw [hrest]
    simp [Transport.recorded, Recorded.after]

/-- **What a run does with a transport.** If it cannot be acquired, the run ends in the interruption
and does nothing else with it. If it can, the run sends requests, and releases the transport once
and last. Either all requests were answered, and the run does not end in an interruption; or the
last one was not, and the run ends in what interrupted it. -/
theorem Auditor.run_uses (a : Auditor) (t : Transport σ) (runId : String) (now : Instant)
    (device : σ) :
    let opened := t.acquire device
    let c := a.run t.recorded runId now { device }
    (∀ i, opened.result = .error i →
      c.outcome = .error (.interrupted i) ∧ c.device.uses.toList = [.acquire]) ∧
    (opened.result = .ok () → ∃ pairs d, t.Replies opened.device pairs d ∧
      ((c.device.uses.toList =
          .acquire :: (pairs.map fun pair => .exchange pair.1) ++ [.release] ∧
        ∀ i, c.outcome ≠ .error (.interrupted i)) ∨
      ∃ request i, (t.exchange request d).result = .error i ∧
        c.device.uses.toList =
          .acquire :: (pairs.map fun pair => .exchange pair.1) ++ [.exchange request, .release] ∧
        c.outcome = .error (.interrupted i))) := by
  intro opened c
  constructor
  · intro i hi
    have hi : (t.recorded.acquire { device }).result = .error i := hi
    obtain ⟨houtcome, hdevice⟩ := a.run_of_not_acquired runId now hi
    exact ⟨houtcome, by rw [hdevice]; rfl⟩
  · intro hopened
    have hopened : (t.recorded.acquire { device }).result = .ok () := hopened
    obtain ⟨houtcome, hdevice⟩ := a.run_concludes runId now hopened
    have hconverse := Course.converses_whole t.recorded a.parameters
      ⟨(t.recorded.acquire { device }).device, .empty⟩
    have hstart : (t.recorded.acquire { device }).device.uses.toList = [.acquire] := rfl
    have huses : ∀ r : Recorded σ,
        (t.recorded.release r).2.uses.toList = r.uses.toList ++ [.release] := fun r =>
      Array.toList_push
    rw [hdevice, huses]
    generalize Course.whole t.recorded a.parameters _ = ending at hconverse houtcome ⊢
    cases hconverse with
    | answered pairs hreplies hr =>
      refine ⟨pairs, _, (Recorded.of_replies hreplies).2, .inl ⟨?_, fun i hi => ?_⟩⟩
      · rw [Recorded.uses_of_replies hreplies, hstart]
        rfl
      · obtain ⟨st, hst⟩ := Course.conclude_eq_interrupted_iff.mp (houtcome.symm.trans hi)
        exact hr i st hst
    | interrupted pairs request hreplies hi hst =>
      refine ⟨pairs, _, (Recorded.of_replies hreplies).2, .inr ⟨request, _, hi, ?_, houtcome⟩⟩
      have hlast : ∀ r : Recorded σ, (t.recorded.exchange request r).device.uses.toList =
          r.uses.toList ++ [.exchange request] := fun r => Array.toList_push
      rw [Course.last, hst, hlast, Recorded.uses_of_replies hreplies, hstart]
      simp

end

end EnclaveAudit
