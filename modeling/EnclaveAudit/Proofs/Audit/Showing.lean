import EnclaveAudit.Proofs.Audit.Judging

/-!
# `EnclaveAudit/Proofs/Audit/Showing.lean` — what a violation shows

A violation shows what was expected and what was observed. In an audit both are words or octets,
whichever check fails and whatever the device answered, with one exception: the registers that are
locked when the machine starts are shown as the numbers that they are, and of these the observed ones
are the device's own choice. `Violation.Shows` says so, of a device that lists certain registers as
locked, and is closed under everything that checks and judgements are made of.
-/

set_option autoImplicit false

namespace EnclaveAudit

/-- Whether a value is a text or an octet string. -/
def Value.isString : Value → Bool
  | .text _ | .bytes _ => true
  | _ => false

/-- What a violation shows, of a device that lists these registers as locked. -/
inductive Violation.Shows (listed : List Int) : Violation → Prop
  | strings {check : Check} {expected observed : Value} {register : Option Int}
    (hexpected : expected.isString = true) (hobserved : observed.isString = true) :
    Shows listed ⟨check, expected, observed, register⟩
  | lockedSet : Shows listed ⟨.initialLockedSet,
      .array (((List.range bootLockedCount).map Int.ofNat).map .int),
      .array (listed.mergeSort.map .int), none⟩

variable {listed : List Int}

/-! ## Checks -/

namespace Check

variable {α β : Type}

/-- A check shows what a violation may show, if it fails. -/
def Shows (listed : List Int) (o : Except Violation α) : Prop := ∀ v, o = .error v → v.Shows listed

theorem Shows.bind {o : Except Violation α} {f : α → Except Violation β} (h : Shows listed o)
    (hf : ∀ a, Shows listed (f a)) : Shows listed (o >>= f) := by
  intro v hv
  rcases bind_eq_error_iff.mp hv with hv | ⟨a, -, hv⟩
  · exact h v hv
  · exact hf a v hv

theorem shows_pure (a : α) : Shows listed (pure a) := fun _ h => absurd h pure_ne_error

theorem shows_require (holds : Bool) {v : Violation} (h : v.Shows listed) :
    Shows listed (require holds v) := by
  intro w hw
  obtain ⟨-, rfl⟩ := require_eq_error_iff.mp hw
  exact h

theorem shows_forM {f : α → Except Violation Unit} (h : ∀ a, Shows listed (f a)) (xs : List α) :
    Shows listed (xs.forM f) := by
  intro v hv
  obtain ⟨a, -, hv⟩ := forM_eq_error hv
  exact h a v hv

theorem shows_succeed (check : Check) (r : Option Int) (o : Except Status α) :
    Shows listed (succeed check r o) := by
  intro v hv
  cases o with
  | ok a => cases hv
  | error status =>
    cases hv
    exact .strings rfl rfl

theorem shows_refused (check : Check) (r : Option Int) (o : Except Status α) :
    Shows listed (refused check r o) := by
  intro v hv
  cases o with
  | ok a =>
    cases hv
    exact .strings rfl rfl
  | error status =>
    simp only [refused] at hv
    split at hv
    · cases hv
      exact .strings rfl rfl
    · cases hv

theorem shows_judgeRead (i : Int) (c : Contract) (o : Except Status Operation.Reading) :
    Shows listed (judgeRead i c o) :=
  (shows_succeed _ _ o).bind fun _ => (shows_require _ (.strings rfl rfl)).bind fun _ =>
    shows_pure _

theorem shows_judgeExtend (i : Int) (c : Contract) (o : Except Status Bytes) :
    Shows listed (judgeExtend i c o) :=
  (shows_succeed _ _ o).bind fun _ => (shows_require _ (.strings rfl rfl)).bind fun _ =>
    (shows_require _ (.strings rfl rfl)).bind fun _ => shows_pure _

theorem shows_judgeDocument (ceiling : Int) (o : Except Status Bytes) :
    Shows listed (judgeDocument ceiling o) :=
  (shows_succeed _ _ o).bind fun _ => (shows_require _ (.strings rfl rfl)).bind fun _ =>
    (shows_require _ (.strings rfl rfl)).bind fun _ => shows_pure _

theorem shows_judgeRandom (length : Int) (previous : Option Bytes) (o : Except Status Bytes) :
    Shows listed (judgeRandom length previous o) := by
  refine (shows_succeed _ _ o).bind fun sample => ?_
  have hsample : Shows listed (requireSample sample previous length) :=
    (shows_require _ (.strings rfl rfl)).bind fun _ =>
      (shows_require _ (.strings rfl rfl)).bind fun _ => shows_require _ (.strings rfl rfl)
  exact hsample.bind fun _ => shows_pure _

theorem shows_requireInitialValue (c : Contract) (r : Register) :
    Shows listed (requireInitialValue c r) := by
  unfold requireInitialValue
  split
  · exact shows_require _ (.strings rfl rfl)
  · exact shows_require _ (.strings rfl rfl)
  · exact shows_pure ()

theorem shows_requirePostLock (r : Register) (c : Contract) : Shows listed (requirePostLock r c) := by
  refine (shows_require _ (.strings rfl rfl)).bind fun _ => ?_
  split <;> exact shows_require _ (.strings rfl rfl)

theorem shows_requireLockMonotonic (previous : Option Register) (r : Register) :
    Shows listed (requireLockMonotonic previous r) := by
  cases previous with
  | none => exact shows_pure ()
  | some p => exact shows_require _ (.strings rfl rfl)

theorem shows_requireValueStable (previous : Option Register) (r : Register) :
    Shows listed (requireValueStable previous r) := by
  cases previous with
  | none => exact shows_pure ()
  | some p => exact shows_require _ (.strings rfl rfl)

/-- Only here are numbers shown, and they are those of the description. -/
theorem shows_requireInitialLockedSet (d : Description) (c : Contract) :
    Shows d.lockedRegisters (requireInitialLockedSet d c) :=
  (shows_require _ (.strings rfl rfl)).bind fun _ => shows_require _ .lockedSet

end Check

/-! ## Judgements -/

namespace Judgement

variable {α β : Type}

/-- A judgement shows what a violation may show, if it ends in one. -/
def Shows (listed : List Int) (j : Judgement α) : Prop :=
  ∀ l v l', j l = .error v l' → v.Shows listed

theorem Shows.bind {j : Judgement α} {f : α → Judgement β} (h : Shows listed j)
    (hf : ∀ a, Shows listed (f a)) : Shows listed (j >>= f) := by
  intro l v l' hv
  rcases bind_eq_error_iff.mp hv with hv | ⟨a, l₁, -, hv⟩
  · exact h l v l' hv
  · exact hf a l₁ v l' hv

theorem shows_pure (a : α) : Shows listed (pure a) := fun _ _ _ h => absurd h pure_ne_error

theorem shows_get : Shows listed get := fun _ _ _ h => absurd h get_ne_error

theorem shows_modify (f : Ledger → Ledger) : Shows listed (modify f) :=
  fun _ _ _ h => absurd h modify_ne_error

theorem Shows.discard {j : Judgement α} (h : Shows listed j) :
    Shows listed (Functor.discard j : Judgement PUnit) :=
  fun l v l' hv => h l v l' (discard_eq_error_iff.mp hv)

end Judgement

theorem Check.Shows.counted {α : Type} {o : Except Violation α} (h : Check.Shows listed o) :
    Judgement.Shows listed (Judgement.counted o) :=
  fun _ v _ hv => h v (Judgement.counted_eq_error_iff.mp hv).1

open Judgement (Shows shows_pure shows_get shows_modify)

/-- Whatever the outcome of a step is. -/
theorem Probe.shows_judge (p : Parameters) (c : Contract) (x : Probe)
    (outcome : Except Status x.operation.Result) : Shows listed (x.judge p c outcome) := by
  cases x with
  | attest userData nonce publicKey => exact (Check.shows_judgeDocument _ _).counted.discard
  | readFirst index => exact (Check.shows_judgeRead _ _ _).counted.bind fun _ => shows_modify _
  | relock index => exact (Check.shows_refused _ _ _).counted.discard
  | extend index data =>
    refine (Check.shows_judgeExtend _ _ _).counted.bind fun value => ?_
    refine shows_get.bind fun l => ?_
    cases l.bank[index]? with
    | none => exact shows_pure ()
    | some previous =>
      exact (Check.shows_require _ (.strings rfl rfl)).counted.bind fun _ => shows_modify _
  | lock index => exact (Check.shows_succeed _ _ _).counted
  | lockRange => exact (Check.shows_succeed _ _ _).counted
  | lockBeyond => exact (Check.shows_refused _ _ _).counted.discard
  | extendLocked index data => exact (Check.shows_refused _ _ _).counted.discard
  | readAgain index =>
    refine (Check.shows_judgeRead _ _ _).counted.bind fun r => ?_
    refine shows_get.bind fun l => ?_
    refine (Check.shows_requireLockMonotonic _ r).counted.bind fun _ => ?_
    refine (Check.shows_requirePostLock r c).counted.bind fun _ => ?_
    exact (Check.shows_requireValueStable _ r).counted.bind fun _ => shows_modify _
  | random length =>
    refine shows_get.bind fun l => ?_
    exact (Check.shows_judgeRandom _ _ _).counted.bind fun _ => shows_modify _

theorem Slot.shows_closing (s : Subject) (x : Slot) :
    Shows s.description.lockedRegisters (x.closing s) := by
  unfold Slot.closing
  split_ifs
  · refine shows_get.bind fun l => ?_
    refine (Check.shows_forM (Check.shows_requireInitialValue s.contract) _).counted.bind fun _ => ?_
    refine (Check.shows_requireInitialLockedSet s.description s.contract).counted.bind fun _ => ?_
    refine shows_get.bind fun l' => ?_
    exact (Check.shows_forM (fun _ => Check.shows_require _ (.strings rfl rfl)) _).counted
  · exact shows_pure ()

/-- What is made of an answer at a place of the script shows words or octets, or what the device
listed. -/
theorem Slot.shows_review (p : Parameters) (s : Subject) (x : Slot) (answer : Value) :
    Shows s.description.lockedRegisters (x.review p s answer) :=
  (Probe.shows_judge p s.contract _ _).bind fun _ => x.shows_closing s

end EnclaveAudit
