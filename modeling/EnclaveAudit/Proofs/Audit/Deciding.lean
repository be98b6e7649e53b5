import EnclaveAudit.Proofs.Audit.Judging
import EnclaveAudit.Proofs.Device.Answer

/-!
# `EnclaveAudit/Proofs/Audit/Deciding.lean` — rules for exact acceptance

A triple says what holds after a judgement that passes. To say which devices pass an audit one also
needs when it passes, and *exactly* when. `Judgement.Decides` is a triple with a third part: from a
ledger with `I`, the judgement passes if and only if `A` holds, and then the ledger has `J`.

The rules are those of triples (sequence, consequence, and one rule for all loops,
`decides_flatMap`), and the conditions of the parts add up to the condition of the whole. What
stands between two parts is an invariant of the ledger and never its exact value.
-/

set_option autoImplicit false

namespace EnclaveAudit

/-- From a ledger with `I`, the judgement passes exactly if `A`, and the ledger has `J` then. -/
def Judgement.Decides (m : Judgement Unit) (I : Ledger → Prop) (A : Prop) (J : Ledger → Prop) :
    Prop :=
  ∀ l, I l → ((∃ l', m l = .ok () l') ↔ A) ∧ ∀ l', m l = .ok () l' → J l'

namespace Judgement.Decides

variable {m n : Judgement Unit} {I I' J J' K : Ledger → Prop} {A A' B : Prop}

theorem bind (hm : m.Decides I A J) (hn : A → n.Decides J B K) :
    (do m; n : Judgement Unit).Decides I (A ∧ B) K := by
  intro l hl
  obtain ⟨hpass, hJ⟩ := hm l hl
  constructor
  · constructor
    · rintro ⟨l', h⟩
      obtain ⟨_, l₁, h₁, h₂⟩ := bind_eq_ok_iff.mp h
      have hA := hpass.mp ⟨l₁, h₁⟩
      exact ⟨hA, ((hn hA l₁ (hJ l₁ h₁)).1).mp ⟨l', h₂⟩⟩
    · rintro ⟨hA, hB⟩
      obtain ⟨l₁, h₁⟩ := hpass.mpr hA
      obtain ⟨l', h₂⟩ := ((hn hA l₁ (hJ l₁ h₁)).1).mpr hB
      exact ⟨l', bind_eq_ok_iff.mpr ⟨(), l₁, h₁, h₂⟩⟩
  · intro l' h
    obtain ⟨_, l₁, h₁, h₂⟩ := bind_eq_ok_iff.mp h
    exact (hn (hpass.mp ⟨l₁, h₁⟩) l₁ (hJ l₁ h₁)).2 l' h₂

theorem imp (hm : m.Decides I A J) (hI : ∀ l, I' l → I l) (hA : A ↔ A') (hJ : ∀ l, J l → J' l) :
    m.Decides I' A' J' := fun l hl =>
  ⟨(hm l (hI l hl)).1.trans hA, fun l' h => hJ l' ((hm l (hI l hl)).2 l' h)⟩

theorem congr (hm : m.Decides I A J) (hA : A ↔ A') : m.Decides I A' J :=
  hm.imp (fun _ => id) hA fun _ => id

/-- A judgement that takes a ledger to another exactly if `A`. -/
theorem of_ok_iff {f : Ledger → Ledger} (h : ∀ l l', I l → (m l = .ok () l' ↔ A ∧ l' = f l))
    (hJ : ∀ l, I l → A → J (f l)) : m.Decides I A J := by
  intro l hl
  constructor
  · constructor
    · rintro ⟨l', hm⟩
      exact ((h l l' hl).mp hm).1
    · intro hA
      exact ⟨f l, (h l _ hl).mpr ⟨hA, rfl⟩⟩
  · intro l' hm
    obtain ⟨hA, rfl⟩ := (h l l' hl).mp hm
    exact hJ l hl hA

theorem pure : (Pure.pure () : Judgement Unit).Decides I True I :=
  of_ok_iff (f := id) (fun _ _ _ => by rw [pure_eq_ok_iff]; simp [eq_comm]) fun _ hl _ => hl

end Judgement.Decides

/-! ## Examinations -/

section

open Judgement

variable {p : Parameters} {s : Subject} {given : Slot → Value} {I J K : Ledger → Prop} {A B : Prop}

theorem decides_nil : (examine p s given []).Decides I True I := Decides.pure

theorem decides_append {xs ys : List Step} (hxs : (examine p s given xs).Decides I A J)
    (hys : A → (examine p s given ys).Decides J B K) :
    (examine p s given (xs ++ ys)).Decides I (A ∧ B) K := by
  rw [examine_append]
  exact hxs.bind hys

/-- Examining at one place is reviewing the answer there. -/
theorem decides_ask {x : Slot} (h : (x.review p s (given x)).Decides I A J) :
    (examine p s given [.ask x]).Decides I A J :=
  (h.bind fun _ => decides_nil).congr (and_iff_left trivial)

/-- Passing a scenario changes nothing that a condition is about. -/
theorem decides_pass (scenario : Scenario) (hI : ∀ l, I l → I (l.pass scenario)) :
    (examine p s given [.pass scenario]).Decides I True I := by
  have hpass : (modify (Ledger.pass scenario) : Judgement Unit).Decides I True I :=
    .of_ok_iff (f := Ledger.pass scenario) (fun l l' _ => by rw [modify_eq_ok_iff, true_and])
      fun l hl _ => hI l hl
  exact (hpass.bind fun _ => decides_nil).congr (and_iff_left trivial)

/-- **The rule for loops**: parts that are numbered, with an invariant that is numbered too. -/
theorem decides_flatMap {part : Nat → List Step} {I : Nat → Ledger → Prop} {A : Nat → Prop}
    (n a : Nat) (h : ∀ i, a ≤ i → i < a + n →
      (examine p s given (part i)).Decides (I i) (A i) (I (i + 1))) :
    (examine p s given ((List.range' a n).flatMap part)).Decides (I a)
      (∀ i, a ≤ i → i < a + n → A i) (I (a + n)) := by
  induction n generalizing a with
  | zero =>
    refine decides_nil.congr ?_
    simp only [true_iff]
    intro i hle hlt
    omega
  | succ n ih =>
    have hfirst := h a le_rfl (by omega)
    have hrest := ih (a + 1) fun i hle hlt => h i (by omega) (by omega)
    rw [List.range'_succ, List.flatMap_cons]
    have hend : a + 1 + n = a + (n + 1) := by omega
    rw [hend] at hrest
    refine (decides_append hfirst fun _ => hrest).congr ?_
    constructor
    · rintro ⟨hA, hall⟩ i hle hlt
      rcases Nat.eq_or_lt_of_le hle with rfl | hgt
      · exact hA
      · exact hall i hgt hlt
    · intro hall
      exact ⟨hall a le_rfl (by omega), fun i hle hlt => hall i (by omega) hlt⟩

/-- The rule for a loop over places. -/
theorem decides_range' {x : Nat → Slot} {I : Nat → Ledger → Prop} {A : Nat → Prop} (a n : Nat)
    (h : ∀ i, a ≤ i → i < a + n →
      ((x i).review p s (given (x i))).Decides (I i) (A i) (I (i + 1))) :
    (examine p s given (((List.range' a n).map x).map .ask)).Decides (I a)
      (∀ i, a ≤ i → i < a + n → A i) (I (a + n)) := by
  have hloop := decides_flatMap n a fun i hle hlt => decides_ask (h i hle hlt)
  rw [← List.map_eq_flatMap] at hloop
  rw [List.map_map]
  exact hloop

/-- The rule for rounds. -/
theorem decides_rounds {part : Nat → List Slot} {I : Nat → Ledger → Prop} {A : Nat → Prop} (n : Nat)
    (h : ∀ k < n, (examine p s given ((part k).map .ask)).Decides (I k) (A k) (I (k + 1))) :
    (examine p s given (((List.range n).flatMap part).map .ask)).Decides (I 0)
      (∀ k < n, A k) (I n) := by
  have hloop := decides_flatMap n 0 fun k _ hlt => h k (by omega)
  rw [← List.map_flatMap, ← List.range_eq_range', Nat.zero_add] at hloop
  exact hloop.congr ⟨fun hall k hk => hall k (Nat.zero_le k) hk, fun hall k _ hk => hall k hk⟩

/-- The rule for places that leave the ledger as it is, but for the count. -/
theorem decides_steady {Answered : Slot → Prop} (hI : ∀ l n, I l → I (l.count n))
    {xs : List Slot} (h : ∀ x ∈ xs, ∀ l l', x.review p s (given x) l = .ok () l' ↔
      Answered x ∧ l' = l.count 1) :
    (examine p s given (xs.map .ask)).Decides I (∀ x ∈ xs, Answered x) I := by
  induction xs with
  | nil => exact decides_nil.congr (by simp)
  | cons x xs ih =>
    obtain ⟨hx, hxs⟩ := List.forall_mem_cons.mp h
    have hfirst : (x.review p s (given x)).Decides I (Answered x) I :=
      .of_ok_iff (fun l l' _ => hx l l') fun l hl _ => hI l 1 hl
    have hrest := ih hxs
    exact (decides_append (decides_ask hfirst) fun _ => hrest).congr List.forall_mem_cons.symm

end

end EnclaveAudit
