import EnclaveAudit.Check.Bank
import EnclaveAudit.Proofs.Check.Passing

/-!
# `EnclaveAudit/Proofs/Check/InitialState.lean` — a bank as it is when the machine starts

Three checks look at a bank before anything was done to it: at the values, at the locks, and at the
list of locked registers in the description. The first two go through the registers and end at the
first that deviates, so each of them is exact in both directions: it passes when no register
deviates, and otherwise its violation is that of the one register that deviates with none before it
(`FirstOffender`). Which register deviates is said here by indices and octets, not by the layout
questions of the contract.

The third sorts what the description lists. A sorted list of sixteen that is `0, …, 15` is a
rearrangement of `0, …, 15`, so neither the order nor anything but the entries themselves matters.
-/

set_option autoImplicit false

namespace EnclaveAudit

namespace Check

/-! ## The first offender -/

/-- The first element of the list that is not as it must be. -/
def FirstOffender {α : Type} (P : α → Prop) (xs : List α) (x : α) : Prop :=
  ∃ before after, xs = before ++ x :: after ∧ (∀ y ∈ before, P y) ∧ ¬P x

section

variable {α : Type} {f : α → Except Violation Unit} {P : α → Prop} {blame : α → Violation}

theorem exists_firstOffender {xs : List α} (h : ¬∀ x ∈ xs, P x) : ∃ x, FirstOffender P xs x := by
  induction xs with
  | nil => exact absurd (fun x hx => absurd hx List.not_mem_nil) h
  | cons y xs ih =>
    by_cases hy : P y
    · have hrest : ¬∀ x ∈ xs, P x := fun hall => h (List.forall_mem_cons.mpr ⟨hy, hall⟩)
      obtain ⟨x, before, after, rfl, hbefore, hx⟩ := ih hrest
      exact ⟨x, y :: before, after, rfl, List.forall_mem_cons.mpr ⟨hy, hbefore⟩, hx⟩
    · exact ⟨y, [], xs, rfl, fun z hz => absurd hz List.not_mem_nil, hy⟩

/-- A check of several registers passes when each is as it must be. -/
theorem forM_passes_iff (hf : ∀ x, f x = .ok () ↔ P x) {xs : List α} :
    xs.forM f = .ok () ↔ ∀ x ∈ xs, P x := by
  rw [forM_eq_ok_iff]
  exact forall₂_congr fun x _ => hf x

/-- Otherwise it fails, and blames the first that is not. -/
theorem forM_fails_iff (hf : ∀ x, f x = .ok () ↔ P x)
    (hblame : ∀ x, ¬P x → f x = .error (blame x)) {xs : List α} {v : Violation} :
    xs.forM f = .error v ↔ ∃ x, FirstOffender P xs x ∧ v = blame x := by
  have hfails : ∀ {x}, FirstOffender P xs x → xs.forM f = .error (blame x) := by
    rintro x ⟨before, after, rfl, hbefore, hx⟩
    exact forM_append_cons_eq_error (hblame x hx) fun y hy => (hf y).mpr (hbefore y hy)
  constructor
  · intro h
    have hsome : ¬∀ x ∈ xs, P x := by
      rw [← forM_passes_iff hf, h]
      exact nofun
    obtain ⟨x, hx⟩ := exists_firstOffender hsome
    rw [hfails hx] at h
    exact ⟨x, hx, (Except.error.inj h).symm⟩
  · rintro ⟨x, hx, rfl⟩
    exact hfails hx

end

/-! ## Values and locks -/

/-- The register must be empty: there is nothing to measure into it. -/
def MustBeEmpty (r : Register) : Prop := r.index = 3 ∨ 5 ≤ r.index ∧ r.index ≤ 15

/-- The register must hold a measurement. -/
def MustBeMeasured (r : Register) : Prop := 0 ≤ r.index ∧ r.index ≤ 2 ∨ r.index = 4

instance (r : Register) : Decidable (MustBeEmpty r) :=
  inferInstanceAs (Decidable (r.index = 3 ∨ 5 ≤ r.index ∧ r.index ≤ 15))

instance (r : Register) : Decidable (MustBeMeasured r) :=
  inferInstanceAs (Decidable (0 ≤ r.index ∧ r.index ≤ 2 ∨ r.index = 4))

/-- The value is one that the register can have when the machine starts: as many zero octets as the
digest is wide where it must be empty, and anything else where it must not. -/
def BootValue (c : Contract) (r : Register) : Prop :=
  (MustBeEmpty r → r.value = List.replicate c.digestWidth 0) ∧
  (MustBeMeasured r → r.value ≠ List.replicate c.digestWidth 0)

/-- The register is locked when the machine starts, or is not, as it must be. -/
def BootLock (r : Register) : Prop := r.lock = true ↔ r.index < 16

/-- What is said about a register that has no such value. -/
def bootValueViolation (c : Contract) (r : Register) : Violation :=
  let zero : Value := .bytes (List.replicate c.digestWidth 0)
  if MustBeEmpty r then ⟨.initialValue, zero, .bytes r.value, some r.index⟩
  else ⟨.initialValue, .text "non-zero value", zero, some r.index⟩

/-- What is said about a register whose lock is wrong: the two words, the other way round. -/
def bootLockViolation (r : Register) : Violation :=
  if r.lock then ⟨.initialLockFlag, .text "unlocked", .text "locked", some r.index⟩
  else ⟨.initialLockFlag, .text "locked", .text "unlocked", some r.index⟩

theorem zeroAtBoot?_eq_some_true_iff {r : Register} :
    Contract.zeroAtBoot? r.index = some true ↔ MustBeEmpty r := by
  simp only [Contract.zeroAtBoot?, emptyBootRegisters, platformRegisters, parentInstanceRegister,
    MustBeEmpty, List.contains_iff_mem, List.map_cons, List.map_nil, List.mem_cons,
    List.not_mem_nil, or_false, Int.ofNat_eq_natCast]
  split_ifs with h
  · simp only [true_iff]; omega
  · simp only [Option.some.injEq, Bool.false_eq_true, false_iff]; omega
  · simp only [false_iff]; omega

theorem zeroAtBoot?_eq_some_false_iff {r : Register} :
    Contract.zeroAtBoot? r.index = some false ↔ MustBeMeasured r := by
  simp only [Contract.zeroAtBoot?, emptyBootRegisters, platformRegisters, parentInstanceRegister,
    MustBeMeasured, List.contains_iff_mem, List.map_cons, List.map_nil, List.mem_cons,
    List.not_mem_nil, or_false, Int.ofNat_eq_natCast, Bool.or_eq_true, beq_iff_eq]
  split_ifs with h h'
  · simp only [Option.some.injEq, Bool.true_eq_false, false_iff]; omega
  · simp only [true_iff]; omega
  · simp only [false_iff]; omega

theorem requireInitialValue_passes_iff {c : Contract} {r : Register} :
    requireInitialValue c r = .ok () ↔ BootValue c r := by
  rw [requireInitialValue_eq_ok_iff, zeroAtBoot?_eq_some_true_iff, zeroAtBoot?_eq_some_false_iff]
  rfl

theorem requireInitialValue_fails {c : Contract} {r : Register} (h : ¬BootValue c r) :
    requireInitialValue c r = .error (bootValueViolation c r) := by
  rw [← requireInitialValue_passes_iff] at h
  unfold requireInitialValue at h ⊢
  split at h
  · next hplace =>
    rw [bootValueViolation, if_pos (zeroAtBoot?_eq_some_true_iff.mp hplace)]
    exact require_eq_error_iff.mpr ⟨Bool.eq_false_iff.mpr (mt require_eq_ok_iff.mpr h), rfl⟩
  · next hplace =>
    have hempty : ¬MustBeEmpty r := by
      rw [← zeroAtBoot?_eq_some_true_iff, hplace]
      decide
    rw [bootValueViolation, if_neg hempty]
    exact require_eq_error_iff.mpr ⟨Bool.eq_false_iff.mpr (mt require_eq_ok_iff.mpr h), rfl⟩
  · exact absurd rfl h

theorem requireInitialLockFlag_passes_iff {r : Register} :
    requireInitialLockFlag r = .ok () ↔ BootLock r := by
  rw [requireInitialLockFlag_eq_ok_iff, Bool.eq_iff_iff, Contract.lockedAtBoot, decide_eq_true_eq]
  rfl

theorem requireInitialLockFlag_fails {r : Register} (h : ¬BootLock r) :
    requireInitialLockFlag r = .error (bootLockViolation r) := by
  have hother : Contract.lockedAtBoot r.index = !r.lock := by
    rw [← requireInitialLockFlag_passes_iff, requireInitialLockFlag_eq_ok_iff] at h
    exact (Bool.not_eq_eq_eq_not.mpr (Bool.eq_not_of_ne h)).symm
  rw [requireInitialLockFlag, hother, bootLockViolation]
  cases r.lock <;> rfl

/-! ## The list in the description -/

/-- The registers that are locked when the machine starts. -/
def bootLocked : List Int := (List.range 16).map Int.ofNat

section

variable {d d' : Description} {c : Contract}

theorem requireInitialLockedSet_passes_iff :
    requireInitialLockedSet d c = .ok () ↔ d.lockedRegisters.Perm bootLocked :=
  requireInitialLockedSet_eq_ok_iff

/-- A list of another length is blamed for its length. -/
theorem requireInitialLockedSet_of_length (h : d.lockedRegisters.length ≠ 16) :
    requireInitialLockedSet d c =
      .error ⟨.initialLockedSet, .text "16 locked PCRs",
        .text (toString d.lockedRegisters.length ++ " locked PCRs"), none⟩ := by
  have hcount : (d.lockedRegisters.mergeSort.length == (c.initialLocked.map Int.ofNat).length) =
      false := by
    simpa [Contract.initialLocked, bootLockedCount] using h
  have hword : toString (c.initialLocked.map Int.ofNat).length ++ " locked PCRs" =
      "16 locked PCRs" := by
    simp only [Contract.initialLocked, bootLockedCount]
    rfl
  rw [requireInitialLockedSet, bind_eq_error_iff, require_eq_error_iff]
  refine .inl ⟨hcount, ?_⟩
  rw [hword, List.length_mergeSort]

/-- A list of that length is blamed for its entries, which are shown in order. -/
theorem requireInitialLockedSet_of_not_perm (hlength : d.lockedRegisters.length = 16)
    (h : ¬d.lockedRegisters.Perm bootLocked) :
    ∃ sorted : List Int, sorted.Perm d.lockedRegisters ∧ sorted.Pairwise (· ≤ ·) ∧
      requireInitialLockedSet d c = .error ⟨.initialLockedSet, .array (bootLocked.map .int),
        .array (sorted.map .int), none⟩ := by
  have hperm := List.mergeSort_perm d.lockedRegisters (· ≤ ·)
  refine ⟨_, hperm, List.pairwise_mergeSort' (· ≤ ·) d.lockedRegisters, ?_⟩
  have hcount : (d.lockedRegisters.mergeSort.length == (c.initialLocked.map Int.ofNat).length) =
      true := by
    simpa [Contract.initialLocked, bootLockedCount] using hlength
  have hother : (d.lockedRegisters.mergeSort == c.initialLocked.map Int.ofNat) = false :=
    beq_eq_false_iff_ne.mpr fun heq => h (hperm.symm.trans (.of_eq heq))
  rw [requireInitialLockedSet, bind_eq_error_iff]
  exact .inr ⟨(), require_eq_ok_iff.mpr hcount, require_eq_error_iff.mpr ⟨hother, rfl⟩⟩

theorem requireInitialLockedSet_fails_iff :
    (∃ v, requireInitialLockedSet d c = .error v) ↔ ¬d.lockedRegisters.Perm bootLocked := by
  rw [← requireInitialLockedSet_passes_iff (c := c)]
  cases requireInitialLockedSet d c <;> simp

/-- The check looks at the entries of the list and not at their order. -/
theorem requireInitialLockedSet_congr (h : d'.lockedRegisters.Perm d.lockedRegisters) :
    requireInitialLockedSet d' c = requireInitialLockedSet d c := by
  have hsorted : d'.lockedRegisters.mergeSort = d.lockedRegisters.mergeSort :=
    ((List.mergeSort_perm _ _).trans (h.trans (List.mergeSort_perm _ _).symm)).eq_of_pairwise
      (fun _ _ _ _ => le_antisymm) (List.pairwise_mergeSort' (· ≤ ·) _)
      (List.pairwise_mergeSort' (· ≤ ·) _)
  rw [requireInitialLockedSet, requireInitialLockedSet, hsorted]

theorem not_perm_bootLocked {xs : List Int} (h : ¬xs.Nodup ∨ ∃ i ∈ xs, i < 0 ∨ 16 ≤ i) :
    ¬xs.Perm bootLocked := by
  intro hperm
  rcases h with hnodup | ⟨i, hi, hforeign⟩
  · exact hnodup (hperm.nodup_iff.mpr (by decide))
  · have hin : i ∈ bootLocked := hperm.subset hi
    simp only [bootLocked, List.mem_map, List.mem_range] at hin
    obtain ⟨n, hn, rfl⟩ := hin
    simp only [Int.ofNat_eq_natCast] at hforeign
    omega

end

/-! ## All three -/

/-- **The checks of the initial state are exact**, for every bank, in any order and with any
repetitions, and for every description. -/
theorem initial_state_checks_exact (c : Contract) (rs : List Register) (d : Description) :
    (requireInitialValues rs c = .ok () ↔ ∀ r ∈ rs, BootValue c r) ∧
    (∀ v, requireInitialValues rs c = .error v ↔
      ∃ r, FirstOffender (BootValue c) rs r ∧ v = bootValueViolation c r) ∧
    (requireInitialLockFlags rs = .ok () ↔ ∀ r ∈ rs, BootLock r) ∧
    (∀ v, requireInitialLockFlags rs = .error v ↔
      ∃ r, FirstOffender BootLock rs r ∧ v = bootLockViolation r) ∧
    (requireInitialLockedSet d c = .ok () ↔ d.lockedRegisters.Perm bootLocked) ∧
    (d.lockedRegisters.length ≠ 16 →
      requireInitialLockedSet d c =
        .error ⟨.initialLockedSet, .text "16 locked PCRs",
          .text (toString d.lockedRegisters.length ++ " locked PCRs"), none⟩) ∧
    (d.lockedRegisters.length = 16 → ¬d.lockedRegisters.Perm bootLocked →
      ∃ sorted : List Int, sorted.Perm d.lockedRegisters ∧ sorted.Pairwise (· ≤ ·) ∧
        requireInitialLockedSet d c =
          .error ⟨.initialLockedSet, .array (bootLocked.map .int), .array (sorted.map .int),
            none⟩) ∧
    (¬d.lockedRegisters.Nodup ∨ (∃ i ∈ d.lockedRegisters, i < 0 ∨ 16 ≤ i) →
      ∃ v, requireInitialLockedSet d c = .error v) ∧
    (∀ d' : Description, d'.lockedRegisters.Perm d.lockedRegisters →
      requireInitialLockedSet d' c = requireInitialLockedSet d c) := by
  refine ⟨?values, ?value, ?flags, ?flag, ?set, ?count, ?entries, ?foreign, ?order⟩
  case values => exact forM_passes_iff fun _ => requireInitialValue_passes_iff
  case value =>
    intro v
    exact forM_fails_iff (fun _ => requireInitialValue_passes_iff)
      fun _ => requireInitialValue_fails
  case flags => exact forM_passes_iff fun _ => requireInitialLockFlag_passes_iff
  case flag =>
    intro v
    exact forM_fails_iff (fun _ => requireInitialLockFlag_passes_iff)
      fun _ => requireInitialLockFlag_fails
  case set => exact requireInitialLockedSet_passes_iff
  case count => exact requireInitialLockedSet_of_length
  case entries => exact requireInitialLockedSet_of_not_perm
  case foreign =>
    intro h
    exact requireInitialLockedSet_fails_iff.mpr (not_perm_bootLocked h)
  case order =>
    intro d' h
    exact requireInitialLockedSet_congr h

/-- A list that is too short, and one of the right length that has a register twice. -/
theorem initial_state_checks_exact_of_two_lists :
    let c : Contract := ⟨32, .sha256, 32⟩
    let short : Description := ⟨1, 0, 0, "m", 32, "SHA256", [1, 0]⟩
    let double : Description :=
      ⟨1, 0, 0, "m", 32, "SHA256", [15, 14, 13, 12, 11, 10, 9, 8, 7, 6, 5, 4, 3, 2, 1, 1]⟩
    (short.lockedRegisters.length ≠ 16 ∧
      requireInitialLockedSet short c = .error ⟨.initialLockedSet, .text "16 locked PCRs",
        .text "2 locked PCRs", none⟩) ∧
    (double.lockedRegisters.length = 16 ∧ ¬double.lockedRegisters.Perm bootLocked ∧
      ∃ sorted : List Int, sorted.Perm double.lockedRegisters ∧ sorted.Pairwise (· ≤ ·) ∧
        requireInitialLockedSet double c = .error ⟨.initialLockedSet,
          .array (bootLocked.map .int), .array (sorted.map .int), none⟩) ∧
    ¬double.lockedRegisters.Nodup ∧ (∃ v, requireInitialLockedSet double c = .error v) ∧
    requireInitialLockedSet { short with lockedRegisters := [0, 1] } c =
      requireInitialLockedSet short c := by
  intro c short double
  obtain ⟨-, -, -, -, -, hcount, -, -, horder⟩ := initial_state_checks_exact c [] short
  obtain ⟨-, -, -, -, -, -, hentries, hforeign, -⟩ := initial_state_checks_exact c [] double
  have hshort : short.lockedRegisters.length ≠ 16 := by decide
  have hword : toString short.lockedRegisters.length ++ " locked PCRs" = "2 locked PCRs" := by
    decide
  have hdouble : double.lockedRegisters.length = 16 := rfl
  have hperm : ¬double.lockedRegisters.Perm bootLocked := by decide
  have hnodup : ¬double.lockedRegisters.Nodup := by decide
  exact ⟨⟨hshort, hword ▸ hcount hshort⟩, ⟨hdouble, hperm, hentries hdouble hperm⟩, hnodup,
    hforeign (.inl hnodup), horder { short with lockedRegisters := [0, 1] } (.swap ..)⟩

end Check

end EnclaveAudit
