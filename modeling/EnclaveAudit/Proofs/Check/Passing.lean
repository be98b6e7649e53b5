import Mathlib.Data.List.Sort
import EnclaveAudit.Check.Outcome

/-!
# `EnclaveAudit/Proofs/Check/Passing.lean` — when a check passes, and whom it blames

One pair of facts about each check. The first says exactly which observations pass it, and what is
handed on; the second says which check and which register the violation names when they do not.
Nothing about an audit needs to open a check after this file.

The second facts are weaker than the first on purpose: what a violation says it expected and
observed is for reports, and no statement about a whole audit reads it.
-/

set_option autoImplicit false

namespace EnclaveAudit

/-- The violation is one of this check, at this register. -/
def Violation.Names (v : Violation) (check : Check) (register : Option Int) : Prop :=
  v.check = check ∧ v.register = register

namespace Check

/-! ## Inversion -/

theorem bind_eq_ok_iff {ε α β : Type} {x : Except ε α} {f : α → Except ε β} {b : β} :
    (x >>= f) = .ok b ↔ ∃ a, x = .ok a ∧ f a = .ok b := by
  cases x <;> simp [bind, Except.bind]

theorem bind_eq_error_iff {ε α β : Type} {x : Except ε α} {f : α → Except ε β} {e : ε} :
    (x >>= f) = .error e ↔ x = .error e ∨ ∃ a, x = .ok a ∧ f a = .error e := by
  cases x <;> simp [bind, Except.bind]

theorem pure_eq_ok_iff {ε α : Type} {a b : α} : (pure a : Except ε α) = .ok b ↔ a = b :=
  ⟨fun h => by cases h; rfl, fun h => by subst h; rfl⟩

theorem pure_ne_error {ε α : Type} {a : α} {e : ε} : (pure a : Except ε α) ≠ .error e :=
  fun h => by cases h

theorem require_eq_ok_iff {holds : Bool} {v : Violation} {u : Unit} :
    require holds v = .ok u ↔ holds = true := by
  cases holds <;> simp [require]

theorem require_eq_error_iff {holds : Bool} {v w : Violation} :
    require holds v = .error w ↔ holds = false ∧ v = w := by
  cases holds <;> simp [require]

/-- A check of several registers passes when each of them does. -/
theorem forM_eq_ok_iff {α : Type} {f : α → Except Violation Unit} {u : Unit} {xs : List α} :
    xs.forM f = .ok u ↔ ∀ x ∈ xs, f x = .ok () := by
  simp only [List.forM_eq_forM]
  induction xs with
  | nil =>
    rw [List.forM_nil, pure_eq_ok_iff]
    simp
  | cons x xs ih =>
    rw [List.forM_cons, bind_eq_ok_iff, List.forall_mem_cons, ← ih]
    constructor
    · rintro ⟨_, h, ht⟩
      exact ⟨h, ht⟩
    · intro ⟨h, ht⟩
      exact ⟨(), h, ht⟩

/-- When it does not, the violation is that of one of them. -/
theorem forM_eq_error {α : Type} {f : α → Except Violation Unit} {v : Violation} {xs : List α}
    (h : xs.forM f = .error v) : ∃ x ∈ xs, f x = .error v := by
  simp only [List.forM_eq_forM] at h
  induction xs with
  | nil =>
    rw [List.forM_nil] at h
    exact absurd h pure_ne_error
  | cons x xs ih =>
    rw [List.forM_cons, bind_eq_error_iff] at h
    rcases h with h | ⟨_, _, h⟩
    · exact ⟨x, List.mem_cons_self, h⟩
    · obtain ⟨y, hy, hv⟩ := ih h
      exact ⟨y, List.mem_cons_of_mem _ hy, hv⟩

/-- It is that of the first that fails. -/
theorem forM_append_cons_eq_error {α : Type} {f : α → Except Violation Unit} {v : Violation} {x : α}
    {before after : List α} (hx : f x = .error v) (h : ∀ y ∈ before, f y = .ok ()) :
    (before ++ x :: after).forM f = .error v := by
  simp only [List.forM_eq_forM]
  induction before with
  | nil =>
    rw [List.nil_append, List.forM_cons]
    exact bind_eq_error_iff.mpr (.inl hx)
  | cons y before ih =>
    obtain ⟨hy, hbefore⟩ := List.forall_mem_cons.mp h
    rw [List.cons_append, List.forM_cons]
    exact bind_eq_error_iff.mpr (.inr ⟨(), hy, ih hbefore⟩)

/-! ## Operations that must succeed, operations that must be refused -/

theorem succeed_eq_ok_iff {α : Type} {check : Check} {r : Option Int} {o : Except Status α}
    {a : α} : succeed check r o = .ok a ↔ o = .ok a := by
  cases o <;> simp [succeed]

theorem succeed_names {α : Type} {check : Check} {r : Option Int} {o : Except Status α}
    {v : Violation} (h : succeed check r o = .error v) : v.Names check r := by
  cases o with
  | ok a => cases h
  | error status => cases h; exact ⟨rfl, rfl⟩

theorem refused_eq_ok_iff {α : Type} {check : Check} {r : Option Int} {o : Except Status α}
    {status : Status} :
    refused check r o = .ok status ↔ o = .error status ∧ status ≠ .invalidResponse := by
  cases o with
  | ok a => simp [refused]
  | error status' =>
    simp only [refused]
    split
    · next hs =>
      subst hs
      simp only [reduceCtorEq, Except.error.injEq, false_iff, not_and, not_not]
      exact fun h => h.symm
    · next hs =>
      simp only [Except.ok.injEq, Except.error.injEq]
      exact ⟨fun h => ⟨h, h ▸ hs⟩, fun h => h.1⟩

theorem refused_names {α : Type} {check : Check} {r : Option Int} {o : Except Status α}
    {v : Violation} (h : refused check r o = .error v) : v.Names check r := by
  cases o with
  | ok a => cases h; exact ⟨rfl, rfl⟩
  | error status =>
    simp only [refused] at h
    split at h
    · cases h; exact ⟨rfl, rfl⟩
    · cases h

/-! ## The description -/

/-- A bank can be modelled on a description with the right number of registers, an identifier that
is neither missing nor too long, and the tag of a digest. -/
theorem ofDescription_eq_ok_iff {d : Description} {c : Contract} :
    Contract.ofDescription d = .ok c ↔
      d.registerCount = 32 ∧ d.moduleId ≠ "" ∧ (Bytes.ofString d.moduleId).length ≤ 100 ∧
        ∃ digest : Digest, d.digest = digest.tag ∧ c = ⟨32, digest, digest.width⟩ := by
  have htag : ∀ {digest : Digest}, Digest.ofWire (.text d.digest) = .ok digest ↔
      d.digest = digest.tag := by
    intro digest
    rw [← Digest.ofTag?_eq_some_iff]
    simp only [Digest.ofWire]
    cases Digest.ofTag? d.digest <;> simp
  unfold Contract.ofDescription
  constructor
  · intro h
    split_ifs at h with hcount hid hlength
    have hcount : d.registerCount = 32 := not_not.mp hcount
    refine ⟨hcount, hid, Nat.not_lt.mp hlength, ?_⟩
    cases hdigest : Digest.ofWire (.text d.digest) with
    | error fault =>
      rw [hdigest] at h
      cases h
    | ok digest =>
      rw [hdigest, hcount] at h
      exact ⟨digest, htag.mp hdigest, (Except.ok.inj h).symm⟩
  · rintro ⟨hcount, hid, hlength, digest, hd, rfl⟩
    have hcount' : ¬d.registerCount ≠ (EnclaveAudit.registerCount : Int) := not_not.mpr hcount
    have hlength' : ¬moduleIdLimit < (Bytes.ofString d.moduleId).length := Nat.not_lt.mpr hlength
    rw [if_neg hcount', if_neg hid, if_neg hlength', htag.mpr hd, hcount]

/-- A description that a contract was derived from fulfils it: setting up asks for all that the
checks ask for. -/
theorem requireDescription_of_ofDescription {d : Description} {c : Contract}
    (h : Contract.ofDescription d = .ok c) : requireDescription d c = .ok () := by
  obtain ⟨hcount, hid, -, digest, hd, rfl⟩ := ofDescription_eq_ok_iff.mp h
  have hknown : (Digest.all.map Digest.tag).contains d.digest = true := by
    rw [hd]
    cases digest <;> decide
  simp only [requireDescription, requireRegisterCount, requireModuleId, requireDigest,
    bind_eq_ok_iff, require_eq_ok_iff, exists_const]
  exact ⟨by simp [hcount], by simpa using hid, hknown, by simp [hd]⟩

/-- The listed registers are those that are locked at the start, each once, in any order. -/
theorem requireInitialLockedSet_eq_ok_iff {d : Description} {c : Contract} {u : Unit} :
    requireInitialLockedSet d c = .ok u ↔
      d.lockedRegisters.Perm ((List.range bootLockedCount).map Int.ofNat) := by
  simp only [requireInitialLockedSet, bind_eq_ok_iff, require_eq_ok_iff, exists_const, beq_iff_eq]
  have hsorted : ((List.range bootLockedCount).map Int.ofNat).Pairwise (· ≤ ·) := by decide
  constructor
  · rintro ⟨-, h⟩
    exact (List.mergeSort_perm d.lockedRegisters _).symm.trans (.of_eq h)
  · intro h
    have heq : d.lockedRegisters.mergeSort = (List.range bootLockedCount).map Int.ofNat :=
      ((List.mergeSort_perm d.lockedRegisters _).trans h).eq_of_pairwise
        (fun _ _ _ _ => le_antisymm) (List.pairwise_mergeSort' (· ≤ ·) d.lockedRegisters) hsorted
    exact ⟨congrArg List.length heq, heq⟩

theorem requireInitialLockedSet_names {d : Description} {c : Contract} {v : Violation}
    (h : requireInitialLockedSet d c = .error v) : v.Names .initialLockedSet none := by
  simp only [requireInitialLockedSet, bind_eq_error_iff, require_eq_error_iff] at h
  rcases h with ⟨-, rfl⟩ | ⟨_, -, -, rfl⟩ <;> exact ⟨rfl, rfl⟩

/-! ## Registers that were read -/

theorem judgeRead_eq_ok_iff {i : Int} {c : Contract} {o : Except Status Operation.Reading}
    {r : Register} :
    judgeRead i c o = .ok r ↔
      ∃ reading, o = .ok reading ∧ reading.value.length = c.digestWidth ∧
        r = ⟨i, reading.lock, reading.value⟩ := by
  simp only [judgeRead, requireWidth, bind_eq_ok_iff, succeed_eq_ok_iff, require_eq_ok_iff,
    pure_eq_ok_iff, exists_const, beq_iff_eq]
  exact exists_congr fun _ => and_congr_right fun _ => and_congr_right fun _ => eq_comm

theorem judgeRead_names {i : Int} {c : Contract} {o : Except Status Operation.Reading}
    {v : Violation} (h : judgeRead i c o = .error v) : v.Names .describeRegister (some i) := by
  simp only [judgeRead, requireWidth, bind_eq_error_iff, require_eq_error_iff] at h
  rcases h with h | ⟨_, -, ⟨-, rfl⟩ | ⟨_, -, h⟩⟩
  · exact succeed_names h
  · exact ⟨rfl, rfl⟩
  · exact absurd h pure_ne_error

/-- A register is empty, or is not, as it must be at the start; free ones may be either. -/
theorem requireInitialValue_eq_ok_iff {c : Contract} {r : Register} {u : Unit} :
    requireInitialValue c r = .ok u ↔
      (Contract.zeroAtBoot? r.index = some true → r.value = c.zeroValue) ∧
      (Contract.zeroAtBoot? r.index = some false → r.value ≠ c.zeroValue) := by
  unfold requireInitialValue
  split
  · next h => simp [require_eq_ok_iff, h]
  · next h => simp [require_eq_ok_iff, h]
  · next h => simp [h]

theorem requireInitialValue_names {c : Contract} {r : Register} {v : Violation}
    (h : requireInitialValue c r = .error v) : v.Names .initialValue (some r.index) := by
  unfold requireInitialValue at h
  split at h
  · obtain ⟨-, rfl⟩ := require_eq_error_iff.mp h; exact ⟨rfl, rfl⟩
  · obtain ⟨-, rfl⟩ := require_eq_error_iff.mp h; exact ⟨rfl, rfl⟩
  · cases h

theorem requireInitialLockFlag_eq_ok_iff {r : Register} {u : Unit} :
    requireInitialLockFlag r = .ok u ↔ r.lock = Contract.lockedAtBoot r.index := by
  simp [requireInitialLockFlag, require_eq_ok_iff]

theorem requireInitialLockFlag_names {r : Register} {v : Violation}
    (h : requireInitialLockFlag r = .error v) : v.Names .initialLockFlag (some r.index) := by
  obtain ⟨-, rfl⟩ := require_eq_error_iff.mp h
  exact ⟨rfl, rfl⟩

theorem requirePostLock_eq_ok_iff {r : Register} {c : Contract} {u : Unit} :
    requirePostLock r c = .ok u ↔
      r.lock = true ∧ (Contract.zeroAfterLock r.index = true ↔ r.value = c.zeroValue) := by
  simp only [requirePostLock, bind_eq_ok_iff, require_eq_ok_iff, exists_const]
  refine and_congr_right fun _ => ?_
  split
  · next h => simp [require_eq_ok_iff, h]
  · next h => simp [require_eq_ok_iff, h]

theorem requirePostLock_names {r : Register} {c : Contract} {v : Violation}
    (h : requirePostLock r c = .error v) :
    v.Names .postLockLocked (some r.index) ∨ v.Names .postLockValue (some r.index) := by
  simp only [requirePostLock, bind_eq_error_iff, require_eq_error_iff] at h
  rcases h with ⟨-, rfl⟩ | ⟨_, -, h⟩
  · exact .inl ⟨rfl, rfl⟩
  · split at h
    · obtain ⟨-, rfl⟩ := require_eq_error_iff.mp h; exact .inr ⟨rfl, rfl⟩
    · obtain ⟨-, rfl⟩ := require_eq_error_iff.mp h; exact .inr ⟨rfl, rfl⟩

theorem requireLockMonotonic_eq_ok_iff {p r : Register} {u : Unit} :
    requireLockMonotonic (some p) r = .ok u ↔ (p.lock = true → r.lock = true) := by
  simp only [requireLockMonotonic, require_eq_ok_iff]
  cases p.lock <;> simp

theorem requireLockMonotonic_names {p : Option Register} {r : Register} {v : Violation}
    (h : requireLockMonotonic p r = .error v) : v.Names .lockMonotonic (some r.index) := by
  cases p with
  | none => cases h
  | some p => obtain ⟨-, rfl⟩ := require_eq_error_iff.mp h; exact ⟨rfl, rfl⟩

theorem requireValueStable_eq_ok_iff {p r : Register} {u : Unit} :
    requireValueStable (some p) r = .ok u ↔ p.value = r.value := by
  simp [requireValueStable, require_eq_ok_iff]

theorem requireValueStable_names {p : Option Register} {r : Register} {v : Violation}
    (h : requireValueStable p r = .error v) : v.Names .registerValueStable (some r.index) := by
  cases p with
  | none => cases h
  | some p => obtain ⟨-, rfl⟩ := require_eq_error_iff.mp h; exact ⟨rfl, rfl⟩

/-! ## Extension -/

theorem judgeExtend_eq_ok_iff {i : Int} {c : Contract} {o : Except Status Bytes} {value : Bytes} :
    judgeExtend i c o = .ok value ↔
      o = .ok value ∧ value.length = c.digestWidth ∧ value ≠ c.zeroValue := by
  simp only [judgeExtend, requireWidth, bind_eq_ok_iff, succeed_eq_ok_iff, require_eq_ok_iff,
    pure_eq_ok_iff, exists_const, beq_iff_eq, bne_iff_ne]
  constructor
  · rintro ⟨_, ho, hw, hz, rfl⟩
    exact ⟨ho, hw, hz⟩
  · rintro ⟨ho, hw, hz⟩
    exact ⟨value, ho, hw, hz, rfl⟩

theorem judgeExtend_names {i : Int} {c : Contract} {o : Except Status Bytes} {v : Violation}
    (h : judgeExtend i c o = .error v) :
    v.Names .extendRegister (some i) ∨ v.Names .extendWidth (some i) ∨
      v.Names .extendNonZero (some i) := by
  simp only [judgeExtend, requireWidth, bind_eq_error_iff, require_eq_error_iff] at h
  rcases h with h | ⟨_, -, ⟨-, rfl⟩ | ⟨_, -, ⟨-, rfl⟩ | ⟨_, -, h⟩⟩⟩
  · exact .inl (succeed_names h)
  · exact .inr (.inl ⟨rfl, rfl⟩)
  · exact .inr (.inr ⟨rfl, rfl⟩)
  · exact absurd h pure_ne_error

theorem requireChaining_eq_ok_iff {i : Int} {previous current : Bytes} {u : Unit} :
    requireChaining i previous current = .ok u ↔ previous ≠ current := by
  simp [requireChaining, require_eq_ok_iff]

theorem requireChaining_names {i : Int} {previous current : Bytes} {v : Violation}
    (h : requireChaining i previous current = .error v) : v.Names .extendChaining (some i) := by
  obtain ⟨-, rfl⟩ := require_eq_error_iff.mp h
  exact ⟨rfl, rfl⟩

/-! ## Documents and random octets -/

theorem judgeDocument_eq_ok_iff {ceiling : Int} {o : Except Status Bytes} {document : Bytes} :
    judgeDocument ceiling o = .ok document ↔
      o = .ok document ∧ document ≠ [] ∧ document.length ≤ ceiling := by
  simp only [judgeDocument, bind_eq_ok_iff, succeed_eq_ok_iff, require_eq_ok_iff, pure_eq_ok_iff,
    exists_const, Bool.not_eq_true', List.isEmpty_eq_false_iff, decide_eq_true_eq]
  constructor
  · rintro ⟨_, ho, hne, hle, rfl⟩
    exact ⟨ho, hne, hle⟩
  · rintro ⟨ho, hne, hle⟩
    exact ⟨document, ho, hne, hle, rfl⟩

theorem judgeDocument_names {ceiling : Int} {o : Except Status Bytes} {v : Violation}
    (h : judgeDocument ceiling o = .error v) :
    v.Names .attestation none ∨ v.Names .attestationNonEmpty none ∨
      v.Names .attestationSize none := by
  simp only [judgeDocument, bind_eq_error_iff, require_eq_error_iff] at h
  rcases h with h | ⟨_, -, ⟨-, rfl⟩ | ⟨_, -, ⟨-, rfl⟩ | ⟨_, -, h⟩⟩⟩
  · exact .inl (succeed_names h)
  · exact .inr (.inl ⟨rfl, rfl⟩)
  · exact .inr (.inr ⟨rfl, rfl⟩)
  · exact absurd h pure_ne_error

theorem judgeRandom_eq_ok_iff {length : Int} {previous : Option Bytes} {o : Except Status Bytes}
    {sample : Bytes} :
    judgeRandom length previous o = .ok sample ↔
      o = .ok sample ∧ sample ≠ [] ∧ (sample.length : Int) = length ∧ previous ≠ some sample := by
  simp only [judgeRandom, requireSample, bind_eq_ok_iff, succeed_eq_ok_iff, require_eq_ok_iff,
    pure_eq_ok_iff, exists_const, Bool.not_eq_true', List.isEmpty_eq_false_iff, beq_iff_eq,
    bne_iff_ne]
  constructor
  · rintro ⟨_, ho, ⟨hne, hlen, hrep⟩, rfl⟩
    exact ⟨ho, hne, hlen, hrep⟩
  · rintro ⟨ho, hne, hlen, hrep⟩
    exact ⟨sample, ho, ⟨hne, hlen, hrep⟩, rfl⟩

theorem judgeRandom_names {length : Int} {previous : Option Bytes} {o : Except Status Bytes}
    {v : Violation} (h : judgeRandom length previous o = .error v) :
    v.Names .getRandom none ∨ v.Names .randomNotEmpty none ∨ v.Names .randomLength none ∨
      v.Names .randomRepeat none := by
  simp only [judgeRandom, requireSample, bind_eq_error_iff, require_eq_error_iff] at h
  rcases h with h | ⟨_, -, (⟨-, rfl⟩ | ⟨_, -, ⟨-, rfl⟩ | ⟨_, -, -, rfl⟩⟩) | ⟨_, -, h⟩⟩
  · exact .inl (succeed_names h)
  · exact .inr (.inl ⟨rfl, rfl⟩)
  · exact .inr (.inr (.inl ⟨rfl, rfl⟩))
  · exact .inr (.inr (.inr ⟨rfl, rfl⟩))
  · exact absurd h pure_ne_error

end Check

end EnclaveAudit
