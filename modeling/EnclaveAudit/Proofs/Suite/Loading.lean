import Mathlib.Data.List.Basic
import EnclaveAudit.Proofs.Text.Decimal
import EnclaveAudit.Suite.Environment

/-!
# `EnclaveAudit/Proofs/Suite/Loading.lean` — where parameters come from, and which are accepted

A parameter has three sources: what the caller gives, the variable of the environment, and the
default. The first that says anything is the *effective* value, and nothing else is looked at. It is
read as the kind of the parameter says, and parameters are loaded if every effective value can be
read and nothing is given that is no parameter.

Reading nine parameters is nine times the same: what the reader of one accepts is what its kind
accepts (`Reads`), and a parameter that was not given is read from its default as from a value.
-/

set_option autoImplicit false

namespace EnclaveAudit

namespace Parameters

/-! ## Kinds -/

/-- What a parameter can be: an integer with its bounds, octets, or a truth value. -/
inductive Kind where
  | integer (least : Nat) (most : Option Nat)
  | octets
  | truth

/-- The parameters, each with its kind. -/
def kinds : List (String × Kind) := [
  ("extend_rounds", .integer 1 none),
  ("read_rounds", .integer 1 none),
  ("relock_attempts", .integer 1 none),
  ("random_samples", .integer 2 none),
  ("random_length", .integer 1 (some 256)),
  ("attestation_data_len", .integer 1 (some 1024)),
  ("max_document_size", .integer 1 none),
  ("extend_input", .octets),
  ("attest_at_boot", .truth)]

/-- The octets of a value that is one of the two kinds of strings. -/
def octets? : Value → Option Bytes
  | .bytes b => some b
  | .text s => some (Bytes.ofString s)
  | _ => none

/-- What a value is as one of a kind, if it is accepted. -/
def Kind.parse? : Kind → Value → Option Value
  | .integer least most, v =>
    (readInteger v).toOption.bind fun n =>
      if (least : Int) ≤ n ∧ ∀ m ∈ most, n ≤ (m : Int) then some (.int n) else none
  | .octets, v => (octets? v).bind fun b => if b = [] then none else some (.bytes b)
  | .truth, v => (readTruth v).toOption.map .bool

/-- A reader accepts what a kind accepts, and reads it as the kind does. -/
def Reads {α : Type} (read : Value → Except Complaint α) (kind : Kind) (value : α → Value) : Prop :=
  ∀ v, kind.parse? v = (read v).toOption.map value

theorem reads_from (least : Nat) :
    Reads (readFrom least) (.integer least none) fun n => .int n.1 := by
  intro v
  simp only [Kind.parse?, readFrom]
  cases readInteger v with
  | error complaint => rfl
  | ok n =>
    simp only [Except.toOption, Option.bind_some, Option.not_mem_none, false_imp_iff, implies_true,
      and_true]
    split_ifs with hn
    · simp only [Option.map_some, Int.toNat_of_nonneg ((Int.natCast_nonneg least).trans hn)]
    · rfl

theorem reads_between (least most : Nat) :
    Reads (readBetween least most) (.integer least (some most)) fun n => .int n.1 := by
  intro v
  simp only [Kind.parse?, readBetween, readFrom]
  cases readInteger v with
  | error complaint => rfl
  | ok n =>
    simp only [Except.toOption, Option.bind_some, Option.mem_some_iff, forall_eq']
    by_cases hn : (least : Int) ≤ n
    · obtain ⟨m, rfl⟩ := Int.eq_ofNat_of_zero_le ((Int.natCast_nonneg least).trans hn)
      simp only [hn, dif_pos, true_and, Int.toNat_natCast, Int.ofNat_le]
      split_ifs <;> rfl
    · rw [if_neg fun h => hn h.1, dif_neg hn]
      rfl

theorem reads_octets : Reads readOctets .octets fun b => .bytes b.1 := by
  have hread : ∀ b : Bytes, (if b = [] then none else some (.bytes b) : Option Value) =
      (if h : b ≠ [] then .ok ⟨b, h⟩ else .error .noOctets :
        Except Complaint {b : Bytes // b ≠ []}).toOption.map fun b => .bytes b.1 := by
    intro b
    by_cases h : b = []
    · rw [if_pos h, dif_neg (not_not.mpr h)]
      rfl
    · rw [if_neg h, dif_pos h]
      rfl
  intro v
  cases v with
  | bytes b => exact hread b
  | text s => exact hread (Bytes.ofString s)
  | _ => rfl

theorem reads_truth : Reads readTruth .truth .bool := fun _ => rfl

/-! ## Reading all of them -/

/-- What a parameter is read from: what was given for it, or its default. -/
def taken (given : List (String × Value)) (name : String) : Option Value :=
  (given.lookup name).or (default.fields.lookup name)

theorem toOption_readField {α : Type} {read : Value → Except Complaint α} {kind : Kind}
    {value : α → Value} (hreads : Reads read kind value) {given : List (String × Value)}
    {name : String} {a : α} {raw : Value} (hraw : default.fields.lookup name = some raw)
    (hdefault : read raw = .ok a) :
    (taken given name).bind kind.parse? = (readField given name a read).toOption.map value := by
  unfold taken readField
  cases given.lookup name with
  | none => rw [hraw, Option.none_or, Option.bind_some, hreads, hdefault]; rfl
  | some v =>
    rw [Option.some_or, Option.bind_some, hreads]
    cases hread : read v with
    | ok b => simp only [hread, Except.toOption]
    | error complaint => simp only [hread, Except.toOption, Option.map_none]

/-- What a reader makes of a parameter is what its kind makes of it. -/
theorem readField_eq_ok_iff {α : Type} {read : Value → Except Complaint α} {kind : Kind}
    {value : α → Value} (hreads : Reads read kind value) (hvalue : Function.Injective value)
    {given : List (String × Value)} {name : String} {a b : α} {raw : Value}
    (hraw : default.fields.lookup name = some raw) (hdefault : read raw = .ok a) :
    readField given name a read = .ok b ↔ (taken given name).bind kind.parse? = some (value b) := by
  rw [toOption_readField hreads hraw hdefault]
  cases readField given name a read with
  | error problem => simp [Except.toOption]
  | ok c => simp [Except.toOption, hvalue.eq_iff]

theorem int_val_injective {p : Nat → Prop} :
    Function.Injective fun n : {n : Nat // p n} => Value.int n.1 := by
  intro n m h
  exact Subtype.ext (Int.ofNat_inj.mp (Value.int.inj h))

theorem bytes_val_injective {p : Bytes → Prop} :
    Function.Injective fun b : {b : Bytes // p b} => Value.bytes b.1 :=
  fun _ _ h => Subtype.ext (Value.bytes.inj h)

/-- Parameters are read if each of them is, and nothing else is there. -/
theorem read_eq_ok_iff_readField {given : List (String × Value)} {p : Parameters} :
    read given = .ok p ↔
      (given.filter fun field => !names.contains field.1) = [] ∧
      readField given "extend_rounds" ⟨default.extendRounds, default.extendRounds_pos⟩
        (readFrom 1) = .ok ⟨p.extendRounds, p.extendRounds_pos⟩ ∧
      readField given "read_rounds" ⟨default.readRounds, default.readRounds_pos⟩
        (readFrom 1) = .ok ⟨p.readRounds, p.readRounds_pos⟩ ∧
      readField given "relock_attempts" ⟨default.relockAttempts, default.relockAttempts_pos⟩
        (readFrom 1) = .ok ⟨p.relockAttempts, p.relockAttempts_pos⟩ ∧
      readField given "random_samples" ⟨default.randomSamples, default.two_le_randomSamples⟩
        (readFrom 2) = .ok ⟨p.randomSamples, p.two_le_randomSamples⟩ ∧
      readField given "random_length"
        ⟨default.randomLength, default.randomLength_pos, default.randomLength_le⟩
        (readBetween 1 randomChunk) =
          .ok ⟨p.randomLength, p.randomLength_pos, p.randomLength_le⟩ ∧
      readField given "attestation_data_len"
        ⟨default.attestationDataLength, default.attestationDataLength_pos,
          default.attestationDataLength_le⟩
        (readBetween 1 attestationDataLimit) =
          .ok ⟨p.attestationDataLength, p.attestationDataLength_pos, p.attestationDataLength_le⟩ ∧
      readField given "max_document_size" ⟨default.maxDocumentSize, default.maxDocumentSize_pos⟩
        (readFrom 1) = .ok ⟨p.maxDocumentSize, p.maxDocumentSize_pos⟩ ∧
      readField given "extend_input" ⟨default.extendInput, default.extendInput_ne_nil⟩
        readOctets = .ok ⟨p.extendInput, p.extendInput_ne_nil⟩ ∧
      readField given "attest_at_boot" default.attestAtBoot readTruth = .ok p.attestAtBoot := by
  constructor
  · intro h
    unfold read at h
    dsimp only at h
    -- the results one after the other: the first that is none ends it
    generalize readField given "extend_rounds" _ _ = r₁ at h ⊢
    generalize readField given "read_rounds" _ _ = r₂ at h ⊢
    generalize readField given "relock_attempts" _ _ = r₃ at h ⊢
    generalize readField given "random_samples" _ _ = r₄ at h ⊢
    generalize readField given "random_length" _ _ = r₅ at h ⊢
    generalize readField given "attestation_data_len" _ _ = r₆ at h ⊢
    generalize readField given "max_document_size" _ _ = r₇ at h ⊢
    generalize readField given "extend_input" _ _ = r₈ at h ⊢
    generalize readField given "attest_at_boot" _ _ = r₉ at h ⊢
    generalize (given.filter fun field => !names.contains field.1) = unknown at h ⊢
    obtain _ | ⟨extendRounds, h₁⟩ := r₁
    · cases h
    obtain _ | ⟨readRounds, h₂⟩ := r₂
    · cases h
    obtain _ | ⟨relockAttempts, h₃⟩ := r₃
    · cases h
    obtain _ | ⟨randomSamples, h₄⟩ := r₄
    · cases h
    obtain _ | ⟨randomLength, h₅, h₆⟩ := r₅
    · cases h
    obtain _ | ⟨attestationDataLength, h₇, h₈⟩ := r₆
    · cases h
    obtain _ | ⟨maxDocumentSize, h₉⟩ := r₇
    · cases h
    obtain _ | ⟨extendInput, h₁₀⟩ := r₈
    · cases h
    obtain _ | attestAtBoot := r₉
    · cases h
    obtain _ | ⟨field, unknown⟩ := unknown
    · cases h
      exact ⟨rfl, rfl, rfl, rfl, rfl, rfl, rfl, rfl, rfl, rfl⟩
    · cases h
  · rintro ⟨h₀, h₁, h₂, h₃, h₄, h₅, h₆, h₇, h₈, h₉⟩
    simp only [read, h₀, h₁, h₂, h₃, h₄, h₅, h₆, h₇, h₈, h₉]

/-- **Reading parameters**: nothing is given that is no parameter, and every parameter is what its
kind makes of the value that it is read from. -/
theorem read_eq_ok_iff {given : List (String × Value)} {p : Parameters} :
    read given = .ok p ↔ (∀ field ∈ given, field.1 ∈ names) ∧
      ∀ x ∈ kinds, ∃ v, (taken given x.1).bind x.2.parse? = some v ∧
        p.fields.lookup x.1 = some v := by
  have hunknown : (given.filter fun field => !names.contains field.1) = [] ↔
      ∀ field ∈ given, field.1 ∈ names := by
    simp only [List.filter_eq_nil_iff, Bool.not_eq_true', Bool.not_eq_false, List.contains_iff_mem]
  have hfield : ∀ {o : Option Value} {name : String} {v : Value}, p.fields.lookup name = some v →
      ((∃ w, o = some w ∧ p.fields.lookup name = some w) ↔ o = some v) := by
    intro o name v hv
    rw [hv]
    constructor
    · rintro ⟨w, rfl, hw⟩
      exact hw.symm
    · exact fun h => ⟨v, h, rfl⟩
  rw [read_eq_ok_iff_readField, hunknown,
    readField_eq_ok_iff (reads_from 1) int_val_injective rfl rfl,
    readField_eq_ok_iff (reads_from 1) int_val_injective rfl rfl,
    readField_eq_ok_iff (reads_from 1) int_val_injective rfl rfl,
    readField_eq_ok_iff (reads_from 2) int_val_injective rfl rfl,
    readField_eq_ok_iff (reads_between 1 randomChunk) int_val_injective rfl rfl,
    readField_eq_ok_iff (reads_between 1 attestationDataLimit) int_val_injective rfl rfl,
    readField_eq_ok_iff (reads_from 1) int_val_injective rfl rfl,
    readField_eq_ok_iff reads_octets bytes_val_injective rfl rfl,
    readField_eq_ok_iff reads_truth (fun _ _ => Value.bool.inj) rfl rfl]
  simp only [kinds, List.forall_mem_cons, List.not_mem_nil, false_imp_iff, implies_true, and_true]
  iterate 9 rw [hfield rfl]
  exact Iff.rfl

end Parameters

namespace Environment

open Parameters (Kind kinds taken)

/-! ## Sources -/

end Environment

end EnclaveAudit
