import EnclaveAudit.Proofs.Audit.Conformance
import EnclaveAudit.Proofs.Audit.Reporting
import EnclaveAudit.Proofs.Device.Outcomes
import EnclaveAudit.Proofs.Simulator.Document
import EnclaveAudit.Proofs.Simulator.Turns

/-!
# `EnclaveAudit/Proofs/Simulator/Findings.lean` — what a simulated device makes known

The answers of a simulated device tell an auditor of a description, of register values and of random
samples (`findings`). This file holds them against the contract, one obligation after the other, and
each comes out as a condition on the faults of the device and on the values of its hashes.
-/

set_option autoImplicit false

namespace EnclaveAudit

namespace Simulator

/-- How a usual device describes itself. -/
def Settings.description (s : Settings) : Description where
  versionMajor := s.version.1
  versionMinor := s.version.2.1
  versionPatch := s.version.2.2
  moduleId := s.moduleId
  registerCount := 32
  digest := s.digest.tag
  lockedRegisters := (List.range 16).map Int.ofNat

/-- What the answers of a device tell. -/
def findings (e : Surroundings) (s : Settings) (p : Parameters) : Findings where
  description := s.description
  digest := s.digest
  first i := ⟨decide (i < 16), held e s p 0 i⟩
  extended k _ := chain e s p (k + 1)
  sample n := (e.entropy (if s.has .stuckRandom then 0 else n) 256).take p.randomLength

section

variable {e : Surroundings} {s : Settings} {p : Parameters} {i k n : Nat}

/-! ## The description -/

theorem lockedRegisters_fresh (hs : s.registerCount = 32) :
    (lockedRegisters (State.fresh e s).bank).map Register.index =
      (List.range 16).map Int.ofNat := by
  have hbank : (State.fresh e s).bank = boot e.primitives s := rfl
  have hcount : s.registerCount.toNat = 32 := by rw [hs]; rfl
  rw [hbank, lockedRegisters, boot, hcount, List.map_map, List.filter_map, List.map_map]
  have hfilter : (List.range 32).filter (Register.lock ∘ Cell.register ∘
      fun i => { register := bootRegister e.primitives s i }) = List.range 16 := by
    show (List.range 32).filter (fun i => decide (i < bootLockedCount)) = List.range 16
    decide
  rw [hfilter]
  rfl

/-- A description reads as what is described, with the registers that are locked by then. -/
theorem read_describe_of (hcount : s.registerCount = 32) (hreported : s.reported = s.digest.tag)
    (hversion : 0 ≤ s.version.1 ∧ 0 ≤ s.version.2.1 ∧ 0 ≤ s.version.2.2) (d : State) :
    Operation.describe.read (describe s d) = .ok { s.description with
      lockedRegisters := (lockedRegisters d.bank).map Register.index } := by
  obtain ⟨hmajor, hminor, hpatch⟩ := hversion
  have hlisted : ((lockedRegisters d.bank).map fun r => Value.int r.index) =
      ((lockedRegisters d.bank).map Register.index).map .int := by
    rw [List.map_map]
    rfl
  refine Operation.read_eq_ok_iff.mpr (.inl ⟨_, rfl, ?_⟩)
  exact {
    versionMajor := ⟨rfl, hmajor⟩
    versionMinor := ⟨rfl, hminor⟩
    versionPatch := ⟨rfl, hpatch⟩
    moduleId := rfl
    registerCount := ⟨congrArg (fun n => some (Value.int n)) hcount, (by decide : (0 : Int) ≤ 32)⟩
    lockedRegisters := hlisted ▸ .array _
    digest := congrArg (fun tag => some (Value.text tag)) hreported }

/-- What a description says is short, if the version is and the registers are those of a bank. -/
theorem isWritable_of_read_describe (hcount : s.registerCount = 32)
    (hreported : s.reported = s.digest.tag) (hmajor : 0 ≤ s.version.1 ∧ s.version.1 < 2 ^ 64)
    (hminor : 0 ≤ s.version.2.1 ∧ s.version.2.1 < 2 ^ 64)
    (hpatch : 0 ≤ s.version.2.2 ∧ s.version.2.2 < 2 ^ 64) {d : State}
    (hlisted : ∀ r ∈ lockedRegisters d.bank, ∃ i : Nat, i < 32 ∧ r.index = i)
    {description : Description}
    (hread : Operation.describe.read (describe s d) = .ok description) :
    description.isWritable = true := by
  rw [read_describe_of hcount hreported ⟨hmajor.1, hminor.1, hpatch.1⟩] at hread
  cases hread
  have hshort : ∀ {n : Int}, 0 ≤ n ∧ n < 2 ^ 64 → Value.isShort n = true := fun hn =>
    Value.isShort_of_lt (by omega)
  refine List.all_eq_true.mpr fun n hn => ?_
  simp only [Description.version, Settings.description, List.mem_append, List.mem_cons,
    List.not_mem_nil, or_false] at hn
  rcases hn with (rfl | rfl | rfl) | rfl | hn
  · exact hshort hmajor
  · exact hshort hminor
  · exact hshort hpatch
  · exact hshort ⟨by decide, by decide⟩
  · obtain ⟨r, hr, rfl⟩ := List.mem_map.mp hn
    obtain ⟨i, hi, hindex⟩ := hlisted r hr
    exact hshort (by omega)

theorem read_describe (hs : s.Usual) :
    Operation.describe.read (describe s (State.fresh e s)) = .ok s.description := by
  rw [read_describe_of hs.registerCount hs.reported ⟨hs.major, hs.minor, hs.patch⟩,
    lockedRegisters_fresh hs.registerCount]
  rfl

theorem readFrom_describe (hs : s.Usual) :
    (findings e s p).subject.ReadFrom (describe s (State.fresh e s)) :=
  ⟨read_describe hs, Check.ofDescription_eq_ok_iff.mpr
    ⟨rfl, hs.moduleId, hs.moduleId_short, s.digest, rfl, rfl⟩⟩

/-! ## Registers -/

/-- What a register must hold by then is what it holds. -/
theorem value_findings (k i : Nat) : (findings e s p).value k i = held e s p k i := by
  cases k with
  | zero => rfl
  | succ k =>
    simp only [Findings.value, findings, held]
    split_ifs <;> rfl

theorem covers_findings : (findings e s p).Covers p (answers e s p) where
  first _ _ _ h := (Except.ok.inj h).symm
  extended _ _ _ _ _ _ h := (Except.ok.inj h).symm
  sample n _ _ h := by
    have hread : Slot.readSample p (answers e s p (.sample n)) = .ok ((findings e s p).sample n) :=
      rfl
    rw [hread] at h
    exact (Except.ok.inj h).symm

theorem length_first (he : e.Usual) (i : Nat) :
    ((findings e s p).first i).value.length = (findings e s p).digest.width :=
  length_held (he.primitives.length_hash s.digest) 0 i

/-- Nothing is measured into a register that must be empty. -/
theorem bootValue_eq_zeros (h : i ∉ measured s) :
    bootValue e.primitives s i = Bytes.zeros s.digest.width := by
  have hcontains : (measured s).contains i = false := by simpa using h
  unfold bootValue
  rw [hcontains]
  rfl

/-- A bank whose measurements are not empty starts right. -/
theorem startsRight_findings (hno : s.has .zeroParent = false)
    (hmeasured : ∀ i ∈ measured s, bootValue e.primitives s i ≠ Bytes.zeros s.digest.width) :
    StartsRight (findings e s p) := by
  have hlist : measured s = [0, 1, 2, 4] := by
    rw [measured, hno]
    rfl
  refine ⟨?_, ?_, ?_, List.Perm.refl _⟩
  · intro i _
    simp [findings]
  · intro i hi
    have hlt : i < 16 := by revert i; decide
    have hnot : i ∉ measured s := by
      rw [hlist]
      revert i
      decide
    show held e s p 0 i = Bytes.zeros s.digest.width
    rw [held, if_pos hlt, bootValue_eq_zeros hnot]
  · intro i hi
    have hlt : i < 16 := by revert i; decide
    show held e s p 0 i ≠ Bytes.zeros s.digest.width
    rw [held, if_pos hlt]
    exact hmeasured i (hlist ▸ hi)

theorem extendsTo_findings (he : e.Usual) (hzero : chain e s p (k + 1) ≠ Bytes.zeros s.digest.width)
    (hchanged : chain e s p (k + 1) ≠ chain e s p k) (hge : 16 ≤ i) :
    ExtendsTo (findings e s p) k i (answers e s p (.extension k i)) := by
  refine ⟨rfl, length_chain (he.primitives.length_hash s.digest) (k + 1), hzero, ?_⟩
  have hnot : ¬i < 16 := by omega
  rw [value_findings, held, if_neg hnot]
  exact hchanged

/-! ## Refusals -/

theorem refuses_refuse {status : Status} (hsuccess : status.name ≠ "Success")
    (hinvalid : status.name ≠ "InvalidResponse") : Refuses (refuse status) :=
  ⟨.text status.name, rfl, fun h => hsuccess (Value.text.inj h),
    fun h => hinvalid (Value.text.inj h)⟩

theorem refuses_relock (h : Cell.relockIsSilent s (k + 1) = false) (i : Nat) :
    Refuses (answers e s p (.relock k i)) := by
  simp only [answers, h, Bool.false_eq_true, if_false]
  exact refuses_refuse (by decide) (by decide)

theorem refuses_lockBeyond (h : s.has .looseLockRange = false) :
    Refuses (answers e s p .lockBeyond) := by
  simp only [answers, h, Bool.false_eq_true, if_false]
  exact refuses_refuse (by decide) (by decide)

theorem refuses_lockedExtension (h : s.has .extendLocked = false) (i : Nat) :
    Refuses (answers e s p (.lockedExtension i)) := by
  simp only [answers, h, Bool.false_eq_true, if_false]
  exact refuses_refuse (by decide) (by decide)

/-! ## Documents -/

/-- A register of the bank at a stage. -/
theorem register_bankOf (he : e.Usual) (g : Stage) :
    ∀ c ∈ bankOf (g.cell e s p), ∃ i < 32, c.register.index = (i : Nat) ∧
      c.register.value.length ≤ 64 := by
  intro c hc
  obtain ⟨i, hi, rfl⟩ := List.mem_map.mp hc
  refine ⟨i, List.mem_range.mp hi, rfl, ?_⟩
  have hwidth : s.digest.width ≤ 64 := by cases s.digest <;> decide
  have hlength := length_held (e := e) (s := s) (p := p) (he.primitives.length_hash s.digest)
    g.extensions i
  show (held e s p g.extensions i).length ≤ 64
  omega

theorem certifies_certificate (he : e.Usual) (hs : s.Usual) (hno : s.has .emptyDocument = false)
    (hmax : 16384 ≤ p.maxDocumentSize) (g : Stage) {userData nonce publicKey : Option Bytes}
    (hu : ∀ b ∈ userData, b.length ≤ 1024) (hn : ∀ b ∈ nonce, b.length ≤ 1024)
    (hk : ∀ b ∈ publicKey, b.length ≤ 1024) :
    Certifies p (certificate e s p g userData nonce publicKey) := by
  have hlength : (bankOf (g.cell e s p)).length = 32 := by simp [bankOf]
  have hle := length_document_le (s := s) he.primitives hs.moduleId_short he.now hlength
    (register_bankOf he g) hu hn hk
  refine ⟨document e s (bankOf (g.cell e s p)) userData nonce publicKey, ?_, document_ne_nil,
    Nat.le_trans hle hmax⟩
  unfold certificate
  rw [hno]
  rfl

/-- A document that is empty is no document. -/
theorem readDocument_certificate (hyes : s.has .emptyDocument = true) (g : Stage)
    (userData nonce publicKey : Option Bytes) :
    Slot.readDocument (certificate e s p g userData nonce publicKey) = .ok [] := by
  unfold certificate
  rw [hyes]
  rfl

theorem certifies_document (he : e.Usual) (hs : s.Usual) (hno : s.has .emptyDocument = false)
    (hmax : 16384 ≤ p.maxDocumentSize) {x : Slot} (hx : x.IsDocument) :
    Certifies p (answers e s p x) := by
  cases x with
  | bootDocument => exact certifies_certificate he hs hno hmax _ nofun nofun nofun
  | plainDocument => exact certifies_certificate he hs hno hmax _ nofun nofun nofun
  | document filled n =>
    refine certifies_certificate he hs hno hmax _ ?_ length_le_of_mem_input length_le_of_mem_input
    intro b hb
    cases hb
    exact length_payload filled
  | _ => cases hx

/-! ## Random octets -/

theorem length_sample (he : e.Usual) (n : Nat) :
    ((findings e s p).sample n).length = p.randomLength := by
  have hle := p.randomLength_le
  have hlength := he.entropy (if s.has .stuckRandom then 0 else n) 256
  have hchunk : randomChunk = 256 := rfl
  show ((e.entropy (if s.has .stuckRandom then 0 else n) 256).take p.randomLength).length = _
  rw [List.length_take]
  omega

theorem samplesTo_findings (he : e.Usual)
    (hfresh : ∀ m, n = m + 1 → (findings e s p).sample n ≠ (findings e s p).sample m) :
    SamplesTo p (findings e s p) n (answers e s p (.sample n)) :=
  ⟨⟨rfl, length_sample he n⟩, hfresh⟩

end

end Simulator

end EnclaveAudit
