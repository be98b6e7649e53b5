import EnclaveAudit.Proofs.Audit.Deciding
import EnclaveAudit.Proofs.Audit.Ending

/-!
# `EnclaveAudit/Proofs/Audit/Conformance.lean` — what it means to pass

An audit that is done has found something out about the answers of the device, and this file says
what: `Conforms` is the contract, written down without an audit, over all answers at once. There is
no ledger in it and no order of checks; what a register held last is a function of the answers
(`Findings.value`).

`Auditor.run_done_iff` is the result: on every transport, an audit is done exactly when the device
answers the whole script and the answers conform. Each scenario contributes one condition, found by
the rules for exact acceptance; the invariant between them is that the ledger remembers of each
register the value it must have by then.
-/

set_option autoImplicit false

namespace EnclaveAudit

open Operation

/-! ## The contract -/

/-- What the answers of a device tell. -/
structure Findings where
  description : Description
  digest : Digest
  /-- what was read first of each register -/
  first : Nat → Reading
  /-- what an extension returned, by round and register -/
  extended : Nat → Nat → Bytes
  /-- the random samples -/
  sample : Nat → Bytes

namespace Findings

/-- The device that is described. -/
def subject (f : Findings) : Subject := ⟨f.description, ⟨32, f.digest, f.digest.width⟩⟩

/-- What an empty register holds. -/
def zero (f : Findings) : Bytes := Bytes.zeros f.digest.width

/-- What a register holds after so many rounds of extensions. -/
def value (f : Findings) : Nat → Nat → Bytes
  | 0, i => (f.first i).value
  | k + 1, i => if i < 16 then (f.first i).value else f.extended k i

theorem value_eq_of_lt (f : Findings) (k : Nat) {i : Nat} (hi : i < 16) :
    f.value k i = (f.first i).value := by
  cases k with
  | zero => rfl
  | succ k => rw [value, if_pos hi]

end Findings

/-- The answer is a document that is not empty and not too long. -/
def Certifies (p : Parameters) (answer : Value) : Prop :=
  ∃ document, Slot.readDocument answer = .ok document ∧ document ≠ [] ∧
    document.length ≤ p.maxDocumentSize

/-- The answers are those of a device that keeps its contract, and they tell these findings. -/
structure Conforms (p : Parameters) (described : Value) (given : Slot → Value) (f : Findings) :
    Prop where
  described : describe.read described = .ok f.description
  registerCount : f.description.registerCount = 32
  moduleId : f.description.moduleId ≠ ""
  moduleId_short : (Bytes.ofString f.description.moduleId).length ≤ 100
  digest : f.description.digest = f.digest.tag
  lockedRegisters : f.description.lockedRegisters.Perm ((List.range 16).map Int.ofNat)
  bootDocument : p.attestAtBoot = true → Certifies p (given .bootDocument)
  firstRead : ∀ i < 32, Slot.readRegister (given (.firstRead i)) = .ok (f.first i) ∧
    (f.first i).value.length = f.digest.width
  firstLock : ∀ i < 32, ((f.first i).lock = true ↔ i < 16)
  firstEmpty : ∀ i ∈ [3, 5, 6, 7, 8, 9, 10, 11, 12, 13, 14, 15], (f.first i).value = f.zero
  firstMeasured : ∀ i ∈ [0, 1, 2, 4], (f.first i).value ≠ f.zero
  relock : ∀ k < p.relockAttempts, ∀ i < 16, Refuses (given (.relock k i))
  /-- an extension returns a new value, which is neither empty nor the one before it -/
  extension : ∀ k < p.extendRounds, ∀ i, 16 ≤ i → i < 32 →
    Slot.readExtension (given (.extension k i)) = .ok (f.extended k i) ∧
    (f.extended k i).length = f.digest.width ∧ f.extended k i ≠ f.zero ∧
    f.extended k i ≠ f.value k i
  lock : ∀ i, 16 ≤ i → i < 32 → given (.lock i) = .text "LockPCR"
  lockRange : given .lockRange = .text "LockPCRs"
  lockBeyond : Refuses (given .lockBeyond)
  lockedExtension : ∀ i < 32, Refuses (given (.lockedExtension i))
  /-- every register is locked and still has the value it had -/
  read : ∀ k < p.readRounds, ∀ i < 32,
    Slot.readRegister (given (.read k i)) = .ok ⟨true, f.value p.extendRounds i⟩
  plainDocument : Certifies p (given .plainDocument)
  document : ∀ filled, ∀ n ∈ [1, 2, 3], Certifies p (given (.document filled n))
  sample : ∀ n < p.randomSamples, Slot.readSample p (given (.sample n)) = .ok (f.sample n) ∧
    (f.sample n).length = p.randomLength
  sample_fresh : ∀ n, n + 1 < p.randomSamples → f.sample (n + 1) ≠ f.sample n

/-! ## Findings and answers -/

/-- Whatever can be read where the findings come from is what they say. -/
structure Findings.Covers (f : Findings) (p : Parameters) (given : Slot → Value) : Prop where
  first : ∀ i < 32, ∀ r, Slot.readRegister (given (.firstRead i)) = .ok r →
    r = f.first i
  extended : ∀ k < p.extendRounds, ∀ i, 16 ≤ i → i < 32 → ∀ b,
    Slot.readExtension (given (.extension k i)) = .ok b → b = f.extended k i
  sample : ∀ n < p.randomSamples, ∀ b, Slot.readSample p (given (.sample n)) = .ok b →
    b = f.sample n

/-- Answers tell findings, in one way. -/
def Findings.of (s : Subject) (p : Parameters) (given : Slot → Value) : Findings where
  description := s.description
  digest := s.contract.digest
  first i := ((Slot.readRegister (given (.firstRead i))).toOption).getD default
  extended k i := ((Slot.readExtension (given (.extension k i))).toOption).getD default
  sample n := ((Slot.readSample p (given (.sample n))).toOption).getD default

theorem Findings.subject_of {s : Subject} (p : Parameters) (given : Slot → Value)
    {described : Value} (hread : s.ReadFrom described) : (Findings.of s p given).subject = s := by
  obtain ⟨-, -, -, digest, -, hcontract⟩ := Check.ofDescription_eq_ok_iff.mp hread.2
  obtain ⟨description, contract⟩ := s
  obtain rfl : contract = _ := hcontract
  rfl

theorem Findings.of_covers (s : Subject) (p : Parameters) (given : Slot → Value) :
    (Findings.of s p given).Covers p given where
  first i _ _ h := by simp only [Findings.of, h]; rfl
  extended k _ i _ _ _ h := by simp only [Findings.of, h]; rfl
  sample n _ _ h := by simp only [Findings.of, h]; rfl

theorem Conforms.covers {p : Parameters} {described : Value} {given : Slot → Value} {f : Findings}
    (h : Conforms p described given f) : f.Covers p given where
  first i hi _ hr := Except.ok.inj (hr.symm.trans (h.firstRead i hi).1)
  extended k hk i hle hlt _ hb := Except.ok.inj (hb.symm.trans (h.extension k hk i hle hlt).1)
  sample n hn _ hb := Except.ok.inj (hb.symm.trans (h.sample n hn).1)

/-! ## What the ledger knows between the parts -/

namespace Ledger

/-- The first so many registers were read, and nothing else happened to the bank. -/
def ReadSoFar (f : Findings) (n : Nat) (l : Ledger) : Prop :=
  l.bank = (List.range n).map (fun i => ⟨i, (f.first i).lock, (f.first i).value⟩) ∧ l.sample = none

/-- The value of every register is known. -/
def Knows (v : Nat → Bytes) (l : Ledger) : Prop :=
  l.bank.map Register.value = (List.range 32).map v ∧ l.sample = none

/-- Once all registers were read, their values are known. -/
theorem ReadSoFar.knows {f : Findings} {l : Ledger} (h : l.ReadSoFar f 32) :
    l.Knows (f.value 0) := by
  obtain ⟨hbank, hsample⟩ := h
  refine ⟨?_, hsample⟩
  rw [hbank, List.map_map]
  rfl

namespace Knows

variable {v v' : Nat → Bytes} {l : Ledger} {i : Nat}

theorem exists_getElem? (h : l.Knows v) (hi : i < 32) :
    ∃ r, l.bank[i]? = some r ∧ r.value = v i := by
  have hlength : l.bank.length = 32 := by simpa using congrArg List.length h.1
  have hbound : i < l.bank.length := hlength.symm ▸ hi
  have hvalue : (l.bank.map Register.value)[i]? = ((List.range 32).map v)[i]? := by rw [h.1]
  refine ⟨l.bank[i], List.getElem?_eq_getElem hbound, ?_⟩
  simpa [List.getElem?_eq_getElem hbound, hi] using hvalue

theorem congr (h : l.Knows v) (hv : ∀ j < 32, v j = v' j) : l.Knows v' := by
  refine ⟨h.1.trans (List.map_congr_left fun j hj => hv j (List.mem_range.mp hj)), h.2⟩

/-- Observing a register again changes the value of that one. -/
theorem renew {r : Register} (h : l.Knows v) (hr : r.value = v' i)
    (hv : ∀ j < 32, j ≠ i → v' j = v j) : (l.renew i r).Knows v' := by
  refine ⟨?_, h.2⟩
  have hbank : (l.renew i r).bank = l.bank.set i r := rfl
  rw [hbank, List.map_set, h.1]
  exact set_map_range hr.symm hv

end Knows

end Ledger

/-! ## The scenarios, one condition each -/

section

variable {p : Parameters} {given : Slot → Value} {f : Findings}

theorem review_of_ne {s : Subject} {x : Slot} (hx : x ≠ .firstRead 31) (answer : Value) :
    x.review p s answer = x.judge p s.contract answer := by
  rw [Slot.review, Slot.closing, if_neg hx]
  exact bind_pure_unit

theorem decides_documents {s : Subject} {I : Ledger → Prop} (hI : ∀ l n, I l → I (l.count n))
    {xs : List Slot} (hxs : ∀ x ∈ xs, x.IsDocument) :
    (examine p s given (xs.map .ask)).Decides I (∀ x ∈ xs, Certifies p (given x)) I := by
  refine decides_steady hI fun x hx l l' => ?_
  have hne : x ≠ .firstRead 31 := by
    rintro rfl
    exact hxs _ hx
  rw [review_of_ne hne, Slot.judge_document_eq_ok_iff (hxs x hx)]
  rfl

theorem decides_firstRead (hf : f.Covers p given) {i : Nat} (hi : i < 32) :
    ((Slot.firstRead i).judge p f.subject.contract (given (.firstRead i))).Decides
      (Ledger.ReadSoFar f i)
      (Slot.readRegister (given (.firstRead i)) = .ok (f.first i) ∧
        (f.first i).value.length = f.digest.width)
      (Ledger.ReadSoFar f (i + 1)) := by
  refine .of_ok_iff
    (f := fun l => (l.observe ⟨i, (f.first i).lock, (f.first i).value⟩).count 1) ?_ ?_
  · intro l l' _
    rw [Slot.judge_firstRead_eq_ok_iff]
    constructor
    · rintro ⟨r, hr, hw, rfl⟩
      obtain rfl := hf.first i hi r hr
      exact ⟨⟨hr, hw⟩, rfl⟩
    · rintro ⟨⟨hr, hw⟩, rfl⟩
      exact ⟨_, hr, hw, rfl⟩
  · rintro l ⟨hbank, hsample⟩ -
    refine ⟨?_, hsample⟩
    have hobserve : ((l.observe ⟨i, (f.first i).lock, (f.first i).value⟩).count 1).bank =
        l.bank ++ [⟨i, (f.first i).lock, (f.first i).value⟩] := rfl
    rw [hobserve, hbank, List.range_succ, List.map_append, List.map_singleton]

/-- What is judged at the end of the first reads, about the registers and the description. -/
def StartsRight (f : Findings) : Prop :=
  (∀ i < 32, ((f.first i).lock = true ↔ i < 16)) ∧
  (∀ i ∈ [3, 5, 6, 7, 8, 9, 10, 11, 12, 13, 14, 15], (f.first i).value = f.zero) ∧
  (∀ i ∈ [0, 1, 2, 4], (f.first i).value ≠ f.zero) ∧
  f.description.lockedRegisters.Perm ((List.range 16).map Int.ofNat)

/-- The layout of the bank, as two lists. -/
theorem zeroAtBoot?_iff : ∀ i < 32,
    (Contract.zeroAtBoot? (i : Nat) = some true ↔
      i ∈ [3, 5, 6, 7, 8, 9, 10, 11, 12, 13, 14, 15]) ∧
    (Contract.zeroAtBoot? (i : Nat) = some false ↔ i ∈ [0, 1, 2, 4]) := by
  decide

theorem decides_closing :
    (Scenario.initialRegisters.closing f.subject).Decides (Ledger.ReadSoFar f 32) (StartsRight f)
      (Ledger.ReadSoFar f 32) := by
  refine .of_ok_iff (f := Ledger.count 3) ?_ ?_
  · rintro l l' ⟨hbank, -⟩
    have hzero : f.subject.contract.zeroValue = f.zero := rfl
    -- what holds of all registers in the ledger holds of all that were read first
    have hforall : ∀ P : Register → Prop, (∀ r ∈ l.bank, P r) ↔
        ∀ i : Nat, i < 32 → P ⟨i, (f.first i).lock, (f.first i).value⟩ := by
      intro P
      simp [hbank]
    rw [Scenario.closing_initialRegisters_eq_ok_iff, hforall, hforall, hzero]
    have hlock : ∀ i < 32, (Contract.lockedAtBoot (i : Nat) = true ↔ i < 16) := by decide
    constructor
    · rintro ⟨hvalues, hset, hflags, rfl⟩
      refine ⟨⟨fun i hi => ?_, fun i hi => ?_, fun i hi => ?_, hset⟩, rfl⟩
      · rw [← hlock i hi, ← hflags i hi]
      · have hlt : i < 32 := by revert i; decide
        exact (hvalues i hlt).1 ((zeroAtBoot?_iff i hlt).1.mpr hi)
      · have hlt : i < 32 := by revert i; decide
        exact (hvalues i hlt).2 ((zeroAtBoot?_iff i hlt).2.mpr hi)
    · rintro ⟨⟨hflags, hempty, hmeasured, hset⟩, rfl⟩
      refine ⟨fun i hi => ⟨fun h => ?_, fun h => ?_⟩, hset, fun i hi => ?_, rfl⟩
      · exact hempty i ((zeroAtBoot?_iff i hi).1.mp h)
      · exact hmeasured i ((zeroAtBoot?_iff i hi).2.mp h)
      · rw [Bool.eq_iff_iff, hlock i hi]
        exact hflags i hi
  · exact fun _ hl _ => hl

/-- All first reads but the last, which also ends the scenario. -/
theorem decides_firstReads (hf : f.Covers p given) {n : Nat} (hn : n ≤ 31) :
    (examine p f.subject given (((List.range n).map Slot.firstRead).map .ask)).Decides
      (Ledger.ReadSoFar f 0)
      (∀ i < n, Slot.readRegister (given (.firstRead i)) = .ok (f.first i) ∧
        (f.first i).value.length = f.digest.width)
      (Ledger.ReadSoFar f n) := by
  rw [List.range_eq_range']
  have hloop : (examine p f.subject given (((List.range' 0 n).map Slot.firstRead).map .ask)).Decides
      (Ledger.ReadSoFar f 0) (∀ i, 0 ≤ i → i < 0 + n →
        Slot.readRegister (given (.firstRead i)) = .ok (f.first i) ∧
          (f.first i).value.length = f.digest.width) (Ledger.ReadSoFar f (0 + n)) := by
    refine decides_range' 0 n fun i _ hi => ?_
    have hne : Slot.firstRead i ≠ .firstRead 31 := by
      rw [ne_eq, Slot.firstRead.injEq]
      omega
    rw [review_of_ne hne]
    exact decides_firstRead hf (by omega)
  rw [Nat.zero_add] at hloop
  exact hloop.congr ⟨fun h i hi => h i (Nat.zero_le i) hi, fun h i _ hi => h i hi⟩

/-- The scenario of the first reads, with the bank it leaves. -/
theorem decides_initialBank (hf : f.Covers p given) :
    (examine p f.subject given ((Scenario.initialRegisters.slots p).map .ask)).Decides
      (Ledger.ReadSoFar f 0)
      ((∀ i < 32, Slot.readRegister (given (.firstRead i)) = .ok (f.first i) ∧
        (f.first i).value.length = f.digest.width) ∧ StartsRight f)
      (Ledger.ReadSoFar f 32) := by
  have hslots : (Scenario.initialRegisters.slots p).map Step.ask =
      (((List.range 31).map Slot.firstRead).map .ask) ++ [.ask (.firstRead 31)] := rfl
  have hlast : ((Slot.firstRead 31).review p f.subject (given (.firstRead 31))).Decides
      (Ledger.ReadSoFar f 31) _ (Ledger.ReadSoFar f 32) :=
    (decides_firstRead hf (by omega)).bind fun _ => decides_closing
  rw [hslots]
  refine (decides_append (decides_firstReads hf le_rfl) fun _ => decides_ask hlast).congr ?_
  constructor
  · rintro ⟨hall, hread, hstart⟩
    refine ⟨fun i hi => ?_, hstart⟩
    rcases Nat.lt_or_ge i 31 with hlt | hge
    · exact hall i hlt
    · obtain rfl : i = 31 := by omega
      exact hread
  · rintro ⟨hall, hstart⟩
    exact ⟨fun i hi => hall i (by omega), hall 31 (by omega), hstart⟩

theorem decides_initialRegisters (hf : f.Covers p given) :
    (examine p f.subject given ((Scenario.initialRegisters.slots p).map .ask)).Decides
      (Ledger.ReadSoFar f 0)
      ((∀ i < 32, Slot.readRegister (given (.firstRead i)) = .ok (f.first i) ∧
        (f.first i).value.length = f.digest.width) ∧ StartsRight f)
      (Ledger.Knows (f.value 0)) :=
  (decides_initialBank hf).imp (fun _ => id) Iff.rfl fun _ hl => hl.knows

/-! ### Locks and extension -/

/-- A place where the device must refuse. -/
def Slot.MustRefuse : Slot → Prop
  | .relock _ _ | .lockBeyond | .lockedExtension _ => True
  | _ => False

theorem judge_mustRefuse_iff {c : Contract} {x : Slot} (hx : x.MustRefuse) {answer : Value}
    {l l' : Ledger} :
    x.judge p c answer l = .ok () l' ↔ Refuses answer ∧ l' = l.count 1 := by
  cases x with
  | relock k i => rw [Slot.judge_relock_eq_ok_iff, read_eq_error_iff]
  | lockBeyond => rw [Slot.judge_lockBeyond_eq_ok_iff, read_eq_error_iff]
  | lockedExtension i => rw [Slot.judge_lockedExtension_eq_ok_iff, read_eq_error_iff]
  | _ => cases hx

theorem decides_mustRefuse {s : Subject} {I : Ledger → Prop} (hI : ∀ l n, I l → I (l.count n))
    {xs : List Slot} (hxs : ∀ x ∈ xs, x.MustRefuse) :
    (examine p s given (xs.map .ask)).Decides I (∀ x ∈ xs, Refuses (given x)) I := by
  refine decides_steady hI fun x hx l l' => ?_
  have hne : x ≠ .firstRead 31 := by
    rintro rfl
    exact hxs _ hx
  rw [review_of_ne hne, judge_mustRefuse_iff (hxs x hx)]

theorem decides_relocks {s : Subject} {I : Ledger → Prop} (hI : ∀ l n, I l → I (l.count n))
    (n : Nat) :
    (examine p s given (((List.range n).flatMap fun k =>
      (List.range 16).map (Slot.relock k)).map .ask)).Decides I
      (∀ k < n, ∀ i < 16, Refuses (given (.relock k i))) I := by
  refine (decides_mustRefuse hI fun x hx => ?_).congr ?_
  · simp only [List.mem_flatMap, List.mem_map] at hx
    obtain ⟨_, -, _, -, rfl⟩ := hx
    trivial
  · simp only [List.forall_mem_flatMap, List.forall_mem_map, List.mem_range]

theorem decides_lockBeyond {s : Subject} {I : Ledger → Prop} (hI : ∀ l n, I l → I (l.count n)) :
    (examine p s given [.ask .lockBeyond]).Decides I (Refuses (given .lockBeyond)) I := by
  have hbeyond : (examine p s given ([Slot.lockBeyond].map .ask)).Decides I
      (∀ x ∈ [Slot.lockBeyond], Refuses (given x)) I :=
    decides_mustRefuse hI fun x hx => by rw [List.mem_singleton.mp hx]; trivial
  exact hbeyond.congr List.forall_mem_singleton

theorem decides_lockedExtensions {s : Subject} {I : Ledger → Prop}
    (hI : ∀ l n, I l → I (l.count n)) :
    (examine p s given (((List.range 32).map Slot.lockedExtension).map .ask)).Decides I
      (∀ i < 32, Refuses (given (.lockedExtension i))) I := by
  refine (decides_mustRefuse hI fun x hx => ?_).congr ?_
  · obtain ⟨_, -, rfl⟩ := List.mem_map.mp hx
    trivial
  · simp only [List.forall_mem_map, List.mem_range]

/-- Free registers are locked by their bare name. -/
theorem decides_locks {s : Subject} {I : Ledger → Prop} (hI : ∀ l n, I l → I (l.count n)) :
    (examine p s given (((List.range' 16 16).map Slot.lock).map .ask)).Decides I
      (∀ i, 16 ≤ i → i < 32 → given (.lock i) = .text "LockPCR") I := by
  have hlocks : (examine p s given (((List.range' 16 16).map Slot.lock).map .ask)).Decides I
      (∀ x ∈ (List.range' 16 16).map Slot.lock, given x = .text "LockPCR") I := by
    refine decides_steady hI fun x hx l l' => ?_
    obtain ⟨i, -, rfl⟩ := List.mem_map.mp hx
    rw [review_of_ne (x := .lock i) nofun, Slot.judge_lock_eq_ok_iff]
    exact and_congr_left fun _ => readUnit_eq_ok_iff
  refine hlocks.congr ?_
  simp only [List.forall_mem_map, List.mem_range'_1, and_imp]

theorem decides_lockRange {s : Subject} {I : Ledger → Prop} (hI : ∀ l n, I l → I (l.count n)) :
    (examine p s given [.ask .lockRange]).Decides I (given .lockRange = .text "LockPCRs") I := by
  refine decides_ask (.of_ok_iff (f := Ledger.count 1) (fun l l' _ => ?_) fun l hl _ => hI l 1 hl)
  rw [review_of_ne (x := .lockRange) nofun, Slot.judge_lockRange_eq_ok_iff]
  exact and_congr_left fun _ => readUnit_eq_ok_iff

/-- What the extension of a register in a round must return. -/
def ExtendsTo (f : Findings) (k i : Nat) (answer : Value) : Prop :=
  Slot.readExtension answer = .ok (f.extended k i) ∧
    (f.extended k i).length = f.digest.width ∧ f.extended k i ≠ f.zero ∧
    f.extended k i ≠ f.value k i

/-- One round: the registers before the present one have their new values, the others do not. -/
theorem decides_extensions (hf : f.Covers p given) {k : Nat} (hk : k < p.extendRounds) :
    (examine p f.subject given (((List.range' 16 16).map (Slot.extension k)).map .ask)).Decides
      (Ledger.Knows (f.value k))
      (∀ i, 16 ≤ i → i < 32 → ExtendsTo f k i (given (.extension k i)))
      (Ledger.Knows (f.value (k + 1))) := by
  have hround : (examine p f.subject given
      (((List.range' 16 16).map (Slot.extension k)).map .ask)).Decides
      (Ledger.Knows fun j => if j < 16 then f.value (k + 1) j else f.value k j)
      (∀ i, 16 ≤ i → i < 16 + 16 → ExtendsTo f k i (given (.extension k i)))
      (Ledger.Knows fun j => if j < 16 + 16 then f.value (k + 1) j else f.value k j) := by
    refine decides_range' (I := fun i =>
      Ledger.Knows fun j => if j < i then f.value (k + 1) j else f.value k j) 16 16
      fun i hle hlt => ?_
    intro l hl
    -- the register was not extended yet in this round, so it has its earlier value
    obtain ⟨r, hr, hvalue⟩ := hl.exists_getElem? (i := i) (by omega)
    rw [if_neg (by omega)] at hvalue
    refine Judgement.Decides.of_ok_iff (I := (· = l))
      (f := fun l => (l.renew i (r.withValue (f.extended k i))).count 2) ?_ ?_ l rfl
    · rintro l l' rfl
      rw [review_of_ne (x := .extension k i) nofun, Slot.judge_extension_eq_ok_iff hr]
      constructor
      · rintro ⟨b, hb, hw, hz, hne, rfl⟩
        obtain rfl := hf.extended k hk i hle (by omega) b hb
        exact ⟨⟨hb, hw, hz, hvalue ▸ Ne.symm hne⟩, rfl⟩
      · rintro ⟨⟨hb, hw, hz, hne⟩, rfl⟩
        exact ⟨_, hb, hw, hz, hvalue ▸ Ne.symm hne, rfl⟩
    · rintro l rfl -
      have hnew : (r.withValue (f.extended k i)).value = f.value (k + 1) i := by
        rw [Findings.value, if_neg (by omega)]
        rfl
      refine hl.renew ?_ fun j hj hne => ?_
      · rw [if_pos (by omega)]
        exact hnew
      · have hiff : j < i + 1 ↔ j < i := by omega
        simp only [hiff]
  -- the round starts at the first free register and ends behind the last one
  refine hround.imp (fun l hl => hl.congr fun j _ => ?_) Iff.rfl fun l hl => hl.congr fun j hj => ?_
  · split_ifs with hlt
    · exact (f.value_eq_of_lt k hlt).trans (f.value_eq_of_lt (k + 1) hlt).symm
    · rfl
  · rw [if_pos (by omega)]

theorem decides_extensionRounds (hf : f.Covers p given) {n : Nat} (hn : n ≤ p.extendRounds) :
    (examine p f.subject given (((List.range n).flatMap fun k =>
      (List.range' 16 16).map (Slot.extension k)).map .ask)).Decides
      (Ledger.Knows (f.value 0))
      (∀ k < n, ∀ i, 16 ≤ i → i < 32 → ExtendsTo f k i (given (.extension k i)))
      (Ledger.Knows (f.value n)) :=
  decides_rounds (I := fun k => Ledger.Knows (f.value k)) n fun _ hk =>
    decides_extensions hf (by omega)

/-- The value of every register is known, and the first so many were locked when last seen. -/
def Ledger.Read (v : Nat → Bytes) (m : Nat) (l : Ledger) : Prop :=
  l.Knows v ∧ ∀ j < m, ∃ r, l.bank[j]? = some r ∧ r.lock = true

theorem Ledger.Read.renew {v : Nat → Bytes} {m i : Nat} {r : Register} {l : Ledger}
    (h : l.Read v m) (hr : r.value = v i) (hlock : r.lock = true) (hi : i < 32) :
    (l.renew i r).Read v (if i = m then m + 1 else m) := by
  obtain ⟨hknows, hlocked⟩ := h
  obtain ⟨_, hbound, -⟩ := hknows.exists_getElem? hi
  have hlength := (List.getElem?_eq_some_iff.mp hbound).1
  refine ⟨hknows.renew hr fun _ _ _ => rfl, ?_⟩
  intro j hj
  have hbank : (l.renew i r).bank = l.bank.set i r := rfl
  rw [hbank]
  by_cases hji : i = j
  · subst hji
    exact ⟨r, List.getElem?_set_self hlength, hlock⟩
  · rw [List.getElem?_set_ne hji]
    refine hlocked j ?_
    split_ifs at hj <;> omega

/-- One read, when the value that is known is that of a locked register. -/
theorem decides_read {v : Nat → Bytes} {k i m : Nat} (hwidth : (v i).length = f.digest.width)
    (hzero : Contract.zeroAfterLock (i : Nat) = true ↔ v i = f.zero) (hi : i < 32) :
    ((Slot.read k i).review p f.subject (given (.read k i))).Decides (Ledger.Read v m)
      (Slot.readRegister (given (.read k i)) = .ok ⟨true, v i⟩)
      (Ledger.Read v (if i = m then m + 1 else m)) := by
  intro l hl
  obtain ⟨r, hr, hvalue⟩ := hl.1.exists_getElem? hi
  refine Judgement.Decides.of_ok_iff (I := (· = l))
    (f := fun l => (l.renew i ⟨i, true, v i⟩).count 4) ?_ ?_ l rfl
  · rintro l l' rfl
    rw [review_of_ne (x := .read k i) nofun, Slot.judge_read_eq_ok_iff hr]
    constructor
    · rintro ⟨⟨lock, value⟩, hread, -, rfl, -, hsame, rfl⟩
      obtain rfl : v i = value := hvalue.symm.trans hsame
      exact ⟨hread, rfl⟩
    · rintro ⟨hread, rfl⟩
      exact ⟨_, hread, hwidth, rfl, hzero, hvalue, rfl⟩
  · rintro l rfl -
    exact hl.renew rfl rfl hi

/-- Reads in a round, when the values that are known are those of a locked bank. -/
theorem decides_reads {v : Nat → Bytes} (hwidth : ∀ i < 32, (v i).length = f.digest.width)
    (hzero : ∀ i < 32, (Contract.zeroAfterLock (i : Nat) = true ↔ v i = f.zero)) (k m : Nat)
    {n : Nat} (hn : n ≤ 32) :
    (examine p f.subject given (((List.range n).map (Slot.read k)).map .ask)).Decides
      (Ledger.Read v m) (∀ i < n, Slot.readRegister (given (.read k i)) = .ok ⟨true, v i⟩)
      (Ledger.Read v (max m n)) := by
  rw [List.range_eq_range']
  have hloop : (examine p f.subject given (((List.range' 0 n).map (Slot.read k)).map .ask)).Decides
      (Ledger.Read v (max m 0))
      (∀ i, 0 ≤ i → i < 0 + n → Slot.readRegister (given (.read k i)) = .ok ⟨true, v i⟩)
      (Ledger.Read v (max m (0 + n))) := by
    refine decides_range' (I := fun i => Ledger.Read v (max m i)) 0 n fun i _ hlt => ?_
    have hmax : (if i = max m i then max m i + 1 else max m i) = max m (i + 1) := by
      split_ifs <;> omega
    rw [← hmax]
    exact decides_read (hwidth i (by omega)) (hzero i (by omega)) (by omega)
  rw [Nat.max_zero, Nat.zero_add] at hloop
  exact hloop.congr ⟨fun h i hi => h i (Nat.zero_le i) hi, fun h i _ hi => h i hi⟩

theorem Ledger.Knows.read_zero {v : Nat → Bytes} {l : Ledger} (h : l.Knows v) : l.Read v 0 :=
  ⟨h, by simp⟩

/-- Rounds of reads. After the first of them every register was seen to be locked. -/
theorem decides_readRounds {v : Nat → Bytes} (hwidth : ∀ i < 32, (v i).length = f.digest.width)
    (hzero : ∀ i < 32, (Contract.zeroAfterLock (i : Nat) = true ↔ v i = f.zero)) (n : Nat) :
    (examine p f.subject given (((List.range n).flatMap fun k =>
      (List.range 32).map (Slot.read k)).map .ask)).Decides
      (Ledger.Read v 0)
      (∀ k < n, ∀ i < 32, Slot.readRegister (given (.read k i)) = .ok ⟨true, v i⟩)
      (Ledger.Read v (32 * min n 1)) := by
  refine decides_rounds (I := fun m => Ledger.Read v (32 * min m 1)) n fun k _ => ?_
  have hmax : max (32 * min k 1) 32 = 32 * min (k + 1) 1 := by omega
  rw [← hmax]
  exact decides_reads hwidth hzero k _ le_rfl

/-! ### Random octets -/

/-- So many samples were drawn, and the last one is known. -/
def Ledger.Drew (f : Findings) : Nat → Ledger → Prop
  | 0, l => l.sample = none
  | n + 1, l => l.sample = some (f.sample n)

/-- A sample is as long as asked for, and is not the one before it. -/
def SamplesTo (p : Parameters) (f : Findings) (n : Nat) (answer : Value) : Prop :=
  (Slot.readSample p answer = .ok (f.sample n) ∧ (f.sample n).length = p.randomLength) ∧
    ∀ m, n = m + 1 → f.sample n ≠ f.sample m

theorem decides_sample (hf : f.Covers p given) {n : Nat} (hn : n < p.randomSamples) :
    ((Slot.sample n).review p f.subject (given (.sample n))).Decides (Ledger.Drew f n)
      (SamplesTo p f n (given (.sample n))) (Ledger.Drew f (n + 1)) := by
  refine .of_ok_iff (f := fun l => (l.draw (f.sample n)).count 1) ?_ fun l _ _ => rfl
  intro l l' hl
  -- there is a sample to compare with, except for the first
  have hfresh : l.sample ≠ some (f.sample n) ↔ ∀ m, n = m + 1 → f.sample n ≠ f.sample m := by
    cases n with
    | zero =>
      rw [show l.sample = none from hl]
      simp
    | succ n =>
      rw [show l.sample = some (f.sample n) from hl]
      simp [eq_comm]
  rw [review_of_ne (x := .sample n) nofun, Slot.judge_sample_eq_ok_iff, SamplesTo, ← hfresh]
  constructor
  · rintro ⟨b, hb, hlength, hne, rfl⟩
    obtain rfl := hf.sample n hn b hb
    exact ⟨⟨⟨hb, hlength⟩, hne⟩, rfl⟩
  · rintro ⟨⟨⟨hb, hlength⟩, hne⟩, rfl⟩
    exact ⟨_, hb, hlength, hne, rfl⟩

theorem decides_samples (hf : f.Covers p given) :
    (examine p f.subject given ((Scenario.randomness.slots p).map .ask)).Decides
      (Ledger.Drew f 0) (∀ n < p.randomSamples, SamplesTo p f n (given (.sample n)))
      (Ledger.Drew f p.randomSamples) := by
  have hloop : (examine p f.subject given (((List.range' 0 p.randomSamples).map Slot.sample).map
      .ask)).Decides (Ledger.Drew f 0) (∀ n, 0 ≤ n → n < 0 + p.randomSamples →
        SamplesTo p f n (given (.sample n))) (Ledger.Drew f (0 + p.randomSamples)) :=
    decides_range' 0 p.randomSamples fun n _ hn => decides_sample hf (by omega)
  rw [Scenario.slots, List.range_eq_range']
  rw [Nat.zero_add] at hloop
  exact hloop.congr ⟨fun h n hn => h n (Nat.zero_le n) hn, fun h n _ hn => h n hn⟩

/-! ### All scenarios -/

/-- Which registers must be empty once everything is locked. -/
theorem zeroAfterLock_iff : ∀ i < 32, (Contract.zeroAfterLock (i : Nat) = true ↔
    i ∈ [3, 5, 6, 7, 8, 9, 10, 11, 12, 13, 14, 15]) := by
  decide

/-- Those below sixteen that need not be empty must not be. -/
theorem mem_of_lt : ∀ i < 16, i ∉ [3, 5, 6, 7, 8, 9, 10, 11, 12, 13, 14, 15] →
    i ∈ [0, 1, 2, 4] := by
  decide

/-- A bank that started right and was extended is as a locked bank must be. -/
theorem zeroAfterLock_iff_value (hstart : StartsRight f)
    (hextended : ∀ k < p.extendRounds, ∀ i, 16 ≤ i → i < 32 →
      ExtendsTo f k i (given (.extension k i))) {i : Nat} (hi : i < 32) :
    Contract.zeroAfterLock (i : Nat) = true ↔ f.value p.extendRounds i = f.zero := by
  rw [zeroAfterLock_iff i hi]
  obtain ⟨-, hempty, hmeasured, -⟩ := hstart
  rcases Nat.lt_or_ge i 16 with hlt | hge
  · rw [f.value_eq_of_lt _ hlt]
    constructor
    · exact hempty i
    · intro hzero
      by_contra hmem
      exact hmeasured i (mem_of_lt i hlt hmem) hzero
  -- a free register was extended at least once, and no extension returned an empty value
  · obtain ⟨k, hk⟩ : ∃ k, p.extendRounds = k + 1 := ⟨p.extendRounds - 1, by
      have hpos := p.extendRounds_pos
      omega⟩
    have hne := (hextended k (by omega) i hge hi).2.2.1
    have hnotMem : i ∉ [3, 5, 6, 7, 8, 9, 10, 11, 12, 13, 14, 15] := by
      simp only [List.mem_cons, List.not_mem_nil, or_false]
      omega
    rw [hk, Findings.value, if_neg (by omega)]
    exact iff_of_false hnotMem hne

theorem length_value
    (hfirst : ∀ i < 32, Slot.readRegister (given (.firstRead i)) = .ok (f.first i) ∧
      (f.first i).value.length = f.digest.width)
    (hextended : ∀ k < p.extendRounds, ∀ i, 16 ≤ i → i < 32 →
      ExtendsTo f k i (given (.extension k i))) {k i : Nat} (hk : k ≤ p.extendRounds)
    (hi : i < 32) : (f.value k i).length = f.digest.width := by
  cases k with
  | zero => exact (hfirst i hi).2
  | succ k =>
    rw [Findings.value]
    split_ifs with hlt
    · exact (hfirst i hi).2
    · exact (hextended k hk i (by omega) hi).2.1

/-- The steps up to the end of the first reads. -/
def Parameters.opening (p : Parameters) : List Step :=
  (Scenario.description.slots p).map .ask ++ ([.pass .description] ++
  ((Scenario.initialRegisters.slots p).map .ask ++ [.pass .initialRegisters]))

/-- The steps between the first reads and the later ones. -/
def Parameters.lockings (p : Parameters) : List Step :=
  ((List.range p.relockAttempts).flatMap fun k =>
    (List.range 16).map (Slot.relock k)).map .ask ++
  (((List.range p.extendRounds).flatMap fun k =>
    (List.range' 16 16).map (Slot.extension k)).map .ask ++
  (((List.range' 16 16).map Slot.lock).map .ask ++ ([.ask .lockRange] ++ ([.ask .lockBeyond] ++
  ((List.range 32).map Slot.lockedExtension).map .ask))))

theorem decides_lockings (hf : f.Covers p given) :
    (examine p f.subject given p.lockings).Decides (Ledger.Knows (f.value 0))
      ((∀ k < p.relockAttempts, ∀ i < 16, Refuses (given (.relock k i))) ∧
        (∀ k < p.extendRounds, ∀ i, 16 ≤ i → i < 32 → ExtendsTo f k i (given (.extension k i))) ∧
        (∀ i, 16 ≤ i → i < 32 → given (.lock i) = .text "LockPCR") ∧
        given .lockRange = .text "LockPCRs" ∧ Refuses (given .lockBeyond) ∧
        ∀ i < 32, Refuses (given (.lockedExtension i)))
      (Ledger.Knows (f.value p.extendRounds)) := by
  have hcount : ∀ v, ∀ l n, Ledger.Knows v l → (l.count n).Knows v := fun _ _ _ hl => hl
  exact decides_append (decides_relocks (hcount _) _) fun _ =>
    decides_append (decides_extensionRounds hf le_rfl) fun _ =>
    decides_append (decides_locks (hcount _)) fun _ =>
    decides_append (decides_lockRange (hcount _)) fun _ =>
    decides_append (decides_lockBeyond (hcount _)) fun _ =>
    decides_lockedExtensions (hcount _)

theorem decides_locksAndExtension (hf : f.Covers p given)
    (hfirst : ∀ i < 32, Slot.readRegister (given (.firstRead i)) = .ok (f.first i) ∧
      (f.first i).value.length = f.digest.width) (hstart : StartsRight f) :
    (examine p f.subject given ((Scenario.locksAndExtension.slots p).map .ask)).Decides
      (Ledger.Knows (f.value 0))
      ((∀ k < p.relockAttempts, ∀ i < 16, Refuses (given (.relock k i))) ∧
        (∀ k < p.extendRounds, ∀ i, 16 ≤ i → i < 32 → ExtendsTo f k i (given (.extension k i))) ∧
        (∀ i, 16 ≤ i → i < 32 → given (.lock i) = .text "LockPCR") ∧
        given .lockRange = .text "LockPCRs" ∧ Refuses (given .lockBeyond) ∧
        (∀ i < 32, Refuses (given (.lockedExtension i))) ∧
        ∀ k < p.readRounds, ∀ i < 32,
          Slot.readRegister (given (.read k i)) = .ok ⟨true, f.value p.extendRounds i⟩)
      (Ledger.Knows (f.value p.extendRounds)) := by
  have hall := decides_append (decides_lockings hf) fun hextended =>
    (decides_readRounds (fun i hi => length_value hfirst hextended.2.1 le_rfl hi)
      (fun i hi => zeroAfterLock_iff_value hstart hextended.2.1 hi) p.readRounds).imp
      (fun _ hl => hl.read_zero) Iff.rfl fun _ hl => hl.1
  simp only [Parameters.lockings, List.append_assoc] at hall
  rw [Scenario.steps_locksAndExtension]
  exact hall.congr (by simp only [and_assoc])

/-- The document that is asked for before anything else, if it is. -/
theorem decides_bootDocument {s : Subject} {I : Ledger → Prop} (hI : ∀ l n, I l → I (l.count n)) :
    (examine p s given ((Scenario.description.slots p).map .ask)).Decides I
      (∀ x ∈ Scenario.description.slots p, Certifies p (given x)) I := by
  refine decides_documents hI fun x hx => ?_
  rw [Scenario.slots] at hx
  split_ifs at hx
  · rw [List.mem_singleton.mp hx]
    trivial
  · cases hx

/-- **The examination of all answers** accepts those that conform. -/
theorem exists_examine_iff (hf : f.Covers p given) {described : Value}
    (hread : f.subject.ReadFrom described) :
    (∃ l, examine p f.subject given p.steps (.identified f.description) = .ok () l) ↔
      Conforms p described given f := by
  obtain ⟨hdescribed, hcontract⟩ := hread
  obtain ⟨hcount, hid, hshort, digest, htag, hdigest⟩ := Check.ofDescription_eq_ok_iff.mp hcontract
  obtain rfl : f.digest = digest := congrArg Contract.digest hdigest
  have hattest : (examine p f.subject given ((Scenario.attestation.slots p).map .ask)).Decides
      (Ledger.Knows (f.value p.extendRounds))
      (∀ x ∈ Scenario.attestation.slots p, Certifies p (given x))
      (Ledger.Knows (f.value p.extendRounds)) := by
    refine decides_documents (fun _ _ hl => hl) fun x hx => ?_
    simp only [Scenario.slots, List.mem_cons, List.not_mem_nil, or_false] at hx
    rcases hx with rfl | rfl | rfl | rfl | rfl | rfl | rfl <;> trivial
  have hsamples : (examine p f.subject given ((Scenario.randomness.slots p).map .ask)).Decides
      (Ledger.Knows (f.value p.extendRounds)) _ fun _ => True :=
    (decides_samples hf).imp (fun _ hl => hl.2) Iff.rfl fun _ _ => trivial
  have hall := decides_append (decides_bootDocument fun _ _ hl => hl) fun _ =>
    decides_append (decides_pass .description fun _ hl => hl) fun _ =>
    decides_append (decides_initialRegisters hf) fun hfirst =>
    decides_append (decides_pass .initialRegisters fun _ hl => hl) fun _ =>
    decides_append (decides_locksAndExtension hf hfirst.1 hfirst.2) fun _ =>
    decides_append (decides_pass .locksAndExtension fun _ hl => hl) fun _ =>
    decides_append hattest fun _ =>
    decides_append (decides_pass .attestation fun _ hl => hl) fun _ =>
    decides_append hsamples fun _ => decides_pass .randomness fun _ _ => trivial
  rw [← p.steps_eq] at hall
  rw [(hall (.identified f.description) ⟨rfl, rfl⟩).1]
  -- what remains is to sort the conditions of the scenarios into the contract
  constructor
  · rintro ⟨hboot, -, ⟨hfirst, hlocks, hempty, hmeasured, hset⟩, -,
      ⟨hrelock, hextended, hlock, hrange, hbeyond, hlocked, hreads⟩, -, hattest, -, hsamples, -⟩
    refine {
      described := hdescribed, registerCount := hcount, moduleId := hid, moduleId_short := hshort
      digest := htag, lockedRegisters := hset, firstRead := hfirst, firstLock := hlocks
      firstEmpty := hempty, firstMeasured := hmeasured, relock := hrelock, extension := hextended
      lock := hlock, lockRange := hrange, lockBeyond := hbeyond, lockedExtension := hlocked
      read := hreads, bootDocument := fun hb => ?_, plainDocument := ?_
      document := fun filled n hn => ?_, sample := fun n hn => (hsamples n hn).1
      sample_fresh := fun n hn => (hsamples (n + 1) hn).2 n rfl }
    · exact hboot .bootDocument (by simp [Scenario.slots, hb])
    · exact hattest .plainDocument (by simp [Scenario.slots])
    · refine hattest (.document filled n) ?_
      simp only [List.mem_cons, List.not_mem_nil, or_false] at hn
      rcases hn with rfl | rfl | rfl <;> cases filled <;> simp [Scenario.slots]
  · intro h
    refine ⟨fun x hx => ?_, trivial, ⟨h.firstRead, h.firstLock, h.firstEmpty, h.firstMeasured,
      h.lockedRegisters⟩, trivial, ⟨h.relock, h.extension, h.lock, h.lockRange, h.lockBeyond,
      h.lockedExtension, h.read⟩, trivial, fun x hx => ?_, trivial, fun n hn => ⟨h.sample n hn, ?_⟩,
      trivial⟩
    · rw [Scenario.slots] at hx
      split_ifs at hx with hb
      · rw [List.mem_singleton.mp hx]
        exact h.bootDocument hb
      · cases hx
    · simp only [Scenario.slots, List.mem_cons, List.not_mem_nil, or_false] at hx
      rcases hx with rfl | rfl | rfl | rfl | rfl | rfl | rfl
      · exact h.plainDocument
      all_goals exact h.document _ _ (by decide)
    · rintro m rfl
      exact h.sample_fresh m hn

end

/-! ## Runs -/

/-- The device that is described is the subject of the audit. -/
theorem Conforms.readFrom {p : Parameters} {described : Value} {given : Slot → Value} {f : Findings}
    (h : Conforms p described given f) : f.subject.ReadFrom described :=
  ⟨h.described, Check.ofDescription_eq_ok_iff.mpr
    ⟨h.registerCount, h.moduleId, h.moduleId_short, f.digest, h.digest, rfl⟩⟩

/-- A device that conforms is audited to the end. -/
theorem Auditor.exists_done_of_conforms {σ : Type} (a : Auditor) {t : Transport σ} (runId : String)
    (now : Instant) {device after : σ} {described : Value} {given : Slot → Value} {f : Findings}
    (hacquire : (t.acquire device).result = .ok ())
    (hreplies : t.Replies (t.acquire device).device
      (a.parameters.exchanges described given a.parameters.slots) after)
    (h : Conforms a.parameters described given f) :
    ∃ r, (a.run t runId now device).outcome = .ok r ∧ r.phase = .done := by
  obtain ⟨l, hexamine⟩ := (exists_examine_iff h.covers h.readFrom).mpr h
  exact (a.exists_done_iff runId now hacquire).mpr ⟨⟨after, l.finish⟩, Course.whole_eq_ok_iff.mpr
    ⟨f.subject, described, given, l, hreplies, h.readFrom, hexamine, rfl⟩⟩

/-- **An audit is done exactly when the device conforms.** The transport is acquired, the device
answers every request of the script in turn, and the answers are those of a device that keeps its
contract. Nothing is assumed of the transport or of the answers. -/
theorem Auditor.run_done_iff {σ : Type} (a : Auditor) (t : Transport σ) (runId : String)
    (now : Instant) (device : σ) :
    (∃ r, (a.run t runId now device).outcome = .ok r ∧ r.phase = .done) ↔
      (t.acquire device).result = .ok () ∧
      ∃ described given after f,
        t.Replies (t.acquire device).device
          (a.parameters.exchanges described given a.parameters.slots) after ∧
        Conforms a.parameters described given f := by
  cases hacquire : (t.acquire device).result with
  | error i =>
    obtain ⟨houtcome, -⟩ := a.run_of_not_acquired runId now hacquire
    simp [houtcome]
  | ok u =>
    simp only [true_and]
    constructor
    -- the findings are those that the answers tell
    · intro hdone
      obtain ⟨st, hwhole⟩ := (a.exists_done_iff runId now hacquire).mp hdone
      obtain ⟨s, described, given, l, hreplies, hread, hexamine, -⟩ :=
        Course.whole_eq_ok_iff.mp hwhole
      have hsubject := Findings.subject_of a.parameters given hread
      have hconforms := (exists_examine_iff (Findings.of_covers s a.parameters given)
        (hsubject.symm ▸ hread)).mp ⟨l, hsubject.symm ▸ hexamine⟩
      exact ⟨described, given, _, _, hreplies, hconforms⟩
    · rintro ⟨described, given, after, f, hreplies, h⟩
      exact a.exists_done_of_conforms runId now hacquire hreplies h

end EnclaveAudit
