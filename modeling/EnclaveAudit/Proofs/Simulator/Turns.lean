import EnclaveAudit.Proofs.Audit.Dialogue
import EnclaveAudit.Proofs.Simulator.Bank

/-!
# `EnclaveAudit/Proofs/Simulator/Turns.lean` — what a simulated device says, turn by turn

An audit sends its script whatever the device answers, so what a simulated device answers can be
worked out without an audit. At each place of the script its bank is one of a few (`Stage`): so many
attempts to lock again, so many rounds of extensions, locked or not yet, so many rounds of reads. A
`Turn` is one request at one place: it says the answer and the bank after it.

The answers are those of *every* device, with any set of faults. What a fault does to an answer
stands in the answer (`Script.answers`), and no turn is taken apart again later to see it.
-/

set_option autoImplicit false

namespace EnclaveAudit.Simulator

/-- A device that says of itself what any usual one says. -/
structure Settings.Usual (s : Settings) : Prop where
  registerCount : s.registerCount = 32
  reported : s.reported = s.digest.tag
  major : 0 ≤ s.version.1
  minor : 0 ≤ s.version.2.1
  patch : 0 ≤ s.version.2.2
  moduleId : s.moduleId ≠ ""
  moduleId_short : (Bytes.ofString s.moduleId).length ≤ 100

/-! ## Requests as the firmware reads them -/

section

variable {s : Settings} {p : Parameters} {i : Nat}

theorem index_eq {body : Value} (hs : s.registerCount = 32) (hi : i < 32)
    (hbody : body.field? "index" = some (.int i)) : Request.index s body = .ok i := by
  have hnumber : Request.number "index" body = .ok i := by
    unfold Request.number
    rw [hbody]
    rfl
  have hlt : (i : Int) < 32 := by omega
  unfold Request.index
  rw [hnumber, hs]
  simp only [bind, Except.bind, if_pos hlt]
  rfl

theorem ofValue_read (hs : s.registerCount = 32) (hi : i < 32) :
    Request.ofValue s ((Slot.firstRead i).request p) = .ok (.describeRegister i) := by
  have h : Request.index s (.record [("index", .int i)]) = .ok i := index_eq hs hi rfl
  have hshape : Request.ofValue s ((Slot.firstRead i).request p) = (do
      pure (.describeRegister (← Request.index s (.record [("index", .int i)])))) := rfl
  rw [hshape, h]
  rfl

theorem ofValue_lock (hs : s.registerCount = 32) (hi : i < 32) :
    Request.ofValue s ((Slot.lock i).request p) = .ok (.lockRegister i) := by
  have h : Request.index s (.record [("index", .int i)]) = .ok i := index_eq hs hi rfl
  have hshape : Request.ofValue s ((Slot.lock i).request p) = (do
      pure (.lockRegister (← Request.index s (.record [("index", .int i)])))) := rfl
  rw [hshape, h]
  rfl

theorem ofValue_extend (hs : s.registerCount = 32) (hi : i < 32) :
    Request.ofValue s ((Slot.lockedExtension i).request p) =
      .ok (.extendRegister i p.extendInput) := by
  have h : Request.index s
      (.record [("index", .int i), ("data", .bytes p.extendInput)]) = .ok i := index_eq hs hi rfl
  have hshape : Request.ofValue s ((Slot.lockedExtension i).request p) = (do
      let i ← Request.index s (.record [("index", .int i), ("data", .bytes p.extendInput)])
      pure (.extendRegister i p.extendInput)) := rfl
  rw [hshape, h]
  rfl

theorem ofValue_lockRange (hs : s.registerCount = 32) :
    Request.ofValue s (Slot.lockRange.request p) = .ok (.lockRegisters 32) := by
  have hshape : Request.ofValue s (Slot.lockRange.request p) =
      if ((32 : Nat) : Int) ≤ Request.lockLimit s then .ok (.lockRegisters 32)
      else .error .invalidIndex := rfl
  rw [hshape, Request.lockLimit, hs]
  split_ifs <;> first | rfl | omega

theorem ofValue_lockBeyond (hs : s.registerCount = 32) :
    Request.ofValue s (Slot.lockBeyond.request p) =
      if s.has .looseLockRange then .ok (.lockRegisters 33) else .error .invalidIndex := by
  have hshape : Request.ofValue s (Slot.lockBeyond.request p) =
      if ((33 : Nat) : Int) ≤ Request.lockLimit s then .ok (.lockRegisters 33)
      else .error .invalidIndex := rfl
  rw [hshape, Request.lockLimit, hs]
  split_ifs <;> first | rfl | omega

/-- What is to be attested is never too long. -/
theorem attested_eq {name : String} {body : Value} {b : Option Bytes}
    (hbody : body.field? name = some (.ofBytes? b)) (hb : ∀ x ∈ b, x.length ≤ 1024) :
    Request.attested name body = .ok b := by
  unfold Request.attested
  rw [hbody]
  cases b with
  | none => rfl
  | some x =>
    have hshort : ¬attestationLimit < x.length := Nat.not_lt.mpr (hb x rfl)
    simp only [Value.ofBytes?, if_neg hshort]

theorem ofValue_attest {userData nonce publicKey : Option Bytes}
    (hu : ∀ x ∈ userData, x.length ≤ 1024) (hn : ∀ x ∈ nonce, x.length ≤ 1024)
    (hk : ∀ x ∈ publicKey, x.length ≤ 1024) :
    Request.ofValue s (Operation.call "Attestation" [("user_data", .ofBytes? userData),
      ("nonce", .ofBytes? nonce), ("public_key", .ofBytes? publicKey)]) =
      .ok (.attest userData nonce publicKey) := by
  have hshape : ∀ body : Value, Request.isAttestationBody body = true →
      Request.ofValue s (.record [("Attestation", body)]) = (do
        let userData ← Request.attested "user_data" body
        let nonce ← Request.attested "nonce" body
        let publicKey ← Request.attested "public_key" body
        pure (.attest userData nonce publicKey)) := by
    intro body hbody
    have hread : Request.ofValue s (.record [("Attestation", body)]) =
        if Request.isAttestationBody body then do
          let userData ← Request.attested "user_data" body
          let nonce ← Request.attested "nonce" body
          let publicKey ← Request.attested "public_key" body
          pure (.attest userData nonce publicKey)
        else throw .invalidOperation := rfl
    rw [hread, if_pos hbody]
  unfold Operation.call
  rw [hshape _ rfl, attested_eq rfl hu, attested_eq rfl hn, attested_eq rfl hk]
  rfl

end

/-! ## The bank at each place of the script -/

/-- What a free register holds after so many rounds of extensions. -/
def chain (e : Surroundings) (s : Settings) (p : Parameters) : Nat → Bytes
  | 0 => Bytes.zeros s.digest.width
  | k + 1 => e.primitives.extend s.digest
    (if s.has .idempotentExtend then Bytes.zeros s.digest.width else chain e s p k) p.extendInput

/-- What a register holds after so many rounds of extensions. -/
def held (e : Surroundings) (s : Settings) (p : Parameters) (k i : Nat) : Bytes :=
  if i < 16 then bootValue e.primitives s i else chain e s p k

/-- How far an audit has come, as a bank sees it. -/
structure Stage where
  relocks : Nat := 0
  extensions : Nat := 0
  locked : Bool := false
  reads : Nat := 0

namespace Stage

/-- The stage after so many rounds of attempts to lock again. -/
def relocked (k : Nat) : Stage := { relocks := k }

/-- The stage after so many rounds of extensions. -/
def extended (p : Parameters) (k : Nat) : Stage := ⟨p.relockAttempts, k, false, 0⟩

/-- The stage once everything is locked, after so many rounds of reads. -/
def read (p : Parameters) (k : Nat) : Stage := ⟨p.relockAttempts, p.extendRounds, true, k⟩

end Stage

/-- A register at a stage. -/
def Stage.cell (e : Surroundings) (s : Settings) (p : Parameters) (g : Stage) (i : Nat) : Cell where
  register := ⟨i, decide (i < 16) || g.locked, held e s p g.extensions i⟩
  lockedReads := if s.has .lockFlap && decide (16 ≤ i) then g.reads else 0
  relocks := if i < 16 then g.relocks else 0

/-- A bank of 32 registers. -/
def bankOf (cells : Nat → Cell) : Bank := (List.range 32).map cells

/-- A bank in the middle of a round: the registers before a place are done, the others are not. -/
def between (i : Nat) (f g : Nat → Cell) (j : Nat) : Cell := if j < i then g j else f j

section

variable {e : Surroundings} {s : Settings} {p : Parameters} {f g : Nat → Cell} {i : Nat}

theorem getElem?_bankOf (hi : i < 32) : (bankOf f)[i]? = some (f i) := by
  simp [bankOf, hi]

theorem bankOf_congr (h : ∀ j < 32, f j = g j) : bankOf f = bankOf g :=
  List.map_congr_left fun j hj => h j (List.mem_range.mp hj)

theorem set_between (i : Nat) (f g : Nat → Cell) :
    (bankOf (between i f g)).set i (g i) = bankOf (between (i + 1) f g) := by
  refine set_map_range ?_ fun j _ hne => ?_
  · rw [between, if_pos (Nat.lt_succ_self i)]
  · have hiff : j < i + 1 ↔ j < i := by omega
    simp only [between, hiff]

/-- A round begins with the bank before it, if it leaves alone what it does not come to. -/
theorem between_start (h : ∀ j < i, g j = f j) : between i f g = f := by
  funext j
  unfold between
  split_ifs with hj
  · exact h j hj
  · rfl

/-- It ends with the bank after it. -/
theorem between_end (h : ∀ j < 32, i ≤ j → g j = f j) :
    bankOf (between i f g) = bankOf g := by
  refine bankOf_congr fun j hj => ?_
  unfold between
  split_ifs with hlt
  · rfl
  · exact (h j hj (by omega)).symm

theorem boot_eq (hs : s.registerCount = 32) :
    boot e.primitives s = bankOf (Stage.cell e s p {}) := by
  have hcount : s.registerCount.toNat = 32 := by rw [hs]; rfl
  unfold boot
  rw [hcount]
  refine List.map_congr_left fun j hj => ?_
  have hvalue : bootValue e.primitives s j = held e s p 0 j := by
    unfold held
    split_ifs with hlt
    · rfl
    · -- nothing is measured into a free register
      have hfree : (measured s).contains j = false := by
        unfold measured
        split_ifs <;>
        · simp only [platformRegisters, parentInstanceRegister, List.contains_eq_mem,
            decide_eq_false_iff_not, List.cons_append, List.nil_append, List.mem_cons,
            List.not_mem_nil, or_false]
          omega
      unfold bootValue
      rw [hfree]
      rfl
  have hlock : (decide (j < 16) || false) = decide (j < bootLockedCount) := Bool.or_false _
  simp only [Stage.cell, bootRegister, hvalue, hlock, ite_self]

end

/-! ## The answers -/

/-- An answer with a document, at a stage. -/
def certificate (e : Surroundings) (s : Settings) (p : Parameters) (g : Stage)
    (userData nonce publicKey : Option Bytes) : Value :=
  reply "Attestation" [("document", .bytes (if s.has .emptyDocument then []
    else document e s (bankOf (g.cell e s p)) userData nonce publicKey))]

/-- What the device answers at each place of the script. -/
def answers (e : Surroundings) (s : Settings) (p : Parameters) : Slot → Value
  | .bootDocument => certificate e s p {} none none none
  | .firstRead i => reply "DescribePCR" [("lock", .bool (decide (i < 16))),
      ("data", .bytes (held e s p 0 i))]
  | .relock k _ => if Cell.relockIsSilent s (k + 1) then .text "LockPCR" else refuse .readOnlyIndex
  | .extension k _ => reply "ExtendPCR" [("data", .bytes (chain e s p (k + 1)))]
  | .lock _ => .text "LockPCR"
  | .lockRange => .text "LockPCRs"
  | .lockBeyond => if s.has .looseLockRange then .text "LockPCRs" else refuse .invalidIndex
  | .lockedExtension i =>
    if s.has .extendLocked then reply "ExtendPCR" [("data", .bytes (e.primitives.extend s.digest
      (if s.has .idempotentExtend then Bytes.zeros s.digest.width
        else held e s p p.extendRounds i) p.extendInput))]
    else refuse .readOnlyIndex
  | .read k i => reply "DescribePCR" [
      ("lock", .bool (if s.has .lockFlap && decide (16 ≤ i) then (k + 1) % 2 == 1 else true)),
      ("data", .bytes (held e s p p.extendRounds i))]
  | .plainDocument => certificate e s p (.read p p.readRounds) none none none
  | .document filled n =>
    certificate e s p (.read p p.readRounds) (some (Slot.payload p filled))
      (if 2 ≤ n then some (Slot.payload p filled) else none)
      (if 3 ≤ n then some (Slot.payload p filled) else none)
  | .sample n =>
    reply "GetRandom" [("random", .bytes (e.entropy (if s.has .stuckRandom then 0 else n) 256))]

/-- Asked at a place of the script, a device with one bank says this and has the other bank then. -/
def Turn (e : Surroundings) (s : Settings) (p : Parameters) (f : Nat → Cell) (x : Slot) (v : Value)
    (g : Nat → Cell) : Prop :=
  ∀ d : State, d.bank = bankOf f →
    answer e s (x.request p) d = (v, { d with bank := bankOf g })

section

variable {e : Surroundings} {s : Settings} {p : Parameters} {f g : Nat → Cell} {i : Nat}
variable {x : Slot} {v : Value}

theorem Turn.of_register {r : Request} (hi : i < 32)
    (hr : Request.ofValue s (x.request p) = .ok r)
    (hserve : ∀ d : State, d.bank[i]? = some (f i) →
      serve e s d r = .ok (v, d.setCell i (g i))) :
    Turn e s p (between i f g) x v (between (i + 1) f g) := by
  intro d hd
  have hcell : d.bank[i]? = some (f i) := by
    rw [hd, getElem?_bankOf hi, between, if_neg (Nat.lt_irrefl i)]
  have hbank : d.setCell i (g i) = { d with bank := bankOf (between (i + 1) f g) } := by
    rw [State.setCell, hd, set_between]
  unfold answer
  simp only [hr, hserve d hcell, hbank]

/-- A turn in the middle of a round, which takes a bank from one stage to another. -/
def Stage.Turns (e : Surroundings) (s : Settings) (p : Parameters) (g g' : Stage) (x : Slot)
    (i : Nat) : Prop :=
  Turn e s p (between i (g.cell e s p) (g'.cell e s p)) x (answers e s p x)
    (between (i + 1) (g.cell e s p) (g'.cell e s p))

theorem Turn.of_refusal {r : Request} {status : Status}
    (hr : Request.ofValue s (x.request p) = .ok r)
    (hserve : ∀ d : State, d.bank = bankOf f → serve e s d r = .error status) :
    Turn e s p f x (refuse status) f := by
  intro d hd
  unfold answer
  simp only [hr, hserve d hd, ← hd]

/-! ### Reading -/

/-- A register that is free, or was locked when the machine started, is read as it is. -/
theorem read_cell_unlocked (a b i : Nat) :
    (Stage.cell e s p ⟨a, b, false, 0⟩ i).read s =
      (decide (i < 16), Stage.cell e s p ⟨a, b, false, 0⟩ i) := by
  have hno : (s.has .lockFlap && (decide (i < 16) || false) &&
      decide ((bootLockedCount : Int) ≤ (i : Int))) = false := by
    have hor : ¬(i < 16 ∧ (bootLockedCount : Int) ≤ (i : Int)) := by
      have hcount : (bootLockedCount : Int) = 16 := rfl
      omega
    cases s.has .lockFlap with
    | false => rfl
    | true => simpa using hor
  unfold Cell.read
  rw [Stage.cell, if_neg (by rw [hno]; exact Bool.false_ne_true), Bool.or_false]

/-- A locked one may count its reads, and show a lock that depends on how many there were. -/
theorem read_cell_locked (a b k i : Nat) :
    (Stage.cell e s p ⟨a, b, true, k⟩ i).read s =
      (if s.has .lockFlap && decide (16 ≤ i) then (k + 1) % 2 == 1 else true,
        Stage.cell e s p ⟨a, b, true, k + 1⟩ i) := by
  have hle : decide ((bootLockedCount : Int) ≤ (i : Int)) = decide (16 ≤ i) := by
    have hcount : (bootLockedCount : Int) = 16 := rfl
    rw [hcount]
    exact decide_eq_decide.mpr (by omega)
  unfold Cell.read
  simp only [Stage.cell, Bool.or_true, Bool.and_true, hle]
  split_ifs <;> rfl

theorem turns_firstRead (hs : s.registerCount = 32) (hi : i < 32) :
    Stage.Turns e s p {} {} (.firstRead i) i := by
  refine Turn.of_register hi (ofValue_read hs hi) fun d hd => ?_
  simp only [serve, hd, serveRead]
  rw [read_cell_unlocked]
  rfl

theorem turns_read (hs : s.registerCount = 32) (k : Nat) (hi : i < 32) :
    Stage.Turns e s p (.read p k) (.read p (k + 1)) (.read k i) i := by
  refine Turn.of_register hi (ofValue_read (p := p) hs hi) fun d hd => ?_
  simp only [serve, hd, serveRead, Stage.read]
  rw [read_cell_locked]
  rfl

/-! ### Locking -/

theorem turns_relock (hs : s.registerCount = 32) (k : Nat) (hi : i < 16) :
    Stage.Turns e s p (.relocked k) (.relocked (k + 1)) (.relock k i) i := by
  have hlt : i < 32 := by omega
  refine Turn.of_register hlt (ofValue_lock (p := p) hs hlt) fun d hd => ?_
  -- refused or not, the attempt is counted
  have hlock : ((Stage.relocked k).cell e s p i).register.lock = true := by
    simp [Stage.cell, hi]
  have hrelocks : ((Stage.relocked k).cell e s p i).relocks = k := by
    simp [Stage.cell, Stage.relocked, hi]
  have hnext : { (Stage.relocked k).cell e s p i with relocks := k + 1 } =
      (Stage.relocked (k + 1)).cell e s p i := by
    simp [Stage.cell, Stage.relocked, hi]
  simp only [serve, hd, serveLock, hlock, if_true, hrelocks, hnext, answers]

theorem turns_lock (hs : s.registerCount = 32) (hge : 16 ≤ i) (hi : i < 32) :
    Stage.Turns e s p (.extended p p.extendRounds) (.read p 0) (.lock i) i := by
  refine Turn.of_register hi (ofValue_lock hs hi) fun d hd => ?_
  have hnot : ¬i < 16 := by omega
  have hlock : ((Stage.extended p p.extendRounds).cell e s p i).register.lock = false := by
    simp [Stage.cell, Stage.extended, hnot]
  have hnext : ((Stage.extended p p.extendRounds).cell e s p i).lock =
      (Stage.read p 0).cell e s p i := by
    simp [Stage.cell, Stage.extended, Stage.read, Cell.lock, Register.locked]
  simp only [serve, hd, serveLock, hlock, Bool.false_eq_true, if_false, hnext, answers]

/-- Locking a bank that is locked changes nothing. -/
theorem lockFirst_bankOf (n : Nat) (h : ∀ j < 32, (f j).lock = f j) :
    lockFirst n (bankOf f) = bankOf f := by
  have hall : (bankOf f).map Cell.lock = bankOf f := by
    rw [bankOf, List.map_map]
    exact List.map_congr_left fun j hj => h j (List.mem_range.mp hj)
  rw [lockFirst, List.map_take, hall, List.take_append_drop]

theorem lock_cell (k i : Nat) :
    ((Stage.read p k).cell e s p i).lock = (Stage.read p k).cell e s p i := by
  simp [Stage.cell, Stage.read, Cell.lock, Register.locked]

theorem turn_lockRange (hs : s.registerCount = 32) :
    Turn e s p ((Stage.read p 0).cell e s p) .lockRange (answers e s p .lockRange)
      ((Stage.read p 0).cell e s p) := by
  intro d hd
  unfold answer
  simp only [ofValue_lockRange hs, serve, hd, lockFirst_bankOf 32 fun j _ => lock_cell 0 j, answers]

theorem turn_lockBeyond (hs : s.registerCount = 32) :
    Turn e s p ((Stage.read p 0).cell e s p) .lockBeyond (answers e s p .lockBeyond)
      ((Stage.read p 0).cell e s p) := by
  intro d hd
  unfold answer
  rw [ofValue_lockBeyond hs]
  simp only [answers]
  split_ifs
  · simp only [serve, hd, lockFirst_bankOf 33 fun j _ => lock_cell 0 j]
  · simp only [← hd]

/-! ### Extension -/

theorem length_chain (hhash : ∀ b, (e.primitives.hash s.digest b).length = s.digest.width)
    (k : Nat) : (chain e s p k).length = s.digest.width := by
  cases k with
  | zero => exact Bytes.length_zeros _
  | succ k => exact hhash _

theorem length_held (hhash : ∀ b, (e.primitives.hash s.digest b).length = s.digest.width)
    (k i : Nat) : (held e s p k i).length = s.digest.width := by
  unfold held
  split_ifs
  · exact length_bootValue hhash i
  · exact length_chain hhash k

theorem turns_extension (hs : s.registerCount = 32)
    (hhash : ∀ b, (e.primitives.hash s.digest b).length = s.digest.width) (k : Nat) (hge : 16 ≤ i)
    (hi : i < 32) :
    Stage.Turns e s p (.extended p k) (.extended p (k + 1)) (.extension k i) i := by
  refine Turn.of_register hi (ofValue_extend hs hi) fun d hd => ?_
  have hnot : ¬i < 16 := by omega
  -- the register is free, it holds what the rounds so far came to, and one more is added
  have hlock : ((Stage.extended p k).cell e s p i).register.lock = false := by
    simp [Stage.cell, Stage.extended, hnot]
  have hvalue : ((Stage.extended p k).cell e s p i).register.value = chain e s p k := by
    simp [Stage.cell, Stage.extended, held, hnot]
  have hnext : ((Stage.extended p k).cell e s p i).write (chain e s p (k + 1)) =
      (Stage.extended p (k + 1)).cell e s p i := by
    simp [Stage.cell, Stage.extended, Cell.write, Register.withValue, held, hnot]
  have hserve : serveExtend e s i ((Stage.extended p k).cell e s p i) p.extendInput d =
      .ok (reply "ExtendPCR" [("data", .bytes (chain e s p (k + 1)))],
        d.setCell i (((Stage.extended p k).cell e s p i).write (chain e s p (k + 1)))) := by
    simp only [serveExtend, hlock, Bool.false_and, Bool.false_eq_true, if_false, hvalue,
      length_chain hhash, chain]
  simp only [serve, hd, hserve, hnext, answers]

/-- A locked register is not extended. -/
theorem turn_lockedExtension (hs : s.registerCount = 32) (hno : s.has .extendLocked = false)
    (hi : i < 32) :
    Turn e s p ((Stage.read p 0).cell e s p) (.lockedExtension i)
      (answers e s p (.lockedExtension i)) ((Stage.read p 0).cell e s p) := by
  have hanswer : answers e s p (.lockedExtension i) = refuse .readOnlyIndex := by
    simp only [answers, hno, Bool.false_eq_true, if_false]
  rw [hanswer]
  refine Turn.of_refusal (ofValue_extend hs hi) fun d hd => ?_
  have hcell : d.bank[i]? = some ((Stage.read p 0).cell e s p i) := by
    rw [hd, getElem?_bankOf hi]
  have hlock : ((Stage.read p 0).cell e s p i).register.lock = true := by
    simp [Stage.cell, Stage.read]
  simp only [serve, hcell, serveExtend, hlock, hno, Bool.not_false, Bool.and_self, if_true]

/-- Unless the device extends locked ones. -/
theorem answer_lockedExtension (hs : s.registerCount = 32)
    (hhash : ∀ b, (e.primitives.hash s.digest b).length = s.digest.width) (hi : i < 32) {d : State}
    (hd : d.bank = bankOf ((Stage.read p 0).cell e s p)) :
    (answer e s ((Slot.lockedExtension i).request p) d).1 = answers e s p (.lockedExtension i) := by
  have hcell : d.bank[i]? = some ((Stage.read p 0).cell e s p i) := by
    rw [hd, getElem?_bankOf hi]
  have hlock : ((Stage.read p 0).cell e s p i).register.lock = true := by
    simp [Stage.cell, Stage.read]
  have hvalue : ((Stage.read p 0).cell e s p i).register.value = held e s p p.extendRounds i := rfl
  unfold answer
  simp only [ofValue_extend hs hi, serve, hcell, serveExtend, hlock, Bool.true_and, hvalue,
    length_held hhash, answers]
  cases s.has .extendLocked <;> rfl

/-! ### Documents and random octets -/

theorem turn_certificate {g : Stage} {userData nonce publicKey : Option Bytes}
    (hx : x.request p = Operation.call "Attestation" [("user_data", .ofBytes? userData),
      ("nonce", .ofBytes? nonce), ("public_key", .ofBytes? publicKey)])
    (hu : ∀ b ∈ userData, b.length ≤ 1024) (hn : ∀ b ∈ nonce, b.length ≤ 1024)
    (hk : ∀ b ∈ publicKey, b.length ≤ 1024) :
    Turn e s p (g.cell e s p) x (certificate e s p g userData nonce publicKey) (g.cell e s p) := by
  intro d hd
  unfold answer
  rw [hx, ofValue_attest hu hn hk]
  simp only [serve, certificate, ← hd]

theorem length_payload (filled : Bool) : (Slot.payload p filled).length ≤ 1024 := by
  have hle := p.attestationDataLength_le
  unfold attestationDataLimit at hle
  unfold Slot.payload
  split_ifs
  · rw [Bytes.length_fill]
    exact hle
  · simp

/-- An input of a document, which may be left out. -/
theorem length_le_of_mem_input {c : Prop} [Decidable c] {filled : Bool} :
    ∀ b ∈ (if c then some (Slot.payload p filled) else none), b.length ≤ 1024 := by
  intro b hb
  split_ifs at hb
  · cases hb
    exact length_payload filled
  · cases hb

theorem turn_document (filled : Bool) (n : Nat) :
    let g := Stage.read p p.readRounds
    Turn e s p (g.cell e s p) (.document filled n) (answers e s p (.document filled n))
      (g.cell e s p) := by
  intro g
  refine turn_certificate ((Slot.document filled n).request_probe p).symm ?_
    length_le_of_mem_input length_le_of_mem_input
  intro b hb
  cases hb
  exact length_payload filled

/-- How many random samples were drawn, and what a stuck source remembers. -/
def State.Drew (e : Surroundings) (s : Settings) (n : Nat) (d : State) : Prop :=
  if s.has .stuckRandom then d.draws = min n 1 ∧
    d.stuck = if n = 0 then none else some (e.entropy 0 256)
  else d.draws = n

theorem answer_sample (n : Nat) {d : State} (hd : d.Drew e s n) :
    ∃ d', answer e s ((Slot.sample n).request p) d = (answers e s p (.sample n), d') ∧
      d'.isOpen = d.isOpen ∧ d'.Drew e s (n + 1) := by
  have hshape : answer e s ((Slot.sample n).request p) d = serveRandom e s d := rfl
  rw [hshape]
  unfold State.Drew at hd
  unfold serveRandom
  cases hstuck : s.has .stuckRandom with
  | false =>
    rw [hstuck] at hd
    simp only [Bool.false_eq_true, if_false] at hd
    refine ⟨{ d with draws := d.draws + 1 }, ?_, rfl, ?_⟩
    · simp only [answers, hstuck, hd, Bool.false_eq_true, if_false]
      rfl
    · simp [State.Drew, hstuck, hd]
  | true =>
    rw [hstuck] at hd
    obtain ⟨hdraws, hkept⟩ := hd
    -- a stuck source draws once, and from then on repeats what it remembers
    cases n with
    | zero =>
      refine ⟨{ d with draws := d.draws + 1, stuck := some (e.entropy 0 256) }, ?_, rfl, ?_⟩
      · simp only [answers, hstuck, hdraws, hkept, if_true]
        rfl
      · simp [State.Drew, hstuck, hdraws]
    | succ n =>
      refine ⟨d, ?_, rfl, ?_⟩
      · simp only [answers, hstuck, hkept, if_true]
        rfl
      · simpa [State.Drew, hstuck, hdraws] using hkept

end

end EnclaveAudit.Simulator
