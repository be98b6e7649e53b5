import EnclaveAudit.Proofs.Simulator.Messages
import EnclaveAudit.Proofs.Simulator.Turns
import EnclaveAudit.Proofs.Simulator.Validation

/-!
# `EnclaveAudit/Proofs/Simulator/Attestation.lean` — a document says what the device is

What a document holds is read back from its octets in two steps. The parts are read first, and what
is signed is among them; then the payload is read, and it holds what was to be attested, and the
state of the device. The locked registers are in three places, in the payload, in what the device
says about itself, and in what it shows of each register, and all three agree.

That needs two things of what is outside: that a signature of the device verifies, and that no
length is too large for the wire format, which writes lengths in 64 bits.
-/

set_option autoImplicit false

namespace EnclaveAudit.Simulator

/-- What the answer to an operation holds in a field. -/
def State.shows (e : Surroundings) (s : Settings) (d : State) (operation : Operation)
    (field : String) : Option Value :=
  match ((transport e s).exchange operation.request d).result with
  | .ok answer => (Operation.body? operation.name answer).bind (Value.field? field)
  | .error _ => none

/-- The document is in four parts, one of them the payload, and the device signed it: the header
names the scheme, and the signature is over the header and the payload. -/
def SignedBy (e : Surroundings) (s : Settings) (payload document : Bytes) : Prop :=
  ∃ header signature,
    Cbor.decode document = .ok (.array [.bytes header, .map [], .bytes payload, .bytes signature]) ∧
    Cbor.decode header = .ok (.map [(.int 1, .int (-8))]) ∧
    e.primitives.verify (e.primitives.verificationKey s.seed)
      (Cbor.encode (.array [.text "Signature1", .bytes header, .bytes [], .bytes payload]))
      signature = true

/-- The claims repeat what was to be attested, and say which device attests it. -/
structure Identifies (e : Surroundings) (s : Settings) (userData nonce publicKey : Option Bytes)
    (claims : Value) : Prop where
  userData : claims.field? "user_data" = some (.ofBytes? userData)
  nonce : claims.field? "nonce" = some (.ofBytes? nonce)
  publicKey : claims.field? "public_key" = some (.ofBytes? publicKey)
  moduleId : claims.field? "module_id" = some (.text s.moduleId)
  digest : claims.field? "digest" = some (.text s.digest.tag)
  certificate : claims.field? "certificate" = some (.bytes (e.primitives.verificationKey s.seed))

/-- The claims list the registers that the device lists as locked, with the values that it shows of
them; and unless its locks flap, it shows those and no others as locked. -/
structure Lists (e : Surroundings) (s : Settings) (d : State) (claims : Value)
    (indices : List Int) : Prop where
  claimed : ∃ entries, claims.field? "pcrs" = some (.map entries) ∧
    entries.map Prod.fst = indices.map .int ∧
    ∀ i v, (.int i, v) ∈ entries → d.shows e s (.describeRegister (.int i)) "data" = some v
  described : d.shows e s .describe "locked_pcrs" = some (.array (indices.map .int))
  ascending : indices.Pairwise (· < ·)
  shown : s.has .lockFlap = false → ∀ i, i ∈ indices ↔
    d.shows e s (.describeRegister (.int i)) "lock" = some (.bool true)

variable {e : Surroundings} {s : Settings} {d : State} {bank : Bank}
  {userData nonce publicKey : Option Bytes}

/-! ## What a device shows -/

theorem shows_of_open (hopen : d.isOpen = true) (operation : Operation) (field : String) :
    d.shows e s operation field = (Operation.body? operation.name
      (answer e s operation.request { d with requestCount := d.requestCount + 1 }).1).bind
        (Value.field? field) := by
  unfold State.shows
  rw [exchange_of_open hopen]

theorem shows_describe (hopen : d.isOpen = true) : d.shows e s .describe "locked_pcrs" =
    some (.array (((lockedRegisters d.bank).map Register.index).map .int)) := by
  rw [shows_of_open hopen, List.map_map]
  rfl

theorem shows_register (hopen : d.isOpen = true) {n : Nat} {c : Cell} (hc : d.bank[n]? = some c)
    (hn : (n : Int) < s.registerCount) (field : String) :
    d.shows e s (.describeRegister (.int n)) field =
      (Value.record [("lock", .bool (c.read s).1), ("data", .bytes c.register.value)]).field?
        field := by
  have hr : Request.ofValue s (Operation.describeRegister (.int n)).request =
      .ok (.describeRegister n) := ofValue_of_read hn rfl
  rw [shows_of_open hopen, answer_of_ofValue_ok hr]
  simp only [serve, hc]
  rfl

/-- A register that is not there shows nothing. -/
theorem shows_register_of_not_mem (hopen : d.isOpen = true) {i : Int}
    (hi : ∀ n : Nat, i = n → s.registerCount ≤ n) (field : String) :
    d.shows e s (.describeRegister (.int i)) field = none := by
  have hcall : Calls (Operation.describeRegister (.int i)).request "DescribePCR"
      (.record [("index", .int i)]) := .entry _ _
  have hname : "DescribePCR" ∈ registerOperations := List.mem_cons_self
  obtain ⟨status, hstatus⟩ : ∃ status,
      Request.ofValue s (Operation.describeRegister (.int i)).request = .error status := by
    by_cases hneg : ∃ n : Nat, i = n
    · obtain ⟨n, rfl⟩ := hneg
      exact ⟨_, ofValue_of_outOfBank (.register hcall hname rfl (hi n rfl))⟩
    · refine ⟨_, ofValue_of_senseless (.unindexed hcall hname fun n hn => hneg ⟨n, ?_⟩)⟩
      exact Value.int.inj (Option.some.inj hn)
  rw [shows_of_open hopen, answer_of_ofValue_error hstatus]
  rfl

/-- Unless locks flap, a register is shown as locked if it is. -/
theorem shows_lock_iff (hplaced : d.bank.Placed s) (hopen : d.isOpen = true)
    (hflap : s.has .lockFlap = false) (i : Int) :
    d.shows e s (.describeRegister (.int i)) "lock" = some (.bool true) ↔
      ∃ (n : Nat) (c : Cell), i = n ∧ d.bank[n]? = some c ∧ c.register.lock = true := by
  have hread : ∀ c : Cell, (c.read s).1 = c.register.lock := by
    intro c
    unfold Cell.read
    rw [hflap]
    rfl
  by_cases hi : ∃ n : Nat, i = n ∧ (n : Int) < s.registerCount
  · obtain ⟨n, rfl, hn⟩ := hi
    obtain ⟨c, hc⟩ := hplaced.exists_cell hn
    rw [shows_register hopen hc hn, hread]
    constructor
    · intro h
      exact ⟨n, c, rfl, hc, Value.bool.inj (Option.some.inj h)⟩
    · rintro ⟨m, c', hm, hc', hlock⟩
      obtain rfl := Int.ofNat_inj.mp hm
      obtain rfl := Option.some.inj (hc.symm.trans hc')
      rw [hlock]
      rfl
  · have hbeyond : ∀ n : Nat, i = n → s.registerCount ≤ n :=
      fun n hn => Int.not_lt.mp fun hlt => hi ⟨n, hn, hlt⟩
    rw [shows_register_of_not_mem hopen hbeyond]
    constructor
    · intro h
      cases h
    · rintro ⟨n, c, rfl, hc, -⟩
      exact absurd (hplaced.lt_of_getElem? hc) (Int.not_lt.mpr (hbeyond n rfl))

/-! ## Reading a document back -/

theorem portable_payload (hplaced : bank.Placed s) :
    Cbor.Portable 4 (payload e s bank userData nonce publicKey) := by
  -- no index is listed twice, so no key is
  have hdistinct : ((lockedRegisters bank).map fun r =>
      (Value.int r.index, Value.bytes r.value)).Pairwise fun e f =>
        Value.same e.1 f.1 = false := by
    rw [List.pairwise_map]
    refine (List.pairwise_map.mp hplaced.pairwise_lockedRegisters).imp fun hlt => ?_
    rw [Value.same]
    exact beq_eq_false_iff_ne.mpr (Int.ne_of_lt hlt)
  have hpcrs : Cbor.Portable 3 (.map ((lockedRegisters bank).map fun r =>
      (.int r.index, .bytes r.value))) := by
    refine .map hdistinct ?_ ?_ ?_
    all_goals
      intro entry hentry
      obtain ⟨r, -, rfl⟩ := List.mem_map.mp hentry
    · rfl
    · exact .int _
    · exact .bytes _
  refine .record (by simp) ?_
  simp only [List.forall_mem_cons]
  exact ⟨.text _, .text _, .int _, hpcrs, .bytes _, .array (by simp), portable_ofBytes? _ _,
    portable_ofBytes? _ _, portable_ofBytes? _ _, by simp⟩

/-- A document is longer than each of the octet strings in it. -/
theorem length_body_le (e : Surroundings) (s : Settings) (bank : Bank)
    (userData nonce publicKey : Option Bytes) :
    (Cbor.encode (payload e s bank userData nonce publicKey)).length ≤
      (document e s bank userData nonce publicKey).length := by
  simp only [document, Cbor.encode, Cbor.encodeItems, Cbor.octets, List.length_append]
  omega

theorem decode_of_portable {v : Value} (h : Cbor.Portable 4 v)
    (hsize : (Cbor.encode v).length < 2 ^ 64) : Cbor.decode (Cbor.encode v) = .ok v := by
  have hread := Cbor.decode_encode (h.mono (by decide)) hsize []
  rwa [List.append_nil] at hread

/-- The parts of a document are read back, and the signature among them verifies. -/
theorem signedBy_document
    (hsign : ∀ message, e.primitives.verify (e.primitives.verificationKey s.seed) message
      (e.primitives.sign s.seed message) = true)
    (hsize : (document e s bank userData nonce publicKey).length < 2 ^ 64) :
    SignedBy e s (Cbor.encode (payload e s bank userData nonce publicKey))
      (document e s bank userData nonce publicKey) := by
  refine ⟨protectedHeader, _, decode_of_portable (.array ?_) hsize, ?_, hsign _⟩
  · simp only [List.forall_mem_cons]
    exact ⟨.bytes _, .map .nil (by simp) (by simp) (by simp), .bytes _, .bytes _, by simp⟩
  · refine decode_of_portable (.map (List.pairwise_singleton _ _) ?_ ?_ ?_) (by decide +kernel)
    all_goals
      rw [List.forall_mem_singleton]
    · rfl
    · exact .int 1
    · exact .int (-8)

theorem identifies_payload : Identifies e s userData nonce publicKey
    (payload e s bank userData nonce publicKey) := ⟨rfl, rfl, rfl, rfl, rfl, rfl⟩

theorem lists_payload (hplaced : d.bank.Placed s) (hopen : d.isOpen = true) :
    Lists e s d (payload e s d.bank userData nonce publicKey)
      ((lockedRegisters d.bank).map Register.index) where
  claimed := by
    refine ⟨_, rfl, by simp [List.map_map, Function.comp_def], fun i v hentry => ?_⟩
    -- the entry is that of a cell, and reading the register shows the value in the cell
    obtain ⟨r, hr, hentry⟩ := List.mem_map.mp hentry
    cases hentry
    obtain ⟨c, hc, rfl⟩ := List.mem_map.mp (List.mem_filter.mp hr).1
    obtain ⟨n, hn⟩ := List.mem_iff_getElem?.mp hc
    rw [hplaced.index hn, shows_register hopen hn (hplaced.lt_of_getElem? hn)]
    rfl
  described := shows_describe hopen
  ascending := hplaced.pairwise_lockedRegisters
  shown hflap i := by rw [hplaced.mem_lockedRegisters_iff, shows_lock_iff hplaced hopen hflap]

theorem exchange_attest (hopen : d.isOpen = true) (hempty : s.has .emptyDocument = false)
    (hu : ∀ b ∈ userData, b.length ≤ 1024) (hn : ∀ b ∈ nonce, b.length ≤ 1024)
    (hk : ∀ b ∈ publicKey, b.length ≤ 1024) :
    (transport e s).exchange
        (Operation.attest (.ofBytes? userData) (.ofBytes? nonce) (.ofBytes? publicKey)).request d =
      ⟨.ok (reply "Attestation"
        [("document", .bytes (document e s d.bank userData nonce publicKey))]), [],
        { d with requestCount := d.requestCount + 1 }⟩ := by
  have hr : Request.ofValue s (Operation.attest (.ofBytes? userData) (.ofBytes? nonce)
      (.ofBytes? publicKey)).request = .ok (.attest userData nonce publicKey) :=
    ofValue_attest hu hn hk
  rw [exchange_of_open hopen, answer_of_ofValue_ok hr]
  simp only [serve, hempty, Bool.false_eq_true, if_false]

/-- **A document says what the device is.** Take a device that was just made, with any faults but
that of empty documents, call it as often as one likes, and have it attest anything that can be
attested. The document is signed by the device. Its payload holds what was attested, identifies the
device, and lists the locked registers as the device itself does. No register is changed by that. -/
theorem document_reads_back (e : Surroundings) (s : Settings) (calls : List Call)
    (userData nonce publicKey : Option Bytes) (hempty : s.has .emptyDocument = false)
    (hsign : ∀ message, e.primitives.verify (e.primitives.verificationKey s.seed) message
      (e.primitives.sign s.seed message) = true)
    (hu : ∀ b ∈ userData, b.length ≤ 1024) (hn : ∀ b ∈ nonce, b.length ≤ 1024)
    (hk : ∀ b ∈ publicKey, b.length ≤ 1024)
    (hopen : ((State.fresh e s).after e s calls).isOpen = true)
    (hsize : (document e s ((State.fresh e s).after e s calls).bank userData nonce
      publicKey).length < 2 ^ 64) :
    let d := (State.fresh e s).after e s calls
    let o := (transport e s).exchange
      (Operation.attest (.ofBytes? userData) (.ofBytes? nonce) (.ofBytes? publicKey)).request d
    o.device.bank = d.bank ∧ ∃ document payload claims indices,
      o.result = .ok (reply "Attestation" [("document", .bytes document)]) ∧
      SignedBy e s payload document ∧ Cbor.decode payload = .ok claims ∧
      Identifies e s userData nonce publicKey claims ∧ Lists e s d claims indices := by
  intro d o
  have hplaced : d.bank.Placed s := placed_after e s calls
  have hbody := length_body_le e s d.bank userData nonce publicKey
  have ho : o = _ := exchange_attest hopen hempty hu hn hk
  rw [ho]
  exact ⟨rfl, _, _, _, _, rfl, signedBy_document hsign hsize,
    decode_of_portable (portable_payload hplaced) (Nat.lt_of_le_of_lt hbody hsize),
    identifies_payload, lists_payload hplaced hopen⟩

/-- The signatures in use, and that those of one seed verify. -/
def accepting (seed : Bytes) : Primitives :=
  { Primitives.standard with
    verify := fun key message signature =>
      Ed25519.verify key message signature ||
        (key == Ed25519.verificationKey seed && signature == Ed25519.sign seed message) }

theorem accepting_sized (seed : Bytes) : (accepting seed).Sized where
  length_hash := Sha2.length_hash
  length_verificationKey key := by
    have h := Ed25519.length_verificationKey key
    simpa only [accepting, Primitives.standard] using h
  length_sign := Ed25519.length_sign

theorem accepting_verifies (seed message : Bytes) :
    (accepting seed).verify ((accepting seed).verificationKey seed) message
      ((accepting seed).sign seed message) = true := by
  simp only [accepting, Primitives.standard, beq_self_eq_true, Bool.and_self, Bool.or_true]

/-- A register is extended and locked, and then it is in the document, after those that are locked
from the start. -/
theorem document_reads_back_after_a_locking :
    let e : Surroundings := ⟨(0 : Int), fun _ n => Bytes.zeros n, accepting defaultSeed⟩
    let calls : List Call := [.opening,
      .request (0 : Int) (Operation.extendRegister (.int 16) [1, 2, 3]).request,
      .request (0 : Int) (Operation.lockRegister (.int 16)).request]
    let d := (State.fresh e {}).after e {} calls
    let o := (transport e {}).exchange (Operation.attest (.bytes [4, 5]) .null .null).request d
    d.shows e {} .describe "locked_pcrs" =
        some (.array ((List.range 17).map fun i : Nat => .int i)) ∧
      ∃ document payload claims indices,
        o.result = .ok (reply "Attestation" [("document", .bytes document)]) ∧
        SignedBy e {} payload document ∧ Cbor.decode payload = .ok claims ∧
        Identifies e {} (some [4, 5]) none none claims ∧ Lists e {} d claims indices := by
  intro e calls d o
  have husual : e.Usual :=
    ⟨accepting_sized defaultSeed, by decide +kernel, fun _ _ => Bytes.length_zeros _⟩
  have hkept : d.Kept {} := ((kept_fresh husual).exchange husual rfl _).exchange husual rfl _
  have hshort : ∀ b ∈ (some [4, 5] : Option Bytes), b.length ≤ 1024 := by simp
  have hnone : ∀ b ∈ (none : Option Bytes), b.length ≤ 1024 := by simp
  have hsize := length_attested_le Settings.brief_default husual hkept
    (ofValue_attest hshort hnone hnone)
  refine ⟨rfl, ?_⟩
  exact (document_reads_back e {} calls (some [4, 5]) none none rfl (accepting_verifies defaultSeed)
    hshort hnone hnone rfl (Nat.lt_of_le_of_lt hsize (by decide))).2

end EnclaveAudit.Simulator
