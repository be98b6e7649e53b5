import EnclaveAudit.Device.Operation
import EnclaveAudit.Proofs.Simulator.Document
import EnclaveAudit.Proofs.Simulator.Reading
import EnclaveAudit.Proofs.Simulator.Transcript
import EnclaveAudit.Proofs.Wire.RoundTrip

/-!
# `EnclaveAudit/Proofs/Simulator/Messages.lean` — the values that go back and forth

Whatever a simulated device is asked, its answer is a value that survives the wire, and so is the
request of an operation whose arguments are the integers and octet strings that they are meant to
be. No message is nested deeper than four levels.
-/

set_option autoImplicit false

namespace EnclaveAudit

open Cbor (Portable)

/-- The operation has arguments of the kinds that it takes: integers of any size and sign for
indices and counts, and octet strings or nothing for what is to be attested. -/
inductive Operation.Typed : Operation → Prop
  | describe : Typed .describe
  | describeRegister (index : Int) : Typed (.describeRegister (.int index))
  | extendRegister (index : Int) (data : Bytes) : Typed (.extendRegister (.int index) data)
  | lockRegister (index : Int) : Typed (.lockRegister (.int index))
  | lockRegisters (count : Int) : Typed (.lockRegisters (.int count))
  | attest (userData nonce publicKey : Option Bytes) :
    Typed (.attest (.ofBytes? userData) (.ofBytes? nonce) (.ofBytes? publicKey))
  | random (length : Int) : Typed (.random length)

theorem portable_ofBytes? (depth : Nat) (b : Option Bytes) : Portable depth (.ofBytes? b) := by
  cases b with
  | none => exact .null
  | some b => exact .bytes b

/-- A message with a name and a body. -/
theorem portable_call {depth : Nat} {name : String} {fields : List (String × Value)}
    (hnames : (fields.map Prod.fst).Nodup) (h : ∀ f ∈ fields, Portable depth f.2) :
    Portable (depth + 2) (.record [(name, .record fields)]) := by
  refine .record (by simp) ?_
  rw [List.forall_mem_singleton]
  exact .record hnames h

theorem portable_request {operation : Operation} (h : operation.Typed) :
    Portable 4 operation.request := by
  cases h with
  | describe => exact .text _
  | random length => exact .text _
  | describeRegister index | lockRegister index | lockRegisters index =>
    exact portable_call (by simp) (List.forall_mem_singleton.mpr (.int index))
  | extendRegister index data =>
    refine portable_call (by simp) ?_
    simp only [List.forall_mem_cons]
    exact ⟨.int index, .bytes data, by simp⟩
  | attest userData nonce publicKey =>
    refine portable_call (by simp) ?_
    simp only [List.forall_mem_cons]
    exact ⟨portable_ofBytes? _ _, portable_ofBytes? _ _, portable_ofBytes? _ _, by simp⟩

namespace Simulator

variable {e : Surroundings} {s : Settings} {d : State}

theorem portable_refuse (status : Status) : Portable 4 (refuse status) :=
  .record (by simp) (List.forall_mem_singleton.mpr (.text status.name))

theorem portable_describe : Portable 4 (describe s d) := by
  refine portable_call (by simp) ?_
  simp only [List.forall_mem_cons]
  refine ⟨.int _, .int _, .int _, .text _, .int _, .array fun v hv => ?_, .text _, by simp⟩
  obtain ⟨r, -, rfl⟩ := List.mem_map.mp hv
  exact .int r.index

/-- An answer that holds one octet string. -/
theorem portable_reply_bytes (name field : String) (b : Bytes) :
    Portable 4 (reply name [(field, .bytes b)]) :=
  portable_call (by simp) (List.forall_mem_singleton.mpr (.bytes b))

/-- **Every answer survives the wire**, whatever was asked. -/
theorem portable_answer (request : Value) : Portable 4 (answer e s request d).1 := by
  obtain ⟨status, h⟩ | ⟨r, v, d', -, h, hserved⟩ := answer_cases e s d request
  · rw [h]
    exact portable_refuse status
  · rw [h]
    cases hserved with
    | describe => exact portable_describe
    | read hc =>
      refine portable_call (by simp) ?_
      simp only [List.forall_mem_cons]
      exact ⟨.bool _, .bytes _, by simp⟩
    | extend previous data hc => exact portable_reply_bytes _ _ _
    | lock hc => exact .text _
    | relock silent hc =>
      cases silent with
      | true => exact .text _
      | false => exact portable_refuse _
    | lockRange count => exact .text _
    | attest userData nonce publicKey => exact portable_reply_bytes _ _ _
    | @repeated b hb => exact portable_reply_bytes _ _ b
    | drawn hstuck => exact portable_reply_bytes _ _ _

/-! ## How long an answer can be -/

/-- A device with the bank of the contract, and nothing long to say about itself. -/
structure Settings.Brief (s : Settings) : Prop where
  registerCount : s.registerCount = 32
  reported : s.reported = s.digest.tag
  major : 0 ≤ s.version.1 ∧ s.version.1 < 2 ^ 64
  minor : 0 ≤ s.version.2.1 ∧ s.version.2.1 < 2 ^ 64
  patch : 0 ≤ s.version.2.2 ∧ s.version.2.2 < 2 ^ 64
  moduleId : (Bytes.ofString s.moduleId).length ≤ 100

theorem Settings.brief_default : Settings.Brief {} := by
  refine ⟨rfl, rfl, ?_, ?_, ?_, ?_⟩ <;> decide +kernel

/-- The bank has its shape, and what a stuck source repeats is one draw. -/
structure State.Kept (s : Settings) (d : State) : Prop where
  shaped : d.bank.Shaped s
  stuck : ∀ b ∈ d.stuck, b.length = randomChunk

theorem kept_fresh (he : e.Usual) : (State.fresh e s).opened.Kept s where
  shaped := shaped_boot (he.primitives.length_hash s.digest)
  stuck b hb := by cases hb

theorem State.Kept.answer (h : d.Kept s) (he : e.Usual) (request : Value) :
    (answer e s request d).2.Kept s where
  shaped := h.shaped.of_follows (answer_follows (he.primitives.length_hash s.digest) request)
  stuck := by
    obtain ⟨status, heq⟩ | ⟨r, v, d', -, heq, hserved⟩ := answer_cases e s d request
    · rw [heq]
      exact h.stuck
    · rw [heq]
      cases hserved with
      | drawn hstuck =>
        obtain rfl | rfl := hstuck
        · exact h.stuck
        · rintro b ⟨⟩
          exact he.entropy d.draws randomChunk
      | _ => exact h.stuck

theorem State.Kept.exchange (h : d.Kept s) (he : e.Usual) (hopen : d.isOpen = true)
    (request : Value) : ((transport e s).exchange request d).device.Kept s := by
  have hcounted : State.Kept s { d with requestCount := d.requestCount + 1 } :=
    ⟨h.shaped, h.stuck⟩
  rw [exchange_of_open hopen]
  exact hcounted.answer he request

/-- What the values of a bank have in common. -/
theorem length_value_le (h : d.Kept s) {i : Nat} {c : Cell} (hc : d.bank[i]? = some c) :
    c.register.value.length ≤ 64 := by
  rw [h.shaped.width c (List.mem_of_getElem? hc)]
  cases s.digest <;> decide

theorem length_refuse_le (status : Status) : (Cbor.encode (refuse status)).length ≤ 64 := by
  cases status <;> decide +kernel

/-- An answer that holds one octet string. -/
theorem length_reply_bytes_le {name field : String} {b : Bytes}
    (hname : (Cbor.text name).length ≤ 20) (hfield : (Cbor.text field).length ≤ 20) :
    (Cbor.encode (reply name [(field, .bytes b)])).length ≤ 67 + b.length := by
  have hhead := Cbor.length_head_le 5 1
  have hoctets : (Cbor.encode (.bytes b)).length ≤ 9 + b.length := Cbor.length_octets_le b
  rw [reply, Cbor.length_call]
  simp only [List.map_cons, List.map_nil, List.sum_cons, List.sum_nil, List.length_singleton]
  omega

theorem length_read_le {lock : Bool} {value : Bytes} (hvalue : value.length ≤ 64) :
    (Cbor.encode (reply "DescribePCR" [("lock", .bool lock), ("data", .bytes value)])).length ≤
      200 := by
  have hhead := Cbor.length_head_le 5 2
  have hoctets : (Cbor.encode (.bytes value)).length ≤ 9 + value.length :=
    Cbor.length_octets_le value
  have hlock : (Cbor.encode (.bool lock)).length = 1 := by cases lock <;> rfl
  have hnames : (Cbor.text "DescribePCR").length = 12 ∧ (Cbor.text "lock").length = 5 ∧
      (Cbor.text "data").length = 5 := by
    decide +kernel
  rw [reply, Cbor.length_call]
  simp only [List.map_cons, List.map_nil, List.sum_cons, List.sum_nil, List.length_cons,
    List.length_nil, Nat.zero_add, Nat.reduceAdd]
  omega

/-- A number of a description. -/
theorem length_number_le {n : Int} (hn : 0 ≤ n ∧ n < 2 ^ 64) :
    (Cbor.encode (.int n)).length ≤ 9 := by
  obtain ⟨k, rfl⟩ := Int.eq_ofNat_of_zero_le hn.1
  exact Cbor.length_integer_le k (by omega)

theorem length_bank (hs : s.Brief) (h : d.Kept s) : d.bank.length = 32 := by
  rw [h.shaped.length, hs.registerCount]
  rfl

theorem exists_index_of_locked (hs : s.Brief) (h : d.Kept s) {r : Register}
    (hr : r ∈ lockedRegisters d.bank) : ∃ i : Nat, i < 32 ∧ r.index = i := by
  obtain ⟨c, hc, rfl⟩ := List.mem_map.mp (List.mem_filter.mp hr).1
  obtain ⟨i, hi⟩ := List.mem_iff_getElem?.mp hc
  exact ⟨i, length_bank hs h ▸ (List.getElem?_eq_some_iff.mp hi).1, h.shaped.index i c hi⟩

theorem length_lockedRegisters_le (hs : s.Brief) (h : d.Kept s) :
    (Cbor.encode (.array ((lockedRegisters d.bank).map fun r => .int r.index))).length ≤ 297 := by
  have hcount : ((lockedRegisters d.bank).map fun r => Value.int r.index).length ≤ 32 := by
    rw [List.length_map, ← length_bank hs h, ← List.length_map Cell.register]
    exact List.length_filter_le _ _
  have hitem : ∀ v ∈ (lockedRegisters d.bank).map fun r => Value.int r.index,
      (Cbor.encode v).length ≤ 9 := by
    intro v hv
    obtain ⟨r, hr, rfl⟩ := List.mem_map.mp hv
    obtain ⟨i, hi, hindex⟩ := exists_index_of_locked hs h hr
    rw [hindex]
    exact Cbor.length_integer_le i (by omega)
  have hitems := Cbor.length_encodeItems_le hitem
  have hhead := Cbor.length_head_le 4
    ((lockedRegisters d.bank).map fun r => Value.int r.index).length
  have hsum := Nat.mul_le_mul_right 9 hcount
  rw [Cbor.encode, List.length_append]
  omega

/-- What a device says about itself. -/
theorem length_describe_le (hs : s.Brief) (h : d.Kept s) :
    (Cbor.encode (describe s d)).length ≤ 1000 := by
  have hhead := Cbor.length_head_le 5 7
  have hmajor := length_number_le hs.major
  have hminor := length_number_le hs.minor
  have hpatch := length_number_le hs.patch
  have hidentifier : (Cbor.encode (.text s.moduleId)).length ≤ _ := Cbor.length_text_le s.moduleId
  have hshort := hs.moduleId
  have hlocked := length_lockedRegisters_le hs h
  have hcount : (Cbor.encode (.int s.registerCount)).length = 2 := by
    rw [hs.registerCount]
    rfl
  have htag : (Cbor.encode (.text s.reported)).length = 7 := by
    rw [hs.reported]
    cases s.digest <;> decide +kernel
  have hnames : (Cbor.text "DescribeNSM").length = 12 ∧ (Cbor.text "version_major").length = 14 ∧
      (Cbor.text "version_minor").length = 14 ∧ (Cbor.text "version_patch").length = 14 ∧
      (Cbor.text "module_id").length = 10 ∧ (Cbor.text "max_pcrs").length = 9 ∧
      (Cbor.text "locked_pcrs").length = 12 ∧ (Cbor.text "digest").length = 7 := by
    decide +kernel
  rw [describe, reply, Cbor.length_call]
  simp only [List.map_cons, List.map_nil, List.sum_cons, List.sum_nil, List.length_cons,
    List.length_nil, Nat.zero_add, Nat.reduceAdd]
  omega

/-- What a document holds of a bank. -/
theorem length_attested_le (hs : s.Brief) (he : e.Usual) (h : d.Kept s) {request : Value}
    {userData nonce publicKey : Option Bytes}
    (hr : Request.ofValue s request = .ok (.attest userData nonce publicKey)) :
    (document e s d.bank userData nonce publicKey).length ≤ 7104 := by
  obtain ⟨body, -, hu, hn, hk⟩ := ofValue_eq_ok hr
  refine length_document_le_body he.primitives hs.moduleId he.now (length_bank hs h) ?_
    (length_le_of_attested hu) (length_le_of_attested hn) (length_le_of_attested hk)
  intro c hc
  obtain ⟨i, hi⟩ := List.mem_iff_getElem?.mp hc
  have hbound : i < 32 := length_bank hs h ▸ (List.getElem?_eq_some_iff.mp hi).1
  exact ⟨i, hbound, h.shaped.index i c hi, length_value_le h hi⟩

/-- **No answer is too long for the buffer**, whatever was asked. -/
theorem length_answer_le (hs : s.Brief) (he : e.Usual) (h : d.Kept s) (request : Value) :
    (Cbor.encode (answer e s request d).1).length ≤ 12288 := by
  have hword : (Cbor.encode (.text "LockPCR")).length ≤ 12288 ∧
      (Cbor.encode (.text "LockPCRs")).length ≤ 12288 := by
    decide +kernel
  obtain ⟨status, heq⟩ | ⟨r, v, d', hr, heq, hserved⟩ := answer_cases e s d request
  · rw [heq]
    exact (length_refuse_le status).trans (by decide)
  · rw [heq]
    cases hserved with
    | describe => exact (length_describe_le hs h).trans (by decide)
    | read hc => exact (length_read_le (length_value_le h hc)).trans (by decide)
    | extend previous data hc =>
      refine (length_reply_bytes_le (by decide +kernel) (by decide +kernel)).trans ?_
      rw [Primitives.extend, he.primitives.length_hash]
      cases s.digest <;> decide
    | lock hc => exact hword.1
    | relock silent hc =>
      cases silent with
      | true => exact hword.1
      | false => exact (length_refuse_le .readOnlyIndex).trans (by decide)
    | lockRange count => exact hword.2
    | attest userData nonce publicKey =>
      refine (length_reply_bytes_le (by decide +kernel) (by decide +kernel)).trans ?_
      split
      · exact Nat.le_of_ble_eq_true rfl
      · have hdocument := length_attested_le hs he h hr
        omega
    | @repeated b hb =>
      refine (length_reply_bytes_le (by decide +kernel) (by decide +kernel)).trans ?_
      rw [h.stuck b hb]
      decide
    | drawn hstuck =>
      refine (length_reply_bytes_le (by decide +kernel) (by decide +kernel)).trans ?_
      rw [he.entropy]
      decide

end Simulator

end EnclaveAudit
