import EnclaveAudit.Proofs.Simulator.Bank
import EnclaveAudit.Proofs.Wire.Size

/-!
# `EnclaveAudit/Proofs/Simulator/Document.lean` — a document fits its ceiling

What a simulated device signs has a fixed list of fields, and each is bounded: the identifier by the
contract, the register values by the digest, the attested data by the limit of the firmware, the
time by what a float of milliseconds can be. So no document is longer than the ceiling of the
contract, with room to spare, and none is empty.
-/

set_option autoImplicit false

namespace EnclaveAudit

theorem Primitives.sized_standard : Primitives.standard.Sized where
  length_hash := Sha2.length_hash
  length_verificationKey := fun seed => by
    have h := Ed25519.length_verificationKey seed
    simpa only [Primitives.standard] using h
  length_sign := Ed25519.length_sign

/-- A number of milliseconds that no float reaches. -/
def floatBound : Nat := 2 ^ (8 * 128)

/-- Surroundings that are what they should be: a clock, a source of octets, and cryptography. -/
structure Surroundings.Usual (e : Surroundings) : Prop where
  primitives : e.primitives.Sized
  now : e.now.milliseconds.natAbs < floatBound
  entropy : ∀ draw count, (e.entropy draw count).length = count

namespace Simulator

open Cbor

variable {e : Surroundings} {s : Settings} {bank : Bank} {userData nonce publicKey : Option Bytes}

theorem document_ne_nil : document e s bank userData nonce publicKey ≠ [] := by
  intro h
  have hlength := congrArg List.length h
  simp [document, encode, head] at hlength

/-- The registers in a document, each with its index. -/
theorem length_registers_le (hlength : bank.length = 32)
    (hregister : ∀ c ∈ bank, ∃ i < 32, c.register.index = (i : Nat) ∧
      c.register.value.length ≤ 64) :
    (encode (.map ((lockedRegisters bank).map fun r => (.int r.index, .bytes r.value)))).length ≤
      9 + 32 * 82 := by
  have hcells : (bank.map Cell.register).length = 32 := by rw [List.length_map, hlength]
  have hcount : (lockedRegisters bank).length ≤ 32 := by
    unfold lockedRegisters
    exact Nat.le_trans (List.length_filter_le _ _) (Nat.le_of_eq hcells)
  have hentries : ∀ entry ∈ (lockedRegisters bank).map fun r =>
      (Value.int r.index, Value.bytes r.value), (encodeEntry entry).length ≤ 82 := by
    intro entry hentry
    obtain ⟨r, hr, rfl⟩ := List.mem_map.mp hentry
    obtain ⟨c, hc, rfl⟩ := List.mem_map.mp (List.mem_filter.mp hr).1
    obtain ⟨i, hi, hindex, hvalue⟩ := hregister c hc
    have hinteger := length_integer_le i (by omega)
    have hoctets := length_octets_le c.register.value
    have hentry : encodeEntry (.int c.register.index, .bytes c.register.value) =
        integer i ++ octets c.register.value := by rw [hindex]; rfl
    rw [hentry, List.length_append]
    omega
  have hsum := length_encodeEntries_le hentries
  have hhead := length_head_le 5 ((lockedRegisters bank).map fun r =>
    (Value.int r.index, Value.bytes r.value)).length
  rw [encode, List.length_append]
  rw [List.length_map] at hsum
  have hmul := Nat.mul_le_mul_right 82 hcount
  omega

/-- What is signed. -/
theorem length_payload_le (hsized : e.primitives.Sized)
    (hid : (Bytes.ofString s.moduleId).length ≤ 100) (hnow : e.now.milliseconds.natAbs < floatBound)
    (hlength : bank.length = 32)
    (hregister : ∀ c ∈ bank, ∃ i < 32, c.register.index = (i : Nat) ∧ c.register.value.length ≤ 64)
    (hu : ∀ b ∈ userData, b.length ≤ 1024) (hn : ∀ b ∈ nonce, b.length ≤ 1024)
    (hk : ∀ b ∈ publicKey, b.length ≤ 1024) :
    (encode (payload e s bank userData nonce publicKey)).length ≤ 7000 := by
  have hparts : (encode (payload e s bank userData nonce publicKey)).length =
      (head 5 9).length +
      ((text "module_id").length + (text s.moduleId).length) +
      ((text "digest").length + (text s.digest.tag).length) +
      ((text "timestamp").length + (integer e.now.milliseconds).length) +
      ((text "pcrs").length + (encode (.map ((lockedRegisters bank).map fun r =>
        (.int r.index, .bytes r.value)))).length) +
      ((text "certificate").length + (octets (e.primitives.verificationKey s.seed)).length) +
      ((text "cabundle").length + (head 4 0).length) +
      ((text "public_key").length + (encode (.ofBytes? publicKey)).length) +
      ((text "user_data").length + (encode (.ofBytes? userData)).length) +
      ((text "nonce").length + (encode (.ofBytes? nonce)).length) := by
    simp only [payload, Value.record, List.map_cons, List.map_nil, encode, encodeEntries,
      encodeEntry, encodeItems, List.length_append, List.length_cons, List.length_nil,
      List.append_nil, Nat.reduceAdd]
    omega
  have hhead := length_head_le 5 9
  have harray := length_head_le 4 0
  have hregisters := length_registers_le hlength hregister
  have hidentifier := length_text_le s.moduleId
  have htag := length_text_le s.digest.tag
  have htime : (integer e.now.milliseconds).length ≤ 18 + 128 := by
    unfold floatBound at hnow
    exact length_integer_le_of_digits hnow
  have hkey := length_octets_le (e.primitives.verificationKey s.seed)
  rw [hsized.length_verificationKey] at hkey
  have htagLength : (Bytes.ofString s.digest.tag).length = 6 := by cases s.digest <;> rfl
  have hpublic := length_ofBytes?_le hk
  have huser := length_ofBytes?_le hu
  have hnonce := length_ofBytes?_le hn
  have hnames : (text "module_id").length = 10 ∧ (text "digest").length = 7 ∧
      (text "timestamp").length = 10 ∧ (text "pcrs").length = 5 ∧
      (text "certificate").length = 12 ∧ (text "cabundle").length = 9 ∧
      (text "public_key").length = 11 ∧ (text "user_data").length = 10 ∧
      (text "nonce").length = 6 := by
    decide +kernel
  omega

/-- A document is little longer than its body. -/
theorem length_document_le_body (hsized : e.primitives.Sized)
    (hid : (Bytes.ofString s.moduleId).length ≤ 100) (hnow : e.now.milliseconds.natAbs < floatBound)
    (hlength : bank.length = 32)
    (hregister : ∀ c ∈ bank, ∃ i < 32, c.register.index = (i : Nat) ∧ c.register.value.length ≤ 64)
    (hu : ∀ b ∈ userData, b.length ≤ 1024) (hn : ∀ b ∈ nonce, b.length ≤ 1024)
    (hk : ∀ b ∈ publicKey, b.length ≤ 1024) :
    (document e s bank userData nonce publicKey).length ≤ 7104 := by
  -- four items, of which only the body is long
  have hparts : ∀ body signature : Bytes,
      (encode (.array [.bytes protectedHeader, .map [], .bytes body, .bytes signature])).length =
        (head 4 4).length + (octets protectedHeader).length + (head 5 0).length +
          (octets body).length + (octets signature).length := by
    intro body signature
    simp only [encode, encodeEntries, encodeItems, List.length_append, List.length_cons,
      List.length_nil, List.append_nil, Nat.reduceAdd]
    omega
  have hbody := length_payload_le hsized hid hnow hlength hregister hu hn hk
  have hoctets := length_octets_le (encode (payload e s bank userData nonce publicKey))
  have hsignature := length_octets_le (e.primitives.sign s.seed
    (toBeSigned (encode (payload e s bank userData nonce publicKey))))
  rw [hsized.length_sign] at hsignature
  have hheader : (octets protectedHeader).length = 4 := by decide
  have harray := length_head_le 4 4
  have hmap := length_head_le 5 0
  unfold document
  rw [hparts]
  omega

/-- **A document is shorter than its ceiling.** -/
theorem length_document_le (hsized : e.primitives.Sized)
    (hid : (Bytes.ofString s.moduleId).length ≤ 100) (hnow : e.now.milliseconds.natAbs < floatBound)
    (hlength : bank.length = 32)
    (hregister : ∀ c ∈ bank, ∃ i < 32, c.register.index = (i : Nat) ∧ c.register.value.length ≤ 64)
    (hu : ∀ b ∈ userData, b.length ≤ 1024) (hn : ∀ b ∈ nonce, b.length ≤ 1024)
    (hk : ∀ b ∈ publicKey, b.length ≤ 1024) :
    (document e s bank userData nonce publicKey).length ≤ 16384 :=
  (length_document_le_body hsized hid hnow hlength hregister hu hn hk).trans (by decide)

end Simulator

end EnclaveAudit
