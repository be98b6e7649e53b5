import EnclaveAudit.DeviceFile.Transport
import EnclaveAudit.Proofs.Audit.Dialogue
import EnclaveAudit.Proofs.Simulator.Messages
import EnclaveAudit.Proofs.Simulator.Turns

/-!
# `EnclaveAudit/Proofs/Audit/Messages.lean` — how long the requests of an audit are

All requests of a script but the extensions are short, whatever the parameters are. An extension is
as long as its data and what stands around it, and what stands around it is one octet longer from
register 24 on, where an index no longer fits into the head of its encoding. So there is one length
of data, 4069 octets, at which the extensions of some registers fit into a message and those of the
others do not (`length_extension_le_iff`).
-/

set_option autoImplicit false

namespace EnclaveAudit

open DeviceFile (requestLimit)

namespace Slot

/-- The register that a place of the script is about. -/
def register? : Slot → Option Nat
  | .firstRead i | .relock _ i | .extension _ i | .lock i | .lockedExtension i | .read _ i => some i
  | _ => none

/-- The register that is extended at a place of the script. -/
def extended? : Slot → Option Nat
  | .extension _ i | .lockedExtension i => some i
  | _ => none

/-- No register of the script lies outside the bank. -/
theorem lt_of_mem_slots {p : Parameters} {s : Scenario} {x : Slot} (h : x ∈ s.slots p) :
    ∀ i ∈ x.register?, i < 32 := by
  cases s with
  | description =>
    simp only [Scenario.slots] at h
    split_ifs at h
    · rw [List.mem_singleton.mp h]
      rintro i ⟨⟩
    · cases h
  | initialRegisters =>
    obtain ⟨i, hi, rfl⟩ := List.mem_map.mp h
    rintro _ ⟨⟩
    exact List.mem_range.mp hi
  | locksAndExtension =>
    simp only [Scenario.slots, List.mem_append, List.mem_flatMap, List.mem_map, List.mem_cons,
      List.not_mem_nil, or_false, List.mem_range, List.mem_range'_1] at h
    rcases h with ((((⟨_, _, i, hi, rfl⟩ | ⟨_, _, i, hi, rfl⟩) | ⟨i, hi, rfl⟩) | rfl | rfl) |
      ⟨i, hi, rfl⟩) | ⟨_, _, i, hi, rfl⟩ <;> rintro _ ⟨⟩ <;> omega
  | attestation =>
    simp only [Scenario.slots, List.mem_cons, List.not_mem_nil, or_false] at h
    rcases h with rfl | rfl | rfl | rfl | rfl | rfl | rfl <;> rintro _ ⟨⟩
  | randomness =>
    obtain ⟨n, -, rfl⟩ := List.mem_map.mp h
    rintro _ ⟨⟩

theorem typed_probe (p : Parameters) (x : Slot) : (x.probe p).operation.Typed := by
  cases x with
  | bootDocument => exact .attest none none none
  | plainDocument => exact .attest none none none
  | document filled n => exact .attest _ _ _
  | firstRead i => exact .describeRegister i
  | read k i => exact .describeRegister i
  | relock k i => exact .lockRegister i
  | lock i => exact .lockRegister i
  | extension k i => exact .extendRegister i _
  | lockedExtension i => exact .extendRegister i _
  | lockRange => exact .lockRegisters _
  | lockBeyond => exact .lockRegisters _
  | sample n => exact .random _

/-- Every request of a script survives the wire. -/
theorem portable_request (p : Parameters) (x : Slot) : Cbor.Portable 4 (x.request p) :=
  x.request_probe p ▸ EnclaveAudit.portable_request (x.typed_probe p)

end Slot

/-! ## Lengths -/

namespace Cbor

theorem le_length_head (kind : Nat) {n : Nat} (h : 256 ≤ n) : 3 ≤ (head kind n).length := by
  have hsmall : ¬n < 24 := by omega
  have hone : ¬n < 0x100 := by omega
  simp only [head, if_neg hsmall, if_neg hone]
  split_ifs <;> simp

theorem length_head_of_lt (kind : Nat) {n : Nat} (h : 256 ≤ n) (hn : n < 65536) :
    (head kind n).length = 3 := by
  have hsmall : ¬n < 24 := by omega
  have hone : ¬n < 0x100 := by omega
  simp [head, if_neg hsmall, if_neg hone, if_pos hn]

/-- The index of a register is part of a head, or stands behind it. -/
theorem length_index : ∀ i : Nat, i < 32 → (integer i).length = if i < 24 then 1 else 2 := by
  decide +kernel

end Cbor

open Cbor

/-- A request to extend a register. -/
theorem length_extension (i : Nat) (data : Bytes) :
    (encode (Operation.extendRegister (.int i) data).request).length =
      23 + (integer i).length + (head 2 data.length).length + data.length := by
  have hnames : (text "ExtendPCR").length = 10 ∧ (text "index").length = 6 ∧
      (text "data").length = 5 ∧ (head 5 2).length = 1 := by
    decide +kernel
  have hdata : (encode (.bytes data)).length = (head 2 data.length).length + data.length :=
    List.length_append
  have hindex : encode (.int i) = integer i := rfl
  rw [Operation.request, Operation.call, length_call]
  simp only [List.map_cons, List.map_nil, List.sum_cons, List.sum_nil, List.length_cons,
    List.length_nil, Nat.zero_add, Nat.reduceAdd, hdata, hindex]
  omega

/-- **Where extensions stop fitting**: data of 4069 octets is the longest, and from register 24 on
that of 4068. -/
theorem length_extension_le_iff {i : Nat} (hi : i < 32) (data : Bytes) :
    (encode (Operation.extendRegister (.int i) data).request).length ≤ requestLimit ↔
      data.length + (if i < 24 then 0 else 1) ≤ 4069 := by
  have hlimit : requestLimit = 4096 := rfl
  rw [length_extension, length_index i hi, hlimit]
  -- the head of the data has three octets wherever the limit is near
  by_cases hshort : data.length < 256
  · have hhead := length_head_le 2 data.length
    split_ifs <;> omega
  · have hhead := le_length_head 2 (Nat.not_lt.mp hshort)
    have hexact := length_head_of_lt 2 (Nat.not_lt.mp hshort)
    split_ifs <;> omega

/-- A request with a name and one number. -/
theorem length_request_number_le {name field : String} {n : Nat} (hn : n < 256)
    (hname : (text name).length ≤ 20) (hfield : (text field).length ≤ 20) :
    (encode (Operation.call name [(field, .int n)])).length ≤ requestLimit := by
  have hhead := length_head_le 5 1
  have hnumber : (encode (.int n)).length ≤ 9 := length_integer_le n (by omega)
  have hlimit : requestLimit = 4096 := rfl
  rw [Operation.call, length_call, hlimit]
  simp only [List.map_cons, List.map_nil, List.sum_cons, List.sum_nil, List.length_singleton]
  omega

/-- A request for a document with inputs that are not too long. -/
theorem length_attest_le {userData nonce publicKey : Option Bytes}
    (hu : ∀ b ∈ userData, b.length ≤ 1024) (hn : ∀ b ∈ nonce, b.length ≤ 1024)
    (hk : ∀ b ∈ publicKey, b.length ≤ 1024) :
    (encode (Operation.attest (.ofBytes? userData) (.ofBytes? nonce)
      (.ofBytes? publicKey)).request).length ≤ requestLimit := by
  have hnames : (text "Attestation").length = 12 ∧ (text "user_data").length = 10 ∧
      (text "nonce").length = 6 ∧ (text "public_key").length = 11 ∧ (head 5 3).length = 1 := by
    decide +kernel
  have huserData := length_ofBytes?_le hu
  have hnonce := length_ofBytes?_le hn
  have hpublicKey := length_ofBytes?_le hk
  have hlimit : requestLimit = 4096 := rfl
  rw [Operation.request, Operation.call, length_call, hlimit]
  simp only [List.map_cons, List.map_nil, List.sum_cons, List.sum_nil, List.length_cons,
    List.length_nil, Nat.zero_add, Nat.reduceAdd]
  omega

namespace Slot

/-- **Every request of a script fits** but the extensions, and those do up to the boundary. -/
theorem length_request_le {p : Parameters} {x : Slot} (hx : ∀ i ∈ x.register?, i < 32)
    (hdata : ∀ i ∈ x.extended?, p.extendInput.length + (if i < 24 then 0 else 1) ≤ 4069) :
    (encode (x.request p)).length ≤ requestLimit := by
  have hnone : ∀ b ∈ (none : Option Bytes), b.length ≤ 1024 := fun _ h => nomatch h
  have hword : (encode (.text "GetRandom")).length ≤ requestLimit := by decide +kernel
  cases x with
  | bootDocument | plainDocument =>
    rw [← request_probe]
    exact length_attest_le hnone hnone hnone
  | document filled n =>
    rw [← request_probe]
    refine length_attest_le ?_ Simulator.length_le_of_mem_input Simulator.length_le_of_mem_input
    rintro b ⟨⟩
    exact Simulator.length_payload filled
  | firstRead i | read k i =>
    have hi := hx i rfl
    exact length_request_number_le (by omega) (by decide +kernel) (by decide +kernel)
  | relock k i | lock i =>
    have hi := hx i rfl
    exact length_request_number_le (by omega) (by decide +kernel) (by decide +kernel)
  | extension k i | lockedExtension i =>
    exact (length_extension_le_iff (hx i rfl) p.extendInput).mpr (hdata i rfl)
  | lockRange | lockBeyond =>
    exact length_request_number_le (by decide) (by decide +kernel) (by decide +kernel)
  | sample n => exact hword

end Slot

end EnclaveAudit
