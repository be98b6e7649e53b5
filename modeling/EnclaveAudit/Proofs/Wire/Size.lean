import Mathlib.Algebra.Order.Ring.Nat
import Mathlib.Tactic.SplitIfs
import EnclaveAudit.Wire.Cbor.Encoding

/-!
# `EnclaveAudit/Proofs/Wire/Size.lean` — how long an encoding can be

A head has nine octets at most, and what follows is no longer than what is encoded. So the size of a
message is bounded by a sum over its values, and the bounds here are as coarse as that: nobody needs
to know which of the five widths a head has.

Integers are the exception. One that needs more than 64 bits is an octet string of as many octets as
it has digits in base 256, so there is no bound without a bound on the integer. Those that come from
a float have 1024 bits at most.
-/

set_option autoImplicit false

namespace EnclaveAudit

theorem Bytes.length_minimal_le {n k : Nat} (h : n < 2 ^ (8 * k)) :
    (minimal n).length ≤ k := by
  rw [minimal, length_ofNat, digits]
  split_ifs with hn
  · exact Nat.zero_le k
  · have hlog : n.log2 < 8 * k := (Nat.log2_lt hn).mpr h
    omega

namespace Cbor

theorem length_head_le (kind n : Nat) : (head kind n).length ≤ 9 := by
  unfold head
  split_ifs <;> simp

theorem length_octets_le (b : Bytes) : (octets b).length ≤ 9 + b.length := by
  have hhead := length_head_le 2 b.length
  rw [octets, List.length_append]
  omega

theorem length_text_le (s : String) : (text s).length ≤ 9 + (Bytes.ofString s).length := by
  have hhead := length_head_le 3 (Bytes.ofString s).length
  rw [text, List.length_append]
  omega

/-- An integer of 64 bits is a head. -/
theorem length_integer_le (n : Nat) (h : n < 0x10000000000000000) : (integer n).length ≤ 9 := by
  have hsmall : integer n = head 0 n := by
    show (if n < 0x10000000000000000 then head 0 n else _) = _
    rw [if_pos h]
  rw [hsmall]
  exact length_head_le 0 n

/-- One of more bits is an octet string, and not longer than its digits. -/
theorem length_integer_le_of_digits {n : Int} {k : Nat} (h : n.natAbs < 2 ^ (8 * k)) :
    (integer n).length ≤ 18 + k := by
  have hlong : ∀ (kind m : Nat), m < 2 ^ (8 * k) →
      (head 6 kind ++ octets (Bytes.minimal m)).length ≤ 18 + k := by
    intro kind m hm
    have hhead := length_head_le 6 kind
    have hoctets := length_octets_le (Bytes.minimal m)
    have hminimal := Bytes.length_minimal_le hm
    rw [List.length_append]
    omega
  cases n with
  | ofNat m =>
    have hhead := length_head_le 0 m
    show (if m < 0x10000000000000000 then head 0 m else _).length ≤ 18 + k
    split_ifs
    · omega
    · exact hlong 2 m h
  | negSucc m =>
    have hhead := length_head_le 1 m
    show (if m < 0x10000000000000000 then head 1 m else _).length ≤ 18 + k
    split_ifs
    · omega
    · exact hlong 3 m (Nat.lt_of_succ_lt h)

/-- An octet string, or none. -/
theorem length_ofBytes?_le {b : Option Bytes} {k : Nat} (h : ∀ x ∈ b, x.length ≤ k) :
    (encode (.ofBytes? b)).length ≤ 9 + k := by
  cases b with
  | none =>
    have hnull : (encode (.ofBytes? none)).length = 1 := rfl
    omega
  | some x =>
    have hoctets := length_octets_le x
    have hx := h x rfl
    have hsome : encode (.ofBytes? (some x)) = octets x := rfl
    rw [hsome]
    omega

/-- Entries are as long as all of them together. -/
theorem length_encodeEntries_le {k : Nat} {entries : List (Value × Value)}
    (h : ∀ entry ∈ entries, (encodeEntry entry).length ≤ k) :
    (encodeEntries entries).length ≤ entries.length * k := by
  induction entries with
  | nil => exact Nat.zero_le _
  | cons entry entries ih =>
    obtain ⟨hentry, hentries⟩ := List.forall_mem_cons.mp h
    have hrest := ih hentries
    rw [encodeEntries, List.length_append, List.length_cons, Nat.succ_mul]
    omega

/-- Items are as long as all of them together. -/
theorem length_encodeItems_le {k : Nat} {items : List Value}
    (h : ∀ item ∈ items, (encode item).length ≤ k) :
    (encodeItems items).length ≤ items.length * k := by
  induction items with
  | nil => exact Nat.zero_le _
  | cons item items ih =>
    obtain ⟨hitem, hitems⟩ := List.forall_mem_cons.mp h
    have hrest := ih hitems
    rw [encodeItems, List.length_append, List.length_cons, Nat.succ_mul]
    omega

/-- A map whose keys are texts is a head, and each field. -/
theorem length_encode_record (fields : List (String × Value)) :
    (encode (.record fields)).length = (head 5 fields.length).length +
      (fields.map fun f => (text f.1).length + (encode f.2).length).sum := by
  have hentries : ∀ fields : List (String × Value),
      (encodeEntries (fields.map fun f => (.text f.1, f.2))).length =
        (fields.map fun f => (text f.1).length + (encode f.2).length).sum := by
    intro fields
    induction fields with
    | nil => rfl
    | cons f fields ih =>
      rw [List.map_cons, encodeEntries, encodeEntry, List.length_append, List.length_append, ih]
      rfl
  rw [Value.record, encode, List.length_append, hentries, List.length_map]

/-- A message with a name and a body. -/
theorem length_call (name : String) (fields : List (String × Value)) :
    (encode (.record [(name, .record fields)])).length =
      1 + (text name).length + (head 5 fields.length).length +
        (fields.map fun f => (text f.1).length + (encode f.2).length).sum := by
  have houter : (head 5 1).length = 1 := rfl
  rw [length_encode_record, List.length_singleton, List.map_singleton, List.sum_singleton,
    length_encode_record, houter]
  dsimp only
  omega

end Cbor

end EnclaveAudit
