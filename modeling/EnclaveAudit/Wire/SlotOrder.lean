import EnclaveAudit.Wire.Value

/-!
# `EnclaveAudit/Wire/SlotOrder.lean` — in which order a set shows its members

A set has no order, but a message that lists its members does, and so does a field that is read from
one. The order is that of a table whose slots are filled by number: a member goes into the slot of its
residue, or if that is taken into a later one. A few small numbers therefore come out in ascending
order however they arrived, and larger ones by their last bits.

Members that denote no number have no residue that another run would give them again. A set with
such a member keeps the order of arrival.
-/

set_option autoImplicit false

namespace EnclaveAudit.SlotOrder

/-- The prime that residues are taken by. -/
def modulus : Nat := 0x1fffffffffffffff

/-- A power modulo the prime. -/
def power (base : Nat) : (fuel : Nat) → (exponent : Nat) → Nat
  | 0, _ => 1
  | fuel + 1, exponent =>
    let half := power (base * base % modulus) fuel (exponent / 2)
    if exponent % 2 = 0 then half else half * base % modulus

/-- The residue of a number: equal numbers have the same one. -/
def residue : Value.Quantity → Int
  | .infinite negative => if negative then -314159 else 314159
  | .finite x =>
    let inverse := power (x.den % modulus) 61 (modulus - 2)
    let magnitude : Nat :=
      if x.den % modulus = 0 then 314159 else x.num.natAbs % modulus * inverse % modulus
    if 0 ≤ x.num then magnitude
    else if magnitude = 1 then -2
    else -magnitude

/-- The residue of a member. -/
def residue? : Value → Option Int
  | .simple code => some code
  | v => v.quantity?.map residue

/-- A table: members with their residues in slots, and how many there are. -/
structure Table where
  slots : Array (Option (Int × Value))
  used : Nat := 0

/-- A table without members. -/
def empty (size : Nat) : Table := { slots := Array.replicate size none }

/-- How many slots after the first are tried before jumping. -/
def neighbours : Nat := 9

/-- The first free slot of those from `start` on that are tried together. -/
def freeAmong (t : Table) (start : Nat) : Option Nat :=
  let tried := if start + neighbours < t.slots.size then neighbours + 1 else 1
  ((List.range tried).map (start + ·)).find? fun i => (t.slots.getD i none).isNone

/-- The free slot for a residue: the slot that it names, its neighbours, and then wherever the bits
that were not looked at yet lead. -/
def freeSlot (t : Table) : (fuel : Nat) → (slot bits : Nat) → Nat
  | 0, slot, _ => slot
  | fuel + 1, slot, bits =>
    match freeAmong t slot with
    | some i => i
    | none =>
      let bits := bits / 32
      freeSlot t fuel ((slot * 5 + 1 + bits) % t.slots.size) bits

/-- The table with one more member in it. -/
def place (t : Table) (member : Int × Value) : Table :=
  let bits := (member.1 % 0x10000000000000000).toNat
  let slot := freeSlot t (t.slots.size + 13) (bits % t.slots.size) bits
  ⟨t.slots.set! slot (some member), t.used + 1⟩

/-- The least size from eight on by doubling that is above a number. -/
def sizeAbove (n : Nat) : Nat := (List.range 64).foldl (fun size _ =>
  if size ≤ n then 2 * size else size) 8

/-- The members in the order of a table. -/
def shown (t : Table) : List (Int × Value) := t.slots.toList.filterMap id

/-- The table with one more member, grown if three fifths of it are taken. -/
def insert (t : Table) (member : Int × Value) : Table :=
  let t := place t member
  if t.used * 5 < (t.slots.size - 1) * 3 then t
  else
    (shown t).foldl place
      (empty (sizeAbove (if 50000 < t.used then 2 * t.used else 4 * t.used)))

/-- The members in the order in which the set shows them, each once. -/
def arranged (members : List Value) : List Value :=
  let kept := members.foldl (fun (kept : List Value) v =>
    if kept.any (Value.same v) then kept else kept ++ [v]) []
  match kept.mapM fun v => (residue? v).map fun r => (r, v) with
  | some numbered => (shown (numbered.foldl insert (empty 8))).map Prod.snd
  | none => kept

end EnclaveAudit.SlotOrder
