import Mathlib.Tactic.SplitIfs
import EnclaveAudit.Audit.Run

/-!
# `EnclaveAudit/Proofs/Audit/Script.lean` — the script of an audit as one flat list

A plan is nested: scenarios, stretches, rounds, probes. What a device sees of it is one list of
requests, and a statement about "the third read of register 17" wants a name for that place in the
list. A `Slot` is that name. It carries the round, which the plan forgets, so every place of the
script is a different slot and the answers of a device are a function on slots.

`Scenario.slots` writes the list down, `Slot.request` what is asked at each place, and
`plan_probes` is the one fact of this file: the plan, unrolled, is that list.
-/

set_option autoImplicit false

namespace EnclaveAudit

/-- A place in the script, once the device described itself. Rounds count from zero. -/
inductive Slot where
  | bootDocument
  | firstRead (register : Nat)
  | relock (round register : Nat)
  | extension (round register : Nat)
  | lock (register : Nat)
  | lockRange
  | lockBeyond
  | lockedExtension (register : Nat)
  | read (round register : Nat)
  | plainDocument
  /-- a document on so many inputs, which are filled or empty -/
  | document (filled : Bool) (inputs : Nat)
  | sample (number : Nat)
  deriving DecidableEq, Repr

namespace Slot

/-- The scenario that a slot belongs to. -/
def scenario : Slot → Scenario
  | .bootDocument => .description
  | .firstRead _ => .initialRegisters
  | .relock _ _ | .extension _ _ | .lock _ | .lockRange | .lockBeyond | .lockedExtension _
  | .read _ _ => .locksAndExtension
  | .plainDocument | .document _ _ => .attestation
  | .sample _ => .randomness

/-- What the documents of the attestation scenario attest. -/
def payload (p : Parameters) (filled : Bool) : Bytes :=
  if filled then Bytes.fill attestationFill p.attestationDataLength else []

/-- The step that an audit takes there. -/
def probe (p : Parameters) : Slot → Probe
  | .bootDocument | .plainDocument => .attest none none none
  | .firstRead i => .readFirst i
  | .relock _ i => .relock i
  | .extension _ i => .extend i p.extendInput
  | .lock i => .lock i
  | .lockRange => .lockRange
  | .lockBeyond => .lockBeyond
  | .lockedExtension i => .extendLocked i p.extendInput
  | .read _ i => .readAgain i
  | .document filled n =>
    .attest (some (payload p filled)) (if 2 ≤ n then some (payload p filled) else none)
      (if 3 ≤ n then some (payload p filled) else none)
  | .sample _ => .random p.randomLength

/-- What the device is asked there. -/
def request (p : Parameters) : Slot → Value
  | .bootDocument | .plainDocument =>
    Operation.call "Attestation" [("user_data", .null), ("nonce", .null), ("public_key", .null)]
  | .firstRead i | .read _ i => Operation.call "DescribePCR" [("index", .int i)]
  | .relock _ i | .lock i => Operation.call "LockPCR" [("index", .int i)]
  | .extension _ i | .lockedExtension i =>
    Operation.call "ExtendPCR" [("index", .int i), ("data", .bytes p.extendInput)]
  | .lockRange => Operation.call "LockPCRs" [("range", .int 32)]
  | .lockBeyond => Operation.call "LockPCRs" [("range", .int 33)]
  | .document filled n =>
    Operation.call "Attestation" [
      ("user_data", .bytes (payload p filled)),
      ("nonce", if 2 ≤ n then .bytes (payload p filled) else .null),
      ("public_key", if 3 ≤ n then .bytes (payload p filled) else .null)]
  | .sample _ => .text "GetRandom"

theorem request_probe (p : Parameters) (x : Slot) :
    (x.probe p).operation.request = x.request p := by
  cases x with
  | document filled n =>
    simp only [probe, Probe.operation, Operation.request, request]
    split_ifs <;> rfl
  | _ => rfl

/-- Every length of a sample is one that a chunk has, so nothing in the script is held back. -/
theorem sendable_probe (p : Parameters) (x : Slot) : (x.probe p).operation.sendable = true := by
  cases x with
  | sample n =>
    have hpos := p.randomLength_pos
    have hle := p.randomLength_le
    simp only [probe, Probe.operation, Operation.sendable, Bool.and_eq_true, decide_eq_true_eq]
    omega
  | _ => rfl

end Slot

namespace Scenario

/-- The places of a scenario, in order. -/
def slots (p : Parameters) : Scenario → List Slot
  | .description => if p.attestAtBoot then [.bootDocument] else []
  | .initialRegisters => (List.range 32).map .firstRead
  | .locksAndExtension =>
    (List.range p.relockAttempts).flatMap (fun k => (List.range 16).map (.relock k)) ++
    (List.range p.extendRounds).flatMap (fun k => (List.range' 16 16).map (.extension k)) ++
    (List.range' 16 16).map .lock ++
    [.lockRange, .lockBeyond] ++
    (List.range 32).map .lockedExtension ++
    (List.range p.readRounds).flatMap (fun k => (List.range 32).map (.read k))
  | .attestation =>
    [.plainDocument, .document true 1, .document true 2, .document true 3,
      .document false 1, .document false 2, .document false 3]
  | .randomness => (List.range p.randomSamples).map .sample

end Scenario

namespace Parameters

/-- All places, in order. -/
def slots (p : Parameters) : List Slot := Scenario.all.flatMap (Scenario.slots p)

/-- Everything that a device is asked by an audit that nothing stops. -/
def script (p : Parameters) : List Value := .text "DescribeNSM" :: p.slots.map (Slot.request p)

end Parameters

/-! ## The plan, unrolled -/

/-- The probes of a stretch, as often as they are repeated. -/
def Stretch.unrolled (s : Stretch) : List Probe := (List.replicate s.rounds s.probes).flatten

/-- Rounds that are all the same can be counted. -/
theorem flatten_replicate {α : Type} (n : Nat) (xs : List α) :
    (List.replicate n xs).flatten = (List.range n).flatMap fun _ => xs := by
  rw [List.flatMap_def, List.map_const', List.length_range]

/-- A table with one entry replaced is the table of another function. -/
theorem set_map_range {α : Type} {n i : Nat} {f g : Nat → α} {a : α} (ha : g i = a)
    (h : ∀ j < n, j ≠ i → g j = f j) : ((List.range n).map f).set i a = (List.range n).map g := by
  refine List.ext_getElem (by simp) fun j hj _ => ?_
  have hj : j < n := by simpa using hj
  rw [List.getElem_set]
  split_ifs with hij
  · simp [← hij, ha]
  · simp [h j hj (Ne.symm hij)]

/-- The plan of a scenario, unrolled, is what its slots stand for. -/
theorem plan_probes (p : Parameters) (s : Scenario) :
    (s.plan p).flatMap Stretch.unrolled = (s.slots p).map (Slot.probe p) := by
  cases s with
  | description =>
    simp only [Scenario.plan, Scenario.slots]
    split_ifs <;> rfl
  | initialRegisters => rfl
  | locksAndExtension =>
    simp only [Scenario.plan, Scenario.slots, Stretch.unrolled, flatten_replicate,
      List.flatMap_cons, List.flatMap_nil, List.map_append, List.map_flatMap, List.map_map,
      List.append_assoc, List.append_nil]
    -- a probe does not tell its round, so both sides repeat the same list
    rfl
  | attestation => rfl
  | randomness =>
    simp only [Scenario.plan, Scenario.slots, Stretch.unrolled, flatten_replicate,
      List.flatMap_cons, List.flatMap_nil, List.append_nil, List.map_map]
    rw [List.map_eq_flatMap]
    rfl

end EnclaveAudit
