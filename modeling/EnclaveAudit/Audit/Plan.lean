import EnclaveAudit.Audit.Ledger
import EnclaveAudit.Check.Outcome
import EnclaveAudit.Suite.Parameters

/-!
# `EnclaveAudit/Audit/Plan.lean` — what an audit does, step by step

The plan of an audit is data. It consists of probes — operations with what is to be made of their
outcome — in stretches that are repeated so many times. The plan of a scenario depends on the
parameters only: nothing that a device answers can make an audit ask anything else, it can only make
it stop. So the requests of an audit can be written down before it starts (`Scenario.operations`).

What is made of an outcome depends on the device, through its description and the contract derived
from it, and on the ledger.
-/

set_option autoImplicit false

namespace EnclaveAudit

/-- What an audit knows about the device once it was described. -/
structure Subject where
  description : Description
  contract : Contract

/-- One step of an audit. -/
inductive Probe where
  /-- have a document issued -/
  | attest (userData nonce publicKey : Option Bytes)
  /-- read a register for the first time -/
  | readFirst (index : Nat)
  /-- lock a register that is locked -/
  | relock (index : Nat)
  /-- extend a free register -/
  | extend (index : Nat) (data : Bytes)
  /-- lock a free register -/
  | lock (index : Nat)
  /-- lock the whole bank -/
  | lockRange
  /-- lock one register more than there are -/
  | lockBeyond
  /-- extend a register that is locked -/
  | extendLocked (index : Nat) (data : Bytes)
  /-- read a register again, once everything is locked -/
  | readAgain (index : Nat)
  /-- draw a random sample -/
  | random (length : Nat)
  deriving DecidableEq, Repr

namespace Probe

/-- The operation of a step. -/
def operation : Probe → Operation
  | .attest userData nonce publicKey =>
    .attest (.ofBytes? userData) (.ofBytes? nonce) (.ofBytes? publicKey)
  | .readFirst index => .describeRegister (.int index)
  | .relock index => .lockRegister (.int index)
  | .extend index data => .extendRegister (.int index) data
  | .lock index => .lockRegister (.int index)
  | .lockRange => .lockRegisters (.int registerCount)
  | .lockBeyond => .lockRegisters (.int (registerCount + 1))
  | .extendLocked index data => .extendRegister (.int index) data
  | .readAgain index => .describeRegister (.int index)
  | .random length => .random length

open Judgement in
/-- What is made of the outcome of a step. -/
def judge (p : Parameters) (c : Contract) :
    (x : Probe) → Except Status x.operation.Result → Judgement Unit
  | .attest _ _ _, outcome =>
    discard (counted (Check.judgeDocument p.maxDocumentSize outcome))
  | .readFirst index, outcome => do
    let r ← counted (Check.judgeRead index c outcome)
    modify fun l => { l with bank := l.bank ++ [r] }
  | .relock index, outcome => discard (counted (Check.judgeRelock index outcome))
  | .extend index _, outcome => do
    let value ← counted (Check.judgeExtend index c outcome)
    match (← get).bank[index]? with
    | some previous =>
      counted (Check.requireChaining index previous.value value)
      modify fun l => { l with bank := l.bank.set index (previous.withValue value) }
    | none => pure ()
  | .lock index, outcome => counted (Check.judgeLock index outcome)
  | .lockRange, outcome => counted (Check.judgeLockRange outcome)
  | .lockBeyond, outcome => discard (counted (Check.judgeLockBeyond outcome))
  | .extendLocked index _, outcome =>
    discard (counted (Check.judgeExtendLocked index outcome))
  | .readAgain index, outcome => do
    let r ← counted (Check.judgeRead index c outcome)
    let previous := (← get).bank[index]?
    counted (Check.requireLockMonotonic previous r)
    counted (Check.requirePostLock r c)
    counted (Check.requireValueStable previous r)
    modify fun l => { l with bank := l.bank.set index r }
  | .random length, outcome => do
    let sample ← counted (Check.judgeRandom length (← get).sample outcome)
    modify fun l => { l with sample := some sample }

end Probe

/-- Steps that are repeated so many times. -/
structure Stretch where
  rounds : Nat := 1
  probes : List Probe

namespace Stretch

/-- The operations of a stretch. -/
def operations (s : Stretch) : List Operation :=
  (List.replicate s.rounds (s.probes.map Probe.operation)).flatten

end Stretch

/-! ## The scenarios -/

/-- The registers of the bank. -/
def allRegisters : List Nat := List.range registerCount

/-- The registers that are locked when the machine starts. -/
def lockedRegisters : List Nat := List.range bootLockedCount

/-- The registers that are free then. -/
def freeRegisters : List Nat := List.range' bootLockedCount (registerCount - bootLockedCount)

/-- The octet that data to be attested is filled with. -/
def attestationFill : UInt8 := 128

/-- A payload attested as user data, with a nonce, and with a key. -/
def attestations (payload : Bytes) : List Probe :=
  [.attest (some payload) none none, .attest (some payload) (some payload) none,
    .attest (some payload) (some payload) (some payload)]

namespace Scenario

/-- The steps of a scenario. The first one also has the device describe itself before them. -/
def plan (p : Parameters) : Scenario → List Stretch
  | .description => if p.attestAtBoot then [{ probes := [.attest none none none] }] else []
  | .initialRegisters => [{ probes := allRegisters.map .readFirst }]
  | .locksAndExtension => [
      { rounds := p.relockAttempts, probes := lockedRegisters.map .relock },
      { rounds := p.extendRounds, probes := freeRegisters.map (.extend · p.extendInput) },
      { probes := freeRegisters.map .lock },
      { probes := [.lockRange, .lockBeyond] },
      { probes := allRegisters.map (.extendLocked · p.extendInput) },
      { rounds := p.readRounds, probes := allRegisters.map .readAgain }]
  | .attestation =>
    [{ probes := .attest none none none ::
        (attestations (Bytes.fill attestationFill p.attestationDataLength) ++ attestations []) }]
  | .randomness => [{ rounds := p.randomSamples, probes := [.random p.randomLength] }]

open Judgement in
/-- What is judged when the steps of a scenario are done. -/
def closing (s : Subject) : Scenario → Judgement Unit
  | .initialRegisters => do
    counted (Check.requireInitialValues (← get).bank s.contract)
    counted (Check.requireInitialLockedSet s.description s.contract)
    counted (Check.requireInitialLockFlags (← get).bank)
  | _ => pure ()

/-- The operations of a scenario, in order. -/
def operations (p : Parameters) (s : Scenario) : List Operation :=
  (if s = .description then [.describe] else []) ++ (s.plan p).flatMap Stretch.operations

end Scenario

/-- The operations of an audit that nothing stops. -/
def Parameters.operations (p : Parameters) : List Operation :=
  Scenario.all.flatMap (Scenario.operations p)

end EnclaveAudit
