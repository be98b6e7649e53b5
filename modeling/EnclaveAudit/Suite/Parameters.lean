import EnclaveAudit.Device.Contract

/-!
# `EnclaveAudit/Suite/Parameters.lean` — how thorough an audit is

The parameters say how often an audit repeats what it does, and with what data. Each has bounds, and
the bounds are part of the type: parameters that exist can be used. The defaults are the values of
the contract.
-/

set_option autoImplicit false

namespace EnclaveAudit

/-- The longest data that an audit has attested. -/
def attestationDataLimit : Nat := 1024

/-- How thorough an audit is. -/
structure Parameters where
  /-- how often each free register is extended -/
  extendRounds : Nat := 10
  /-- how often each register is read once the bank is locked -/
  readRounds : Nat := 10
  /-- how often each locked register is locked again -/
  relockAttempts : Nat := 2
  /-- how many random samples are drawn -/
  randomSamples : Nat := 16
  /-- how long a random sample is -/
  randomLength : Nat := randomChunk
  /-- how long the data to be attested is -/
  attestationDataLength : Nat := 1024
  /-- the longest document that passes -/
  maxDocumentSize : Nat := 16384
  /-- what registers are extended with -/
  extendInput : Bytes := [1, 2, 3]
  /-- whether a document is asked for before anything else -/
  attestAtBoot : Bool := true
  extendRounds_pos : 1 ≤ extendRounds := by decide
  readRounds_pos : 1 ≤ readRounds := by decide
  relockAttempts_pos : 1 ≤ relockAttempts := by decide
  two_le_randomSamples : 2 ≤ randomSamples := by decide
  randomLength_pos : 1 ≤ randomLength := by decide
  randomLength_le : randomLength ≤ randomChunk := by decide
  attestationDataLength_pos : 1 ≤ attestationDataLength := by decide
  attestationDataLength_le : attestationDataLength ≤ attestationDataLimit := by decide
  maxDocumentSize_pos : 1 ≤ maxDocumentSize := by decide
  extendInput_ne_nil : extendInput ≠ [] := by decide
  deriving DecidableEq, Repr

namespace Parameters

/-- The values of the contract. -/
def default : Parameters := {}

instance : Inhabited Parameters := ⟨default⟩

/-- The parameters by the names that users know, in their order. -/
def fields (p : Parameters) : List (String × Value) := [
  ("extend_rounds", .int p.extendRounds),
  ("read_rounds", .int p.readRounds),
  ("relock_attempts", .int p.relockAttempts),
  ("random_samples", .int p.randomSamples),
  ("random_length", .int p.randomLength),
  ("attestation_data_len", .int p.attestationDataLength),
  ("max_document_size", .int p.maxDocumentSize),
  ("extend_input", .bytes p.extendInput),
  ("attest_at_boot", .bool p.attestAtBoot)]

end Parameters

end EnclaveAudit
