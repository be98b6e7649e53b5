/-!
# `EnclaveAudit/Audit/Scenario.lean` — the scenarios of an audit and its states

An audit goes through five scenarios in a fixed order. Each that passes takes it to a state of its
own; after the last it is done, and after the first violation it has failed. Both are final.
-/

set_option autoImplicit false

namespace EnclaveAudit

/-- Where an audit stands. -/
inductive Phase where
  | init
  | descriptionValidated
  | initialRegistersAudited
  | locksAndExtensionAudited
  | attestationAudited
  | randomnessAudited
  | done
  | failed
  deriving DecidableEq, Repr, Inhabited

namespace Phase

/-- The name in reports and logs. -/
def name : Phase → String
  | .init => "INIT"
  | .descriptionValidated => "DESCRIBED_VALIDATED"
  | .initialRegistersAudited => "INITIAL_PCRS_AUDITED"
  | .locksAndExtensionAudited => "LOCKS_AND_EXTEND_AUDITED"
  | .attestationAudited => "ATTESTATION_AUDITED"
  | .randomnessAudited => "RANDOMNESS_AUDITED"
  | .done => "DONE"
  | .failed => "FAILED"

end Phase

/-- A scenario of an audit. -/
inductive Scenario where
  | description
  | initialRegisters
  | locksAndExtension
  | attestation
  | randomness
  deriving DecidableEq, Repr, Inhabited

namespace Scenario

/-- The scenarios in order. -/
def all : List Scenario :=
  [.description, .initialRegisters, .locksAndExtension, .attestation, .randomness]

/-- The name in reports and logs. -/
def name : Scenario → String
  | .description => "description"
  | .initialRegisters => "initial_pcrs"
  | .locksAndExtension => "locks_and_extend"
  | .attestation => "attestation"
  | .randomness => "randomness"

/-- The state of an audit that has passed the scenario. -/
def target : Scenario → Phase
  | .description => .descriptionValidated
  | .initialRegisters => .initialRegistersAudited
  | .locksAndExtension => .locksAndExtensionAudited
  | .attestation => .attestationAudited
  | .randomness => .randomnessAudited

end Scenario

end EnclaveAudit
