/-!
# `EnclaveAudit/Check/Basic.lean` — what a device is held to

Each check is one sentence of the device's contract. It has a name, by which reports and logs refer
to it, and the sentence itself. The list `Check.all` is complete and in the order in which an audit
comes to them; a check that someone else defines has its name for a sentence.
-/

set_option autoImplicit false

namespace EnclaveAudit

/-- One sentence of the contract. -/
inductive Check where
  | describe
  | registerCount
  | moduleId
  | digest
  | describeRegister
  | initialValue
  | initialLockedSet
  | initialLockFlag
  | lockRejected
  | lockRegister
  | extendRegister
  | extendWidth
  | extendNonZero
  | extendChaining
  | lockRangeExact
  | lockRangeOverflow
  | extendLockedRejected
  | postLockLocked
  | postLockValue
  | lockMonotonic
  | registerValueStable
  | attestation
  | attestationNonEmpty
  | attestationSize
  | getRandom
  | randomNotEmpty
  | randomLength
  | randomRepeat
  /-- a check that is none of these -/
  | custom (name : String)
  deriving DecidableEq, Repr, Inhabited

namespace Check

/-- The checks of an audit. -/
def all : List Check :=
  [.describe, .registerCount, .moduleId, .digest, .describeRegister, .initialValue,
    .initialLockedSet, .initialLockFlag, .lockRejected, .lockRegister, .extendRegister,
    .extendWidth, .extendNonZero, .extendChaining, .lockRangeExact, .lockRangeOverflow,
    .extendLockedRejected, .postLockLocked, .postLockValue, .lockMonotonic, .registerValueStable,
    .attestation, .attestationNonEmpty, .attestationSize, .getRandom, .randomNotEmpty,
    .randomLength, .randomRepeat]

/-- The name in reports and logs. -/
def name : Check → String
  | .describe => "describe"
  | .registerCount => "register_count"
  | .moduleId => "module_id"
  | .digest => "digest"
  | .describeRegister => "describe_register"
  | .initialValue => "initial_value"
  | .initialLockedSet => "initial_locked_set"
  | .initialLockFlag => "initial_lock_flag"
  | .lockRejected => "lock_rejected"
  | .lockRegister => "lock_register"
  | .extendRegister => "extend_register"
  | .extendWidth => "extend_width"
  | .extendNonZero => "extend_non_zero"
  | .extendChaining => "extend_chaining"
  | .lockRangeExact => "lock_range_exact"
  | .lockRangeOverflow => "lock_range_overflow"
  | .extendLockedRejected => "extend_locked_rejected"
  | .postLockLocked => "post_lock_locked"
  | .postLockValue => "post_lock_value"
  | .lockMonotonic => "lock_monotonic"
  | .registerValueStable => "register_value_stable"
  | .attestation => "attestation"
  | .attestationNonEmpty => "attestation_non_empty"
  | .attestationSize => "attestation_size"
  | .getRandom => "get_random"
  | .randomNotEmpty => "random_not_empty"
  | .randomLength => "random_length"
  | .randomRepeat => "random_repeat"
  | .custom name => name

/-- The sentence. -/
def description : Check → String
  | .describe => "Request::DescribeNSM succeeds"
  | .registerCount => "The NSM exposes exactly the modelled number of PCRs"
  | .moduleId => "The NSM module ID is not empty"
  | .digest => "The PCR bank digest is SHA256, SHA384 or SHA512"
  | .describeRegister => "Request::DescribePCR succeeds with a value of the digest width"
  | .initialValue => "PCRs 0-2 and 4 hold measurements, 3 and 5-15 are empty at boot"
  | .initialLockedSet => "The description reports exactly PCRs [0..16) as locked"
  | .initialLockFlag => "PCRs [0..16) report locked and [16..32) unlocked at boot"
  | .lockRejected => "Locking an already locked PCR is refused"
  | .lockRegister => "Locking an unlocked PCR succeeds"
  | .extendRegister => "Extending an unlocked PCR succeeds"
  | .extendWidth => "An extended PCR value has the digest width"
  | .extendNonZero => "An extended PCR value is not empty"
  | .extendChaining => "Extending twice with the same input yields a new value each time"
  | .lockRangeExact => "Request::LockPCRs succeeds for the full PCR count"
  | .lockRangeOverflow => "Request::LockPCRs is refused for the PCR count plus one"
  | .extendLockedRejected => "Extending a locked PCR is refused"
  | .postLockLocked => "Every PCR reports locked once the bank is locked"
  | .postLockValue => "Only PCRs 3 and 5-15 are empty once the bank is locked"
  | .lockMonotonic => "A PCR that reported locked never reports unlocked again"
  | .registerValueStable => "A PCR value only changes through extension"
  | .attestation => "Request::Attestation succeeds"
  | .attestationNonEmpty => "An attestation document is not empty"
  | .attestationSize => "An attestation document fits the document size ceiling"
  | .getRandom => "Request::GetRandom succeeds"
  | .randomNotEmpty => "A random sample is not empty"
  | .randomLength => "A random sample has the requested length"
  | .randomRepeat => "Consecutive random samples differ"
  | .custom name => name

/-- The check of a name. -/
def ofName (s : String) : Check := (all.find? fun check => check.name == s).getD (.custom s)

end Check

end EnclaveAudit
