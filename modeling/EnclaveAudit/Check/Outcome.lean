import EnclaveAudit.Check.Bank
import EnclaveAudit.Device.Operation

/-!
# `EnclaveAudit/Check/Outcome.lean` — checks of what the device did

These checks judge the outcome of one operation: the result, or the status it was refused with. Some
operations must succeed and some must be refused. A refusal must be one: an answer that makes no
sense does not count, and neither does success, whatever came with it.
-/

set_option autoImplicit false

namespace EnclaveAudit.Check

/-- An operation that must succeed. -/
def succeed {α : Type} (check : Check) (register : Option Int) :
    Except Status α → Except Violation α
  | .ok result => .ok result
  | .error status =>
    .error ⟨check, .text Status.success.name, .text status.name, register⟩

/-- An operation that must be refused; the result is the status of the refusal. -/
def refused {α : Type} (check : Check) (register : Option Int) :
    Except Status α → Except Violation Status
  | .ok _ => .error ⟨check, .text "error response", .text Status.success.name, register⟩
  | .error status =>
    if status = .invalidResponse then
      .error ⟨check, .text "error response", .text status.name, register⟩
    else .ok status

/-! ## Reading -/

/-- The device describes itself. -/
def judgeDescribe : Except Status Description → Except Violation Description :=
  succeed .describe none

/-- A register can be read, and its value has the width of the digest. -/
def judgeRead (index : Int) (c : Contract) (outcome : Except Status Operation.Reading) :
    Except Violation Register := do
  let reading ← succeed .describeRegister (some index) outcome
  requireWidth .describeRegister reading.value c index
  pure ⟨index, reading.lock, reading.value⟩

/-! ## Locking -/

/-- A locked register cannot be locked again. -/
def judgeRelock (index : Int) : Except Status Unit → Except Violation Status :=
  refused .lockRejected (some index)

/-- A free register can be locked. -/
def judgeLock (index : Int) : Except Status Unit → Except Violation Unit :=
  succeed .lockRegister (some index)

/-- The whole bank can be locked. -/
def judgeLockRange : Except Status Unit → Except Violation Unit :=
  succeed .lockRangeExact none

/-- One register more than there are cannot be locked. -/
def judgeLockBeyond : Except Status Unit → Except Violation Status :=
  refused .lockRangeOverflow none

/-! ## Extension -/

/-- A free register can be extended, and its new value is one. -/
def judgeExtend (index : Int) (c : Contract) (outcome : Except Status Bytes) :
    Except Violation Bytes := do
  let value ← succeed .extendRegister (some index) outcome
  requireWidth .extendWidth value c index
  require (value != c.zeroValue)
    ⟨.extendNonZero, .text "non-zero value", .bytes value, some index⟩
  pure value

/-- A locked register cannot be extended. -/
def judgeExtendLocked (index : Int) : Except Status Bytes → Except Violation Status :=
  refused .extendLockedRejected (some index)

/-! ## Documents and random octets -/

/-- A document is issued, is not empty, and is not longer than `ceiling`. -/
def judgeDocument (ceiling : Int) (outcome : Except Status Bytes) : Except Violation Bytes := do
  let document ← succeed .attestation none outcome
  require (!document.isEmpty)
    ⟨.attestationNonEmpty, .text "non-empty document", octetCount 0, none⟩
  require (document.length ≤ ceiling)
    ⟨.attestationSize, .text ("at most " ++ toString ceiling ++ " bytes"),
      octetCount document.length, none⟩
  pure document

/-- A sample is not empty, is as long as asked for, and is not the one before it. -/
def requireSample (sample : Bytes) (previous : Option Bytes) (length : Int) :
    Except Violation Unit := do
  require (!sample.isEmpty) ⟨.randomNotEmpty, octetCount length, octetCount 0, none⟩
  require ((sample.length : Int) == length)
    ⟨.randomLength, octetCount length, octetCount sample.length, none⟩
  require (previous != some sample)
    ⟨.randomRepeat, .text "sample different from the previous one", .bytes sample, none⟩

/-- A sample is given, and is one. -/
def judgeRandom (length : Int) (previous : Option Bytes) (outcome : Except Status Bytes) :
    Except Violation Bytes := do
  let sample ← succeed .getRandom none outcome
  requireSample sample previous length
  pure sample

end EnclaveAudit.Check
