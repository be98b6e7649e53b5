import EnclaveAudit.Check.Outcome
import EnclaveAudit.Device.Session

/-!
# `EnclaveAudit/Check/Examination.lean` — checks that ask the device

An examination is an operation together with a judgement on its outcome. It sends at most the one
request of its operation, and a refusal of the device never leaves it as such: it is what the
judgement is about.
-/

set_option autoImplicit false

namespace EnclaveAudit

/-- An operation and a judgement on its outcome. -/
structure Examination (α : Type) where
  operation : Operation
  judge : Except Status operation.Result → Except Violation α

namespace Examination

/-- Performs the operation and judges it. -/
def perform {σ α : Type} (t : Transport σ) (x : Examination α) (s : Session σ) :
    Except Interruption (Except Violation α) × Session σ :=
  match s.perform t x.operation with
  | (.ok outcome, s) => (.ok (x.judge outcome), s)
  | (.error interruption, s) => (.error interruption, s)

/-- The device describes itself. -/
def describe : Examination Description := ⟨.describe, Check.judgeDescribe⟩

/-- A register can be read. -/
def readRegister (index : Int) (c : Contract) : Examination Register :=
  ⟨.describeRegister (.int index), Check.judgeRead index c⟩

/-- A locked register cannot be locked again. -/
def relock (index : Int) : Examination Status :=
  ⟨.lockRegister (.int index), Check.judgeRelock index⟩

/-- A free register can be locked. -/
def lock (index : Int) : Examination Unit :=
  ⟨.lockRegister (.int index), Check.judgeLock index⟩

/-- The whole bank can be locked. -/
def lockRange (c : Contract) : Examination Unit :=
  ⟨.lockRegisters (.int c.registerCount), Check.judgeLockRange⟩

/-- One register more than there are cannot be locked. -/
def lockBeyond (c : Contract) : Examination Status :=
  ⟨.lockRegisters (.int (c.registerCount + 1)), Check.judgeLockBeyond⟩

/-- A free register can be extended. -/
def extend (index : Int) (data : Bytes) (c : Contract) : Examination Bytes :=
  ⟨.extendRegister (.int index) data, Check.judgeExtend index c⟩

/-- A locked register cannot be extended. -/
def extendLocked (index : Int) (data : Bytes) : Examination Status :=
  ⟨.extendRegister (.int index) data, Check.judgeExtendLocked index⟩

/-- A document is issued. -/
def document (ceiling : Int) (userData nonce publicKey : Value) : Examination Bytes :=
  ⟨.attest userData nonce publicKey, Check.judgeDocument ceiling⟩

/-- A random sample is given. -/
def random (length : Int) (previous : Option Bytes) : Examination Bytes :=
  ⟨.random length, Check.judgeRandom length previous⟩

end Examination

end EnclaveAudit
