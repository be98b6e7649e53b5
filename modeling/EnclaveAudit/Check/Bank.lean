import EnclaveAudit.Check.Violation
import EnclaveAudit.Device.Contract
import EnclaveAudit.Device.Register

/-!
# `EnclaveAudit/Check/Bank.lean` — checks of what was read

These checks compare what a device has told with its contract. They ask the device nothing: whatever
they need was read before. Each either passes or says which register deviates and how; a check of
several registers names the first one that does.
-/

set_option autoImplicit false

namespace EnclaveAudit.Check

/-- A number of octets, in words. -/
def octetCount (n : Int) : Value := .text (toString n ++ " bytes")

/-- The word for a lock. -/
def lockWord (lock : Bool) : Value := .text (if lock then "locked" else "unlocked")

/-- Passes exactly if `holds`. -/
def require (holds : Bool) (violation : Violation) : Except Violation Unit :=
  if holds then .ok () else .error violation

/-! ## The description -/

/-- The device has as many registers as the contract says. -/
def requireRegisterCount (d : Description) (c : Contract) : Except Violation Unit :=
  require (d.registerCount == c.registerCount)
    ⟨.registerCount, .int c.registerCount, .int d.registerCount, none⟩

/-- The device has a module identifier. -/
def requireModuleId (d : Description) : Except Violation Unit :=
  require (d.moduleId != "") ⟨.moduleId, .text "non-empty module ID", .text d.moduleId, none⟩

/-- The device names a digest, and the one of the contract. -/
def requireDigest (d : Description) (c : Contract) : Except Violation Unit := do
  require ((Digest.all.map Digest.tag).contains d.digest)
    ⟨.digest, .array (Digest.all.map fun digest => .text digest.tag), .text d.digest, none⟩
  require (d.digest == c.digest.tag) ⟨.digest, .text c.digest.tag, .text d.digest, none⟩

/-- All three, in this order. -/
def requireDescription (d : Description) (c : Contract) : Except Violation Unit := do
  requireRegisterCount d c
  requireModuleId d
  requireDigest d c

/-- The description lists the registers that are locked when the machine starts, each once and in
any order. -/
def requireInitialLockedSet (d : Description) (c : Contract) : Except Violation Unit := do
  let expected := c.initialLocked.map Int.ofNat
  let observed := d.lockedRegisters.mergeSort
  require (observed.length == expected.length)
    ⟨.initialLockedSet, .text (toString expected.length ++ " locked PCRs"),
      .text (toString observed.length ++ " locked PCRs"), none⟩
  require (observed == expected)
    ⟨.initialLockedSet, .array (expected.map .int), .array (observed.map .int), none⟩

/-! ## Registers -/

/-- A value has the width of the digest. `check` is the check that asks. -/
def requireWidth (check : Check) (value : Bytes) (c : Contract) (index : Int) :
    Except Violation Unit :=
  require (value.length == c.digestWidth)
    ⟨check, octetCount c.digestWidth, octetCount value.length, some index⟩

/-- A register is empty or not, as it must be when the machine starts. -/
def requireInitialValue (c : Contract) (r : Register) : Except Violation Unit :=
  match Contract.zeroAtBoot? r.index with
  | some true =>
    require (r.value == c.zeroValue)
      ⟨.initialValue, .bytes c.zeroValue, .bytes r.value, some r.index⟩
  | some false =>
    require (r.value != c.zeroValue)
      ⟨.initialValue, .text "non-zero value", .bytes c.zeroValue, some r.index⟩
  | none => .ok ()

/-- Every register is. -/
def requireInitialValues (registers : List Register) (c : Contract) : Except Violation Unit :=
  registers.forM (requireInitialValue c)

/-- A register is locked or not, as it must be when the machine starts. -/
def requireInitialLockFlag (r : Register) : Except Violation Unit :=
  require (r.lock == Contract.lockedAtBoot r.index)
    ⟨.initialLockFlag, lockWord (Contract.lockedAtBoot r.index), lockWord r.lock, some r.index⟩

/-- Every register is. -/
def requireInitialLockFlags (registers : List Register) : Except Violation Unit :=
  registers.forM requireInitialLockFlag

/-- An extension has changed a value. -/
def requireChaining (index : Int) (previous current : Bytes) : Except Violation Unit :=
  require (previous != current)
    ⟨.extendChaining, .text "value different from the previous one", .bytes current, some index⟩

/-! ## After the bank is locked -/

/-- A register is locked, and empty or not as it must be by then. -/
def requirePostLock (r : Register) (c : Contract) : Except Violation Unit := do
  require r.lock ⟨.postLockLocked, lockWord true, lockWord false, some r.index⟩
  if Contract.zeroAfterLock r.index then
    require (r.value == c.zeroValue)
      ⟨.postLockValue, .bytes c.zeroValue, .bytes r.value, some r.index⟩
  else
    require (r.value != c.zeroValue)
      ⟨.postLockValue, .text "non-zero value", .bytes c.zeroValue, some r.index⟩

/-- A register that was locked still is. -/
def requireLockMonotonic (previous : Option Register) (current : Register) :
    Except Violation Unit :=
  match previous with
  | some p =>
    require (!p.lock || current.lock)
      ⟨.lockMonotonic, lockWord true, lockWord false, some current.index⟩
  | none => .ok ()

/-- A register still has the value it had. -/
def requireValueStable (previous : Option Register) (current : Register) : Except Violation Unit :=
  match previous with
  | some p =>
    require (p.value == current.value)
      ⟨.registerValueStable, .bytes p.value, .bytes current.value, some current.index⟩
  | none => .ok ()

end EnclaveAudit.Check
