import EnclaveAudit.Bytes

/-!
# `EnclaveAudit/Device/Register.lean` — one register at one point in time

A register has a place in its bank, a value of the width of the bank's digest, and a lock. The value
changes only by extension and the lock is only ever set, so the two operations here are all there
is to it.
-/

set_option autoImplicit false

namespace EnclaveAudit

/-- A register as it was observed. -/
structure Register where
  index : Int
  lock : Bool
  value : Bytes
  deriving DecidableEq, Repr, Inhabited

namespace Register

/-- Whether nothing was measured into it. -/
def isZero (r : Register) : Bool := r.value.isZero

/-- The register with another value. -/
def withValue (r : Register) (value : Bytes) : Register := { r with value }

/-- The register with its lock set. -/
def locked (r : Register) : Register := { r with lock := true }

@[simp] theorem index_withValue (r : Register) (v : Bytes) : (r.withValue v).index = r.index := rfl
@[simp] theorem lock_withValue (r : Register) (v : Bytes) : (r.withValue v).lock = r.lock := rfl
@[simp] theorem value_withValue (r : Register) (v : Bytes) : (r.withValue v).value = v := rfl
@[simp] theorem index_locked (r : Register) : r.locked.index = r.index := rfl
@[simp] theorem lock_locked (r : Register) : r.locked.lock = true := rfl
@[simp] theorem value_locked (r : Register) : r.locked.value = r.value := rfl

end Register

end EnclaveAudit
