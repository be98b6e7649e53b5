import EnclaveAudit.Device.Transport

/-!
# `EnclaveAudit/Rehearsal/Scripted.lean` — a device that answers from a list

A scripted device gives the answers it was given, one after the other, whatever it is asked and
whether it is open or not, and null when it has none left. With it any behaviour of a device can be
put in front of an audit.
-/

set_option autoImplicit false

namespace EnclaveAudit.Rehearsal

/-- A device that answers from a list. -/
structure Scripted where
  responses : List Value
  openCount : Nat := 0
  closeCount : Nat := 0

namespace Scripted

/-- The channel to it. If a path and a reason are given, it cannot be opened. -/
def transport (name : String) (unavailable : Option (String × String)) : Transport Scripted where
  name := name
  acquire d :=
    match unavailable with
    | some (path, reason) => ⟨.error (.unavailable path reason), [], d⟩
    | none => ⟨.ok (), [], { d with openCount := d.openCount + 1 }⟩
  release d := ([], { d with closeCount := d.closeCount + 1 })
  exchange _ d :=
    match d.responses with
    | [] => ⟨.ok .null, [], d⟩
    | answer :: responses => ⟨.ok answer, [], { d with responses }⟩

end Scripted

end EnclaveAudit.Rehearsal
