import EnclaveAudit.Audit.Scenario
import EnclaveAudit.Check.Bank

/-!
# `EnclaveAudit/Audit/Ledger.lean` — what an audit keeps in mind

An audit remembers what the device has told so far: its description, the last state of every
register, the last random sample. It also counts the checks that passed and lists the states it went
through. All of it starts anew with each run (`Ledger.reset`).

A *judgement* reads and writes the ledger and may end in a violation. What was written before the
violation stays written, so the count of a failed audit is exact.
-/

set_option autoImplicit false

namespace EnclaveAudit

/-- What an audit remembers. -/
structure Ledger where
  /-- the states so far, the present one last -/
  history : List Phase := [.init]
  description : Option Description := none
  /-- the registers as they were last observed, each at the place of its index -/
  bank : List Register := []
  /-- the last random sample -/
  sample : Option Bytes := none
  /-- how many checks passed -/
  checks : Nat := 0
  /-- the scenarios that passed -/
  passed : List Scenario := []

namespace Ledger

/-- The ledger of an audit that has not begun. -/
def empty : Ledger := {}

/-- The ledger at the start of an audit: whatever an earlier one left in it is set anew. -/
def reset (l : Ledger) : Ledger :=
  { l with
    history := [.init], description := none, bank := [], sample := none, checks := 0, passed := [] }

theorem reset_eq (l : Ledger) : l.reset = .empty := rfl

/-- The present state. -/
def phase (l : Ledger) : Phase := l.history.getLast?.getD .init

end Ledger

/-- Something that is found out with the ledger at hand, unless a check fails. -/
abbrev Judgement (α : Type) := EStateM Violation Ledger α

namespace Judgement

/-- A check that passes is counted, one that fails ends the judgement. -/
def counted {α : Type} (outcome : Except Violation α) : Judgement α := fun l =>
  match outcome with
  | .ok a => .ok a { l with checks := l.checks + 1 }
  | .error violation => .error violation l

end Judgement

end EnclaveAudit
