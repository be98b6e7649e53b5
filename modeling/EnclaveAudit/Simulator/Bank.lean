import EnclaveAudit.Device.Register
import EnclaveAudit.Simulator.Settings

/-!
# `EnclaveAudit/Simulator/Bank.lean` — the registers of a simulated device

Beside the register itself, a cell of the bank counts two things that only faults look at: how often
the register was read while it was locked, and how often someone tried to lock it again. They are
kept per register, so whatever happens to one register leaves the others as they were.
-/

set_option autoImplicit false

namespace EnclaveAudit.Simulator

/-- A register of a simulated device. -/
structure Cell where
  register : Register
  lockedReads : Nat := 0
  relocks : Nat := 0
  deriving DecidableEq, Repr, Inhabited

/-- The registers, in the order of their indices. -/
abbrev Bank := List Cell

/-- The registers that hold a measurement from the start. -/
def measured (s : Settings) : List Nat :=
  if s.has .zeroParent then platformRegisters else platformRegisters ++ [parentInstanceRegister]

/-- What is measured into a register. -/
def measurement (index : Nat) : Bytes := Bytes.ofString ("boot-measurement-" ++ toString index)

/-- The value of a register when the machine starts. -/
def bootValue (c : Primitives) (s : Settings) (index : Nat) : Bytes :=
  let zero := Bytes.zeros s.digest.width
  if (measured s).contains index then c.extend s.digest zero (measurement index) else zero

/-- A register when the machine starts. -/
def bootRegister (c : Primitives) (s : Settings) (index : Nat) : Register :=
  ⟨index, index < bootLockedCount, bootValue c s index⟩

/-- The registers when the machine starts. -/
def boot (c : Primitives) (s : Settings) : Bank :=
  (List.range s.registerCount.toNat).map fun index => { register := bootRegister c s index }

namespace Cell

/-- The cell with its lock set. -/
def lock (c : Cell) : Cell := { c with register := c.register.locked }

/-- The cell with another value in it. -/
def write (value : Bytes) (c : Cell) : Cell := { c with register := c.register.withValue value }

/-- The lock that a read shows, and the cell after the read. -/
def read (s : Settings) (c : Cell) : Bool × Cell :=
  if s.has .lockFlap && c.register.lock && (bootLockedCount : Int) ≤ c.register.index then
    ((c.lockedReads + 1) % 2 == 1, { c with lockedReads := c.lockedReads + 1 })
  else (c.register.lock, c)

/-- Whether locking the cell again, for the so-manieth time, passes without a word. -/
def relockIsSilent (s : Settings) (attempt : Nat) : Bool :=
  s.has .silentRelock || (s.has .relockOnce && 1 < attempt)

end Cell

/-- The bank with its first `count` registers locked. -/
def lockFirst (count : Nat) (bank : Bank) : Bank :=
  (bank.take count).map Cell.lock ++ bank.drop count

/-- The locked registers, in order. -/
def lockedRegisters (bank : Bank) : List Register :=
  (bank.map Cell.register).filter Register.lock

end EnclaveAudit.Simulator
