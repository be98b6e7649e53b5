import EnclaveAudit.Clock
import EnclaveAudit.Cryptography.Primitives
import EnclaveAudit.Device.Contract

/-!
# `EnclaveAudit/Simulator/Settings.lean` — a device that is not there

The simulated device follows the contract, and can be told to break it in one of nine ways. So an
audit can be tried without the hardware, and so can every violation that it is there to find.

What the device cannot decide for itself comes from its surroundings: the time, the random octets,
and the cryptography.
-/

set_option autoImplicit false

namespace EnclaveAudit

/-- A way in which the firmware breaks the contract. -/
inductive Fault where
  /-- locking a locked register succeeds -/
  | silentRelock
  /-- it is refused the first time only -/
  | relockOnce
  /-- one register more than there are can be locked -/
  | looseLockRange
  /-- a locked register can be extended -/
  | extendLocked
  /-- extension forgets the value it extends -/
  | idempotentExtend
  /-- the random octets are always the same -/
  | stuckRandom
  /-- documents are empty -/
  | emptyDocument
  /-- every second read of a register that was locked later shows it unlocked -/
  | lockFlap
  /-- the measurement of the parent instance is missing -/
  | zeroParent
  deriving DecidableEq, Repr, Inhabited

namespace Fault

/-- All of them. -/
def all : List Fault :=
  [.silentRelock, .relockOnce, .looseLockRange, .extendLocked, .idempotentExtend, .stuckRandom,
    .emptyDocument, .lockFlap, .zeroParent]

/-- The name by which a user asks for it. -/
def name : Fault → String
  | .silentRelock => "silent-relock"
  | .relockOnce => "relock-once"
  | .looseLockRange => "loose-lock-range"
  | .extendLocked => "extend-locked"
  | .idempotentExtend => "idempotent-extend"
  | .stuckRandom => "stuck-random"
  | .emptyDocument => "empty-document"
  | .lockFlap => "lock-flap"
  | .zeroParent => "zero-parent-pcr"

/-- The fault of a name. -/
def ofName? (s : String) : Option Fault := all.find? fun fault => fault.name == s

end Fault

/-- What is said of a setting that is none of the choices there are. -/
inductive NoChoice where
  | digest (given : Value)
  | fault (given : Value)
  deriving Repr

namespace NoChoice

/-- The setting and what it is not. -/
def message : NoChoice → String
  | .digest given => given.literal ++ " is not a valid Digest"
  | .fault given => given.literal ++ " is not a valid Fault"

end NoChoice

/-- The digest that a user chooses. -/
def Digest.choose (given : Value) : Except NoChoice Digest :=
  match given with
  | .text s => match Digest.ofTag? s with
    | some d => .ok d
    | none => .error (.digest given)
  | _ => .error (.digest given)

/-- The fault that a user chooses. -/
def Fault.choose (given : Value) : Except NoChoice Fault :=
  match given with
  | .text s => match Fault.ofName? s with
    | some f => .ok f
    | none => .error (.fault given)
  | _ => .error (.fault given)

/-- What a simulated device takes from outside. The instant is that of every request answered with it,
so all documents that are signed in one audit have the same time. -/
structure Surroundings where
  now : Instant
  /-- the octets of each draw of random octets, by its number and their count -/
  entropy : (draw count : Nat) → Bytes
  primitives : Primitives

namespace Simulator

/-- The module identifier of a device that was given none. -/
def defaultModuleId : String := "i-0123456789abcdef0-enc0123456789abcdef"

/-- The signing seed of a device that was given none. -/
def defaultSeed : Bytes := (List.range 32).map UInt8.ofNat

/-- How a simulated device is made. -/
structure Settings where
  digest : Digest := .sha384
  /-- how many registers it says it has; below zero it has none -/
  registerCount : Int := EnclaveAudit.registerCount
  moduleId : String := defaultModuleId
  version : Int × Int × Int := (1, 0, 0)
  faults : List Fault := []
  /-- the digest it reports, if that is not the one it has; an empty one does not count -/
  reportedDigest : Option String := none
  seed : Bytes := defaultSeed

namespace Settings

/-- Whether the device breaks the contract in this way. -/
def has (s : Settings) (f : Fault) : Bool := s.faults.contains f

/-- The digest in the description. -/
def reported (s : Settings) : String :=
  match s.reportedDigest with
  | some "" | none => s.digest.tag
  | some tag => tag

end Settings

end Simulator

end EnclaveAudit
