import EnclaveAudit.CommandLine.Program
import Std.Time.DateTime.Timestamp

/-!
# `EnclaveAudit/Main.lean` — running the program

Everything the program decides is decided in `CommandLine/Program.lean`. Here it gets the machine it
runs on, and what it printed is written out.

A device file is really opened, and so is refused for the reasons the system has for it. There is no
control call on this side of it: every exchange fails as it does on a file that is no device.
-/

set_option autoImplicit false

namespace EnclaveAudit

/-- The number of a failure of the operating system. -/
def errorNumber : IO.Error → Int
  | .alreadyExists _ number _ | .otherError number _ | .resourceBusy number _
  | .resourceVanished number _ | .unsupportedOperation number _ | .hardwareFault number _
  | .unsatisfiedConstraints number _ | .illegalOperation number _ | .protocolError number _
  | .timeExpired number _ | .interrupted _ number _ | .noFileOrDirectory _ number _
  | .invalidArgument _ number _ | .permissionDenied _ number _ | .resourceExhausted _ number _
  | .inappropriateType _ number _ | .noSuchThing _ number _ => (number.toNat : Int)
  | .unexpectedEof | .userError _ => Errno.inputOutput

/-- The operating system, once it is known how opening the device file ends. -/
def openedSystem (failure : Option Int) : DeviceFile.System Unit where
  openFile _ _ :=
    (match failure with
      | none => .ok 3
      | some number => .error number, ())
  closeFile _ _ := (.ok (), ())
  control _ _ _ := (.error Errno.notATerminal, ())

/-- The device file that the program is going to open, if it is. -/
def deviceFile? (e : Environment) (arguments : List String) : Option String :=
  let path (given : Option String) : String := given.getD (Settings.ofEnvironment e).devicePath
  match CommandLine.read arguments with
  | .ok ⟨_, _, .describe (.file given)⟩ => some (path given)
  | .ok ⟨_, _, .run (.file given) _⟩ =>
    match e.parameters with
    | .ok _ => some (path given)
    | .error _ => none
  | _ => none

/-- How opening a file for reading and writing fails, if it does. -/
def openFailure? (path : String) : IO (Option Int) := do
  try
    let _ ← IO.FS.Handle.mk path .readWrite
    pure none
  catch failure => pure (some (errorNumber failure))

/-- The variables that are set, of those that are looked at. -/
def readEnvironment : IO Environment :=
  Environment.variableNames.filterMapM fun name => do
    pure ((← IO.getEnv name).map fun value => (name, value))

/-- Octets for each draw, grown from a few random ones. -/
def grow (seed : Bytes) (draw count : Nat) : Bytes :=
  ((List.range (count / 64 + 1)).flatMap fun (block : Nat) =>
    Sha2.hash .sha512 (seed ++ Bytes.ofNat 8 draw ++ Bytes.ofNat 8 block)).take count

/-- A name that no other run has: random octets in the form of a universal identifier. -/
def runName (seed : Bytes) (run : Nat) : String :=
  let octets := (grow seed run 16).mapIdx fun i octet =>
    if i = 6 then octet % 16 + 64 else if i = 8 then octet % 64 + 128 else octet
  let part (first count : Nat) : String := Bytes.hex ((octets.drop first).take count)
  String.intercalate "-" [part 0 4, part 4 2, part 6 2, part 8 2, part 10 6]

/-- Random octets of the system. -/
def randomOctets (count : USize) : IO Bytes := do pure (← IO.getRandomBytes count).toList

end EnclaveAudit

open EnclaveAudit in
/-- Runs the program once. -/
def main (arguments : List String) : IO UInt32 := do
  let environment ← readEnvironment
  let failure ← match deviceFile? environment arguments with
    | some path => openFailure? path
    | none => pure none
  let now := (← Std.Time.Timestamp.now).toNanosecondsSinceUnixEpoch.toInt.fdiv 1000
  let draws ← randomOctets 32
  let runs ← randomOctets 32
  let machine : CommandLine.Machine Unit := {
    environment, surroundings := ⟨now, grow draws, .standard⟩, system := openedSystem failure
    seed := ← randomOctets 32, runName := runName runs }
  let (printed, log, _) := CommandLine.program machine arguments ()
  if let some path := (Settings.ofEnvironment environment).logFile then
    if log.inFile then
      (← IO.FS.Handle.mk path .append).putStr log.text
  match printed with
  | .ok p =>
    IO.eprint p.errors
    IO.print p.output
    pure (UInt32.ofNat p.exit)
  | .error escape =>
    IO.eprint (log.text ++ escape.message ++ "\n")
    pure 1
