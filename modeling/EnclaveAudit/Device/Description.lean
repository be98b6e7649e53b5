import EnclaveAudit.Wire.Literal

/-!
# `EnclaveAudit/Device/Description.lean` — what a device says about itself

A description is taken down as it is reported. In particular the digest stays the tag that the
device used: whether it names a digest is a question about the whole description, asked when the
bank is modelled on it (`Device/Contract.lean`), and not a reason to call the answer malformed.
-/

set_option autoImplicit false

namespace EnclaveAudit

/-- The configuration that a device reports. -/
structure Description where
  versionMajor : Int
  versionMinor : Int
  versionPatch : Int
  moduleId : String
  registerCount : Int
  digest : String
  lockedRegisters : List Int := []
  deriving DecidableEq, Repr, Inhabited

namespace Description

/-- The three parts of the version. -/
def version (d : Description) : List Int := [d.versionMajor, d.versionMinor, d.versionPatch]

/-- The version with points between its parts. -/
def versionText (d : Description) : String := String.intercalate "." (d.version.map toString)

/-- Whether all numbers of the description are short enough to be written. -/
def isWritable (d : Description) : Bool :=
  (d.version ++ d.registerCount :: d.lockedRegisters).all Value.isShort

/-- The description as part of a report. -/
def document (d : Description) : Value :=
  .record [
    ("version", .text d.versionText),
    ("module_id", .text d.moduleId),
    ("max_pcrs", .int d.registerCount),
    ("locked_pcrs", .array (d.lockedRegisters.map .int)),
    ("digest", .text d.digest)]

end Description

end EnclaveAudit
