import EnclaveAudit.Text.Quoted
import EnclaveAudit.Text.Uppercase

/-!
# `EnclaveAudit/Journal/Level.lean` — how much a log line matters

Levels are numbers, so that a threshold can be compared with them, and five of them have names. A
user names a level in any mixture of letters; two levels have a second name. A name of no level is
refused with the capitals it was looked up by. Two words name something else that the log knows, its
layouts, and are refused for that.
-/

set_option autoImplicit false

namespace EnclaveAudit

/-- How much a log line matters. -/
structure Level where
  rank : Int
  deriving DecidableEq, Repr, Inhabited

namespace Level

/-- The level below every named one. -/
def notSet : Level := ⟨0⟩
/-- What only a developer reads. -/
def debug : Level := ⟨10⟩
/-- What happens when all is well. -/
def info : Level := ⟨20⟩
/-- What may matter. -/
def warning : Level := ⟨30⟩
/-- What went wrong. -/
def error : Level := ⟨40⟩
/-- What went so wrong that nothing else will go right. -/
def critical : Level := ⟨50⟩

/-- The name of a level; one without a name is called by its number. -/
def name (l : Level) : String :=
  if l = notSet then "NOTSET"
  else if l = debug then "DEBUG"
  else if l = info then "INFO"
  else if l = warning then "WARNING"
  else if l = error then "ERROR"
  else if l = critical then "CRITICAL"
  else "Level " ++ toString l.rank

/-- The names that a user may give. -/
def names : List (String × Level) := [
  ("NOTSET", notSet), ("DEBUG", debug), ("INFO", info), ("WARNING", warning), ("WARN", warning),
  ("ERROR", error), ("CRITICAL", critical), ("FATAL", critical)]

/-- The word that stands for the default layout of lines, and the layout. -/
def layoutName : String := "BASIC_FORMAT"
/-- The layout behind that word. -/
def layout : String := "%(levelname)s:%(name)s:%(message)s"

/-- The word that stands for the list of all layouts. -/
def layoutsName : String := "_STYLES"
/-- The list behind that word, as it is shown. -/
def layouts : String :=
  "\x7b'%': (<class 'logging.PercentStyle'>, '%(levelname)s:%(name)s:%(message)s'), " ++
  "'\x7b': (<class 'logging.StrFormatStyle'>, '\x7blevelname\x7d:\x7bname\x7d:\x7bmessage\x7d'), " ++
  "'$': (<class 'logging.StringTemplateStyle'>, " ++
  "'$\x7blevelname\x7d:$\x7bname\x7d:$\x7bmessage\x7d')\x7d"

/-- Why a name is not taken for a level: it names nothing at all, or a layout, or all layouts. -/
inductive Unknown where
  | name (given : String)
  | layout
  | layouts
  deriving DecidableEq, Repr

/-- What is said about such a name. -/
def Unknown.message : Unknown → String
  | .name given => "module 'logging' has no attribute '" ++ given ++ "'"
  | .layout => "Unknown level: " ++ Text.quoted Level.layout
  | .layouts => "Level not an integer or a valid string: " ++ Level.layouts

/-- The level that a user names. -/
def ofName (s : String) : Except Unknown Level :=
  let given := Text.uppercase s
  match names.lookup given with
  | some level => .ok level
  | none =>
    if given = layoutName then .error .layout
    else if given = layoutsName then .error .layouts
    else .error (.name given)

/-- Whether a line of this level is written where `threshold` is set. -/
def reaches (l threshold : Level) : Bool := threshold.rank ≤ l.rank

end Level

end EnclaveAudit
