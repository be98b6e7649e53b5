/-!
# `EnclaveAudit/Text/Mail.lean` — the headers of a mail

A mail is a text that starts with headers, a line for each, and what stands in it is the business of
whoever reads it. Here only the names of the headers matter. They end at the first line that can be
none, and a text that starts with such a line is a mail without headers.

A header is a name, a colon and a value; a line that starts with a blank continues the one before.
Two kinds of lines stand among headers and are none: the mark of an envelope, and a line whose name
is missing.
-/

set_option autoImplicit false

namespace EnclaveAudit.Mail

/-- The lines of a text, without the breaks that end them. A break is a line feed, a carriage return,
or both in this order. `soFar` is what is read of the line, backwards. -/
def lines (soFar : List Char) : List Char → List (List Char)
  | [] => if soFar.isEmpty then [] else [soFar.reverse]
  | '\r' :: '\n' :: cs => soFar.reverse :: lines [] cs
  | c :: cs =>
    if c = '\r' ∨ c = '\n' then soFar.reverse :: lines [] cs else lines (c :: soFar) cs

/-- Whether a character may stand in the name of a header: it is visible, and no colon. -/
def inName (c : Char) : Bool := '!' ≤ c && c ≤ '~' && c != ':'

/-- Whether a line marks an envelope. -/
def marksEnvelope (line : List Char) : Bool := "From ".toList.isPrefixOf line

/-- Whether a line continues the one before. -/
def continues (line : List Char) : Bool :=
  match line with
  | c :: _ => c == ' ' || c == '\t'
  | [] => false

/-- The name before the colon of a line, which may be missing. -/
def name? (line : List Char) : Option (List Char) :=
  match line.dropWhile inName with
  | ':' :: _ => some (line.takeWhile inName)
  | _ => none

/-- Whether a line stands among headers. -/
def amongHeaders (line : List Char) : Bool :=
  marksEnvelope line || continues line || (name? line).isSome

/-- The name of the header that a line is, if it is one. -/
def header? (line : List Char) : Option String :=
  if marksEnvelope line then none
  else (name? line).bind fun name => if name.isEmpty then none else some (String.ofList name)

/-- The names of the headers of a mail, in their order. -/
def headers (text : String) : List String :=
  ((lines [] text.toList).takeWhile amongHeaders).filterMap header?

/-- Headers end at a line that can be none. -/
example : headers "From a\nTo: b\r\n c: d\n: e\rX-F:\n\nG: h" = ["To", "X-F"] := by decide +kernel

end EnclaveAudit.Mail
