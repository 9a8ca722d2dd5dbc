/-!
# Diagnostics

A diagnostic is one message about a source: an error or a piece of information, with or
without a place. It is shown on one line, with its severity in front and its place behind.
-/

namespace Recognizer

/-- How a diagnostic is meant. -/
inductive Severity where
  /-- Something worth knowing, such as a favourable verdict. -/
  | info
  /-- Something wrong with the source. -/
  | error
  deriving DecidableEq, Repr, Inhabited

/-- The word for a severity in front of a message. -/
def Severity.label : Severity → String
  | info => "log"
  | error => "error"

/-- A line and a column, both from one. -/
structure Location where
  /-- Number of the line. -/
  line : Nat
  /-- Number of the character in its line. -/
  column : Nat
  deriving DecidableEq, Repr, Inhabited

/-- One message about a source. -/
structure Diagnostic where
  /-- How the message is meant. -/
  severity : Severity
  /-- The message. -/
  message : String
  /-- The place the message is about, if it is about one. -/
  location : Option Location
  deriving DecidableEq, Repr, Inhabited

namespace Diagnostic

/-- An error at a place. -/
def error (message : String) (line column : Nat) : Diagnostic :=
  ⟨.error, message, some ⟨line, column⟩⟩

/-- An error without a place. -/
def unlocatedError (message : String) : Diagnostic :=
  ⟨.error, message, none⟩

/-- A piece of information. -/
def info (message : String) : Diagnostic :=
  ⟨.info, message, none⟩

/-- Whether the diagnostic is an error. -/
def isError (d : Diagnostic) : Bool :=
  d.severity == .error

/-- The pieces of a diagnostic's line, in the order in which they are written. -/
def pieces (d : Diagnostic) : List String :=
  ["[", d.severity.label, "] ", d.message] ++
    match d.location with
    | none => []
    | some l => [" (line: ", toString l.line, ", column: ", toString l.column, ")"]

/-- A diagnostic as one line of a log. -/
def render (d : Diagnostic) : String :=
  String.join d.pieces

end Diagnostic

end Recognizer
