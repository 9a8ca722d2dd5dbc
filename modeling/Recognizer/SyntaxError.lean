import Recognizer.Diagnostic
import Recognizer.Grammar.Terminal
import Recognizer.Text.Source

/-!
# Syntax errors

The one structural error of a source, as it is shown: the text of the offending token, where
it stands in lines and columns and in bytes, and what was expected instead.
-/

namespace Recognizer

/-- Where a source stops being a program, and what was expected there. -/
structure SyntaxError where
  /-- The text of the offending token; empty for the end of the source. -/
  image : String
  /-- The line where the token begins. -/
  line : Nat
  /-- The column where the token begins. -/
  column : Nat
  /-- What was expected, in words. -/
  expected : String
  /-- The bytes of the token. -/
  span : Span
  deriving DecidableEq, Repr

namespace SyntaxError

/-- A syntax error at a token. -/
def atToken (t : Token) (expected : String) (span : Span) : SyntaxError :=
  ⟨t.text, t.line, t.column, expected, span⟩

/-- A violation as a syntax error of the source it was found in. -/
def ofViolation (s : Source) (v : Violation) : SyntaxError :=
  atToken v.found v.expected.message
    (s.span v.found.line v.found.column v.found.text.length)

/-- The message for a syntax error. -/
def message (e : SyntaxError) : String :=
  "wrong token '" ++ e.image ++ "' at " ++ toString e.line ++ ":" ++ toString e.column ++ "; " ++
    e.expected

/-- The diagnostic for a syntax error; the place is part of the message. -/
def diagnostic (e : SyntaxError) : Diagnostic :=
  .unlocatedError ("syntax error: " ++ e.message)

end SyntaxError

end Recognizer
