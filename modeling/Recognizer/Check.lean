import Recognizer.Grammar.Program
import Recognizer.SyntaxError

/-!
# Checking a source

A check reads a source as a program and reports exactly one verdict, after whatever was found
wrong with the tokens it read. A parser can be checked again: it goes on where the check before
it stopped.
-/

namespace Recognizer

namespace Parser

variable {text : List Char} {cap : Nat}

/-- Read the rest of the text as a program in which `limit` constructs may be open at once. -/
def program (p : Parser text cap) (limit : Nat) : Outcome (Parser text cap) :=
  (Grammar.program (limit - p.depth)).run p

/-- Add a diagnostic to those reported. -/
def report (p : Parser text cap) (d : Diagnostic) : Parser text cap :=
  { p with lexer := { p.lexer with reported := p.lexer.reported.push d } }

end Parser

/-- What a check reports about a source that is a program. -/
def favourable : Diagnostic :=
  .info "parser has no errors"

/-- What a check reports: its verdict. -/
def verdictDiagnostic : Option SyntaxError → Diagnostic
  | none => favourable
  | some e => e.diagnostic

namespace Source

/-- Check from where a parser stands: the syntax error, if there is one, and the parser after
the verdict has been reported. -/
def checkFrom (s : Source) {cap : Nat} (limit : Nat) (p : Parser s.chars cap) :
    Option SyntaxError × Parser s.chars cap :=
  let outcome := p.program limit
  let verdict := outcome.violation?.map (SyntaxError.ofViolation s)
  (verdict, outcome.state.report (verdictDiagnostic verdict))

/-- Check a whole source: the syntax error, if there is one, and everything reported. -/
def check (s : Source) (limits : Limits) : Option SyntaxError × List Diagnostic :=
  let result := s.checkFrom limits.nesting (Parser.start s.chars limits.tokenLength)
  (result.1, result.2.lexer.reported.toList)

end Source

end Recognizer
