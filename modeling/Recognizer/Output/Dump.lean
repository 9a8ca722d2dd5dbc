import Recognizer.Check
import Recognizer.Output.DiagnosticLog

/-!
# Dumps and verdicts

Writing out what was found in a source: the tokens, one on a line, with the diagnostics in a
log beside them; or the log of a check. A failure of a destination takes precedence over what
was found.
-/

namespace Recognizer

/-- Why the findings could not be delivered. -/
inductive DeliveryError where
  /-- A destination failed. -/
  | output (e : OutputError)
  /-- So many tokens are not where the source has their text. -/
  | misplaced (count : Nat)
  deriving DecidableEq, Repr

/-- The message for a failed delivery. -/
def DeliveryError.message : DeliveryError → String
  | output e => "Error writing output: " ++ e.message
  | misplaced count =>
    "Error: " ++ toString count ++ " token(s) do not match the source text at their position"

namespace Source

/-- Whether the text of a token is what the source has at the token's line and column. -/
def holds (s : Source) (t : Token) : Bool :=
  match s.lineText t.line with
  | none => false
  | some line => String.ofList ((line.toList.drop (t.column - 1)).take t.text.length) == t.text

end Source

namespace Dump

variable {ω : Type}

/-- Write the token of each step as a line, after the diagnostics for it. The first failure on
the side of the tokens ends it. -/
def lines (tokens errors : Writer ω) (log : DiagnosticLog ω) :
    List Reading → Option OutputError × DiagnosticLog ω
  | [] => (none, log)
  | r :: rs =>
    let log := log.reportAll errors r.diagnostics
    match tokens.writeLine log.state r.token.pieces with
    | (some e, state) => (some e, { log with state })
    | (none, state) => lines tokens errors { log with state } rs

/-- The tokens of a source, the end apart, that are not where the source has their text. -/
def misplaced (s : Source) (cap : Nat) : List Token :=
  (s.tokens cap).filter fun t => t.kind != .endOfSource && !s.holds t

/-- The diagnostic for a token that is not where the source has its text. -/
def misplacedDiagnostic (t : Token) : Diagnostic :=
  .unlocatedError ("wrong token position " ++ t.render)

/-- Write all tokens of a source, and what is wrong with them to a log beside them. -/
def write (s : Source) (cap : Nat) (tokens errors : Writer ω) (state : ω) :
    Option DeliveryError × ω :=
  match lines tokens errors (.start state) (s.readings cap) with
  | (some e, log) => (some (.output e), log.state)
  | (none, log) =>
    let stray := misplaced s cap
    let log := log.reportAll errors (stray.map misplacedDiagnostic)
    match tokens.flush log.state with
    | (some e, state) => (some (.output e), state)
    | (none, state) =>
      match { log with state }.finish errors with
      | (some e, state) => (some (.output e), state)
      | (none, state) =>
        (if stray.isEmpty then none else some (.misplaced stray.length), state)

end Dump

namespace Source

variable {ω : Type}

/-- Check a source and write everything reported to a log. The verdict is the syntax error, if
there is one; a failure of the log takes its place. -/
def checkInto (s : Source) (limits : Limits) (out : Writer ω) (state : ω) :
    Except DeliveryError (Option SyntaxError) × ω :=
  let result := s.check limits
  match ((DiagnosticLog.start state).reportAll out result.2).finish out with
  | (some e, state) => (.error (.output e), state)
  | (none, state) => (.ok result.1, state)

end Source

end Recognizer
