import Recognizer.Diagnostic
import Recognizer.Output.Writer

/-!
# Diagnostic logs

A log writes each diagnostic that it is given as one line. Giving it a diagnostic cannot fail:
the first failure of the destination is kept until the log is finished, and nothing is written
after it, so that no line is glued to a torn one. Errors are counted in any case.
-/

namespace Recognizer

/-- A log of diagnostics that is written to a destination with the states `ω`. -/
structure DiagnosticLog (ω : Type) where
  /-- The state of the destination. -/
  state : ω
  /-- The first failure of the destination. -/
  failure : Option OutputError := none
  /-- Number of errors among the diagnostics given. -/
  errorCount : Nat := 0

namespace DiagnosticLog

variable {ω : Type}

/-- A log that begins with nothing written. -/
def start (state : ω) : DiagnosticLog ω :=
  { state }

/-- Write a diagnostic as one line, unless an earlier line could not be written. -/
def report (out : Writer ω) (log : DiagnosticLog ω) (d : Diagnostic) : DiagnosticLog ω :=
  let errorCount := if d.isError then log.errorCount + 1 else log.errorCount
  match log.failure with
  | some _ => { log with errorCount }
  | none =>
    let result := out.writeLine log.state d.pieces
    { state := result.2, failure := result.1, errorCount }

/-- Write several diagnostics in order. -/
def reportAll (out : Writer ω) (log : DiagnosticLog ω) (ds : List Diagnostic) : DiagnosticLog ω :=
  ds.foldl (report out) log

/-- Finish a log: the first failure of a line, or else that of passing the data on. -/
def finish (out : Writer ω) (log : DiagnosticLog ω) : Option OutputError × ω :=
  match log.failure with
  | some e => (some e, log.state)
  | none => out.flush log.state

end DiagnosticLog

end Recognizer
