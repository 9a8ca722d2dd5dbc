import Recognizer.CommandLine.Arguments
import Recognizer.CommandLine.Host
import Recognizer.Files.Loading
import Recognizer.Output.Dump
import Recognizer.Output.Spool

/-!
# Running a command

A command loads its source, opens its destinations in order, and delivers its findings to them.
Nothing is created before the source is loaded. A destination that is not named is a standard
stream.
-/

namespace Recognizer

/-- Why a command failed. -/
inductive CommandError where
  /-- The source could not be loaded. -/
  | load (e : LoadError)
  /-- A destination could not be opened. -/
  | create (path : String) (e : FileError)
  /-- The findings could not be delivered. -/
  | delivery (e : DeliveryError)
  deriving DecidableEq, Repr

namespace CommandError

/-- The message for a failed command. -/
def message : CommandError → String
  | load e => "Error: " ++ e.message
  | create path e => "Error creating '" ++ path ++ "': " ++ e.message
  | delivery e => e.message

/-- The exit code for a failed command. -/
def exitCode (_ : CommandError) : Nat := 1

end CommandError

namespace Command

variable {m : Type → Type} {handle : Type} [Monad m] [Host m handle]

/-- Load a source. -/
def load (path : String) (limits : Limits) : m (Except CommandError Source) := do
  match Source.ofContent path (← Host.readFile path) limits with
  | .error e => return .error (.load e)
  | .ok source => return .ok source

/-- Open a destination, if one is named. -/
def openDestination : Option String → m (Except CommandError (Option handle))
  | none => return .ok none
  | some path => do
    match ← Host.createFile path with
    | .error e => return .error (.create path e)
    | .ok h => return .ok (some h)

/-- Write to a file, or to a standard stream in its absence. -/
def deliver (destination : Option handle) (stream : List UInt8 → m (Option OutputError))
    (bytes : List UInt8) : m (Option OutputError) :=
  match destination with
  | none => stream bytes
  | some h => Host.writeFile h bytes

/-- Deliver the pieces of a dump in order. A failure on the side of the tokens ends it; on the side
of the diagnostics it is kept, and they get nothing more. -/
def deliverAll (tokensTo errorsTo : Option handle) :
    List (Channel × List UInt8) → Option OutputError → m (Option OutputError)
  | [], failure => return failure
  | (.tokens, bytes) :: pieces, failure => do
    match ← deliver tokensTo Host.writeOutput bytes with
    | some e => return some e
    | none => deliverAll tokensTo errorsTo pieces failure
  | (.errors, _) :: pieces, some e => deliverAll tokensTo errorsTo pieces (some e)
  | (.errors, bytes) :: pieces, none => do
    deliverAll tokensTo errorsTo pieces (← deliver errorsTo Host.writeError bytes)

/-- Dump the tokens of a file and what is wrong with them. -/
def runLex (file : String) (tokens errors : Option String) (limits : Limits) :
    m (Except CommandError Nat) := do
  match ← load file limits with
  | .error e => return .error e
  | .ok source =>
    match ← openDestination tokens with
    | .error e => return .error e
    | .ok tokensTo =>
      match ← openDestination errors with
      | .error e => return .error e
      | .ok errorsTo =>
        let (failure, spool) :=
          Dump.write source limits.tokenLength (Spool.writer .tokens) (Spool.writer .errors) {}
        match ← deliverAll tokensTo errorsTo spool.sent.toList none with
        | some e => return .error (.delivery (.output e))
        | none =>
          match failure with
          | some e => return .error (.delivery e)
          | none => return .ok 0

/-- Check whether a file is a program. A syntax error is shown on the standard error stream, after
the log has been delivered. -/
def runParse (file : String) (log : Option String) (limits : Limits) :
    m (Except CommandError Nat) := do
  match ← load file limits with
  | .error e => return .error e
  | .ok source =>
    match ← openDestination log with
    | .error e => return .error e
    | .ok logTo =>
      let (verdict, output) := source.checkInto limits BoundedOutput.writer {}
      match ← deliver logTo Host.writeOutput output.written.toList with
      | some e => return .error (.delivery (.output e))
      | none =>
        match verdict with
        | .error e => return .error (.delivery e)
        | .ok none => return .ok 0
        | .ok (some e) =>
          let shown ← Host.render file source.text e
          let _ ← Host.writeError (Text.utf8 (shown ++ "\n"))
          return .ok 1

/-- Run a command: its exit code, or why it failed. -/
def execute : Command → m (Except CommandError Nat)
  | lex file tokens errors tokenLength =>
    let standard : Limits := {}
    runLex file tokens errors { standard with tokenLength := tokenLength.getD standard.tokenLength }
  | parse file log nesting =>
    let standard : Limits := {}
    runParse file log { standard with nesting := nesting.getD standard.nesting }

/-- Run a command and say on the standard error stream why it failed: the exit code. -/
def run (command : Command) : m Nat := do
  match ← command.execute with
  | .ok code => return code
  | .error e =>
    let _ ← Host.writeError (Text.utf8 (e.message ++ "\n"))
    return e.exitCode

end Command

end Recognizer
