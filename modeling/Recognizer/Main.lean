import Recognizer.CommandLine.Run
import Recognizer.CommandLine.Usage

/-!
# The program

Reads the command line, runs the command on the real system and ends with its exit code.
-/

namespace Recognizer

/-- A failure of the system, in the terms of a file system. -/
def fileError (e : IO.Error) : FileError :=
  match e with
  | .noFileOrDirectory .. => .notFound
  | .inappropriateType _ 20 _ => .notADirectory
  | .inappropriateType _ 21 _ => .isADirectory
  | e => .other (toString e)

/-- Run an action on a file. -/
def onFile {α : Type} (action : IO α) : IO (Except FileError α) := do
  try
    return .ok (← action)
  catch e => return .error (fileError e)

/-- Run an action whose failure is a failure of a destination. -/
def delivering (action : IO Unit) : IO (Option OutputError) := do
  try
    action
    return none
  catch e => return some (.other (toString e))

/-- The real system. A syntax error is shown as its message, without the source around it. -/
instance : Host IO IO.FS.Handle where
  readFile path := onFile do
    return (← IO.FS.readBinFile path).data.toList
  createFile path := onFile (IO.FS.Handle.mk path .write)
  writeFile h bytes := delivering do
    h.write ⟨bytes.toArray⟩
    h.flush
  writeOutput bytes := delivering do
    let stream ← IO.getStdout
    stream.write ⟨bytes.toArray⟩
    stream.flush
  writeError bytes := delivering do
    let stream ← IO.getStderr
    stream.write ⟨bytes.toArray⟩
    stream.flush
  render _ _ e := return e.message

end Recognizer

/-- Run the program on its arguments. -/
def main (args : List String) : IO UInt32 := do
  match Recognizer.Arguments.parse args with
  | .ok command => return (← command.run).toUInt32
  | .error e =>
    if e.exitCode = 0 then IO.print e.message else IO.eprint e.message
    return e.exitCode.toUInt32
