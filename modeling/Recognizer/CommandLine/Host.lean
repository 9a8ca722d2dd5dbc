import Recognizer.Files.FileSystem
import Recognizer.Output.Writer
import Recognizer.SyntaxError

/-!
# Hosts

What a command needs from the system it runs on: files to read and to create, the two standard
streams, and some way to show a syntax error to a reader, with the source around it. A machine is a
host within the logic, made of a file system, of the files that are open and of what has been
written to the streams. Each open file has a position of its own, even if two of them are one file.
-/

namespace Recognizer

/-- Where a command reads and writes. -/
class Host (m : Type → Type) (handle : outParam Type) where
  /-- Read a whole file. -/
  readFile : String → m (Except FileError (List UInt8))
  /-- Open a file for writing; it is empty then. -/
  createFile : String → m (Except FileError handle)
  /-- Write to an open file, behind what was written to it before, and pass the data on. -/
  writeFile : handle → List UInt8 → m (Option OutputError)
  /-- Write to the standard output and pass the data on. -/
  writeOutput : List UInt8 → m (Option OutputError)
  /-- Write to the standard error stream. -/
  writeError : List UInt8 → m (Option OutputError)
  /-- What a reader is shown of a syntax error, given the name and the text of the source. How that
  looks is up to the system, and may depend on the terminal. -/
  render : String → String → SyntaxError → m String

/-- A file that is open for writing. -/
structure OpenFile where
  /-- Which file it is. -/
  place : Place
  /-- Number of bytes written to it so far, which is where the next ones go. -/
  position : Nat
  deriving DecidableEq, Repr

/-- A file system, the open files and what has been written to the standard streams. -/
structure Machine where
  /-- The files. -/
  files : FileSystem
  /-- The open files, in the order in which they were opened. -/
  opened : List OpenFile := []
  /-- What was written to the standard output. -/
  output : List UInt8 := []
  /-- What was written to the standard error stream. -/
  error : List UInt8 := []
  /-- How names lead to places. -/
  naming : Naming := {}
  /-- What a reader is shown of a syntax error, given the name and the text of the source; just its
  message, unless the machine knows better. -/
  rendering : String → String → SyntaxError → String := fun _ _ e => e.message

namespace Machine

/-- Read a whole file. -/
def readFile (path : String) : StateM Machine (Except FileError (List UInt8)) :=
  fun host => (host.files.read host.naming path, host)

/-- Open a file for writing; it is known by its number among the open files. -/
def createFile (path : String) : StateM Machine (Except FileError Nat) :=
  fun host =>
    match host.files.create host.naming path with
    | (.error e, files) => (.error e, { host with files })
    | (.ok place, files) =>
      (.ok host.opened.length, { host with files, opened := host.opened ++ [⟨place, 0⟩] })

/-- Write to an open file at its position, which moves on. -/
def writeFile (number : Nat) (bytes : List UInt8) : StateM Machine (Option OutputError) :=
  fun host =>
    match host.opened[number]? with
    | none => (some .closed, host)
    | some file =>
      let moved := { file with position := file.position + bytes.length }
      (none,
        { host with
          files := host.files.overwrite file.place file.position bytes
          opened := host.opened.set number moved })

/-- Write to the standard output. -/
def writeOutput (bytes : List UInt8) : StateM Machine (Option OutputError) :=
  fun host => (none, { host with output := host.output ++ bytes })

/-- Write to the standard error stream. -/
def writeError (bytes : List UInt8) : StateM Machine (Option OutputError) :=
  fun host => (none, { host with error := host.error ++ bytes })

/-- What a reader is shown of a syntax error. -/
def render (file text : String) (e : SyntaxError) : StateM Machine String :=
  fun host => (host.rendering file text e, host)

instance : Host (StateM Machine) Nat where
  readFile := readFile
  createFile := createFile
  writeFile := writeFile
  writeOutput := writeOutput
  writeError := writeError
  render := render

end Machine

end Recognizer
