import Recognizer.Files.FileSystem
import Recognizer.Text.Source
import Recognizer.Text.Utf8

/-!
# Loading a source

A source is loaded from the content of a file: the content has to be text, and the text has to
be accepted as a source.
-/

namespace Recognizer

/-- Why no source could be loaded. -/
inductive LoadError where
  /-- The file could not be read as text. -/
  | unreadable (path : String) (e : FileError)
  /-- The text was refused. -/
  | refused (path : String) (e : SourceError)
  deriving DecidableEq, Repr

/-- The message for a failed load. -/
def LoadError.message : LoadError → String
  | unreadable path e => "cannot read '" ++ path ++ "': " ++ e.message
  | refused path e => "'" ++ path ++ "': " ++ e.message

/-- Make a source of what was read from a path. -/
def Source.ofContent (path : String) (content : Except FileError (List UInt8)) (limits : Limits) :
    Except LoadError Source :=
  match content with
  | .error e => .error (.unreadable path e)
  | .ok bytes =>
    match Text.ofUtf8? bytes with
    | none => .error (.unreadable path .notText)
    | some raw =>
      match Source.prepare raw limits with
      | .error e => .error (.refused path e)
      | .ok source => .ok source

/-- Load a source from a file. -/
def FileSystem.load (fs : FileSystem) (path : String) (limits : Limits) (naming : Naming := {}) :
    Except LoadError Source :=
  Source.ofContent path (fs.read naming path) limits

end Recognizer
