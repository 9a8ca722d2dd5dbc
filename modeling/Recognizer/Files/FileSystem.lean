/-!
# A file system

A tree of directories and files below one root. A path begins at the root if a slash stands in
front, and in the working directory otherwise. It is walked name by name, as POSIX lays down: every
name but the last has to lead to a directory, `.` and the empty name stand still, and `..` goes up,
but not above the root. A name may also be a link, and then leads to where the link does. Opening a
file for writing empties it; what is then written replaces what the file holds from some byte on.
-/

namespace Recognizer

/-- Why a file could not be used. -/
inductive FileError where
  /-- There is no file or directory of that name. -/
  | notFound
  /-- A name on the way is not a directory. -/
  | notADirectory
  /-- The path leads to a directory. -/
  | isADirectory
  /-- The content is no text. -/
  | notText
  /-- Any other reason, in the words of the system. -/
  | other (reason : String)
  deriving DecidableEq, Repr

/-- The words for a failure. -/
def FileError.message : FileError → String
  | notFound => "No such file or directory (os error 2)"
  | notADirectory => "Not a directory (os error 20)"
  | isADirectory => "Is a directory (os error 21)"
  | notText => "stream did not contain valid UTF-8"
  | other reason => reason

/-- The names from the root down to a file or directory. -/
abbrev Place := List String

/-- What a path leads to. -/
inductive Node where
  /-- A directory. -/
  | directory
  /-- A file with its content. -/
  | file (content : List UInt8)
  deriving DecidableEq, Repr

/-- The files and directories below the root. -/
structure FileSystem where
  /-- What is at each place; of two entries for one place the first counts. -/
  entries : List (Place × Node)
  deriving Repr

/-- How names lead to places. No command changes directory, and none makes or removes a link. -/
structure Naming where
  /-- The working directory. -/
  here : Place := []
  /-- Where an entry of a directory leads, or why it leads nowhere. An entry leads to itself unless
  it is a link, symbolic or hard: that leads to the place where the file or directory is kept. -/
  follow : Place → Except FileError Place := .ok

/-- Where a path begins. -/
def Naming.start (naming : Naming) (path : String) : Place :=
  match path.toList with
  | '/' :: _ => []
  | _ => naming.here

/-- The names in a path, set apart by slashes. -/
def splitAtSlashes : List Char → List (List Char)
  | [] => [[]]
  | c :: cs =>
    if c = '/' then [] :: splitAtSlashes cs
    else
      match splitAtSlashes cs with
      | [] => [[c]]
      | name :: names => (c :: name) :: names

/-- The names in a path. A slash in front or at the end makes an empty name there. -/
def namesOf (path : String) : List String :=
  (splitAtSlashes path.toList).map String.ofList

/-- Whether the last name of a path stands for a directory whatever is there. -/
def namesDirectory (last : String) : Bool :=
  last == "" || last == "." || last == ".."

namespace FileSystem

/-- What is at a place. The root exists, and so do the directories on the way to an entry. -/
def lookup (fs : FileSystem) (place : Place) : Option Node :=
  match fs.entries.lookup place with
  | some node => some node
  | none =>
    if place.isEmpty || fs.entries.any (fun e => place.isPrefixOf e.1) then some .directory
    else none

/-- Put something at a place. -/
def insert (fs : FileSystem) (place : Place) (node : Node) : FileSystem :=
  ⟨(place, node) :: fs.entries.filter fun e => e.1 != place⟩

/-- The content of a file; nothing, where there is none. -/
def contentAt (fs : FileSystem) (place : Place) : List UInt8 :=
  match fs.lookup place with
  | some (.file content) => content
  | _ => []

/-- A place at which there has to be a directory. -/
def directoryAt (fs : FileSystem) (place : Place) : Except FileError Place :=
  match fs.lookup place with
  | none => .error .notFound
  | some (.file _) => .error .notADirectory
  | some .directory => .ok place

/-- Walk from a directory along names that all have to lead to directories. The root is the
directory above itself. -/
def walk (fs : FileSystem) (naming : Naming) (here : Place) :
    List String → Except FileError Place
  | [] => .ok here
  | name :: names =>
    if name = "" ∨ name = "." then fs.walk naming here names
    else if name = ".." then fs.walk naming here.dropLast names
    else
      match (naming.follow (here ++ [name])).bind fs.directoryAt with
      | .error e => .error e
      | .ok there => fs.walk naming there names

/-- Read a whole file. -/
def read (fs : FileSystem) (naming : Naming) (path : String) : Except FileError (List UInt8) :=
  let names := namesOf path
  let last := names.getLastD ""
  if path = "" then .error .notFound
  else if namesDirectory last then
    match fs.walk naming (naming.start path) names with
    | .error e => .error e
    | .ok _ => .error .isADirectory
  else
    match fs.walk naming (naming.start path) names.dropLast with
    | .error e => .error e
    | .ok here =>
      match naming.follow (here ++ [last]) with
      | .error e => .error e
      | .ok place =>
        match fs.lookup place with
        | none => .error .notFound
        | some .directory => .error .isADirectory
        | some (.file content) => .ok content

/-- A place at which a file has to be, or one that can be put there: no directory is at it, and
there is one to hold it. -/
def fileAt (fs : FileSystem) (place : Place) : Except FileError Place :=
  if fs.lookup place = some .directory then .error .isADirectory
  else (fs.directoryAt place.dropLast).map fun _ => place

/-- The place where opening a path for writing puts a file. A path that ends in a slash or leads
to a directory has no such place, whether the directory exists or not. -/
def target (fs : FileSystem) (naming : Naming) (path : String) : Except FileError Place :=
  let all := namesOf path
  let names := (all.reverse.dropWhile (· == "")).reverse
  let last := names.getLastD ""
  if path = "" then .error .notFound
  else
    match fs.walk naming (naming.start path)
        (if namesDirectory last then names else names.dropLast) with
    | .error e => .error e
    | .ok here =>
      if namesDirectory last || decide (names.length < all.length) then .error .isADirectory
      else (naming.follow (here ++ [last])).bind fs.fileAt

/-- Open a file for writing: it is created if it does not exist, and emptied if it does. -/
def create (fs : FileSystem) (naming : Naming) (path : String) :
    Except FileError Place × FileSystem :=
  match fs.target naming path with
  | .error e => (.error e, fs)
  | .ok place => (.ok place, fs.insert place (.file []))

/-- Put bytes into a content from the given offset on. What lies before and behind them stays, and
a gap in front of them is filled with zeros. -/
def patch (content : List UInt8) (offset : Nat) (bytes : List UInt8) : List UInt8 :=
  content.take offset ++ List.replicate (offset - content.length) 0 ++ bytes ++
    content.drop (offset + bytes.length)

/-- Bytes put behind a content are appended to it. -/
theorem patch_length (content bytes : List UInt8) :
    patch content content.length bytes = content ++ bytes := by
  simp [patch]

/-- Write into a file from an offset on. -/
def overwrite (fs : FileSystem) (place : Place) (offset : Nat) (bytes : List UInt8) :
    FileSystem :=
  fs.insert place (.file (patch (fs.contentAt place) offset bytes))

end FileSystem

end Recognizer
