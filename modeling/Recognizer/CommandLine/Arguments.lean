/-!
# Command-line arguments

There are two commands, to dump the tokens of a file and to check a file, each with options of
its own. Options are written short or long, their value attached or as the next argument, and
may stand anywhere; after `--` every argument is positional.

An argument that was read is settled, which is when its value is checked, as soon as the next
one that is known is met. So an argument that is not known is reported before anything that may
be wrong with the value in front of it.
-/

namespace Recognizer

/-- Why the arguments do not name a command to run. -/
inductive ArgumentError where
  /-- Help was asked for. -/
  | helpRequested
  /-- The version was asked for. -/
  | versionRequested
  /-- There are no arguments at all. -/
  | nothingGiven
  /-- There is no such command. -/
  | unknownCommand
  /-- There is no such option, or one positional argument too many. -/
  | unknownArgument
  /-- The file is missing. -/
  | missingFile
  /-- An option has no value, or a path is empty. -/
  | missingValue
  /-- A flag has a value. -/
  | unwantedValue
  /-- An option is given twice. -/
  | repeatedOption
  /-- The value of a number option is no number, or too large. -/
  | badNumber
  deriving DecidableEq, Repr

/-- The exit code for arguments that do not name a command to run. -/
def ArgumentError.exitCode : ArgumentError → Nat
  | helpRequested | versionRequested => 0
  | _ => 2

/-- A command to run. -/
inductive Command where
  /-- Dump the tokens of a file and what is wrong with them. -/
  | lex (file : String) (tokens errors : Option String) (tokenLength : Option Nat)
  /-- Check whether a file is a program. -/
  | parse (file : String) (log : Option String) (nesting : Option Nat)
  deriving DecidableEq, Repr

namespace Arguments

/-- What a value on the command line is for. -/
inductive Field where
  /-- The file to read. -/
  | file
  /-- Where the tokens go. -/
  | tokens
  /-- Where the diagnostics of a dump go. -/
  | errors
  /-- The largest length of a word or numeral. -/
  | tokenLength
  /-- Where the log of a check goes. -/
  | log
  /-- The largest number of constructs open at once. -/
  | nesting
  deriving DecidableEq, Repr

/-- Whether a value is a number; otherwise it is a path. -/
def Field.isNumber : Field → Bool
  | tokenLength | nesting => true
  | _ => false

/-- An option of a command. -/
structure OptionName where
  /-- What its value is for. -/
  field : Field
  /-- Its one-letter name, if it has one. -/
  short : Option Char
  /-- Its long name. -/
  long : String

/-- The options of the command that dumps tokens. -/
def lexOptions : List OptionName :=
  [⟨.tokens, some 'o', "tokens"⟩, ⟨.errors, some 'e', "errors"⟩,
    ⟨.tokenLength, none, "max-token-len"⟩]

/-- The options of the command that checks a file. -/
def parseOptions : List OptionName :=
  [⟨.log, some 'o', "log"⟩, ⟨.nesting, none, "max-nesting"⟩]

/-- The largest number that an option takes. -/
def largestNumber : Nat := Nat.pow 2 64 - 1

/-- The number written in decimal digits, after a plus sign or not. -/
def number? (s : String) : Option Nat :=
  let digits := match s.toList with
    | '+' :: ds => ds
    | ds => ds
  if digits.isEmpty || !digits.all Char.isDigit then none
  else
    let n := digits.foldl (fun n d => 10 * n + (d.toNat - '0'.toNat)) 0
    if n ≤ largestNumber then some n else none

/-- What has been read of a command's arguments. -/
structure Progress where
  /-- The values that are settled, the last one first. -/
  settled : List (Field × String) := []
  /-- The last argument, whose value, if there is one already, is not checked yet. -/
  pending : Option (Field × Option String) := none
  /-- Whether all further arguments are positional. -/
  literal : Bool := false
  /-- Whether the file was given. -/
  hasFile : Bool := false

namespace Progress

/-- Check a value and keep it. -/
def keep (p : Progress) (field : Field) (value : String) : Except ArgumentError Progress :=
  if p.settled.any (·.1 == field) then .error .repeatedOption
  else if field.isNumber then
    if (number? value).isSome then .ok { p with settled := (field, value) :: p.settled }
    else .error .badNumber
  else if value.isEmpty then .error .missingValue
  else .ok { p with settled := (field, value) :: p.settled }

/-- Settle the last argument. -/
def settle (p : Progress) : Except ArgumentError Progress :=
  let now := { p with pending := none }
  match p.pending with
  | none => .ok now
  | some (_, none) => .error .missingValue
  | some (field, some value) => now.keep field value

/-- Whether the next argument is taken as the value of an option. -/
def awaitsValue (p : Progress) : Option Field :=
  match p.pending with
  | some (field, none) => some field
  | _ => none

/-- An option, with an attached value or without. -/
def option (p : Progress) (field : Field) (attached : Option String) :
    Except ArgumentError Progress := do
  let p ← p.settle
  match attached with
  | some value => p.keep field value
  | none => .ok { p with pending := some (field, none) }

/-- An argument that is not an option. Only one is known. -/
def positional (p : Progress) (a : String) : Except ArgumentError Progress :=
  if p.hasFile then .error .unknownArgument
  else do
    let p ← p.settle
    .ok { p with pending := some (.file, some a), hasFile := true }

/-- The value kept for a path. -/
def path? (p : Progress) (field : Field) : Option String :=
  p.settled.lookup field

/-- The value kept for a number. -/
def number? (p : Progress) (field : Field) : Option Nat :=
  (p.settled.lookup field).bind Arguments.number?

end Progress

/-- A long argument's name, and its value if one is attached behind an equals sign. -/
def splitLong (name : List Char) : String × Option String :=
  let value := name.dropWhile (· != '=')
  (String.ofList (name.takeWhile (· != '=')),
    if value.isEmpty then none else some (String.ofList value.tail))

/-- Read a long argument, without its two dashes. -/
def long (options : List OptionName) (p : Progress) (name : List Char) :
    Except ArgumentError Progress :=
  let (name, value) := splitLong name
  match options.find? (·.long == name) with
  | some o => p.option o.field value
  | none =>
    if name = "help" then
      match value with
      | some _ => .error .unwantedValue
      | none => do
        let _ ← p.settle
        .error .helpRequested
    else .error .unknownArgument

/-- Read a short argument, without its dash: a letter and what is attached to it. -/
def short (options : List OptionName) (p : Progress) (letter : Char) (attached : List Char) :
    Except ArgumentError Progress :=
  match options.find? (·.short == some letter) with
  | some o =>
    p.option o.field <|
      match attached with
      | [] => none
      | '=' :: value => some (String.ofList value)
      | value => some (String.ofList value)
  | none =>
    if letter = 'h' then do
      let _ ← p.settle
      .error .helpRequested
    else .error .unknownArgument

/-- Read one argument of a command. -/
def read (options : List OptionName) (p : Progress) (a : String) :
    Except ArgumentError Progress :=
  if p.literal then p.positional a
  else
    match a.toList with
    | ['-', '-'] => .ok { p with literal := true }
    | '-' :: '-' :: name => long options p name
    | '-' :: letter :: attached => short options p letter attached
    | _ =>
      match p.awaitsValue with
      | some field => .ok { p with pending := some (field, some a) }
      | none => p.positional a

/-- Read all arguments of a command; the file has to be among them. -/
def readAll (options : List OptionName) (args : List String) :
    Except ArgumentError (String × Progress) := do
  let p ← args.foldlM (read options) {}
  let p ← p.settle
  match p.path? .file with
  | none => .error .missingFile
  | some file => .ok (file, p)

/-- Whether a word is the name of a command, or asks for help. -/
def isCommand (word : String) : Bool :=
  word == "lex" || word == "parse" || word == "help"

/-- What `help` leads to, followed by some words. -/
def help : List String → ArgumentError
  | [] => .helpRequested
  | [word] => if isCommand word then .helpRequested else .unknownCommand
  | _ => .unknownCommand

/-- What an argument in the place of a command leads to. -/
def notACommand (a : String) : ArgumentError :=
  match a.toList with
  | '-' :: '-' :: name =>
    match splitLong name with
    | ("help", none) => .helpRequested
    | ("version", none) => .versionRequested
    | ("help", some _) | ("version", some _) => .unwantedValue
    | _ => .unknownArgument
  | '-' :: 'h' :: _ => .helpRequested
  | '-' :: 'V' :: _ => .versionRequested
  | '-' :: _ :: _ => .unknownArgument
  | _ => .unknownCommand

/-- Read the arguments of the program. -/
def parse : List String → Except ArgumentError Command
  | [] => .error .nothingGiven
  | "lex" :: args => do
    let (file, p) ← readAll lexOptions args
    .ok (.lex file (p.path? .tokens) (p.path? .errors) (p.number? .tokenLength))
  | "parse" :: args => do
    let (file, p) ← readAll parseOptions args
    .ok (.parse file (p.path? .log) (p.number? .nesting))
  | "help" :: args => .error (help args)
  | ["--"] => .error .nothingGiven
  | "--" :: a :: _ => .error (if isCommand a then .unknownArgument else .unknownCommand)
  | a :: _ => .error (notACommand a)

end Arguments

end Recognizer
