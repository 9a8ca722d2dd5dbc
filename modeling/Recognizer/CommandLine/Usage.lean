import Recognizer.CommandLine.Arguments

/-!
# Usage

What the program says when its arguments do not name a command to run.
-/

namespace Recognizer

/-- The name and version of the program. -/
def versionText : String := "minicpp 0.1.0\n"

/-- How the program is used. -/
def usageText : String :=
  "Usage: minicpp lex FILE [-o|--tokens PATH] [-e|--errors PATH] [--max-token-len N]\n" ++
  "       minicpp parse FILE [-o|--log PATH] [--max-nesting N]\n" ++
  "       minicpp help [COMMAND]\n" ++
  "       minicpp --version\n"

/-- What the program is for, and how it is used. -/
def helpText : String :=
  "Tokenizer and syntax checker for mini-C++\n\n" ++ usageText

namespace ArgumentError

/-- What is wrong with the arguments, in a few words. -/
def reason : ArgumentError → String
  | helpRequested => "help was asked for"
  | versionRequested => "the version was asked for"
  | nothingGiven => "a command is missing"
  | unknownCommand => "there is no such command"
  | unknownArgument => "an argument is not known"
  | missingFile => "the file is missing"
  | missingValue => "a value is missing"
  | unwantedValue => "a flag takes no value"
  | repeatedOption => "an option is given twice"
  | badNumber => "a value is not a number"

/-- What the program says. -/
def message : ArgumentError → String
  | helpRequested | nothingGiven => helpText
  | versionRequested => versionText
  | e => "error: " ++ e.reason ++ "\n\n" ++ usageText

end ArgumentError

end Recognizer
