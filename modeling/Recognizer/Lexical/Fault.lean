import Recognizer.Diagnostic
import Recognizer.Text.Escape

/-!
# Lexical faults

What can be wrong with a piece of text that should be a token, and the message for it.
-/

namespace Recognizer

/-- Why a piece of text is not a token. -/
inductive LexicalFault where
  /-- A comment is opened and never closed. -/
  | unclosedComment
  /-- A word or numeral is longer than allowed. -/
  | tooLong
  /-- The character after `0x` is no hexadecimal digit; `none` stands for the end. -/
  | badHexDigit (found : Option Char)
  /-- An octal numeral is followed by the digit eight or nine. -/
  | badOctalDigit (found : Char)
  /-- An exclamation mark stands alone. -/
  | loneExclamation
  /-- No token begins with the character. -/
  | unknownCharacter (found : Char)
  deriving DecidableEq, Repr

namespace LexicalFault

/-- The message for a fault. The end of the source is shown as the end mark. -/
def message : LexicalFault → String
  | unclosedComment => "unclosed multiline comment"
  | tooLong => "too long token"
  | badHexDigit found => "invalid digit '" ++ Text.escape (found.getD '\x00') ++ "' in hex constant"
  | badOctalDigit found => "invalid digit '" ++ String.singleton found ++ "' in octal constant"
  | loneExclamation => "invalid token '!'"
  | unknownCharacter found => "token not found for char '" ++ Text.escape found ++ "'"

/-- The diagnostic for a fault in the token that begins at a line and column. -/
def diagnostic (fault : LexicalFault) (line column : Nat) : Diagnostic :=
  .error fault.message line column

end LexicalFault

end Recognizer
