import Recognizer.Text.Extending
import Recognizer.Text.Invisible

/-!
# Showing a single character

A character named in a message is written so that it can be read on one line: the
usual two-character escapes for NUL, tab, line feed, carriage return, quotes and the
backslash, its hexadecimal code point for whatever has no form of its own, and the
character itself otherwise.
-/

namespace Recognizer.Text

/-- Whether a character leaves no mark of its own on a page; the space does. -/
def isInvisible (c : Char) : Bool :=
  decide (c.val.toNat < 0x20) || isInvisibleFromDelete c

/-- A character as its hexadecimal code point, in lower case and without padding. -/
def codePointEscape (c : Char) : String :=
  "\\u\x7b" ++ String.ofList (Nat.toDigits 16 c.val.toNat) ++ "\x7d"

/-- A character as it appears in a message. -/
def escape (c : Char) : String :=
  if c = '\x00' then "\\0"
  else if c = '\t' then "\\t"
  else if c = '\n' then "\\n"
  else if c = '\r' then "\\r"
  else if c = '\'' then "\\'"
  else if c = '"' then "\\\""
  else if c = '\\' then "\\\\"
  else if isExtending c || isInvisible c then codePointEscape c
  else String.singleton c

end Recognizer.Text
