import Recognizer.Text.Alphabetic
import Recognizer.Text.Numeric

/-!
# Characters of words

A word begins with a letter or an underscore and goes on with letters, numbers and
underscores. Letters are the Alphabetic characters of Unicode, and numbers those of its
three number categories; on ASCII these are the Latin letters and the ten digits.
-/

namespace Recognizer.Text

/-- Whether a character has the Unicode property Alphabetic. -/
def isAlphabetic (c : Char) : Bool :=
  if c.val.toNat < 0x80 then c.isAlpha else isAlphabeticBeyondAscii c

/-- Whether a character belongs to one of the Unicode number categories. -/
def isNumeric (c : Char) : Bool :=
  if c.val.toNat < 0x80 then c.isDigit else isNumericBeyondAscii c

/-- Whether a word may begin with the character. -/
def startsWord (c : Char) : Bool :=
  isAlphabetic c || c == '_'

/-- Whether a word may go on with the character. -/
def continuesWord (c : Char) : Bool :=
  isAlphabetic c || isNumeric c || c == '_'

/-- A character that begins a word also continues one. -/
theorem continuesWord_of_startsWord {c : Char} (h : startsWord c = true) :
    continuesWord c = true := by
  simp only [startsWord, Bool.or_eq_true] at h
  rcases h with h | h <;> simp [continuesWord, h]

end Recognizer.Text
