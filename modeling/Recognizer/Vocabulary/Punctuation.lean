/-!
# Punctuation

The separators, brackets and the member dot. Every punctuation mark is a single
character, so it can be looked up by spelling or by character.
-/

namespace Recognizer

/-- The punctuation marks, in registry order. -/
inductive Punctuation where
  | semicolon
  | comma
  | dot
  | openBrace
  | closeBrace
  | openBracket
  | closeBracket
  | openParen
  | closeParen
  deriving DecidableEq, Repr, Inhabited

namespace Punctuation

/-- What a punctuation mark is used for. -/
inductive Category where
  /-- The mark separates items. -/
  | separator
  /-- The mark selects a member. -/
  | access
  /-- The mark opens or closes a group. -/
  | delimiter
  deriving DecidableEq, Repr, Inhabited

/-- Every punctuation mark, in registry order. -/
def all : List Punctuation :=
  [semicolon, comma, dot, openBrace, closeBrace, openBracket, closeBracket, openParen, closeParen]

/-- The character of a punctuation mark. -/
def char : Punctuation → Char
  | semicolon => ';'
  | comma => ','
  | dot => '.'
  | openBrace => '{'
  | closeBrace => '}'
  | openBracket => '['
  | closeBracket => ']'
  | openParen => '('
  | closeParen => ')'

/-- The one spelling of a punctuation mark. -/
def spelling (p : Punctuation) : String :=
  String.singleton p.char

/-- The role of a punctuation mark. -/
def category : Punctuation → Category
  | semicolon | comma => .separator
  | dot => .access
  | openBrace | closeBrace | openBracket | closeBracket | openParen | closeParen => .delimiter

/-- The punctuation mark written with this character, if there is one. -/
def ofChar? (c : Char) : Option Punctuation :=
  all.find? (·.char == c)

/-- The punctuation mark with this spelling, if there is one. -/
def ofSpelling? (s : String) : Option Punctuation :=
  all.find? (·.spelling == s)

/-- The registry holds every punctuation mark. -/
theorem mem_all (p : Punctuation) : p ∈ all := by
  cases p <;> decide

/-- Looking the character of a mark up gives back the mark. -/
theorem ofChar?_char (p : Punctuation) : ofChar? p.char = some p := by
  cases p <;> decide

/-- A lookup by character succeeds exactly on the character of the mark. -/
theorem ofChar?_eq_some_iff {c : Char} {p : Punctuation} : ofChar? c = some p ↔ c = p.char := by
  constructor
  · intro h
    have hp := List.find?_some h
    exact (eq_of_beq hp).symm
  · rintro rfl
    exact ofChar?_char p

end Punctuation

end Recognizer
