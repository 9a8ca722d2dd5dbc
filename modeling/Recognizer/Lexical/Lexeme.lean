import Recognizer.Lexical.Fault
import Recognizer.Lexical.Munch
import Recognizer.Text.WordCharacter
import Recognizer.Token

/-!
# Lexemes

One token read from the front of a text that does not begin with trivia. Words and
numerals are munched up to one character beyond the allowed length, so that a longer one
is noticed and cut there; operators of two characters are preferred to those of one.
Whatever is read, its text, what is thrown away with it and the rest are together the text
that was read.
-/

namespace Recognizer

/-- A token's kind and text, what is wrong with it, and what is left of the text. -/
structure Lexeme where
  /-- The kind of the token. -/
  kind : TokenKind
  /-- The text of the token. -/
  text : List Char
  /-- What is wrong with it, in the order of discovery. -/
  faults : List LexicalFault
  /-- Text after the token that is thrown away with it. -/
  discarded : List Char
  /-- What is left to read. -/
  rest : List Char
  deriving DecidableEq, Repr

namespace Lexeme

/-- Whether a character is a hexadecimal digit. -/
def isHexDigit (c : Char) : Bool :=
  c.isDigit || ('a' ≤ c && c ≤ 'f') || ('A' ≤ c && c ≤ 'F')

/-- Whether a character is an octal digit. -/
def isOctalDigit (c : Char) : Bool :=
  '0' ≤ c && c ≤ '7'

/-- Read a word: a reserved word, an identifier, or the front of a word that is too long. -/
def word (cap : Nat) (cs : List Char) : Lexeme :=
  let parts := munch Text.continuesWord (cap + 1) cs
  if cap < parts.1.length then ⟨.error, parts.1, [.tooLong], [], parts.2⟩
  else
    match Keyword.ofSpelling? (String.ofList parts.1) with
    | some k => ⟨.keyword k, parts.1, [], [], parts.2⟩
    | none => ⟨.identifier, parts.1, [], [], parts.2⟩

/-- A numeral with what its digits show to be wrong; its length is checked last. -/
def numeral (cap : Nat) (radix : Radix) (text : List Char) (digitFaults : List LexicalFault)
    (rest : List Char) : Lexeme :=
  let faults := digitFaults ++ if cap < text.length then [.tooLong] else []
  ⟨if faults.isEmpty then .number radix else .error, text, faults, [], rest⟩

/-- Read a hexadecimal numeral whose prefix is a zero and the letter `x`. -/
def hexadecimal (cap : Nat) (x : Char) (cs : List Char) : Lexeme :=
  if cs.head?.any isHexDigit then
    let parts := munch isHexDigit (cap - 1) cs
    numeral cap .hexadecimal ('0' :: x :: parts.1) [] parts.2
  else numeral cap .hexadecimal ['0', x] [.badHexDigit cs.head?] cs

/-- Read an octal numeral after its leading zero. A digit eight or nine behind it is left. -/
def octal (cap : Nat) (cs : List Char) : Lexeme :=
  let parts := munch isOctalDigit cap cs
  let digitFaults := (parts.2.head?.filter fun c => c == '8' || c == '9').toList.map .badOctalDigit
  numeral cap .octal ('0' :: parts.1) digitFaults parts.2

/-- Read a decimal numeral. -/
def decimal (cap : Nat) (cs : List Char) : Lexeme :=
  let parts := munch Char.isDigit (cap + 1) cs
  numeral cap .decimal parts.1 [] parts.2

/-- Read a numeral; how it begins decides its base. -/
def number (cap : Nat) : List Char → Lexeme
  | '0' :: x :: cs => if x = 'x' ∨ x = 'X' then hexadecimal cap x cs else octal cap (x :: cs)
  | '0' :: cs => octal cap cs
  | cs => decimal cap cs

/-- The operator written with these two characters, if there is one. -/
def pair? (c d : Char) : Option Operator :=
  Operator.ofSpelling? (String.ofList [c, d])

/-- Read an operator or punctuation mark of one character, or a character that is neither. -/
def single (c : Char) (cs : List Char) : Lexeme :=
  if c = '!' then ⟨.error, [c], [.loneExclamation], [], cs⟩
  else
    match Operator.ofSpelling? (String.singleton c), Punctuation.ofChar? c with
    | some o, _ => ⟨.operator o, [c], [], [], cs⟩
    | none, some p => ⟨.punctuation p, [c], [], [], cs⟩
    | none, none => ⟨.error, [c], [.unknownCharacter c], [], cs⟩

/-- Read a token that is neither a word nor a numeral. -/
def symbol (c : Char) : List Char → Lexeme
  | [] => single c []
  | d :: cs =>
    match pair? c d with
    | some o => ⟨.operator o, [c, d], [], [], cs⟩
    | none => single c (d :: cs)

/-- Read one token from the front of a text without leading trivia. There, an opening mark of
a comment means that the comment is never closed: the rest of the text is thrown away. -/
def read (cap : Nat) : List Char → Lexeme
  | [] => ⟨.endOfSource, [], [], [], []⟩
  | '/' :: '*' :: cs => ⟨.error, ['/', '*'], [.unclosedComment], cs, []⟩
  | c :: cs =>
    if Text.startsWord c then word cap (c :: cs)
    else if c.isDigit then number cap (c :: cs)
    else symbol c cs

/-- The characters that a lexeme takes from the front of the text. -/
def consumed (l : Lexeme) : List Char :=
  l.text ++ l.discarded

/-- Reading `l` from `cs` loses nothing. -/
def Covers (l : Lexeme) (cs : List Char) : Prop :=
  l.consumed ++ l.rest = cs

/-- A word and what is behind it are the text that it was read from. -/
theorem word_covers (cap : Nat) (cs : List Char) : (word cap cs).Covers cs := by
  have h := munch_append Text.continuesWord (cap + 1) cs
  unfold word
  dsimp only
  split
  · simpa [Covers, consumed] using h
  · split <;> simpa [Covers, consumed] using h

/-- A hexadecimal numeral loses nothing, nor does its prefix alone. -/
theorem hexadecimal_covers (cap : Nat) (x : Char) (cs : List Char) :
    (hexadecimal cap x cs).Covers ('0' :: x :: cs) := by
  have h := munch_append isHexDigit (cap - 1) cs
  unfold hexadecimal
  split
  · simpa [Covers, consumed, numeral] using h
  · simp [Covers, consumed, numeral]

/-- An octal numeral loses nothing, nor does one with a digit that it cannot have. -/
theorem octal_covers (cap : Nat) (cs : List Char) : (octal cap cs).Covers ('0' :: cs) := by
  have h := munch_append isOctalDigit cap cs
  simpa [octal, Covers, consumed, numeral] using h

/-- A decimal numeral loses nothing. -/
theorem decimal_covers (cap : Nat) (cs : List Char) : (decimal cap cs).Covers cs := by
  have h := munch_append Char.isDigit (cap + 1) cs
  simpa [decimal, Covers, consumed, numeral] using h

/-- No numeral of any base loses anything. -/
theorem number_covers (cap : Nat) (cs : List Char) : (number cap cs).Covers cs := by
  unfold number
  split
  · split
    · exact hexadecimal_covers ..
    · exact octal_covers ..
  · exact octal_covers ..
  · exact decimal_covers ..

/-- A symbol of one character, known or not, loses nothing. -/
theorem single_covers (c : Char) (cs : List Char) : (single c cs).Covers (c :: cs) := by
  unfold single
  split
  · simp [Covers, consumed]
  · split <;> simp [Covers, consumed]

/-- No symbol loses anything. -/
theorem symbol_covers (c : Char) (cs : List Char) : (symbol c cs).Covers (c :: cs) := by
  unfold symbol
  split
  · exact single_covers ..
  · split
    · simp [Covers, consumed]
    · exact single_covers ..

/-- The text of a lexeme, what is thrown away with it and the rest are the text read. -/
theorem read_covers (cap : Nat) (cs : List Char) : (read cap cs).Covers cs := by
  unfold read
  split
  · rfl
  · simp [Covers, consumed]
  · split
    · exact word_covers ..
    · split
      · exact number_covers ..
      · exact symbol_covers ..

/-- The kinds other than the end have at least one character of text. -/
def Solid (l : Lexeme) : Prop :=
  l.kind ≠ .endOfSource ∧ l.text ≠ []

/-- Some characters are split off if the first one satisfies the condition and the bound allows
one. -/
theorem munch_ne_nil {p : Char → Bool} {c : Char} (bound : Nat) (cs : List Char) (h : p c = true) :
    (munch p (bound + 1) (c :: cs)).1 ≠ [] := by
  simp [munch, h]

/-- A word has text if its first character can begin one. -/
theorem word_solid (cap : Nat) {c : Char} (cs : List Char) (h : Text.startsWord c = true) :
    (word cap (c :: cs)).Solid := by
  have hm := munch_ne_nil cap cs (Text.continuesWord_of_startsWord h)
  unfold word
  dsimp only
  split
  · exact ⟨nofun, hm⟩
  · split <;> exact ⟨nofun, hm⟩

/-- A numeral is as solid as its text. -/
theorem numeral_solid (cap : Nat) (radix : Radix) {text : List Char}
    (digitFaults : List LexicalFault) (rest : List Char) (h : text ≠ []) :
    (numeral cap radix text digitFaults rest).Solid := by
  refine ⟨?_, h⟩
  intro hk
  simp only [numeral] at hk
  generalize List.isEmpty _ = sound at hk
  cases sound <;> cases hk

/-- A numeral has text if it begins with a digit. -/
theorem number_solid (cap : Nat) {c : Char} (cs : List Char) (h : c.isDigit = true) :
    (number cap (c :: cs)).Solid := by
  unfold number
  split
  · split
    · unfold hexadecimal
      split <;> exact numeral_solid _ _ _ _ (List.cons_ne_nil _ _)
    · exact numeral_solid _ _ _ _ (List.cons_ne_nil _ _)
  · exact numeral_solid _ _ _ _ (List.cons_ne_nil _ _)
  · exact numeral_solid _ _ _ _ (munch_ne_nil cap cs h)

/-- A symbol of one character has that character as its text. -/
theorem single_solid (c : Char) (cs : List Char) : (single c cs).Solid := by
  unfold single
  split
  · exact ⟨nofun, List.cons_ne_nil _ _⟩
  · split <;> exact ⟨nofun, List.cons_ne_nil _ _⟩

/-- Every symbol has text. -/
theorem symbol_solid (c : Char) (cs : List Char) : (symbol c cs).Solid := by
  unfold symbol
  split
  · exact single_solid ..
  · split
    · exact ⟨nofun, List.cons_ne_nil _ _⟩
    · exact single_solid ..

/-- Only from the empty text is the end read, and every other token has a text. -/
theorem read_solid (cap : Nat) {cs : List Char} (h : cs ≠ []) : (read cap cs).Solid := by
  unfold read
  split
  · exact absurd rfl h
  · exact ⟨nofun, List.cons_ne_nil _ _⟩
  · split
    · next hc => exact word_solid cap _ hc
    · split
      · next hc => exact number_solid cap _ hc
      · exact symbol_solid ..

end Lexeme

end Recognizer
