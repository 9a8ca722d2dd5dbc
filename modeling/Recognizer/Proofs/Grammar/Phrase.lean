import Mathlib.Computability.Language
import Mathlib.Data.ENat.Basic
import Recognizer.Grammar.Terminal

/-!
# The grammar

The grammar of the language as data: phrases over classes of tokens, one rule for each construct
that has a name, and the words that a phrase derives. Some parts of a phrase are nested
constructs; a derivation keeps to a bound on how many of them are open inside one another.
-/

namespace Recognizer

/-- The constructs that have a rule of their own. -/
inductive Rule where
  | program
  | mainFunction
  | declaration
  | blockDeclaration
  | classDeclaration
  | declarator
  | block
  | statement
  | leftValue
  | index
  | expression
  | operand
  | primary
  deriving DecidableEq, Repr

/-- The right side of a rule. -/
inductive Phrase where
  /-- Nothing. -/
  | empty
  /-- One token of a class. -/
  | terminal (t : Terminal)
  /-- The end of the source. -/
  | ending
  /-- One phrase after the other. -/
  | seq (p q : Phrase)
  /-- One of two phrases. -/
  | either (p q : Phrase)
  /-- A phrase any number of times. -/
  | many (p : Phrase)
  /-- A phrase inside a nested construct. -/
  | nested (p : Phrase)
  /-- A construct with a rule of its own. -/
  | rule (r : Rule)
  deriving DecidableEq, Repr

namespace Phrase

/-- One reserved word. -/
def word (k : Keyword) : Phrase :=
  terminal (.keyword k)

/-- One punctuation mark. -/
def mark (p : Punctuation) : Phrase :=
  terminal (.punctuation p)

/-- Phrases one after the other. -/
def inOrder (p : Phrase) : List Phrase → Phrase
  | [] => p
  | q :: rest => seq p (inOrder q rest)

/-- One of several phrases. -/
def oneOf (p : Phrase) : List Phrase → Phrase
  | [] => p
  | q :: rest => either p (oneOf q rest)

/-- A phrase or nothing. -/
def option (p : Phrase) : Phrase :=
  either p empty

/-- A phrase once or more often, with a token of a class between each two. -/
def separated (t : Terminal) (p : Phrase) : Phrase :=
  seq p (many (seq (terminal t) p))

/-- The levels of binary operators, the loosest first, over operands. -/
def binary : List Operator.Category → Phrase
  | [] => rule .operand
  | level :: tighter => separated (.operatorOf level) (binary tighter)

/-- `"char" | "int" | ("short" | "long") "int"?` -/
def basicType : Phrase :=
  oneOf (word .charWord) [word .intWord,
    seq (either (word .shortWord) (word .longWord)) (option (word .intWord))]

/-- `declarator ("," declarator)*` -/
def declarators : Phrase :=
  separated (.punctuation .comma) (rule .declarator)

/-- `IDENTIFIER index?` -/
def leftValuePart : Phrase :=
  seq (terminal .identifier) (option (rule .index))

/-- `leftValue "=" expression ";"` -/
def assignment : Phrase :=
  inOrder (rule .leftValue)
    [terminal (.operator .assign), rule .expression, mark .semicolon]

/-- `"while" "(" expression ")" statement`, where the statement is a nested construct. -/
def whileLoop : Phrase :=
  inOrder (word .whileWord)
    [mark .openParen, rule .expression, mark .closeParen, nested (rule .statement)]

/-- `"return" expression ";"` -/
def returning : Phrase :=
  inOrder (word .returnWord) [rule .expression, mark .semicolon]

end Phrase

open Phrase in
/-- The rules of the grammar. Nested constructs are the bodies of classes and blocks, the
statement that a loop repeats, and expressions in parentheses and in the brackets of an index. -/
def Rule.body : Rule → Phrase
  | program => seq (many (either (rule declaration) (rule mainFunction))) ending
  | mainFunction =>
    inOrder (word .intWord) [word .mainWord, mark .openParen, mark .closeParen, rule block]
  | declaration =>
    either
      (inOrder (either basicType (terminal .identifier)) [option declarators, mark .semicolon])
      (rule classDeclaration)
  | blockDeclaration =>
    oneOf (inOrder basicType [option declarators, mark .semicolon])
      [inOrder (terminal .identifier) [declarators, mark .semicolon], rule classDeclaration]
  | classDeclaration =>
    inOrder (word .classWord)
      [terminal .identifier, mark .openBrace,
        nested (seq (many (rule declaration)) (mark .closeBrace)), mark .semicolon]
  | declarator =>
    seq (terminal .identifier)
      (option
        (either (seq (terminal (.operator .assign)) (rule expression))
          (inOrder (mark .openBracket) [terminal .number, mark .closeBracket])))
  | block =>
    seq (mark .openBrace)
      (nested (seq (many (either (rule blockDeclaration) (rule statement))) (mark .closeBrace)))
  | statement => oneOf whileLoop [rule block, assignment, returning, mark .semicolon]
  | leftValue => separated (.punctuation .dot) leftValuePart
  | index => inOrder (mark .openBracket) [nested (rule expression), mark .closeBracket]
  | expression => binary Operator.binaryLevels
  | operand =>
    inOrder (option (terminal .beforeOperand)) [rule primary, option (terminal .afterOperand)]
  | primary =>
    oneOf (rule leftValue)
      [inOrder (mark .openParen) [nested (rule expression), mark .closeParen], terminal .number]

/-- `Derives n p w`: the phrase `p` derives the word `w` with at most `n` nested constructs open
inside one another. -/
inductive Derives : ℕ∞ → Phrase → List TokenKind → Prop where
  | empty {n : ℕ∞} : Derives n .empty []
  | terminal {n : ℕ∞} {t : Terminal} {k : TokenKind} (h : t.covers k = true) :
      Derives n (.terminal t) [k]
  | ending {n : ℕ∞} : Derives n .ending [.endOfSource]
  | seq {n : ℕ∞} {p q : Phrase} {u v : List TokenKind} (hp : Derives n p u)
      (hq : Derives n q v) : Derives n (.seq p q) (u ++ v)
  | left {n : ℕ∞} {p : Phrase} (q : Phrase) {w : List TokenKind} (hp : Derives n p w) :
      Derives n (.either p q) w
  | right {n : ℕ∞} (p : Phrase) {q : Phrase} {w : List TokenKind} (hq : Derives n q w) :
      Derives n (.either p q) w
  | none {n : ℕ∞} (p : Phrase) : Derives n (.many p) []
  | more {n : ℕ∞} {p : Phrase} {u v : List TokenKind} (hp : Derives n p u)
      (hm : Derives n (.many p) v) : Derives n (.many p) (u ++ v)
  | nested {n : ℕ∞} {p : Phrase} {w : List TokenKind} (hp : Derives n p w) :
      Derives (n + 1) (.nested p) w
  | rule {n : ℕ∞} {r : Rule} {w : List TokenKind} (hr : Derives n r.body w) :
      Derives n (.rule r) w

/-- A looser bound admits every derivation. -/
theorem Derives.mono {m n : ℕ∞} {p : Phrase} {w : List TokenKind} (h : Derives m p w)
    (hmn : m ≤ n) : Derives n p w := by
  induction h generalizing n with
  | empty => exact .empty
  | terminal ht => exact .terminal ht
  | ending => exact .ending
  | seq _ _ ihp ihq => exact .seq (ihp hmn) (ihq hmn)
  | left q _ ihp => exact .left q (ihp hmn)
  | right p _ ihq => exact .right p (ihq hmn)
  | none p => exact .none p
  | more _ _ ihp ihm => exact .more (ihp hmn) (ihm hmn)
  | @nested m p w _ ihp =>
    obtain ⟨d, rfl⟩ := le_iff_exists_add.1 hmn
    have hd : m ≤ m + d := le_self_add
    have he : m + 1 + d = m + d + 1 := add_right_comm m 1 d
    rw [he]
    exact .nested (ihp hd)
  | rule _ ihr => exact .rule (ihr hmn)

/-- Without a bound a nested construct can always be opened. -/
theorem Derives.nested_top {p : Phrase} {w : List TokenKind} (h : Derives ⊤ p w) :
    Derives ⊤ (.nested p) w := by
  have hn := Derives.nested h
  rwa [top_add] at hn

namespace Phrase

variable {n : ℕ∞} {p q : Phrase} {w : List TokenKind}

/-- The words that a phrase derives under a bound. -/
def language (n : ℕ∞) (p : Phrase) : Language TokenKind :=
  {w | Derives n p w}

/-- The words of a phrase are those that it derives. -/
theorem mem_language : w ∈ p.language n ↔ Derives n p w :=
  Iff.rfl

/-- A higher bound admits the words of a phrase in front of the same words. -/
theorem mem_language_mul_mono {m : ℕ∞} (hmn : m ≤ n) {C : Language TokenKind}
    (h : w ∈ p.language m * C) : w ∈ p.language n * C := by
  obtain ⟨u, hu, v, hv, rfl⟩ := Language.mem_mul.1 h
  exact Language.mem_mul.2 ⟨u, Derives.mono hu hmn, v, hv, rfl⟩

/-- The empty phrase has the empty word only. -/
theorem language_empty : empty.language n = 1 := by
  ext w
  rw [mem_language, Language.mem_one]
  constructor
  · intro h
    cases h
    rfl
  · rintro rfl
    exact .empty

/-- The words of a class of tokens are its tokens. -/
theorem mem_language_terminal {t : Terminal} :
    w ∈ (terminal t).language n ↔ ∃ k, t.covers k = true ∧ w = [k] := by
  rw [mem_language]
  constructor
  · intro h
    cases h with
    | terminal ht => exact ⟨_, ht, rfl⟩
  · rintro ⟨k, hk, rfl⟩
    exact .terminal hk

/-- The end of the source is one word. -/
theorem mem_language_ending : w ∈ ending.language n ↔ w = [.endOfSource] := by
  rw [mem_language]
  constructor
  · intro h
    cases h
    rfl
  · rintro rfl
    exact .ending

/-- The words of a sequence are made of one word of each part. -/
theorem language_seq (p q : Phrase) :
    (seq p q).language n = p.language n * q.language n := by
  ext w
  rw [mem_language, Language.mem_mul]
  constructor
  · intro h
    cases h with
    | seq hp hq => exact ⟨_, hp, _, hq, rfl⟩
  · rintro ⟨u, hu, v, hv, rfl⟩
    exact .seq hu hv

/-- The words of a choice are those of either side. -/
theorem language_either (p q : Phrase) :
    (either p q).language n = p.language n + q.language n := by
  ext w
  rw [mem_language, Language.mem_add]
  constructor
  · intro h
    cases h with
    | left _ hp => exact .inl hp
    | right _ hq => exact .inr hq
  · rintro (hp | hq)
    · exact .left q hp
    · exact .right p hq

/-- A repetition is nothing, or the phrase once and the repetition again. -/
theorem language_many (p : Phrase) :
    (many p).language n = 1 + p.language n * (many p).language n := by
  ext w
  rw [mem_language, Language.mem_add, Language.mem_one, Language.mem_mul]
  constructor
  · intro h
    cases h with
    | none => exact .inl rfl
    | more hp hm => exact .inr ⟨_, hp, _, hm, rfl⟩
  · rintro (rfl | ⟨u, hu, v, hv, rfl⟩)
    · exact .none p
    · exact .more hu hv

/-- A nested construct has the words of what is inside it, under a bound that is lower by one. -/
theorem language_nested_succ (p : Phrase) : (nested p).language (n + 1) = p.language n := by
  ext w
  rw [mem_language, mem_language]
  constructor
  · intro h
    generalize hm : n + 1 = m at h
    cases h with
    | @nested n' _ _ hp =>
      have hn : n = n' := (ENat.add_left_injective_of_ne_top ENat.one_ne_top) hm
      rwa [hn]
  · exact .nested

/-- Without a bound a nested construct is as good as any other. -/
theorem language_nested_top (p : Phrase) : (nested p).language ⊤ = p.language ⊤ := by
  have h := language_nested_succ (n := ⊤) p
  rwa [top_add] at h

/-- Where no construct may be opened there is no nested one. -/
theorem language_nested_zero (p : Phrase) : (nested p).language 0 = 0 := by
  ext w
  constructor
  · intro h
    rw [mem_language] at h
    generalize hm : (0 : ℕ∞) = m at h
    cases h with
    | nested hp => exact absurd hm (add_pos_of_right one_pos _).ne
  · intro h
    exact absurd h (Language.notMem_zero w)

/-- The words of a rule are those of its body. -/
theorem language_rule (r : Rule) : (rule r).language n = r.body.language n := by
  ext w
  rw [mem_language, mem_language]
  constructor
  · intro h
    cases h with
    | rule hr => exact hr
  · exact .rule

end Phrase

end Recognizer
