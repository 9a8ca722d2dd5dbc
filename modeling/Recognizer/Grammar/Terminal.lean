import Recognizer.Token

/-!
# Terminals, expectations and violations

The classes of tokens that the grammar asks for, what it says when it does not get one, and
the violation that ends a check: the offending token together with what was expected of it.
-/

namespace Recognizer

/-- A class of tokens that the grammar tells apart. -/
inductive Terminal where
  /-- One reserved word. -/
  | keyword (k : Keyword)
  /-- One operator. -/
  | operator (o : Operator)
  /-- One punctuation mark. -/
  | punctuation (p : Punctuation)
  /-- Any identifier. -/
  | identifier
  /-- Any numeral. -/
  | number
  /-- A built-in data type or an identifier that names a type. -/
  | typeName
  /-- Any operator of one role. -/
  | operatorOf (c : Operator.Category)
  /-- Any operator that may stand before an operand. -/
  | beforeOperand
  /-- Any operator that may stand after an operand. -/
  | afterOperand
  deriving DecidableEq, Repr

namespace Terminal

/-- Whether a token of this kind belongs to the class. -/
def covers : Terminal → TokenKind → Bool
  | keyword k, kind => kind == .keyword k
  | operator o, kind => kind == .operator o
  | punctuation p, kind => kind == .punctuation p
  | identifier, kind => kind == .identifier
  | number, kind => kind.isNumber
  | typeName, kind => kind.isBasicType || kind == .identifier
  | operatorOf c, kind => (kind.operatorIn? c).isSome
  | beforeOperand, kind => kind.isBeforeOperand
  | afterOperand, kind => kind.isAfterOperand

/-- The end of the source belongs to no class. -/
theorem covers_endOfSource (t : Terminal) : t.covers .endOfSource = false := by
  cases t <;> rfl

/-- No class of tokens has the end of the source in it. -/
theorem ne_endOfSource_of_covers {t : Terminal} {kind : TokenKind} (h : t.covers kind = true) :
    kind ≠ .endOfSource := by
  rintro rfl
  rw [covers_endOfSource] at h
  cases h

end Terminal

/-- What the grammar expected where it met another token. -/
inductive Expectation where
  /-- A punctuation mark. -/
  | symbol (p : Punctuation)
  /-- The assignment sign. -/
  | assignment
  /-- An identifier. -/
  | identifier
  /-- A numeral. -/
  | constant
  /-- A reserved word. -/
  | keyword (k : Keyword)
  /-- The word `int` in front of the word `main`. -/
  | intBeforeMain
  /-- A data type or the word that opens a class. -/
  | typeOrClass
  /-- No further construct inside those that are open. -/
  | shallowerNesting
  deriving DecidableEq, Repr

/-- The words for an expectation. -/
def Expectation.message : Expectation → String
  | symbol p => "'" ++ p.spelling ++ "' expected"
  | assignment => "'=' expected"
  | identifier => "identifier expected"
  | constant => "octal, decimal or hex constant expected"
  | keyword k => "'" ++ k.spelling ++ "' keyword expected"
  | intBeforeMain => "'int' keyword expected before 'main'"
  | typeOrClass => "data type or 'class' keyword expected"
  | shallowerNesting => "nesting is too deep"

/-- Why a source is not a program. -/
structure Violation where
  /-- The offending token. -/
  found : Token
  /-- What was expected in its place. -/
  expected : Expectation
  deriving DecidableEq, Repr

end Recognizer
