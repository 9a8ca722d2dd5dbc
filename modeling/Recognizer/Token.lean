import Recognizer.Vocabulary.Keyword
import Recognizer.Vocabulary.Operator
import Recognizer.Vocabulary.Punctuation

/-!
# Tokens

What a source is read as: reserved words, operators and punctuation marks by identity,
identifiers and numerals by their text, the end of the source, and an error token for
every malformed piece. Each token keeps the exact text it was read from and the line and
column where that text begins.
-/

namespace Recognizer

/-- The base of a numeral, decided by how it begins. -/
inductive Radix where
  /-- The numeral begins with `0`. -/
  | octal
  /-- The numeral begins with another digit. -/
  | decimal
  /-- The numeral begins with `0x` or `0X`. -/
  | hexadecimal
  deriving DecidableEq, Repr, Inhabited

/-- The kind of a token. -/
inductive TokenKind where
  /-- A reserved word. -/
  | keyword (k : Keyword)
  /-- An operator. -/
  | operator (o : Operator)
  /-- A punctuation mark. -/
  | punctuation (p : Punctuation)
  /-- A word that is not reserved. -/
  | identifier
  /-- A numeral. -/
  | number (r : Radix)
  /-- The end of the source; its text is empty. -/
  | endOfSource
  /-- A malformed piece of text. -/
  | error
  deriving DecidableEq, Repr, Inhabited

namespace TokenKind

/-- The name of a kind in a token dump, the same for all words, operators and marks. -/
def name : TokenKind → String
  | keyword _ => "keyword"
  | operator _ => "operator"
  | punctuation _ => "punctuation"
  | identifier => "identifier"
  | number .octal => "octal constant"
  | number .decimal => "decimal constant"
  | number .hexadecimal => "hex constant"
  | endOfSource => "end of source"
  | error => "error"

/-- The reserved word, for a token that is one. -/
def keyword? : TokenKind → Option Keyword
  | keyword k => some k
  | _ => none

/-- The operator, for a token that is one. -/
def operator? : TokenKind → Option Operator
  | operator o => some o
  | _ => none

/-- The punctuation mark, for a token that is one. -/
def punctuation? : TokenKind → Option Punctuation
  | punctuation p => some p
  | _ => none

/-- Whether the token names a built-in data type. -/
def isBasicType : TokenKind → Bool
  | keyword k => k.isBasicType
  | _ => false

/-- The operator, for a token that is an operator of the given role. -/
def operatorIn? (c : Operator.Category) (kind : TokenKind) : Option Operator :=
  kind.operator?.filter (·.category == c)

/-- Whether the token is an operator that may stand before an operand. -/
def isBeforeOperand : TokenKind → Bool
  | operator o => o.beforeOperand
  | _ => false

/-- Whether the token is an operator that may stand after an operand. -/
def isAfterOperand : TokenKind → Bool
  | operator o => o.afterOperand
  | _ => false

/-- Whether the token is a numeral. -/
def isNumber : TokenKind → Bool
  | number _ => true
  | _ => false

end TokenKind

/-- A token: its kind, its exact text and where it begins. -/
structure Token where
  /-- What the token is. -/
  kind : TokenKind
  /-- The text it was read from. -/
  text : String
  /-- The line where the text begins, from one. -/
  line : Nat
  /-- The column where the text begins, from one. -/
  column : Nat
  deriving DecidableEq, Repr, Inhabited

namespace Token

/-- The pieces of a token's line in a dump, in the order in which they are written. -/
def pieces (t : Token) : List String :=
  ["'", t.text, "' (type: ", t.kind.name, ") (line: ", toString t.line, ", column: ",
    toString t.column, ")"]

/-- A token as one line of a dump. -/
def render (t : Token) : String :=
  String.join t.pieces

end Token

end Recognizer
