/-!
# Operators

The operators of the language, grouped by role. The five binary roles double as
the precedence levels of expressions; some operators may also stand before or
after an operand.
-/

namespace Recognizer

/-- The operators, in registry order. -/
inductive Operator where
  | assign
  | equal
  | notEqual
  | less
  | greater
  | lessEqual
  | greaterEqual
  | shiftLeft
  | shiftRight
  | plus
  | minus
  | star
  | slash
  | percent
  | increment
  | decrement
  deriving DecidableEq, Repr, Inhabited

namespace Operator

/-- The role of an operator; the binary roles are the precedence levels. -/
inductive Category where
  /-- The assignment sign. -/
  | assignment
  /-- The two tests for equality. -/
  | equality
  /-- The four order comparisons. -/
  | relational
  /-- The two shifts. -/
  | shift
  /-- Sum and difference. -/
  | additive
  /-- Product, quotient and remainder. -/
  | multiplicative
  /-- Increment and decrement. -/
  | step
  deriving DecidableEq, Repr, Inhabited

/-- Every operator, in registry order. -/
def all : List Operator :=
  [assign, equal, notEqual, less, greater, lessEqual, greaterEqual, shiftLeft, shiftRight,
    plus, minus, star, slash, percent, increment, decrement]

/-- The one spelling of an operator. -/
def spelling : Operator → String
  | assign => "="
  | equal => "=="
  | notEqual => "!="
  | less => "<"
  | greater => ">"
  | lessEqual => "<="
  | greaterEqual => ">="
  | shiftLeft => "<<"
  | shiftRight => ">>"
  | plus => "+"
  | minus => "-"
  | star => "*"
  | slash => "/"
  | percent => "%"
  | increment => "++"
  | decrement => "--"

/-- The role of an operator. -/
def category : Operator → Category
  | assign => .assignment
  | equal | notEqual => .equality
  | less | greater | lessEqual | greaterEqual => .relational
  | shiftLeft | shiftRight => .shift
  | plus | minus => .additive
  | star | slash | percent => .multiplicative
  | increment | decrement => .step

/-- Binding strength of the operators of a role; a larger number binds tighter. -/
def Category.precedence : Category → Nat
  | assignment => 0
  | equality => 10
  | relational => 20
  | shift => 30
  | additive => 40
  | multiplicative => 50
  | step => 60

/-- Every role, from the loosest binding to the tightest. -/
def Category.all : List Category :=
  [.assignment, .equality, .relational, .shift, .additive, .multiplicative, .step]

/-- Binding strength of an operator. -/
def precedence (o : Operator) : Nat :=
  o.category.precedence

/-- Whether the operator may stand before an operand. -/
def beforeOperand : Operator → Bool
  | plus | minus | increment | decrement => true
  | _ => false

/-- Whether the operator may stand after an operand. -/
def afterOperand : Operator → Bool
  | increment | decrement => true
  | _ => false

/-- The binary roles, loosest first: the precedence levels of an expression. -/
def binaryLevels : List Category :=
  [.equality, .relational, .shift, .additive, .multiplicative]

/-- The operators of one role, in registry order. -/
def inCategory (c : Category) : List Operator :=
  all.filter (·.category == c)

/-- The operator with this spelling, if there is one. -/
def ofSpelling? (s : String) : Option Operator :=
  all.find? (·.spelling == s)

/-- The registry holds every operator. -/
theorem mem_all (o : Operator) : o ∈ all := by
  cases o <;> decide

/-- Looking a spelling up gives back what was spelled. -/
theorem ofSpelling?_spelling (o : Operator) : ofSpelling? o.spelling = some o := by
  cases o <;> decide

/-- Two operators with one spelling are the same. -/
theorem spelling_injective {o p : Operator} (h : o.spelling = p.spelling) : o = p := by
  have hs := ofSpelling?_spelling o
  rw [h, ofSpelling?_spelling] at hs
  exact (Option.some.inj hs).symm

/-- A lookup succeeds exactly on the spelling. -/
theorem ofSpelling?_eq_some_iff {s : String} {o : Operator} :
    ofSpelling? s = some o ↔ s = o.spelling := by
  constructor
  · intro h
    have ho := List.find?_some h
    exact (eq_of_beq ho).symm
  · rintro rfl
    exact ofSpelling?_spelling o

end Operator

end Recognizer
