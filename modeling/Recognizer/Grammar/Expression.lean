import Recognizer.Grammar.Procedure

/-!
# Expressions

An expression is a cascade of five left-associative levels of binary operators over operands;
an operand may have an operator before it and one after it. Expressions in parentheses and in
the brackets of an index are nested constructs, so the number `room` of constructs that may
still be opened decides how deep they may go.
-/

namespace Recognizer.Grammar

open Procedure

variable {σ : Type} [TokenSource σ]

/-- One numeral. -/
def constant : Procedure σ true :=
  expect .number .constant

/-- One identifier. -/
def identifier : Procedure σ true :=
  expect .identifier .identifier

/-- One punctuation mark. -/
def symbol (p : Punctuation) : Procedure σ true :=
  expect (.punctuation p) (.symbol p)

/-- An optional `[ expression ]`, whose expression is `inner`. -/
def index (inner : Procedure σ true) : Procedure σ false :=
  ifNext (.punctuation .openBracket) (inner.andThen (symbol .closeBracket)) done

/-- `IDENTIFIER index? ("." IDENTIFIER index?)*` -/
def leftValueWith (inner : Procedure σ true) : Procedure σ true :=
  let part := identifier.andThen (index inner)
  part.andThen (repeatAfter (.punctuation .dot) part)

/-- A left value, an expression in parentheses, or a numeral. -/
def primary (inner : Procedure σ true) : Procedure σ true :=
  peek fun kind =>
    match kind with
    | .identifier => leftValueWith inner
    | .punctuation .openParen =>
      (symbol .openParen).andThen (inner.andThen (symbol .closeParen))
    | _ => constant

/-- A primary with an optional operator after it. -/
def postfixed (inner : Procedure σ true) : Procedure σ true :=
  (primary inner).andThen (optional .afterOperand)

/-- An operand: a primary with an optional operator before it and one after it. -/
def operand (inner : Procedure σ true) : Procedure σ true :=
  (optional .beforeOperand).andThen (postfixed inner)

/-- The levels of binary operators, the loosest first, over operands. -/
def cascade (inner : Procedure σ true) : List Operator.Category → Procedure σ true
  | [] => operand inner
  | level :: tighter =>
    let item := cascade inner tighter
    item.andThen (repeatAfter (.operatorOf level) item)

/-- An expression in brackets where `room` constructs may still be opened. -/
def bracketed : Nat → Procedure σ true
  | 0 => rejectNext .shallowerNesting
  | room + 1 => nested (delay fun _ => cascade (bracketed room) Operator.binaryLevels)

/-- An expression in which `room` constructs may still be opened. -/
def expression (room : Nat) : Procedure σ true :=
  cascade (bracketed room) Operator.binaryLevels

/-- A left value in which `room` constructs may still be opened. -/
def leftValue (room : Nat) : Procedure σ true :=
  leftValueWith (bracketed room)

/-- Bracketing an expression uses up room for one construct. -/
theorem bracketed_succ (room : Nat) :
    bracketed (σ := σ) (room + 1) = nested (delay fun _ => expression room) :=
  rfl

end Recognizer.Grammar
