import Recognizer.Grammar.Program

/-!
# The procedures of the grammar as data

The procedures of the grammar call one another. Here each of them has a name and a plan, which
says what it does: in which order it reads tokens, looks ahead and calls other procedures. A
procedure is called directly only from plans of a higher rank, and any procedure may be called
inside a nested construct, which is opened by a punctuation mark that has just been read. So what
holds of every plan, if it holds of the procedures that the plan calls, holds of every procedure.
-/

namespace Recognizer

open Procedure TokenSource

/-- Whether a punctuation mark always opens a nested construct. -/
def Punctuation.opens : Punctuation → Bool
  | openBrace | openParen | openBracket => true
  | _ => false

/-- Whether an expectation is about the nesting and not about a token. -/
def Expectation.aboutNesting : Expectation → Bool
  | shallowerNesting => true
  | _ => false

/-- An expectation that is not about nesting is not the one for less nesting. -/
theorem Expectation.ne_shallowerNesting {e : Expectation} (h : e.aboutNesting = false) :
    e ≠ .shallowerNesting := by
  rintro rfl
  cases h

/-- The procedures of the grammar. -/
inductive Routine where
  | program
  | mainFunction
  | declaration
  | declaratorList
  | declarator
  | classDeclaration
  /-- The members of a class and the brace behind them. -/
  | members
  | block
  /-- The items of a block and the brace behind them. -/
  | items
  | statement
  | whileStatement
  | expression
  /-- Some levels of binary operators, the loosest first. -/
  | level (levels : List Operator.Category)
  | operand
  | postfixed
  | primary
  | leftValue
  | index
  | constant
  deriving DecidableEq, Repr

namespace Routine

/-- Whether a procedure accepts only after reading a token. -/
def consuming : Routine → Bool
  | program | declaratorList | members | items | index => false
  | _ => true

/-- A number that is greater than those of the procedures that are called directly. -/
def rank : Routine → Nat
  | constant | index | block | classDeclaration => 0
  | leftValue | mainFunction => 1
  | primary => 2
  | postfixed => 3
  | operand => 4
  | level levels => 5 + levels.length
  | expression => 11
  | declarator | whileStatement => 12
  | declaratorList | statement => 13
  | declaration => 14
  | members | items | program => 15

variable {σ : Type} [TokenSource σ]

/-- The procedure with a name, where `room` constructs may still be opened. -/
def procedure (room : Nat) : (r : Routine) → Procedure σ r.consuming
  | program => Grammar.program room
  | mainFunction => Grammar.mainFunction room
  | declaration => Grammar.declaration room
  | declaratorList => Grammar.declaratorList room
  | declarator => Grammar.declarator room
  | classDeclaration => Grammar.classDeclaration room
  | members => Grammar.members (Grammar.declaration room)
  | block => Grammar.block room
  | items => Grammar.items (Grammar.declaration room) (Grammar.statement room)
  | statement => Grammar.statement room
  | whileStatement => Grammar.whileStatement room
  | expression => Grammar.expression room
  | level levels => Grammar.cascade (Grammar.bracketed room) levels
  | operand => Grammar.operand (Grammar.bracketed room)
  | postfixed => Grammar.postfixed (Grammar.bracketed room)
  | primary => Grammar.primary (Grammar.bracketed room)
  | leftValue => Grammar.leftValue room
  | index => Grammar.index (Grammar.bracketed room)
  | constant => Grammar.constant

/-- A procedure inside a nested construct, if there is room for one. -/
def inside (r : Routine) : Nat → Procedure σ r.consuming
  | 0 => rejectNext .shallowerNesting
  | room + 1 => nested (r.procedure room)

end Routine

/-- What a procedure does that calls procedures of lower ranks than `bound` only, unless it
calls them inside a nested construct. -/
inductive Plan (bound : Nat) : Bool → Type where
  | done : Plan bound false
  | expect (t : Terminal) (e : Expectation) (h : e.aboutNesting = false) : Plan bound true
  | ifNext (t : Terminal) {a b : Bool} (yes : Plan bound a) (no : Plan bound b) : Plan bound b
  | andThen {a b : Bool} (p : Plan bound a) (q : Plan bound b) : Plan bound (a || b)
  | weaken {a : Bool} (p : Plan bound a) : Plan bound false
  | peek {a : Bool} (f : TokenKind → Plan bound a) : Plan bound a
  /-- Call a procedure. -/
  | call (r : Routine) (h : r.rank < bound) : Plan bound r.consuming
  /-- Read a punctuation mark that opens a nested construct, and call a procedure inside it. -/
  | opening (q : Punctuation) (hq : q.opens = true) (r : Routine) : Plan bound true
  /-- If the next token is a mark that opens a nested construct, read it, call a procedure inside
  the construct and go on behind it. -/
  | ifOpening (q : Punctuation) (hq : q.opens = true) (r : Routine) {a : Bool}
    (after : Plan bound a) : Plan bound false
  /-- Read a loop; the statement that it repeats is a nested construct. -/
  | loop (h : Routine.rank .expression < bound) : Plan bound true
  | repeatAfter (t : Terminal) {a : Bool} (item : Plan bound a) : Plan bound false
  | members (member : Plan bound true) : Plan bound false
  | items (declaration statement : Plan bound true) : Plan bound false
  | program (main declaration : Plan bound true) : Plan bound false

namespace Plan

variable {σ : Type} [TokenSource σ] {bound : Nat} {a : Bool}

/-- What a plan amounts to where `room` constructs may still be opened. -/
def procedure (room : Nat) {a : Bool} : Plan bound a → Procedure σ a
  | done => Procedure.done
  | expect t e _ => Procedure.expect t e
  | ifNext t yes no => Procedure.ifNext t (yes.procedure room) (no.procedure room)
  | andThen p q => (p.procedure room).andThen (q.procedure room)
  | weaken p => (p.procedure room).weaken
  | peek f => Procedure.peek fun kind => (f kind).procedure room
  | call r _ => r.procedure room
  | opening q _ r => (Grammar.symbol q).andThen (r.inside room)
  | ifOpening q _ r after =>
    Procedure.ifNext (.punctuation q) ((r.inside room).andThen (after.procedure room))
      Procedure.done
  | loop _ => Grammar.whileWith room (Routine.inside .statement room)
  | repeatAfter t item => Procedure.repeatAfter t (item.procedure room)
  | members member => Grammar.members (member.procedure room)
  | items declaration statement =>
    Grammar.items (declaration.procedure room) (statement.procedure room)
  | program main declaration =>
    Procedure.loop (Grammar.programTurn (main.procedure room) (declaration.procedure room))
      (Grammar.programTurn_within _ _)

/-- One punctuation mark. -/
def symbol (p : Punctuation) : Plan bound true :=
  expect (.punctuation p) (.symbol p) rfl

/-- One reserved word. -/
def word (k : Keyword) : Plan bound true :=
  expect (.keyword k) (.keyword k) rfl

/-- One identifier. -/
def identifier : Plan bound true :=
  expect .identifier .identifier rfl

/-- The next token, if it is of a class. -/
def optional (t : Terminal) : Plan bound false :=
  ifNext t done done

/-- The type at the head of a declaration. -/
def typeHead : Plan bound true :=
  peek fun kind =>
    if kind = .keyword .shortWord ∨ kind = .keyword .longWord then
      (expect .typeName .typeOrClass rfl).andThen (optional (.keyword .intWord))
    else expect .typeName .typeOrClass rfl

/-- An identifier with an optional index. -/
def part (h : Routine.rank .index < bound) : Plan bound true :=
  identifier.andThen (call .index h)

end Plan

namespace Routine

open Plan in
/-- What each procedure does. -/
def body : (r : Routine) → Plan r.rank r.consuming
  | program => Plan.program (call .mainFunction (by decide)) (call .declaration (by decide))
  | mainFunction =>
    (expect (.keyword .intWord) .intBeforeMain rfl).andThen
      ((word .mainWord).andThen ((symbol .openParen).andThen
        ((symbol .closeParen).andThen (call .block (by decide)))))
  | declaration =>
    (peek (a := true) fun kind =>
      if kind = .keyword .classWord then call .classDeclaration (by decide)
      else typeHead.andThen (call .declaratorList (by decide))).andThen (symbol .semicolon)
  | declaratorList =>
    peek fun kind =>
      if kind = .punctuation .semicolon then done
      else weaken ((call .declarator (by decide)).andThen
        (repeatAfter (.punctuation .comma) (call .declarator (by decide))))
  | declarator =>
    identifier.andThen
      (ifNext (.operator .assign) (call .expression (by decide))
        (ifNext (.punctuation .openBracket)
          ((call .constant (by decide)).andThen (symbol .closeBracket)) done))
  | classDeclaration =>
    (word .classWord).andThen (identifier.andThen (opening .openBrace rfl .members))
  | members => Plan.members (call .declaration (by decide))
  | block => opening .openBrace rfl .items
  | items => Plan.items (call .declaration (by decide)) (call .statement (by decide))
  | statement =>
    peek fun kind =>
      match kind with
      | .keyword .whileWord => call .whileStatement (by decide)
      | .punctuation .openBrace => call .block (by decide)
      | .identifier =>
        (call .leftValue (by decide)).andThen ((expect (.operator .assign) .assignment rfl).andThen
          ((call .expression (by decide)).andThen (symbol .semicolon)))
      | .keyword .returnWord =>
        (word .returnWord).andThen ((call .expression (by decide)).andThen (symbol .semicolon))
      | _ => symbol .semicolon
  | whileStatement => loop (by decide)
  | expression => call (.level Operator.binaryLevels) (by decide)
  | level [] => call .operand (by decide)
  | level (loosest :: tighter) =>
    (call (.level tighter) (Nat.lt_succ_self _)).andThen
      (repeatAfter (.operatorOf loosest) (call (.level tighter) (Nat.lt_succ_self _)))
  | operand => (optional .beforeOperand).andThen (call .postfixed (by decide))
  | postfixed => (call .primary (by decide)).andThen (optional .afterOperand)
  | primary =>
    peek fun kind =>
      match kind with
      | .identifier => call .leftValue (by decide)
      | .punctuation .openParen => (opening .openParen rfl .expression).andThen (symbol .closeParen)
      | _ => call .constant (by decide)
  | leftValue => (part (by decide)).andThen (repeatAfter (.punctuation .dot) (part (by decide)))
  | index => ifOpening .openBracket rfl .expression (symbol .closeBracket)
  | constant => expect .number .constant rfl

variable {σ : Type} [TokenSource σ]

/-- An expression in parentheses or brackets is an expression inside a nested construct. -/
theorem bracketed_eq (room : Nat) :
    Grammar.bracketed (σ := σ) room = Routine.inside .expression room := by
  cases room <;> rfl

/-- The body of a class is nested. -/
theorem classBody_eq (room : Nat) :
    Grammar.classBody (σ := σ) room = Routine.inside .members room := by
  cases room <;> rfl

/-- The body of a block is nested. -/
theorem blockBody_eq (room : Nat) :
    Grammar.blockBody (σ := σ) room = Routine.inside .items room := by
  cases room <;> rfl

/-- The body of a loop is nested. -/
theorem loopBody_eq (room : Nat) :
    Grammar.loopBody (σ := σ) room = Routine.inside .statement room := by
  cases room <;> rfl

/-- The beginning of a type has a plan under any bound. -/
theorem typeHead_eq (bound room : Nat) :
    Grammar.typeHead (σ := σ) = (Plan.typeHead : Plan bound true).procedure room := by
  refine congrArg Procedure.peek (funext fun kind => ?_)
  cases kind with
  | keyword k => cases k <;> rfl
  | _ => rfl

/-- A procedure is determined by how it runs. -/
theorem eq_of_run_eq {a : Bool} {p q : Procedure σ a} (h : p.run = q.run) : p = q := by
  cases p
  cases q
  cases h
  rfl

/-- Procedures one after the other may be grouped in any way. -/
theorem andThen_assoc (p q r : Procedure σ true) :
    p.andThen (q.andThen r) = (p.andThen q).andThen r := by
  refine eq_of_run_eq (funext fun s => ?_)
  change (p.run s).bind (fun s => (q.run s).bind r.run) = ((p.run s).bind q.run).bind r.run
  cases p.run s <;> rfl

/-- Each procedure does what its plan says. -/
theorem procedure_eq (room : Nat) (r : Routine) :
    r.procedure (σ := σ) room = r.body.procedure room := by
  cases r with
  | declaration =>
    refine congrArg (fun f => (Procedure.peek f).andThen (Grammar.symbol .semicolon))
      (funext fun kind => ?_)
    rw [typeHead_eq (rank .declaration) room]
    cases kind with
    | keyword k => cases k <;> rfl
    | _ => rfl
  | declaratorList =>
    change Grammar.declaratorList room = _
    refine congrArg Procedure.peek (funext fun kind => ?_)
    cases kind with
    | punctuation p => cases p <;> rfl
    | _ => rfl
  | classDeclaration => exact congrArg Grammar.classWith (classBody_eq room)
  | block => exact congrArg Grammar.blockWith (blockBody_eq room)
  | statement =>
    change Grammar.statement room = _
    rw [Grammar.statement_eq]
    refine congrArg Procedure.peek (funext fun kind => ?_)
    cases kind with
    | keyword k => cases k <;> rfl
    | punctuation p => cases p <;> rfl
    | _ => rfl
  | whileStatement => exact congrArg (Grammar.whileWith room) (loopBody_eq room)
  | primary =>
    change Grammar.primary (Grammar.bracketed room) = _
    rw [bracketed_eq]
    refine congrArg Procedure.peek (funext fun kind => ?_)
    cases kind with
    | identifier => exact congrArg Grammar.leftValueWith (bracketed_eq room).symm
    | punctuation p =>
      cases p with
      | openParen => exact andThen_assoc ..
      | _ => rfl
    | _ => rfl
  | level levels => cases levels <;> rfl
  | index => exact congrArg Grammar.index (bracketed_eq room)
  | _ => rfl

end Routine

end Recognizer
