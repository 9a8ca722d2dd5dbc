import Recognizer.Grammar.Declaration

/-!
# Statements and blocks

A block is a nested construct of declarations and statements. Two tokens decide which of the
two comes next: a class, a built-in type, or two identifiers in a row begin a declaration. The
statement that a loop repeats is a nested construct, too.
-/

namespace Recognizer.Grammar

open Procedure TokenSource

variable {σ : Type} [TokenSource σ]

/-- Whether an item of a block that begins with these two kinds of tokens is a declaration. -/
def beginsDeclaration (first second : TokenKind) : Bool :=
  first == .keyword .classWord || first.isBasicType ||
    (first == .identifier && second == .identifier)

/-- One turn through a block: the closing brace ends it, the end of the source is a violation,
and anything else has to be a declaration or a statement. -/
def itemTurn (declaration statement : Procedure σ true) (s : σ) : Turn σ :=
  let first := next s
  if first.1.kind = .punctuation .closeBrace then .stop (.accepted first.2)
  else if first.1.kind = .endOfSource then
    .stop (.rejected ⟨first.1, .symbol .closeBrace⟩ first.2)
  else
    let second := next first.2
    let item := if beginsDeclaration first.1.kind second.1.kind then declaration else statement
    .ofItem (item.run (rewind s second.2))

/-- A turn that goes on through a block has passed a token. -/
theorem itemTurn_within (declaration statement : Procedure σ true) (s : σ) :
    (itemTurn declaration statement s).Within (remaining s) := by
  unfold itemTurn
  dsimp only
  split
  · exact remaining_next_le s
  · split
    · trivial
    · refine Turn.ofItem_within fun s' hs => ?_
      have h := Procedure.progress _ hs
      rw [remaining_rewind] at h
      exact h

/-- `(declaration | statement)* "}"` -/
def items (declaration statement : Procedure σ true) : Procedure σ false :=
  loop (itemTurn declaration statement) (itemTurn_within declaration statement)

/-- `leftValue "=" expression ";"` -/
def assignment (room : Nat) : Procedure σ true :=
  (leftValue room).andThen ((expect (.operator .assign) .assignment).andThen
    ((expression room).andThen (symbol .semicolon)))

/-- `"return" expression ";"` -/
def returnStatement (room : Nat) : Procedure σ true :=
  (expect (.keyword .returnWord) (.keyword .returnWord)).andThen
    ((expression room).andThen (symbol .semicolon))

/-- `"while" "(" expression ")" body` -/
def whileWith (room : Nat) (body : Procedure σ true) : Procedure σ true :=
  (expect (.keyword .whileWord) (.keyword .whileWord)).andThen ((symbol .openParen).andThen
    ((expression room).andThen ((symbol .closeParen).andThen body)))

/-- `"{" body`, where the body ends with its closing brace. -/
def blockWith (body : Procedure σ false) : Procedure σ true :=
  (symbol .openBrace).andThen body

/-- A statement whose block has the body `body` and whose loop repeats `repeated`. -/
def statementWith (room : Nat) (body : Procedure σ false) (repeated : Procedure σ true) :
    Procedure σ true :=
  peek fun kind =>
    match kind with
    | .keyword .whileWord => whileWith room repeated
    | .punctuation .openBrace => blockWith body
    | .identifier => assignment room
    | .keyword .returnWord => returnStatement room
    | _ => symbol .semicolon

/-- A statement in which `room` constructs may still be opened. -/
def statement : Nat → Procedure σ true
  | 0 => statementWith 0 (rejectNext .shallowerNesting) (rejectNext .shallowerNesting)
  | room + 1 =>
    statementWith (room + 1)
      (nested (items (declaration room) (delay fun _ => statement room)))
      (nested (delay fun _ => statement room))

/-- The body of a block where `room` constructs may still be opened. -/
def blockBody : Nat → Procedure σ false
  | 0 => rejectNext .shallowerNesting
  | room + 1 => nested (items (declaration room) (delay fun _ => statement room))

/-- The statement that a loop repeats where `room` constructs may still be opened. -/
def loopBody : Nat → Procedure σ true
  | 0 => rejectNext .shallowerNesting
  | room + 1 => nested (delay fun _ => statement room)

/-- A block in which `room` constructs may still be opened. -/
def block (room : Nat) : Procedure σ true :=
  blockWith (blockBody room)

/-- A loop in which `room` constructs may still be opened. -/
def whileStatement (room : Nat) : Procedure σ true :=
  whileWith room (loopBody room)

/-- A statement opens the bodies of its blocks and loops with the room it has. -/
theorem statement_eq (room : Nat) :
    statement (σ := σ) room = statementWith room (blockBody room) (loopBody room) := by
  cases room <;> rfl

end Recognizer.Grammar
