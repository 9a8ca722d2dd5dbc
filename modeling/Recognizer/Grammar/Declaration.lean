import Recognizer.Grammar.Expression

/-!
# Declarations

A declaration names a type and the variables of that type, or declares a class, whose body
is a nested construct of further declarations.
-/

namespace Recognizer.Grammar

open Procedure TokenSource

variable {σ : Type} [TokenSource σ]

/-- `IDENTIFIER ("=" expression | "[" constant "]")?` -/
def declarator (room : Nat) : Procedure σ true :=
  identifier.andThen
    (ifNext (.operator .assign) (expression room)
      (ifNext (.punctuation .openBracket) (constant.andThen (symbol .closeBracket)) done))

/-- `declarator ("," declarator)*`, or nothing in front of a semicolon. -/
def declaratorList (room : Nat) : Procedure σ false :=
  peek fun kind =>
    if kind = .punctuation .semicolon then done
    else weaken ((declarator room).andThen (repeatAfter (.punctuation .comma) (declarator room)))

/-- The type at the head of a declaration; `short` and `long` may be followed by `int`. -/
def typeHead : Procedure σ true :=
  peek fun kind =>
    if kind = .keyword .shortWord ∨ kind = .keyword .longWord then
      (expect .typeName .typeOrClass).andThen (optional (.keyword .intWord))
    else expect .typeName .typeOrClass

/-- One turn through the body of a class: the closing brace ends it, the end of the source is
a violation, and anything else has to be a member. -/
def memberTurn (member : Procedure σ true) (s : σ) : Turn σ :=
  let step := next s
  if step.1.kind = .punctuation .closeBrace then .stop (.accepted step.2)
  else if step.1.kind = .endOfSource then
    .stop (.rejected ⟨step.1, .symbol .closeBrace⟩ (rewind s step.2))
  else .ofItem (member.run (rewind s step.2))

/-- A turn that goes on through the body of a class has passed a token. -/
theorem memberTurn_within (member : Procedure σ true) (s : σ) :
    (memberTurn member s).Within (remaining s) := by
  unfold memberTurn
  dsimp only
  split
  · exact remaining_next_le s
  · split
    · trivial
    · refine Turn.ofItem_within fun s' hs => ?_
      have h := member.progress hs
      rw [remaining_rewind] at h
      exact h

/-- `member* "}"` -/
def members (member : Procedure σ true) : Procedure σ false :=
  loop (memberTurn member) (memberTurn_within member)

/-- `"class" IDENTIFIER "{" body`, where the body ends with its closing brace. -/
def classWith (body : Procedure σ false) : Procedure σ true :=
  (expect (.keyword .classWord) (.keyword .classWord)).andThen
    (identifier.andThen ((symbol .openBrace).andThen body))

/-- A declaration whose class bodies are `body`. -/
def declarationWith (room : Nat) (body : Procedure σ false) : Procedure σ true :=
  (peek fun kind =>
    if kind = .keyword .classWord then classWith body
    else typeHead.andThen (declaratorList room)).andThen (symbol .semicolon)

/-- The body of a class where `room` constructs may still be opened. -/
def classBody : Nat → Procedure σ false
  | 0 => rejectNext .shallowerNesting
  | room + 1 => nested (members (delay fun _ => declarationWith room (classBody room)))

/-- A declaration in which `room` constructs may still be opened. -/
def declaration (room : Nat) : Procedure σ true :=
  declarationWith room (classBody room)

/-- The declaration of a class in which `room` constructs may still be opened. -/
def classDeclaration (room : Nat) : Procedure σ true :=
  classWith (classBody room)

/-- The members of a class are declarations with room for one construct less. -/
theorem classBody_succ (room : Nat) :
    classBody (σ := σ) (room + 1) = nested (members (delay fun _ => declaration room)) :=
  rfl

end Recognizer.Grammar
