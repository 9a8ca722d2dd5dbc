import Recognizer.Grammar.Statement

/-!
# Programs

A program is a sequence of declarations and main functions up to the end of the source. The
word `main` as the second token is what tells a main function from a declaration.
-/

namespace Recognizer.Grammar

open Procedure TokenSource

variable {σ : Type} [TokenSource σ]

/-- `"int" "main" "(" ")" block` -/
def mainFunction (room : Nat) : Procedure σ true :=
  (expect (.keyword .intWord) .intBeforeMain).andThen
    ((expect (.keyword .mainWord) (.keyword .mainWord)).andThen
      ((symbol .openParen).andThen ((symbol .closeParen).andThen (block room))))

/-- One turn through a program: the end of the source, which is not read past, ends it, and
anything else has to be a main function or a declaration. -/
def programTurn (main declaration : Procedure σ true) (s : σ) : Turn σ :=
  let first := next s
  if first.1.kind = .endOfSource then .stop (.accepted (rewind s first.2))
  else
    let second := next first.2
    let item := if second.1.kind = .keyword .mainWord then main else declaration
    .ofItem (item.run (rewind s second.2))

/-- A turn that goes on through a program has passed a token. -/
theorem programTurn_within (main declaration : Procedure σ true) (s : σ) :
    (programTurn main declaration s).Within (remaining s) := by
  unfold programTurn
  dsimp only
  split
  · exact Nat.le_of_eq (remaining_rewind ..)
  · refine Turn.ofItem_within fun s' hs => ?_
    have h := Procedure.progress _ hs
    rw [remaining_rewind] at h
    exact h

/-- A program in which `room` constructs may be opened inside one another. -/
def program (room : Nat) : Procedure σ false :=
  loop (programTurn (mainFunction room) (declaration room))
    (programTurn_within (mainFunction room) (declaration room))

end Recognizer.Grammar
