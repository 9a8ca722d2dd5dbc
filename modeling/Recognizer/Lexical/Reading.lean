import Recognizer.Lexical.Lexeme
import Recognizer.Lexical.Trivia
import Recognizer.Text.Source

/-!
# Readings

A reading is one step through a text from a given place: the trivia in front is passed,
one token is read, and the place behind it is found by advancing over exactly the
characters that were taken. The readings of a source, one after the other up to the end,
are its token stream.
-/

namespace Recognizer

/-- One step through a text. -/
structure Reading where
  /-- The token that was read. -/
  token : Token
  /-- Where the token begins. -/
  start : Position
  /-- What is wrong with the token. -/
  faults : List LexicalFault
  /-- The place after the step. -/
  stop : Position
  /-- The text after the step. -/
  rest : List Char
  deriving DecidableEq, Repr

namespace Reading

/-- Read one token from the text `cs`, which begins at the place `p`. -/
def scan (cap : Nat) (p : Position) (cs : List Char) : Reading :=
  let front := Trivia.readAll cs
  let start := p.advance (Trivia.textOf front.1)
  let lexeme := Lexeme.read cap front.2
  { token := ⟨lexeme.kind, String.ofList lexeme.text, start.line, start.column⟩
    start := start
    faults := lexeme.faults
    stop := start.advance lexeme.consumed
    rest := lexeme.rest }

/-- The diagnostics for what is wrong with the token, each at the place where it begins. -/
def diagnostics (r : Reading) : List Diagnostic :=
  r.faults.map fun fault => fault.diagnostic r.token.line r.token.column

/-- The characters passed in one step: trivia, the token, and what is thrown away with it. -/
def passed (cap : Nat) (cs : List Char) : List Char :=
  Trivia.textOf (Trivia.readAll cs).1 ++ (Lexeme.read cap (Trivia.readAll cs).2).consumed

/-- A step passes the front of the text and leaves the rest. -/
theorem passed_append_rest (cap : Nat) (p : Position) (cs : List Char) :
    passed cap cs ++ (scan cap p cs).rest = cs := by
  have h := Lexeme.read_covers cap (Trivia.readAll cs).2
  rw [Lexeme.Covers] at h
  rw [passed, List.append_assoc]
  simp only [scan, h]
  exact Trivia.textOf_append_readAll cs

/-- The place after a step is the place before it, moved over what was passed. -/
theorem stop_eq (cap : Nat) (p : Position) (cs : List Char) :
    (scan cap p cs).stop = p.advance (passed cap cs) := by
  rw [passed, Position.advance_append]
  rfl

/-- What is left is the text without the characters counted by the offset. -/
theorem rest_eq_drop (cap : Nat) (p : Position) (cs : List Char) :
    (scan cap p cs).rest = cs.drop ((scan cap p cs).stop.offset - p.offset) := by
  have h := passed_append_rest cap p cs
  rw [stop_eq, Position.advance_offset, Nat.add_sub_cancel_left]
  calc (scan cap p cs).rest
      = (passed cap cs ++ (scan cap p cs).rest).drop (passed cap cs).length := List.drop_left.symm
    _ = cs.drop (passed cap cs).length := by rw [h]

/-- A step never moves back. -/
theorem offset_le_stop (cap : Nat) (p : Position) (cs : List Char) :
    p.offset ≤ (scan cap p cs).stop.offset := by
  rw [stop_eq, Position.advance_offset]
  omega

/-- A step never lengthens what is left. -/
theorem length_rest_le (cap : Nat) (p : Position) (cs : List Char) :
    (scan cap p cs).rest.length ≤ cs.length := by
  have h := congrArg List.length (passed_append_rest cap p cs)
  rw [List.length_append] at h
  omega

/-- The end is read exactly where only trivia is left. -/
theorem kind_eq_endOfSource_iff (cap : Nat) (p : Position) (cs : List Char) :
    (scan cap p cs).token.kind = .endOfSource ↔ (Trivia.readAll cs).2 = [] := by
  constructor
  · intro h
    by_cases hn : (Trivia.readAll cs).2 = []
    · exact hn
    · exact absurd h (Lexeme.read_solid cap hn).1
  · intro h
    simp [scan, h, Lexeme.read]

/-- Reading a token other than the end leaves a shorter text. -/
theorem length_rest_lt {cap : Nat} {p : Position} {cs : List Char}
    (h : (scan cap p cs).token.kind ≠ .endOfSource) :
    (scan cap p cs).rest.length < cs.length := by
  have hn : (Trivia.readAll cs).2 ≠ [] := fun hn => h ((kind_eq_endOfSource_iff cap p cs).2 hn)
  have ht := List.length_pos_iff.2 (Lexeme.read_solid cap hn).2
  have hl := congrArg List.length (passed_append_rest cap p cs)
  simp only [passed, Lexeme.consumed, List.length_append] at hl
  omega

/-- Every step from a place on, up to the one that reads the end. -/
def all (cap : Nat) (p : Position) (cs : List Char) : List Reading :=
  let r := scan cap p cs
  if h : r.token.kind = .endOfSource then [r]
  else
    have : r.rest.length < cs.length := length_rest_lt h
    r :: all cap r.stop r.rest
  termination_by cs.length

end Reading

namespace Source

/-- The steps through a source from its beginning to its end. -/
def readings (s : Source) (cap : Nat) : List Reading :=
  Reading.all cap .start s.chars

/-- The token stream of a source; its last token is the end. -/
def tokens (s : Source) (cap : Nat) : List Token :=
  (s.readings cap).map (·.token)

/-- Everything that is wrong with the tokens of a source, in order. -/
def lexicalDiagnostics (s : Source) (cap : Nat) : List Diagnostic :=
  (s.readings cap).flatMap (·.diagnostics)

end Source

end Recognizer
