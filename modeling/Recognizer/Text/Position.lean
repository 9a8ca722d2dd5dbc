/-!
# Positions in a text

A position counts characters: its offset from the beginning, its line and its column,
the last two from one. Advancing over a piece of text moves it character by character,
and a line feed is the only character that starts a new line.
-/

namespace Recognizer

/-- A place in a text. -/
structure Position where
  /-- Number of characters before the place. -/
  offset : Nat
  /-- Number of the line, from one. -/
  line : Nat
  /-- Number of the character in its line, from one. -/
  column : Nat
  deriving DecidableEq, Repr

namespace Position

/-- The beginning of a text. -/
def start : Position := ⟨0, 1, 1⟩

instance : Inhabited Position := ⟨start⟩

/-- Move over `n` characters of one line. -/
def advanceColumns (p : Position) (n : Nat) : Position :=
  ⟨p.offset + n, p.line, p.column + n⟩

/-- Move over `n` line feeds. -/
def advanceLines (p : Position) (n : Nat) : Position :=
  ⟨p.offset + n, p.line + n, 1⟩

/-- Move over one character. -/
def step (p : Position) (c : Char) : Position :=
  if c = '\n' then p.advanceLines 1 else p.advanceColumns 1

/-- Move over a piece of text. -/
def advance (p : Position) (cs : List Char) : Position :=
  cs.foldl step p

/-- A position as `line:column`. -/
def render (p : Position) : String :=
  toString p.line ++ ":" ++ toString p.column

@[simp] theorem advance_nil (p : Position) : p.advance [] = p := rfl

@[simp] theorem advance_cons (p : Position) (c : Char) (cs : List Char) :
    p.advance (c :: cs) = (p.step c).advance cs := rfl

/-- Advancing over two pieces is advancing over one after the other. -/
theorem advance_append (p : Position) (cs ds : List Char) :
    p.advance (cs ++ ds) = (p.advance cs).advance ds :=
  List.foldl_append ..

/-- Every character moves the offset by one. -/
@[simp] theorem step_offset (p : Position) (c : Char) : (p.step c).offset = p.offset + 1 := by
  unfold step
  split <;> rfl

/-- The offset counts the characters passed. -/
@[simp] theorem advance_offset (p : Position) (cs : List Char) :
    (p.advance cs).offset = p.offset + cs.length := by
  induction cs generalizing p with
  | nil => rfl
  | cons c cs ih =>
    rw [advance_cons, ih, step_offset, List.length_cons]
    omega

end Position

end Recognizer
