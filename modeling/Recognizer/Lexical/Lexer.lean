import Recognizer.Lexical.Reading

/-!
# Reading with backtracking

A lexer walks through one text. Its cursor can be put back to an earlier place, or to any
place at all, and the text is then read again from there. The lexer remembers the furthest
offset it has ever reached: what is wrong with a token that begins before that mark has been
reported already and is not reported again.
-/

namespace Recognizer

/-- A place in the given text together with the text from there on. -/
structure Cursor (text : List Char) where
  /-- The place. -/
  position : Position
  /-- The text from the place on; nothing beyond the end. -/
  rest : List Char
  /-- The rest is determined by the offset. -/
  rest_eq : rest = text.drop position.offset

namespace Cursor

variable {text : List Char}

/-- The cursor at a place, which need not belong to the text. -/
def ofPosition (text : List Char) (p : Position) : Cursor text :=
  ⟨p, text.drop p.offset, rfl⟩

@[simp] theorem position_ofPosition (p : Position) : (ofPosition text p).position = p := rfl

/-- A cursor is determined by its place. -/
theorem eq_of_position_eq {c d : Cursor text} (h : c.position = d.position) : c = d := by
  obtain ⟨p, cs, hc⟩ := c
  obtain ⟨q, ds, hd⟩ := d
  dsimp only at h
  subst h hc hd
  rfl

/-- The step from a cursor. -/
@[inline] def reading (c : Cursor text) (cap : Nat) : Reading :=
  Reading.scan cap c.position c.rest

/-- The cursor after the step. -/
@[inline] def next (c : Cursor text) (cap : Nat) : Cursor text where
  position := (c.reading cap).stop
  rest := (c.reading cap).rest
  rest_eq := by
    have hle := Reading.offset_le_stop cap c.position c.rest
    have hr := Reading.rest_eq_drop cap c.position c.rest
    rw [c.rest_eq, List.drop_drop, ← c.rest_eq] at hr
    rw [reading, hr]
    congr 1
    omega

end Cursor

/-- A reader of `text` that allows words and numerals of at most `cap` characters. -/
structure Lexer (text : List Char) (cap : Nat) where
  /-- Where the next step begins. -/
  cursor : Cursor text
  /-- The furthest offset a step has ever ended at. -/
  mark : Nat
  /-- The diagnostics reported so far. -/
  reported : Array Diagnostic

namespace Lexer

variable {text : List Char} {cap : Nat}

/-- A lexer at the beginning of a text. -/
def start (text : List Char) (cap : Nat) : Lexer text cap :=
  ⟨.ofPosition text .start, 0, #[]⟩

/-- What the next step will report: nothing, if its token begins before the mark. -/
@[inline] def fresh (l : Lexer text cap) : List Diagnostic :=
  let r := l.cursor.reading cap
  if r.start.offset < l.mark then [] else r.diagnostics

/-- Read the next token. -/
def next (l : Lexer text cap) : Token × Lexer text cap :=
  let r := l.cursor.reading cap
  (r.token,
    { cursor := l.cursor.next cap
      mark := max l.mark r.stop.offset
      reported := l.reported ++ l.fresh })

/-- Put the cursor of an earlier state back; mark and reports stay. -/
def rewind (saved now : Lexer text cap) : Lexer text cap :=
  { now with cursor := saved.cursor }

/-- Put the cursor to any place. -/
def moveTo (l : Lexer text cap) (p : Position) : Lexer text cap :=
  { l with cursor := .ofPosition text p }

/-- Read past `n` tokens. -/
def skip : Nat → Lexer text cap → Lexer text cap
  | 0, l => l
  | n + 1, l => skip n l.next.2

/-- Number of characters from the cursor to the end of the text. -/
def remaining (l : Lexer text cap) : Nat :=
  l.cursor.rest.length

/-- Reading never gets away from the end of the text. -/
theorem remaining_next_le (l : Lexer text cap) : l.next.2.remaining ≤ l.remaining :=
  Reading.length_rest_le cap l.cursor.position l.cursor.rest

/-- Reading a token other than the end gets nearer to the end of the text. -/
theorem remaining_next_lt {l : Lexer text cap} (h : l.next.1.kind ≠ .endOfSource) :
    l.next.2.remaining < l.remaining :=
  Reading.length_rest_lt h

/-- Read up to and including the end. -/
def drain (l : Lexer text cap) : List Token × Lexer text cap :=
  let step := l.next
  if h : step.1.kind = .endOfSource then ([step.1], step.2)
  else
    have : step.2.remaining < l.remaining := remaining_next_lt h
    let tail := drain step.2
    (step.1 :: tail.1, tail.2)
  termination_by l.remaining

end Lexer

end Recognizer
