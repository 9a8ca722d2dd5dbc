/-!
# Trivia

Trivia is what may stand between tokens: spaces, tabs, line feeds, comments that run to
the end of their line and comments that are closed explicitly. Reading trivia loses nothing:
the pieces read, written out again, followed by the rest, are the text that was read.
-/

namespace Recognizer

/-- One piece of text between tokens. -/
inductive Trivia where
  /-- A space. -/
  | space
  /-- A horizontal tab. -/
  | tab
  /-- A line feed. -/
  | newline
  /-- A comment from `//` up to the line feed, which is not part of it. -/
  | lineComment (body : List Char)
  /-- A comment between `/*` and the first `*/` after it. -/
  | blockComment (body : List Char)
  deriving DecidableEq, Repr

namespace Trivia

/-- The text of a piece. -/
def text : Trivia → List Char
  | space => [' ']
  | tab => ['\t']
  | newline => ['\n']
  | lineComment body => '/' :: '/' :: body
  | blockComment body => '/' :: '*' :: (body ++ ['*', '/'])

/-- Split a text at its first `*/`: what stands before it and what stands after it. -/
def splitAtClose? : List Char → Option (List Char × List Char)
  | [] => none
  | '*' :: '/' :: rest => some ([], rest)
  | c :: rest => (splitAtClose? rest).map fun parts => (c :: parts.1, parts.2)

/-- Read one piece of trivia from the front of a text. A comment that is never closed is none. -/
def read? : List Char → Option (Trivia × List Char)
  | ' ' :: rest => some (space, rest)
  | '\t' :: rest => some (tab, rest)
  | '\n' :: rest => some (newline, rest)
  | '/' :: '/' :: rest => some (lineComment (rest.takeWhile (· != '\n')), rest.dropWhile (· != '\n'))
  | '/' :: '*' :: rest => (splitAtClose? rest).map fun parts => (blockComment parts.1, parts.2)
  | _ => none

/-- Splitting at a closing mark takes out the mark and nothing else. -/
theorem eq_of_splitAtClose? {cs before after : List Char}
    (h : splitAtClose? cs = some (before, after)) : cs = before ++ '*' :: '/' :: after := by
  fun_induction splitAtClose? cs generalizing before after with
  | case1 => cases h
  | case2 rest => cases h; rfl
  | case3 c rest _ ih =>
    obtain ⟨parts, hp, h⟩ := Option.map_eq_some_iff.1 h
    cases h
    rw [ih hp, List.cons_append]

/-- A piece that was read, written out, followed by the rest, is what was read. -/
theorem text_append_of_read? {cs rest : List Char} {t : Trivia} (h : read? cs = some (t, rest)) :
    t.text ++ rest = cs := by
  unfold read? at h
  split at h
  · cases h; rfl
  · cases h; rfl
  · cases h; rfl
  · cases h
    simp [text]
  · obtain ⟨parts, hp, h⟩ := Option.map_eq_some_iff.1 h
    cases h
    simp [text, eq_of_splitAtClose? hp]
  · cases h

/-- Every piece has at least one character. -/
theorem text_length_pos (t : Trivia) : 0 < t.text.length := by
  cases t <;> simp [text]

/-- Reading a piece leaves a shorter text. -/
theorem length_lt_of_read? {cs rest : List Char} {t : Trivia} (h : read? cs = some (t, rest)) :
    rest.length < cs.length := by
  have hp := t.text_length_pos
  rw [← text_append_of_read? h, List.length_append]
  omega

/-- All the trivia at the front of a text, and the rest. -/
def readAll (cs : List Char) : List Trivia × List Char :=
  match h : read? cs with
  | none => ([], cs)
  | some (t, rest) =>
    have := length_lt_of_read? h
    let (ts, rest) := readAll rest
    (t :: ts, rest)
  termination_by cs.length

/-- The text of several pieces, one after the other. -/
def textOf (ts : List Trivia) : List Char :=
  ts.flatMap text

/-- Where no trivia begins, none is read. -/
theorem readAll_eq_nil {cs : List Char} (h : read? cs = none) : readAll cs = ([], cs) := by
  rw [readAll]
  split
  · rfl
  · next h' => rw [h] at h'; cases h'

/-- Trivia is read piece by piece. -/
theorem readAll_eq_cons {cs rest : List Char} {t : Trivia} (h : read? cs = some (t, rest)) :
    readAll cs = (t :: (readAll rest).1, (readAll rest).2) := by
  rw [readAll]
  split
  · next h' => rw [h] at h'; cases h'
  · next t' rest' h' =>
    rw [h] at h'
    cases h'
    rfl

/-- The trivia read, written out, followed by the rest, is what was read. -/
theorem textOf_append_readAll (cs : List Char) :
    textOf (readAll cs).1 ++ (readAll cs).2 = cs := by
  fun_induction readAll cs with
  | case1 => rfl
  | case2 cs t rest h _ ts rest' hr ih =>
    rw [hr] at ih
    rw [← text_append_of_read? h, ← ih]
    simp [textOf]

/-- Nothing that is left begins with trivia. -/
theorem read?_readAll (cs : List Char) : read? (readAll cs).2 = none := by
  fun_induction readAll cs with
  | case1 cs h => exact h
  | case2 cs t rest h _ ts rest' hr ih =>
    rw [hr] at ih
    exact ih

end Trivia

end Recognizer
