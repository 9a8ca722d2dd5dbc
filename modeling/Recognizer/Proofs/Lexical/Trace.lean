import Recognizer.Proofs.Lexical.Backtracking

/-!
# What a lexer shows on its way

A lexer that reads on to the end shows, step by step, a token, the place where its cursor stands
then, and what it reports. From the beginning of a text on nothing is kept back by the mark: each
step shows what its reading says.
-/

namespace Recognizer

namespace Lexer

variable {text : List Char} {cap : Nat}

/-- What one step of a lexer shows. -/
structure Step where
  /-- The token returned. -/
  token : Token
  /-- The place of the cursor after the step. -/
  stop : Position
  /-- The diagnostics reported in the step. -/
  reported : List Diagnostic
  deriving DecidableEq, Repr

/-- What the next step shows. -/
def step (l : Lexer text cap) : Step :=
  ⟨l.next.1, l.next.2.cursor.position, l.fresh⟩

/-- What the steps show up to and including the one that reads the end. -/
def trace (l : Lexer text cap) : List Step :=
  if h : l.next.1.kind = .endOfSource then [l.step]
  else
    have : l.next.2.remaining < l.remaining := remaining_next_lt h
    l.step :: trace l.next.2
  termination_by l.remaining

end Lexer

/-- What a step shows that is told in full. -/
def Reading.shown (r : Reading) : Lexer.Step :=
  ⟨r.token, r.stop, r.diagnostics⟩

namespace Lexer

variable {text : List Char} {cap : Nat}

/-- A lexer that reads on for the first time shows the rest of the stream. -/
theorem trace_of_standing (l : Lexer text cap) : ∀ k, l.Standing k k →
    l.trace = ((stream text cap).drop k).map Reading.shown := by
  fun_induction trace l with
  | case1 l hend =>
    intro k h
    have hread := h.belongs
    rw [Belongs, Reading.all_of_end (by rw [← reading_eq]; exact hend), ← reading_eq] at hread
    rw [← hread, List.map_singleton, step, fresh_of_eq h]
    rfl
  | case2 l hend hlt ih =>
    intro k h
    have hk : k ≠ lastIndex text cap := by
      intro hk
      have he := h.belongs.kind_eq_endOfSource_iff.mpr hk
      rw [← reading_eq] at he
      exact hend he
    have hnext := h.next_of_ne_end hk
    have hm : max k (k + 1) = k + 1 := by omega
    rw [hm] at hnext
    rw [h.belongs.drop_eq_cons, ← reading_eq, List.map_cons, ih (k + 1) hnext, step, fresh_of_eq h]
    rfl

/-- A fresh lexer shows the stream. -/
theorem trace_start (text : List Char) (cap : Nat) :
    (start text cap).trace = (stream text cap).map Reading.shown :=
  trace_of_standing _ 0 (standing_start text cap)

/-- The tokens shown are those of the lexer that is drained. -/
theorem map_token_trace (text : List Char) (cap : Nat) :
    (start text cap).trace.map (·.token) = (start text cap).drain.1 := by
  rw [trace_start, drain_start, List.map_map]
  rfl

/-- What is reported step by step is all that is reported. -/
theorem flatMap_reported_trace (text : List Char) (cap : Nat) :
    (start text cap).trace.flatMap (·.reported) = (start text cap).drain.2.reported.toList := by
  rw [trace_start, reported_drain_start, List.flatMap_map]
  rfl

end Lexer

end Recognizer
