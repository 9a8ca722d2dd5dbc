import Recognizer.Proofs.Lexical.Stream

/-!
# Reading further down

A text is read in the same way wherever it begins, if it begins at the beginning of a line. Only
the offsets and the lines of what is read are larger by what stands in front of it.
-/

namespace Recognizer

/-- The place with so many more characters and lines in front of it. -/
def Position.shift (chars lines : Nat) (p : Position) : Position :=
  ⟨chars + p.offset, lines + p.line, p.column⟩

/-- The token with so many more lines in front of it. -/
def Token.shift (lines : Nat) (t : Token) : Token :=
  { t with line := lines + t.line }

@[simp] theorem Token.kind_shift (lines : Nat) (t : Token) : (t.shift lines).kind = t.kind := rfl

/-- The diagnostic, its place moved down by so many lines. -/
def Diagnostic.shift (lines : Nat) (d : Diagnostic) : Diagnostic :=
  { d with location := d.location.map fun l => { l with line := lines + l.line } }

/-- The step with so many more characters and lines in front of it. -/
def Reading.shift (chars lines : Nat) (r : Reading) : Reading :=
  { r with
    token := r.token.shift lines
    start := r.start.shift chars lines
    stop := r.stop.shift chars lines }

namespace Position

variable {chars lines : Nat}

/-- A step over a character is the same further down. -/
theorem step_shift (p : Position) (c : Char) :
    (p.shift chars lines).step c = (p.step c).shift chars lines := by
  unfold step
  split
  · simp [shift, advanceLines, Nat.add_assoc]
  · simp [shift, advanceColumns, Nat.add_assoc]

/-- A step over a text is the same further down. -/
theorem advance_shift (p : Position) (cs : List Char) :
    (p.shift chars lines).advance cs = (p.advance cs).shift chars lines := by
  induction cs generalizing p with
  | nil => rfl
  | cons c cs ih => rw [advance_cons, step_shift, ih, advance_cons]

end Position

namespace Reading

variable {chars lines : Nat}

/-- A text is read in the same way further down. -/
theorem scan_shift (cap : Nat) (p : Position) (cs : List Char) :
    scan cap (p.shift chars lines) cs = (scan cap p cs).shift chars lines := by
  unfold scan
  dsimp only
  rw [Position.advance_shift, Position.advance_shift]
  rfl

/-- From further down the same steps lead to the end. -/
theorem all_shift (cap : Nat) (p : Position) (cs : List Char) :
    all cap (p.shift chars lines) cs = (all cap p cs).map (shift chars lines) := by
  fun_induction all cap p cs with
  | case1 p cs r h =>
    have hend : (scan cap (p.shift chars lines) cs).token.kind = .endOfSource := by
      rw [scan_shift]
      exact h
    rw [all_of_end hend, scan_shift, List.map_singleton]
  | case2 p cs r h hlt ih =>
    have hend : (scan cap (p.shift chars lines) cs).token.kind ≠ .endOfSource := by
      rw [scan_shift]
      exact h
    rw [all_of_ne_end hend, scan_shift, List.map_cons]
    exact congrArg _ ih

/-- What is wrong with a token is reported further down as well. -/
theorem diagnostics_shift (r : Reading) :
    (r.shift chars lines).diagnostics = r.diagnostics.map (Diagnostic.shift lines) := by
  rw [diagnostics, diagnostics, List.map_map]
  rfl

end Reading

end Recognizer
