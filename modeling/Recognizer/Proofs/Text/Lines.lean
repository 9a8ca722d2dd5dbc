import Mathlib.Data.List.DropRight
import Recognizer.Output.Dump

/-!
# Lines

A place in a text is known by what stands in front of it: its line is found by counting line feeds
and its column by counting the characters since the last one. Lines that are looked up by number
are found again at such a place.
-/

namespace Recognizer

/-- The characters of a piece of text since its last line feed. -/
def lastLine (cs : List Char) : List Char :=
  cs.rtakeWhile (· != '\n')

/-- Behind a line feed a line is empty. -/
theorem lastLine_concat_newline (cs : List Char) : lastLine (cs ++ ['\n']) = [] := by
  rw [lastLine, List.rtakeWhile_concat_neg]
  decide

/-- Any other character makes the last line longer. -/
theorem lastLine_concat {c : Char} (cs : List Char) (h : c ≠ '\n') :
    lastLine (cs ++ [c]) = lastLine cs ++ [c] := by
  rw [lastLine, List.rtakeWhile_concat_pos]
  · rfl
  · exact bne_iff_ne.2 h

namespace Position

/-- Stepping over a text and a character behind it. -/
theorem advance_concat (p : Position) (cs : List Char) (c : Char) :
    p.advance (cs ++ [c]) = (p.advance cs).step c := by
  rw [advance_append]
  rfl

/-- The line is found by counting line feeds, and the column by counting what comes after the
last of them. -/
theorem advance_start (cs : List Char) :
    start.advance cs = ⟨cs.length, 1 + cs.count '\n', 1 + (lastLine cs).length⟩ := by
  induction cs using List.reverseRecOn with
  | nil => rfl
  | append_singleton cs c ih =>
    rw [advance_concat, ih, step]
    by_cases hc : c = '\n'
    · subst hc
      simp [advanceLines, lastLine_concat_newline, Nat.add_assoc]
    · simp [advanceColumns, lastLine_concat cs hc, hc, Nat.add_assoc]

end Position

/-- Every text is lines that are complete, and then its last line. -/
theorem eq_append_lastLine (cs : List Char) : ∃ front, cs = front ++ lastLine cs ∧
    front.count '\n' = cs.count '\n' ∧ (front = [] ∨ ∃ before, front = before ++ ['\n']) := by
  induction cs using List.reverseRecOn with
  | nil => exact ⟨[], rfl, rfl, .inl rfl⟩
  | append_singleton cs c ih =>
    obtain ⟨front, he, hc, hf⟩ := ih
    by_cases hn : c = '\n'
    · subst hn
      refine ⟨cs ++ ['\n'], ?_, rfl, .inr ⟨cs, rfl⟩⟩
      rw [lastLine_concat_newline, List.append_nil]
    · refine ⟨front, ?_, ?_, hf⟩
      · rw [lastLine_concat cs hn, ← List.append_assoc, ← he]
      · rw [hc, List.count_append, List.count_singleton, if_neg (by simpa using hn)]
        rfl

/-- There is no line feed in the last line. -/
theorem newline_notMem_lastLine (cs : List Char) : '\n' ∉ lastLine cs := by
  intro h
  have hn := List.mem_rtakeWhile_imp h
  exact absurd hn (by decide)

@[simp] theorem lineStart_zero (cs : List Char) : lineStart 0 cs = 0 := by
  cases cs <;> rfl

/-- Behind complete lines the lines of the rest begin. -/
theorem lineStart_append_newline (before rest : List Char) (n : Nat) :
    lineStart (before.count '\n' + 1 + n) (before ++ '\n' :: rest) =
      before.length + 1 + lineStart n rest := by
  induction before with
  | nil =>
    have hone : ([] : List Char).count '\n' + 1 + n = n + 1 := by
      rw [List.count_nil]
      omega
    rw [hone, List.nil_append, lineStart, if_pos rfl, List.length_nil]
  | cons c before ih =>
    rw [List.cons_append, List.length_cons]
    by_cases hc : c = '\n'
    · subst hc
      have hcount : ('\n' :: before).count '\n' + 1 + n = before.count '\n' + 1 + n + 1 := by
        rw [List.count_cons_self]
        omega
      rw [hcount, lineStart, if_pos rfl, ih]
      omega
    · have hcount : (c :: before).count '\n' + 1 + n = before.count '\n' + n + 1 := by
        rw [List.count_cons_of_ne hc]
        omega
      have hnext : before.count '\n' + n + 1 = before.count '\n' + 1 + n := by omega
      rw [hcount, lineStart, if_neg hc, hnext, ih]
      omega

/-- The last line of a place begins so many characters in front of it as stand on that line. -/
theorem lineStart_add_length (passed rest : List Char) :
    lineStart (passed.count '\n') (passed ++ rest) + (lastLine passed).length = passed.length := by
  obtain ⟨front, he, hc, rfl | ⟨before, rfl⟩⟩ := eq_append_lastLine passed
  · rw [← hc, List.count_nil, lineStart_zero, Nat.zero_add, ← List.nil_append (lastLine passed),
      ← he]
  · have hcount : passed.count '\n' = before.count '\n' + 1 + 0 := by
      rw [← hc, List.count_append, List.count_singleton_self]
    have htext : passed ++ rest = before ++ '\n' :: (lastLine passed ++ rest) := by
      conv_lhs => rw [he]
      simp
    have hlength := congrArg List.length he
    rw [List.length_append, List.length_append, List.length_singleton] at hlength
    rw [hcount, htext, lineStart_append_newline, lineStart_zero]
    omega

/-- Where as many lines are passed as are complete, the last one is left. -/
theorem drop_lineStart (passed rest : List Char) :
    (passed ++ rest).drop (lineStart (passed.count '\n') (passed ++ rest)) =
      lastLine passed ++ rest := by
  obtain ⟨front, he, -, -⟩ := eq_append_lastLine passed
  have hlength := congrArg List.length he
  rw [List.length_append] at hlength
  have hsum := lineStart_add_length passed rest
  have hstart : lineStart (passed.count '\n') (passed ++ rest) = front.length := by omega
  have htext : passed ++ rest = front ++ (lastLine passed ++ rest) := by
    rw [← List.append_assoc, ← he]
  rw [hstart, htext, List.drop_left]

/-- The bytes of two texts one behind the other. -/
theorem byteLength_append (cs ds : List Char) :
    byteLength (cs ++ ds) = byteLength cs + byteLength ds := by
  induction cs with
  | nil => exact (Nat.zero_add _).symm
  | cons c cs ih =>
    change c.utf8Size + byteLength (cs ++ ds) = c.utf8Size + byteLength cs + byteLength ds
    rw [ih, Nat.add_assoc]

namespace Source

/-- Behind complete lines a piece is as long as it would be without them. -/
theorem span_append {s t : Source} {before : List Char} (h : s.chars = before ++ '\n' :: t.chars)
    {line : Nat} (hl : 1 ≤ line) (column count : Nat) :
    s.span (before.count '\n' + 1 + line) column count =
      ⟨byteLength before + 1 + (t.span line column count).offset,
        (t.span line column count).length⟩ := by
  have hline : before.count '\n' + 1 + line - 1 = before.count '\n' + 1 + (line - 1) := by omega
  have hplace : before.length + 1 + lineStart (line - 1) t.chars + (column - 1) =
      (before ++ ['\n']).length + (lineStart (line - 1) t.chars + (column - 1)) := by
    rw [List.length_append, List.length_singleton, Nat.add_assoc]
  have hbytes : byteLength (before ++ ['\n']) = byteLength before + 1 := by
    rw [byteLength_append]
    rfl
  unfold span
  dsimp only
  rw [hline, h, lineStart_append_newline, hplace, List.append_cons before '\n' t.chars,
    List.take_length_add_append, List.drop_length_add_append, byteLength_append, hbytes]

/-- The line of a place is what stands there, from the last line feed in front of the place to the
next one behind it. -/
theorem lineText_of_append {s : Source} {passed rest : List Char} (h : s.chars = passed ++ rest) :
    s.lineText (1 + passed.count '\n') =
      some (String.ofList (lastLine passed ++ rest.takeWhile (· != '\n'))) := by
  have hline : 1 + passed.count '\n' - 1 = passed.count '\n' := by omega
  have hnot : ¬ (1 + passed.count '\n' = 0 ∨ s.chars.count '\n' < passed.count '\n') := by
    rw [h, List.count_append]
    omega
  have hlast : ∀ c ∈ lastLine passed, (c != '\n') = true := by
    intro c hc
    rw [bne_iff_ne]
    rintro rfl
    exact newline_notMem_lastLine passed hc
  rw [lineText, hline, if_neg hnot, h, drop_lineStart, List.takeWhile_append_of_pos hlast]

/-- A token without a line feed that stands where its line and column say is found there. -/
theorem holds_of_append {s : Source} {t : Token} {passed behind : List Char}
    (h : s.chars = passed ++ (t.text.toList ++ behind)) (hn : '\n' ∉ t.text.toList)
    (hl : t.line = 1 + passed.count '\n') (hc : t.column = 1 + (lastLine passed).length) :
    s.holds t = true := by
  have htext : ∀ c ∈ t.text.toList, (c != '\n') = true := by
    intro c hc
    rw [bne_iff_ne]
    rintro rfl
    exact hn hc
  have hcolumn : t.column - 1 = (lastLine passed).length := by omega
  rw [holds, hl, lineText_of_append h]
  dsimp only
  rw [String.toList_ofList, hcolumn, List.drop_left, List.takeWhile_append_of_pos htext,
    ← String.length_toList, List.take_left, String.ofList_toList]
  exact beq_self_eq_true _

end Source

end Recognizer
