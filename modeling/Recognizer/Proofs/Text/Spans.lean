import Recognizer.Proofs.Text.Bytes
import Recognizer.Proofs.Text.Slicing

/-!
# Looking up a place by its line and column

A place in a text has an offset, and a line and a column that are found by advancing to it. What is
looked up under that line and column is what stands at the offset: its bytes, its characters in
their line, and the slice. For the lookup of bytes the text is cut at places that are told in
bytes; whatever the line and column are, it can be cut there.
-/

namespace Recognizer

/-- The lines of a text without their line feeds: line `n` from zero is what stands between the
`n`th line feed and the next one. -/
theorem getElem?_splitOn_newline (cs : List Char) (n : Nat) :
    (cs.splitOn '\n')[n]? =
      if cs.count '\n' < n then none
      else some ((cs.drop (lineStart n cs)).takeWhile (· != '\n')) := by
  induction cs generalizing n with
  | nil =>
    cases n with
    | zero => simp
    | succ n => simp
  | cons c cs ih =>
    rw [List.splitOn_cons_eq_if_modifyHead]
    by_cases hc : c = '\n'
    · subst hc
      rw [if_pos (beq_self_eq_true _), List.count_cons_self]
      cases n with
      | zero => simp
      | succ n =>
        rw [List.getElem?_cons_succ, ih, lineStart, if_pos rfl, Nat.add_comm 1, List.drop_succ_cons]
        simp only [Nat.add_lt_add_iff_right]
    · rw [if_neg (by simpa using hc), List.count_cons_of_ne hc]
      cases n with
      | zero =>
        have hfirst := ih 0
        simp only [Nat.not_lt_zero, if_false, lineStart_zero, List.drop_zero] at hfirst ⊢
        have hkeep : (c != '\n') = true := bne_iff_ne.2 hc
        rw [List.getElem?_modifyHead_zero, hfirst, Option.map_some, List.takeWhile_cons, hkeep]
        rfl
      | succ n =>
        rw [List.getElem?_modifyHead_succ, ih, lineStart, if_neg hc, Nat.add_comm 1,
          List.drop_succ_cons]

namespace Source

/-- The line that is found by splitting the text at every line feed. Behind a last line feed there
is one line more, which is empty. -/
def lineBySplitting? (s : Source) (line : Nat) : Option String :=
  if line = 0 then none else (s.chars.splitOn '\n')[line - 1]?.map String.ofList

/-- The span that is found by bytes. The bytes of the lines in front are added up, the text is cut
behind them, the bytes of the columns in front are added, and the text is cut again. -/
def spanByBytes? (s : Source) (line column count : Nat) : Option Span := do
  let lineByte := totalBytes ((linesWithEnds s.chars).take (line - 1))
  let (_, fromLine) ← cutAt? lineByte s.chars
  let first := lineByte + byteLength (fromLine.take (column - 1))
  let (_, fromPlace) ← cutAt? first s.chars
  return ⟨first, byteLength (fromPlace.take count)⟩

/-- A line of a source is the one that is found by splitting its text. -/
theorem lineText_eq_lineBySplitting (s : Source) (line : Nat) :
    s.lineText line = s.lineBySplitting? line := by
  unfold lineText lineBySplitting?
  by_cases hl : line = 0
  · simp [hl]
  · rw [if_neg hl, getElem?_splitOn_newline]
    by_cases hc : s.chars.count '\n' < line - 1
    · rw [if_pos (.inr hc), if_pos hc, Option.map_none]
    · rw [if_neg (not_or.2 ⟨hl, hc⟩), if_neg hc, Option.map_some]

/-- Behind the first `n` characters a text can be cut. -/
theorem cutAt?_take (n : Nat) (cs : List Char) :
    cutAt? (byteLength (cs.take n)) cs = some (cs.take n, cs.drop n) :=
  cutAt?_eq_some_iff.2 ⟨(List.take_append_drop n cs).symm, rfl⟩

/-- Looking up bytes never cuts a text where it cannot be cut. -/
theorem spanByBytes?_eq (s : Source) (line column count : Nat) :
    s.spanByBytes? line column count = some (s.span line column count) := by
  have hline : totalBytes ((linesWithEnds s.chars).take (line - 1)) =
      byteLength (s.chars.take (lineStart (line - 1) s.chars)) := by
    rw [totalBytes_eq, flatten_take_linesWithEnds]
  have hplace : byteLength (s.chars.take (lineStart (line - 1) s.chars)) +
        byteLength ((s.chars.drop (lineStart (line - 1) s.chars)).take (column - 1)) =
      byteLength (s.chars.take (lineStart (line - 1) s.chars + (column - 1))) := by
    rw [← byteLength_append, ← List.take_add]
  rw [spanByBytes?, hline, cutAt?_take]
  simp only [Option.bind_eq_bind, Option.bind_some, hplace, cutAt?_take]
  rfl

/-- A span is a piece of the text between two places where it can be cut. -/
theorem exists_piece_of_span (s : Source) (line column count : Nat) :
    ∃ front piece back, s.chars = front ++ (piece ++ back) ∧
      s.span line column count = ⟨byteLength front, byteLength piece⟩ := by
  let before := lineStart (line - 1) s.chars + (column - 1)
  refine ⟨s.chars.take before, (s.chars.drop before).take count,
    (s.chars.drop before).drop count, ?_, rfl⟩
  rw [List.take_append_drop, List.take_append_drop]

/-- The characters of a slice that does not reach into the end marks. -/
theorem slice_of_le {s : Source} {p count : Nat} (h : p + count ≤ s.chars.length) :
    s.slice p (p + count) = String.ofList ((s.chars.drop p).take count) := by
  have hrange : p ≤ p + count ∧ p + count ≤ s.length := ⟨Nat.le_add_right _ _, by
    rw [length]
    omega⟩
  rw [slice, if_pos hrange, Nat.add_sub_cancel_left, List.drop_append_of_le_length (by omega),
    List.take_append_of_le_length (by rw [List.length_drop]; omega)]

/-- In the line of a place, behind the columns in front of it, stands what stands at the place, as
far as that is on one line. -/
theorem take_drop_lineText {s : Source} {passed rest : List Char} {count : Nat}
    (h : s.chars = passed ++ rest) (hn : '\n' ∉ rest.take count) :
    ∃ line, s.lineText (1 + passed.count '\n') = some line ∧
      (line.toList.drop (lastLine passed).length).take count = rest.take count := by
  have hline : ∀ c ∈ rest.take count, (c != '\n') = true := by
    intro c hc
    rw [bne_iff_ne]
    rintro rfl
    exact hn hc
  refine ⟨_, lineText_of_append h, ?_⟩
  rw [String.toList_ofList, List.drop_left, List.take_takeWhile, List.takeWhile_eq_self_iff.2 hline]

/-- What is looked up under the line and column of a place is what stands there: the span has the
bytes in front of the place and those of the characters from it on, the slice has these characters,
and if they are on one line, the text of that line has them behind the columns in front. Under any
line and column at all there is a span between two places where the text can be cut, and the lookup
by bytes finds it. -/
theorem lookups_agree_with_place (s : Source) :
    (∀ p count,
      let front := s.chars.take p
      let piece := (s.chars.drop p).take count
      let place := Position.start.advance front
      s.span place.line place.column count =
          ⟨(Text.utf8 (String.ofList front)).length, (Text.utf8 (String.ofList piece)).length⟩ ∧
        (p + count ≤ s.chars.length → s.slice p (p + count) = String.ofList piece) ∧
        ('\n' ∉ piece → ∃ line, s.lineText place.line = some line ∧
          (line.toList.drop (place.column - 1)).take count = piece)) ∧
    ∀ line column count,
      let span := s.span line column count
      s.spanByBytes? line column count = some span ∧
        s.lineText line = s.lineBySplitting? line ∧
        span.offset + span.length ≤ (Text.utf8 s.text).length ∧
        ∃ front piece back, s.chars = front ++ (piece ++ back) ∧
          (Text.utf8 (String.ofList front)).length = span.offset ∧
          (Text.utf8 (String.ofList (front ++ piece))).length = span.offset + span.length := by
  refine ⟨fun p count => ?_, fun line column count => ?_⟩
  · intro front piece place
    have hchars : s.chars = front ++ s.chars.drop p := (List.take_append_drop p s.chars).symm
    have hplace : place = ⟨front.length, 1 + front.count '\n', 1 + (lastLine front).length⟩ :=
      Position.advance_start front
    rw [hplace, length_utf8, length_utf8]
    refine ⟨span_of_append hchars count, slice_of_le, fun hn => ?_⟩
    rw [Nat.add_sub_cancel_left]
    exact take_drop_lineText hchars hn
  · intro span
    obtain ⟨front, piece, back, hchars, hspan⟩ := s.exists_piece_of_span line column count
    have hall : (Text.utf8 s.text).length =
        byteLength front + (byteLength piece + byteLength back) := by
      rw [text, length_utf8, hchars, byteLength_append, byteLength_append]
    have hfirst : span.offset = byteLength front := congrArg Span.offset hspan
    have hlength : span.length = byteLength piece := congrArg Span.length hspan
    refine ⟨s.spanByBytes?_eq line column count, s.lineText_eq_lineBySplitting line, ?_,
      front, piece, back, hchars, ?_, ?_⟩
    · rw [hall, hfirst, hlength]
      omega
    · rw [length_utf8, hfirst]
    · rw [length_utf8, byteLength_append, hfirst, hlength]

end Source

end Recognizer
