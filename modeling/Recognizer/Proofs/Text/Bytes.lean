import Recognizer.Proofs.Text.Lines
import Recognizer.Text.Utf8

/-!
# Bytes

The bytes of a text are those of its characters, one behind the other. So a place in a text is also
known by the number of bytes in front of it, and a span that is looked up by line and column
holds the bytes of what stands there.
-/

namespace Recognizer

/-- The bytes of a text are as many as its characters take up. -/
theorem length_utf8 (cs : List Char) : (Text.utf8 (String.ofList cs)).length = byteLength cs := by
  rw [Text.utf8, String.toList_ofList]
  induction cs with
  | nil => rfl
  | cons c cs ih =>
    rw [List.flatMap_cons, List.length_append, String.length_utf8EncodeChar, ih]
    rfl

/-- The characters of a text whose bytes are among the first `n`. -/
def charsWithin : Nat → List Char → List Char
  | _, [] => []
  | n, c :: cs => if c.utf8Size ≤ n then c :: charsWithin (n - c.utf8Size) cs else []

/-- A place behind some characters is behind their bytes. -/
theorem charsWithin_append (before behind : List Char) :
    charsWithin (byteLength before) (before ++ behind) = before := by
  induction before with
  | nil =>
    cases behind with
    | nil => rfl
    | cons c behind =>
      have hpos := c.utf8Size_pos
      have hzero : ¬ c.utf8Size ≤ byteLength [] := Nat.not_le.2 hpos
      rw [List.nil_append, charsWithin, if_neg hzero]
  | cons c before ih =>
    have hbytes : byteLength (c :: before) = c.utf8Size + byteLength before := rfl
    rw [hbytes, List.cons_append, charsWithin, if_pos (Nat.le_add_right _ _),
      Nat.add_sub_cancel_left, ih]

/-- The bytes of a span. -/
def Span.cut (span : Span) (bytes : List UInt8) : List UInt8 :=
  (bytes.drop span.offset).take span.length

/-- The bytes of a piece of text are found behind those in front of it. -/
theorem cut_append (before piece behind : List Char) :
    (Span.mk (byteLength before) (byteLength piece)).cut
      (Text.utf8 (String.ofList (before ++ (piece ++ behind)))) =
        Text.utf8 (String.ofList piece) := by
  have hbefore := length_utf8 before
  have hpiece := length_utf8 piece
  rw [Span.cut, String.ofList_append, String.ofList_append, Text.utf8_append, Text.utf8_append]
  dsimp only
  rw [← hbefore, List.drop_left, ← hpiece, List.take_left]

namespace Source

/-- The span at the line and column of a place holds the bytes of what stands behind it. -/
theorem span_of_append {s : Source} {passed rest : List Char} (h : s.chars = passed ++ rest)
    (count : Nat) :
    s.span (1 + passed.count '\n') (1 + (lastLine passed).length) count =
      ⟨byteLength passed, byteLength (rest.take count)⟩ := by
  have hline : 1 + passed.count '\n' - 1 = passed.count '\n' := Nat.add_sub_cancel_left ..
  have hcolumn : 1 + (lastLine passed).length - 1 = (lastLine passed).length :=
    Nat.add_sub_cancel_left ..
  rw [span, hline, hcolumn, h, lineStart_add_length, List.take_left, List.drop_left]

end Source

end Recognizer
