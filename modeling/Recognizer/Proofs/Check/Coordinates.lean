import Recognizer.Proofs.Check.Refinement
import Recognizer.Proofs.Lexical.Tiling
import Recognizer.Proofs.Text.Bytes

/-!
# Where a syntax error is

A syntax error says where its token stands in three ways: by line and column, by the bytes of a
span, and by its text. They are the same place: the token was found by a cursor that counts
characters, the span is looked up by line and column, and its bytes are those of the text.
-/

namespace Recognizer

/-- What a check rejects is a token of the source. -/
theorem exists_token_of_rejected {s : Source} {limits : Limits} {e : SyntaxError}
    (h : (s.check limits).1 = some e) :
    ∃ v : Violation, v.found ∈ s.tokens limits.tokenLength ∧ e = .ofViolation s v := by
  rw [check_fst, Option.map_eq_some_iff] at h
  obtain ⟨v, hv, rfl⟩ := h
  obtain ⟨j, m, hfound, -⟩ := reported_of_rejected hv
  exact ⟨v, List.mem_of_getElem? hfound, rfl⟩

/-- A syntax error at a piece of the text: the span is that of the piece. -/
theorem SyntaxError.span_ofViolation {s : Source} {v : Violation} {before behind : List Char}
    (h : s.chars = before ++ (v.found.text.toList ++ behind)) (ht : v.found.StandsBehind before) :
    (ofViolation s v).span = ⟨byteLength before, byteLength v.found.text.toList⟩ := by
  change s.span v.found.line v.found.column v.found.text.length = _
  rw [ht.1, ht.2, Source.span_of_append h, ← String.length_toList, List.take_left]

/-- A syntax error is about one token of the stream, whose text, line and column it shows. Its span
holds the bytes of that text, and the characters that end with the bytes in front of the span
are those that are counted by the line and column. The end of the source has an empty span
behind the last byte. -/
theorem coordinates_agree (s : Source) (limits : Limits) {e : SyntaxError}
    (h : (s.check limits).1 = some e) :
    let bytes := Text.utf8 s.text
    let before := charsWithin e.span.offset s.chars
    ∃ t ∈ (Lexer.start s.chars limits.tokenLength).drain.1, ∃ x : Expectation,
      e = .ofViolation s ⟨t, x⟩ ∧
      (e.image = t.text ∧ e.line = t.line ∧ e.column = t.column) ∧
      (e.span.offset + e.span.length ≤ bytes.length ∧ e.span.cut bytes = Text.utf8 e.image) ∧
      (before <+: s.chars ∧ byteLength before = e.span.offset ∧
        e.line = 1 + before.count '\n' ∧ e.column = 1 + (lastLine before).length) ∧
      (t.kind = .endOfSource → e.span = ⟨bytes.length, 0⟩) := by
  intro bytes before
  obtain ⟨⟨t, x⟩, hmem, rfl⟩ := exists_token_of_rejected h
  dsimp only at hmem
  obtain ⟨n, ⟨front, behind, hchars, hn, hstands⟩, hend⟩ := Source.exists_placedAt hmem
  have hspan := SyntaxError.span_ofViolation (v := ⟨t, x⟩) hchars hstands
  have hbytes : bytes.length = byteLength front + (byteLength t.text.toList + byteLength behind) := by
    have hlength := length_utf8 s.chars
    rw [hchars, byteLength_append, byteLength_append, ← hchars] at hlength
    exact hlength
  have hbefore : before = front := by
    change charsWithin (SyntaxError.ofViolation s ⟨t, x⟩).span.offset s.chars = front
    rw [hspan, hchars, charsWithin_append]
  have htokens : (Lexer.start s.chars limits.tokenLength).drain.1 = s.tokens limits.tokenLength :=
    Lexer.drain_start s.chars limits.tokenLength
  rw [htokens, hbefore]
  refine ⟨t, hmem, x, rfl, ⟨rfl, rfl, rfl⟩, ⟨?_, ?_⟩, ⟨?_, ?_, hstands.1, hstands.2⟩, fun hk => ?_⟩
  · rw [hspan]
    dsimp only
    omega
  · have hcut := cut_append front t.text.toList behind
    rw [← hchars, String.ofList_toList] at hcut
    rw [hspan]
    exact hcut
  · rw [hchars]
    exact List.prefix_append _ _
  · rw [hspan]
  · have hlength := congrArg List.length hchars
    rw [List.length_append, List.length_append, hn, hend.1 hk] at hlength
    have htext : t.text.toList = [] := List.length_eq_zero_iff.1 (by omega)
    have hbehind : behind = [] := List.length_eq_zero_iff.1 (by omega)
    rw [htext, hbehind] at hbytes
    rw [hspan, htext, hbytes]
    rfl

/-- A source whose last token is misplaced. There are characters of several bytes in the tokens in
front of it and in a comment of two lines. -/
def misplacedWord : Source :=
  ⟨"int ä; /* €\n𝄞 */ int\tñandú é;".toList, by decide, by decide⟩

/-- The syntax error of that source: an identifier where there should have been a semicolon. -/
def misplacedWordError : SyntaxError :=
  ⟨"é", 2, 16, "';' expected", ⟨35, 2⟩⟩

/-- A word out of place behind characters of several bytes, on the second line. -/
theorem coordinates_agree_misplacedWord :
    (misplacedWord.check {}).1 = some misplacedWordError ∧
      let bytes := Text.utf8 misplacedWord.text
      let before := charsWithin misplacedWordError.span.offset misplacedWord.chars
      ∃ t ∈ (Lexer.start misplacedWord.chars 20).drain.1, ∃ x : Expectation,
        misplacedWordError = .ofViolation misplacedWord ⟨t, x⟩ ∧
        (misplacedWordError.image = t.text ∧ misplacedWordError.line = t.line ∧
          misplacedWordError.column = t.column) ∧
        (misplacedWordError.span.offset + misplacedWordError.span.length ≤ bytes.length ∧
          misplacedWordError.span.cut bytes = Text.utf8 misplacedWordError.image) ∧
        (before <+: misplacedWord.chars ∧ byteLength before = misplacedWordError.span.offset ∧
          misplacedWordError.line = 1 + before.count '\n' ∧
          misplacedWordError.column = 1 + (lastLine before).length) ∧
        (t.kind = .endOfSource → misplacedWordError.span = ⟨bytes.length, 0⟩) := by
  have h : (misplacedWord.check {}).1 = some misplacedWordError := by
    decide +kernel
  exact ⟨h, coordinates_agree misplacedWord {} h⟩

end Recognizer
