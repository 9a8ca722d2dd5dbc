import Recognizer.Lexical.Lexer

/-!
# The token stream and a lexer that stands in it

The readings of a text from its beginning to its end are laid out one behind the other: each
begins where the one before it has stopped, or later, and reading the end again gives the end
again. A lexer that is only put back to places where it has been stands in front of one of
these readings, and what it has reported is what belongs to the readings it has passed at
least once.
-/

namespace Recognizer

namespace Lexeme

/-- A lexeme is an error token exactly when something is wrong with it. -/
def Marked (l : Lexeme) : Prop :=
  l.kind = .error ↔ l.faults ≠ []

/-- A numeral is an error token exactly when something is wrong with it. -/
theorem numeral_marked (cap : Nat) (radix : Radix) (text : List Char)
    (digitFaults : List LexicalFault) (rest : List Char) :
    (numeral cap radix text digitFaults rest).Marked := by
  unfold Marked numeral
  dsimp only
  generalize digitFaults ++ (if cap < text.length then [.tooLong] else []) = faults
  cases faults with
  | nil => simp
  | cons fault faults => simp

/-- A word is an error token exactly when it is too long. -/
theorem word_marked (cap : Nat) (cs : List Char) : (word cap cs).Marked := by
  unfold word
  dsimp only
  split
  · simp [Marked]
  · split <;> simp [Marked]

/-- So is a numeral exactly when it is malformed. -/
theorem number_marked (cap : Nat) (cs : List Char) : (number cap cs).Marked := by
  unfold number
  split
  · split
    · unfold hexadecimal
      split <;> exact numeral_marked ..
    · exact numeral_marked ..
  · exact numeral_marked ..
  · exact numeral_marked ..

/-- So is a symbol of one character exactly when it is none of the language. -/
theorem single_marked (c : Char) (cs : List Char) : (single c cs).Marked := by
  unfold single
  split
  · simp [Marked]
  · split <;> simp [Marked]

/-- So is a symbol exactly when it is none of the language. -/
theorem symbol_marked (c : Char) (cs : List Char) : (symbol c cs).Marked := by
  unfold symbol
  split
  · exact single_marked ..
  · split
    · simp [Marked]
    · exact single_marked ..

/-- Whatever is read, it is an error token exactly when something is wrong with it. -/
theorem read_marked (cap : Nat) (cs : List Char) : (read cap cs).Marked := by
  unfold read
  split
  · simp [Marked]
  · simp [Marked]
  · split
    · exact word_marked ..
    · split
      · exact number_marked ..
      · exact symbol_marked ..

/-- A word throws nothing away. -/
theorem word_discarded (cap : Nat) (cs : List Char) : (word cap cs).discarded = [] := by
  unfold word
  dsimp only
  split
  · rfl
  · split <;> rfl

/-- A numeral throws nothing away. -/
theorem number_discarded (cap : Nat) (cs : List Char) : (number cap cs).discarded = [] := by
  unfold number
  split
  · split
    · unfold hexadecimal
      split <;> rfl
    · rfl
  · rfl
  · rfl

/-- A symbol of one character throws nothing away. -/
theorem single_discarded (c : Char) (cs : List Char) : (single c cs).discarded = [] := by
  unfold single
  split
  · rfl
  · split <;> rfl

/-- A symbol throws nothing away. -/
theorem symbol_discarded (c : Char) (cs : List Char) : (symbol c cs).discarded = [] := by
  unfold symbol
  split
  · exact single_discarded ..
  · split
    · rfl
    · exact single_discarded ..

/-- Text is thrown away only behind the opening mark of a comment. -/
theorem read_discarded (cap : Nat) (cs : List Char) :
    (read cap cs).discarded = [] ∨ ∃ rest, cs = '/' :: '*' :: rest := by
  unfold read
  split
  · exact .inl rfl
  · exact .inr ⟨_, rfl⟩
  · left
    split
    · exact word_discarded ..
    · split
      · exact number_discarded ..
      · exact symbol_discarded ..

/-- What is read in front of `c :: cs` without throwing anything away begins with `c`. -/
theorem Covers.exists_tail {l : Lexeme} {c : Char} {cs : List Char} (h : l.Covers (c :: cs))
    (hd : l.discarded = []) (ht : l.text ≠ []) : ∃ u, l.text = c :: u ∧ cs = u ++ l.rest := by
  rw [Covers, consumed, hd, List.append_nil] at h
  cases hl : l.text with
  | nil => exact absurd hl ht
  | cons d u =>
    rw [hl, List.cons_append] at h
    obtain ⟨rfl, hcs⟩ := List.cons.inj h
    exact ⟨u, rfl, hcs.symm⟩

end Lexeme

namespace Reading

variable {cap : Nat} {p : Position} {cs : List Char}

/-- A token is an error token exactly when something is wrong with it. -/
theorem kind_eq_error_iff (cap : Nat) (p : Position) (cs : List Char) :
    (scan cap p cs).token.kind = .error ↔ (scan cap p cs).faults ≠ [] :=
  Lexeme.read_marked cap (Trivia.readAll cs).2

/-- The end is never malformed. -/
theorem faults_of_end (h : (scan cap p cs).token.kind = .endOfSource) :
    (scan cap p cs).faults = [] := by
  by_cases hf : (scan cap p cs).faults = []
  · exact hf
  · have he := (kind_eq_error_iff cap p cs).mpr hf
    rw [h] at he
    cases he

/-- Nothing is to be reported exactly where nothing is wrong. -/
theorem flatMap_diagnostics_eq_nil_iff {rs : List Reading} :
    rs.flatMap diagnostics = [] ↔ ∀ r ∈ rs, r.faults = [] := by
  simp only [List.flatMap_eq_nil_iff, diagnostics, List.map_eq_nil_iff]

/-- What a step passes is counted by the places. -/
theorem stop_offset (cap : Nat) (p : Position) (cs : List Char) :
    (scan cap p cs).stop.offset = p.offset + (passed cap cs).length := by
  rw [stop_eq, Position.advance_offset]

/-- From a place in the text a step leads to a place in the text. -/
theorem stop_le_length (cap : Nat) {text : List Char} (h : p.offset ≤ text.length) :
    (scan cap p (text.drop p.offset)).stop.offset ≤ text.length := by
  have hpassed := congrArg List.length (passed_append_rest cap p (text.drop p.offset))
  rw [List.length_append, List.length_drop] at hpassed
  rw [stop_offset]
  omega

/-- A token begins no earlier than the step that reads it. -/
theorem offset_le_start (cap : Nat) (p : Position) (cs : List Char) :
    p.offset ≤ (scan cap p cs).start.offset := by
  simp only [scan, Position.advance_offset]
  omega

/-- A token begins no later than it stops. -/
theorem start_le_stop (cap : Nat) (p : Position) (cs : List Char) :
    (scan cap p cs).start.offset ≤ (scan cap p cs).stop.offset := by
  simp only [scan, Position.advance_offset]
  omega

/-- A token before the end takes up room. -/
theorem start_lt_stop (h : (scan cap p cs).token.kind ≠ .endOfSource) :
    (scan cap p cs).start.offset < (scan cap p cs).stop.offset := by
  have hn : (Trivia.readAll cs).2 ≠ [] := fun hn => h ((kind_eq_endOfSource_iff cap p cs).2 hn)
  have ht := List.length_pos_iff.2 (Lexeme.read_solid cap hn).2
  simp only [scan, Position.advance_offset, Lexeme.consumed, List.length_append]
  omega

/-- Behind the end nothing is left. -/
theorem rest_of_end (h : (scan cap p cs).token.kind = .endOfSource) : (scan cap p cs).rest = [] := by
  have hn := (kind_eq_endOfSource_iff cap p cs).1 h
  simp [scan, hn, Lexeme.read]

/-- The end has no text. -/
theorem text_of_end (h : (scan cap p cs).token.kind = .endOfSource) :
    (scan cap p cs).token.text = "" := by
  have hn := (kind_eq_endOfSource_iff cap p cs).1 h
  simp [scan, hn, Lexeme.read]

/-- From the empty text the end is read. -/
theorem kind_scan_nil (cap : Nat) (p : Position) : (scan cap p []).token.kind = .endOfSource := by
  rw [kind_eq_endOfSource_iff, Trivia.readAll_eq_nil rfl]

/-- A comment that is opened and not closed is an error token behind which nothing is left. -/
theorem scan_of_open (cap : Nat) (p : Position) {rest : List Char}
    (ho : (Trivia.readAll cs).2 = '/' :: '*' :: rest) :
    (scan cap p cs).faults = [.unclosedComment] ∧ (scan cap p cs).token.kind = .error ∧
      (scan cap p cs).token.text = "/*" ∧ (scan cap p cs).rest = [] := by
  refine ⟨?_, ?_, ?_, ?_⟩ <;> simp [scan, ho, Lexeme.read]

/-- Behind the end the end is read again. -/
theorem scan_stop_of_end (h : (scan cap p cs).token.kind = .endOfSource) :
    scan cap (scan cap p cs).stop (scan cap p cs).rest = scan cap p cs := by
  have hn := (kind_eq_endOfSource_iff cap p cs).mp h
  have ht : Trivia.readAll [] = ([], []) := Trivia.readAll_eq_nil rfl
  simp [scan, hn, Lexeme.read, Lexeme.consumed, ht, Trivia.textOf]

/-- The readings of a text end where the end is read. -/
theorem all_of_end (h : (scan cap p cs).token.kind = .endOfSource) :
    all cap p cs = [scan cap p cs] := by
  rw [all]
  exact dif_pos h

/-- In front of the end the readings are that of the next token and those behind it. -/
theorem all_of_ne_end (h : (scan cap p cs).token.kind ≠ .endOfSource) :
    all cap p cs = scan cap p cs :: all cap (scan cap p cs).stop (scan cap p cs).rest := by
  rw [all]
  exact dif_neg h

/-- There is always a next reading. -/
theorem all_eq_cons (cap : Nat) (p : Position) (cs : List Char) :
    ∃ tail, all cap p cs = scan cap p cs :: tail := by
  by_cases h : (scan cap p cs).token.kind = .endOfSource
  · exact ⟨[], all_of_end h⟩
  · exact ⟨_, all_of_ne_end h⟩

/-- There is always a reading, that of the end if nothing else. -/
theorem all_ne_nil (cap : Nat) (p : Position) (cs : List Char) : all cap p cs ≠ [] := by
  obtain ⟨tail, ht⟩ := all_eq_cons cap p cs
  rw [ht]
  exact List.cons_ne_nil _ _

/-- No reading from a place on begins before that place. -/
theorem offset_le_start_of_mem {r : Reading} (hr : r ∈ all cap p cs) :
    p.offset ≤ r.start.offset := by
  fun_induction all cap p cs with
  | case1 p cs r' h =>
    rw [List.mem_singleton.mp hr]
    exact offset_le_start cap p cs
  | case2 p cs r' h hlt ih =>
    have hs := offset_le_start cap p cs
    have hp := start_le_stop cap p cs
    rcases List.mem_cons.mp hr with rfl | hm
    · exact hs
    · have hi := ih hm
      change (scan cap p cs).stop.offset ≤ r.start.offset at hi
      omega

/-- Each reading stops before the next one begins. -/
theorem all_pairwise (cap : Nat) (p : Position) (cs : List Char) :
    (all cap p cs).Pairwise fun r r' => r.stop.offset ≤ r'.start.offset := by
  fun_induction all cap p cs with
  | case1 p cs r h => exact List.pairwise_singleton _ _
  | case2 p cs r h hlt ih =>
    refine List.pairwise_cons.mpr ⟨?_, ih⟩
    intro r' hr'
    exact offset_le_start_of_mem hr'

/-- A reading of the stream is a step from the place behind what has been passed. -/
theorem eq_scan_of_mem {r : Reading} (hr : r ∈ all cap p cs) :
    ∃ front ahead, cs = front ++ ahead ∧ r = scan cap (p.advance front) ahead := by
  fun_induction all cap p cs with
  | case1 p cs r' h => exact ⟨[], cs, rfl, List.mem_singleton.mp hr⟩
  | case2 p cs r' h hlt ih =>
    rcases List.mem_cons.mp hr with rfl | hm
    · exact ⟨[], cs, rfl, rfl⟩
    · obtain ⟨front, ahead, hrest, he⟩ := ih hm
      refine ⟨passed cap cs ++ front, ahead, ?_, ?_⟩
      · rw [List.append_assoc, ← hrest]
        exact (passed_append_rest cap p cs).symm
      · rw [Position.advance_append, ← stop_eq]
        exact he

/-- A reading of a source is one lexeme, read where no trivia is in front of it. -/
theorem exists_lexeme_of_mem {s : Source} {r : Reading} (hr : r ∈ s.readings cap) :
    ∃ before ahead, s.chars = before ++ ahead ∧ Trivia.read? ahead = none ∧
      r.start = Position.start.advance before ∧
      r.token.kind = (Lexeme.read cap ahead).kind ∧
      r.token.text.toList = (Lexeme.read cap ahead).text ∧
      r.token.line = r.start.line ∧ r.token.column = r.start.column := by
  obtain ⟨front, ahead, hc, rfl⟩ := eq_scan_of_mem hr
  refine ⟨front ++ Trivia.textOf (Trivia.readAll ahead).1, (Trivia.readAll ahead).2, ?_,
    Trivia.read?_readAll ahead, (Position.advance_append ..).symm, rfl, String.toList_ofList,
    rfl, rfl⟩
  rw [List.append_assoc, Trivia.textOf_append_readAll, hc]

/-- The readings from a place on are tokens before the end, and then the end. -/
theorem all_eq_append_end (cap : Nat) (p : Position) (cs : List Char) :
    ∃ before last, all cap p cs = before ++ [last] ∧ last.token.kind = .endOfSource ∧
      ∀ r ∈ before, r.token.kind ≠ .endOfSource := by
  fun_induction all cap p cs with
  | case1 p cs r h => exact ⟨[], r, rfl, h, by simp⟩
  | case2 p cs r h hlt ih =>
    obtain ⟨before, last, ha, hl, hb⟩ := ih
    refine ⟨r :: before, last, by rw [ha, List.cons_append], hl, ?_⟩
    intro r' hr'
    rcases List.mem_cons.mp hr' with rfl | hm
    · exact h
    · exact hb r' hm

end Reading

end Recognizer
