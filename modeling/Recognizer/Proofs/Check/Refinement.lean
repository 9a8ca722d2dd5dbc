import Recognizer.Check
import Recognizer.Proofs.Grammar.Simulation
import Recognizer.Proofs.Grammar.Tape
import Recognizer.Proofs.Lexical.Standing

/-!
# A parser and the tape of all its tokens

A parser that reads its tokens from the text when they are asked for, and goes back in the
text to read them again, comes to the same end as the same procedures on a tape on which all
tokens stand already. While it goes on it has never read more than two tokens beyond the one in
front of it, and none of those behind it is malformed; so what it has reported when it stops
is what belongs to the tokens up to the offending one, or to the one after that.
-/

namespace Recognizer

open TokenSource Lexer

variable {text : List Char} {cap : Nat}

/-- A tape with every token of a source. -/
def Source.tape (s : Source) (cap : Nat) : TokenTape :=
  ⟨s.tokens cap, 0⟩

/-- A source has as many tokens as readings, the end among them. -/
theorem Source.length_tokens (s : Source) (cap : Nat) :
    (s.tokens cap).length = lastIndex s.chars cap + 1 := by
  rw [← length_stream]
  exact List.length_map _

/-- No class of the grammar covers an error token. -/
theorem Terminal.covers_error (c : Terminal) : c.covers .error = false := by
  cases c <;> rfl

/-- No class of tokens has the error tokens in it. -/
theorem Terminal.ne_error_of_covers {c : Terminal} {kind : TokenKind}
    (h : c.covers kind = true) : kind ≠ .error := by
  rintro rfl
  rw [covers_error] at h
  cases h

/-- A parser and a tape stand in front of the `i`th token, and the parser has passed `k`. -/
structure Beside (p : Parser text cap) (t : TokenTape) (i k : Nat) : Prop where
  /-- The lexer of the parser stands in front of the `i`th reading. -/
  standing : p.lexer.Standing i k
  /-- The tokens from the `i`th on are left on the tape. -/
  tokens : t.tokens = ((stream text cap).map (·.token)).drop i
  /-- Both are inside the same number of constructs. -/
  depth : t.depth = p.depth

namespace Beside

variable {p p' : Parser text cap} {t t' : TokenTape} {i j k m : Nat}

/-- The tape offers the token of the reading in front of the parser, and then the rest. -/
theorem next_tape (h : Beside p t i k) :
    t.next = ((p.lexer.cursor.reading cap).token,
      ⟨((stream text cap).map (·.token)).drop (following text cap i), t.depth⟩) := by
  have hb := h.standing.belongs
  have hle := hb.index_le
  have hkind := hb.kind_eq_endOfSource_iff
  have hdrop := hb.drop_eq_cons
  rw [← reading_eq] at hkind hdrop
  have ht : t.tokens = (p.lexer.cursor.reading cap).token ::
      ((stream text cap).map (·.token)).drop (i + 1) := by
    rw [h.tokens, ← List.map_drop, hdrop, List.map_cons, List.map_drop]
  by_cases he : i = lastIndex text cap
  · have hf : following text cap i = i := by unfold following; omega
    have hend := hkind.mpr he
    simp only [TokenTape.next, ht]
    rw [if_pos hend, hf, ← h.tokens]
  · have hf : following text cap i = i + 1 := by unfold following; omega
    have hend := fun hk => he (hkind.mp hk)
    simp only [TokenTape.next, ht]
    rw [if_neg hend, hf]

/-- Side by side a parser and a tape read the same token. -/
theorem token_eq (h : Beside p t i k) : (next p).1 = (next t).1 := by
  have ht := congrArg Prod.fst h.next_tape
  exact ht.symm

/-- Reading a token takes both to the following index. -/
theorem next (h : Beside p t i k) :
    Beside (TokenSource.next p).2 (TokenSource.next t).2 (following text cap i)
      (max k (following text cap i)) := by
  have ht := congrArg Prod.snd h.next_tape
  change t.next.2 = _ at ht
  refine ⟨h.standing.next, ?_, ?_⟩
  · change t.next.2.tokens = _
    rw [ht]
  · change t.next.2.depth = _
    rw [ht]
    exact h.depth

/-- Putting both back restores the index, and what has been passed stays passed. -/
theorem rewind (hs : Beside p t i k) (hn : Beside p' t' j m) (hi : i ≤ m) :
    Beside (rewind p p') (TokenSource.rewind t t') i m :=
  ⟨hs.standing.rewind hn.standing hi, hs.tokens, hn.depth⟩

/-- They stay side by side when a construct is opened. -/
theorem enter (h : Beside p t i k) : Beside (TokenSource.enter p) (TokenSource.enter t) i k :=
  ⟨h.standing, h.tokens, congrArg (· + 1) h.depth⟩

/-- They stay side by side when a construct is closed. -/
theorem leave (h : Beside p t i k) : Beside (TokenSource.leave p) (TokenSource.leave t) i k :=
  ⟨h.standing, h.tokens, congrArg (· - 1) h.depth⟩

/-- Looking at a token passes it and nothing else. -/
theorem look (h : Beside p t i k) :
    Beside (TokenSource.rewind p (TokenSource.next p).2)
      (TokenSource.rewind t (TokenSource.next t).2) i (max k (following text cap i)) := by
  have hi := h.standing.index_le
  exact h.rewind h.next (by omega)

end Beside

/-- A parser and a tape in the middle of a program: the parser has not passed more than two
tokens beyond the one in front of it, and those behind it are not malformed. -/
def Abreast (p : Parser text cap) (t : TokenTape) : Prop :=
  ∃ i k, Beside p t i k ∧ k ≤ i + 2 ∧ ∀ r ∈ (stream text cap).take i, r.faults = []

/-- A parser and a tape after a violation at the `j`th token: both stand in front of that token
or behind it, and the parser has not passed more than one token beyond it. -/
structure Halted (v : Violation) (p : Parser text cap) (t : TokenTape) (i j k : Nat) : Prop where
  /-- Parser and tape stand beside one another. -/
  beside : Beside p t i k
  /-- The offending token is the `j`th. -/
  found : ((stream text cap)[j]?).map (·.token) = some v.found
  /-- It has been read for good or put back. -/
  index_eq : i = j ∨ i = following text cap j
  /-- It has been passed. -/
  passed : following text cap j ≤ k
  /-- At most one token beyond it has been passed. -/
  furthest_le : k ≤ j + 2

namespace Beside

variable {p : Parser text cap} {t : TokenTape} {i k : Nat}

/-- A violation at the token in front, which has been read. -/
theorem halted_read (h : Beside p t i k) (hk : k ≤ i + 2) (e : Expectation) :
    Halted ⟨(TokenSource.next p).1, e⟩ (TokenSource.next p).2 (TokenSource.next t).2
      (following text cap i) i (max k (following text cap i)) := by
  have hf : following text cap i ≤ i + 1 := Nat.min_le_left _ _
  have hr := h.standing.token_next
  refine ⟨h.next, ?_, Or.inr rfl, by omega, by omega⟩
  rw [hr]
  rfl

/-- A violation at the token in front, which has been put back. -/
theorem halted_look (h : Beside p t i k) (hk : k ≤ i + 2) (e : Expectation) :
    Halted ⟨(TokenSource.next p).1, e⟩ (TokenSource.rewind p (TokenSource.next p).2)
      (TokenSource.rewind t (TokenSource.next t).2) i i (max k (following text cap i)) := by
  have hf : following text cap i ≤ i + 1 := Nat.min_le_left _ _
  have hr := h.standing.token_next
  refine ⟨h.look, ?_, Or.inl rfl, by omega, by omega⟩
  rw [hr]
  rfl

end Beside

namespace Abreast

variable {p : Parser text cap} {t : TokenTape}

/-- Reading a token that the grammar knows: it is not malformed. -/
theorem read (h : Abreast p t) {c : Terminal} (hc : c.covers (next p).1.kind = true) :
    Abreast (next p).2 (next t).2 := by
  obtain ⟨i, k, hb, hk, hclean⟩ := h
  have hbelongs := hb.standing.belongs
  have hle := hbelongs.index_le
  have hkind := hbelongs.kind_eq_endOfSource_iff
  have hsome := hb.standing.token_next
  rw [← reading_eq] at hkind
  have hend : i ≠ lastIndex text cap := by
    intro he
    exact Terminal.ne_endOfSource_of_covers hc (hkind.mpr he)
  have hfaults : (p.lexer.cursor.reading cap).faults = [] := by
    by_cases hf : (p.lexer.cursor.reading cap).faults = []
    · exact hf
    · have herror := (Reading.kind_eq_error_iff cap p.lexer.cursor.position
        p.lexer.cursor.rest).mpr hf
      exact absurd herror (Terminal.ne_error_of_covers hc)
  have hf : following text cap i = i + 1 := by unfold following; omega
  have hnext := hb.next
  rw [hf] at hnext
  refine ⟨i + 1, max k (i + 1), hnext, by omega, ?_⟩
  intro r hr
  rw [List.take_add_one, hsome, Option.toList_some] at hr
  rcases List.mem_append.mp hr with hr | hr
  · exact hclean r hr
  · rw [List.mem_singleton.mp hr]
    exact hfaults

/-- They stay abreast when a token is looked at and put back. -/
theorem look (h : Abreast p t) : Abreast (rewind p (next p).2) (rewind t (next t).2) := by
  obtain ⟨i, k, hb, hk, hclean⟩ := h
  have hf : following text cap i ≤ i + 1 := Nat.min_le_left _ _
  exact ⟨i, _, hb.look, by omega, hclean⟩

/-- They stay abreast when two tokens are looked at and put back. -/
theorem lookTwice (h : Abreast p t) :
    Abreast (rewind p (next (next p).2).2) (rewind t (next (next t).2).2) := by
  obtain ⟨i, k, hb, hk, hclean⟩ := h
  have hi := hb.standing.index_le
  have hf : following text cap i ≤ i + 1 := Nat.min_le_left _ _
  have hff : following text cap (following text cap i) ≤ following text cap i + 1 :=
    Nat.min_le_left _ _
  exact ⟨i, _, hb.rewind hb.next.next (by omega), by omega, hclean⟩

end Abreast

/-- A parser and the tape of its tokens cannot be told apart by a procedure. -/
def besideSimulation (text : List Char) (cap : Nat) :
    Simulation (Parser text cap) TokenTape where
  related := Abreast
  failed v w p t := v = w ∧ ∃ i j k, Halted v p t i j k
  kind_eq h := by
    obtain ⟨i, k, hb, hk, hclean⟩ := h
    exact congrArg Token.kind hb.token_eq
  second_eq h := by
    obtain ⟨i, k, hb, hk, hclean⟩ := h
    exact congrArg Token.kind hb.next.token_eq
  read h _ hc := h.read hc
  look h := h.look
  lookTwice h := h.lookTwice
  enter h := by
    obtain ⟨i, k, hb, hrest⟩ := h
    exact ⟨i, k, hb.enter, hrest⟩
  leave h := by
    obtain ⟨i, k, hb, hrest⟩ := h
    exact ⟨i, k, hb.leave, hrest⟩
  failed_read h e := by
    obtain ⟨i, k, hb, hk, hclean⟩ := h
    exact ⟨congrArg (Violation.mk · e) hb.token_eq, _, _, _, hb.halted_read hk e⟩
  failed_look h e := by
    obtain ⟨i, k, hb, hk, hclean⟩ := h
    exact ⟨congrArg (Violation.mk · e) hb.token_eq, _, _, _, hb.halted_look hk e⟩
  failed_leave h := by
    obtain ⟨hv, i, j, k, hh⟩ := h
    exact ⟨hv, i, j, k, { hh with beside := hh.beside.leave }⟩

/-- A parser at the beginning of a text and the tape with all its tokens. -/
theorem abreast_start (s : Source) (cap : Nat) :
    Abreast (Parser.start s.chars cap) (s.tape cap) := by
  refine ⟨0, 0, ⟨standing_start s.chars cap, rfl, rfl⟩, by omega, ?_⟩
  simp

/-- The program that a parser reads from a text and the one read from the tape. -/
theorem program_agree (s : Source) (limits : Limits) :
    (besideSimulation s.chars limits.tokenLength).Agree
      ((Parser.start s.chars limits.tokenLength).program limits.nesting)
      ((Grammar.program limits.nesting).run (s.tape limits.tokenLength)) :=
  Simulation.respects_program limits.nesting _ _ (abreast_start s limits.tokenLength)

/-- The verdict on a source is the one on the tape of its tokens. -/
theorem check_fst (s : Source) (limits : Limits) :
    (s.check limits).1 =
      ((Grammar.program limits.nesting).run (s.tape limits.tokenLength)).violation?.map
        (SyntaxError.ofViolation s) := by
  have h := (program_agree s limits).violation?_rel
  change ((Parser.start s.chars limits.tokenLength).program limits.nesting).violation?.map _ = _
  generalize ((Parser.start s.chars limits.tokenLength).program limits.nesting).violation? = v at h
  generalize ((Grammar.program limits.nesting).run (s.tape limits.tokenLength)).violation? = w at h
  cases h with
  | none => rfl
  | some h => rw [h.1]

/-- What a check reports is what its parser has reported, and then the verdict. -/
theorem check_snd (s : Source) (limits : Limits) :
    (s.check limits).2 =
      ((Parser.start s.chars limits.tokenLength).program limits.nesting).state.lexer.reported.toList
        ++ [verdictDiagnostic (s.check limits).1] := by
  change (Array.push _ _).toList = _
  rw [Array.toList_push]
  rfl

/-- What is wrong with the tokens of a source up to and including the `m`th. -/
def Source.diagnosticsThrough (s : Source) (cap m : Nat) : List Diagnostic :=
  ((s.readings cap).take (m + 1)).flatMap Reading.diagnostics

/-- Up to the end as much is wrong as before the end. -/
theorem diagnosticsThrough_lastIndex (s : Source) (cap : Nat) :
    s.diagnosticsThrough cap (lastIndex s.chars cap) =
      ((stream s.chars cap).take (lastIndex s.chars cap)).flatMap Reading.diagnostics := by
  change ((stream s.chars cap).take (lastIndex s.chars cap + 1)).flatMap _ = _
  rw [← length_stream, List.take_length, flatMap_diagnostics_take]

/-- Everything that is wrong with a source is wrong with a token up to the end. -/
theorem diagnosticsThrough_of_le {s : Source} {cap m : Nat} (h : lastIndex s.chars cap ≤ m) :
    s.diagnosticsThrough cap m = s.lexicalDiagnostics cap := by
  have hl := length_stream s.chars cap
  change ((stream s.chars cap).take (m + 1)).flatMap _ = (stream s.chars cap).flatMap _
  rw [List.take_of_length_le (by omega)]

/-- A parser that has met a violation at the `j`th token has reported what is wrong with the
tokens up to that one or the one after it. Only the end can be passed without the index going up. -/
theorem Halted.reported {s : Source} {cap : Nat} {v : Violation} {p : Parser s.chars cap}
    {t : TokenTape} {i j k : Nat} (h : Halted v p t i j k) :
    ∃ m ≤ lastIndex s.chars cap, (m = j ∨ m = j + 1) ∧
      p.lexer.reported.toList = s.diagnosticsThrough cap m := by
  have hstanding := h.beside.standing
  have hkl := hstanding.furthest_le
  have hpassed := h.passed
  have hfurthest := h.furthest_le
  have hj : j ≤ lastIndex s.chars cap := by
    have hfound := h.found
    by_cases hlt : j < (stream s.chars cap).length
    · rw [length_stream] at hlt
      omega
    · rw [List.getElem?_eq_none (by omega)] at hfound
      cases hfound
  by_cases hk : j + 1 ≤ k
  · refine ⟨k - 1, by omega, by omega, ?_⟩
    have he : k - 1 + 1 = k := by omega
    rw [hstanding.reported, Source.diagnosticsThrough, he]
    rfl
  · have hlast : j = lastIndex s.chars cap := by
      unfold following at hpassed
      omega
    have hkj : k = lastIndex s.chars cap := by
      unfold following at hpassed
      omega
    refine ⟨j, hj, Or.inl rfl, ?_⟩
    rw [hstanding.reported, hlast, diagnosticsThrough_lastIndex, hkj]

/-- In front of the end nothing is wrong with any token, and nothing has been reported. -/
theorem Abreast.reported_of_end {s : Source} {cap : Nat} {p : Parser s.chars cap}
    {t : TokenTape} (h : Abreast p t) (he : t.kind = .endOfSource) :
    s.lexicalDiagnostics cap = [] ∧ p.lexer.reported.toList = [] := by
  obtain ⟨i, k, hb, hk, hclean⟩ := h
  have hi : i = lastIndex s.chars cap := by
    refine hb.standing.belongs.kind_eq_endOfSource_iff.mp ?_
    rw [← reading_eq]
    have ht := congrArg Token.kind hb.token_eq
    exact ht.trans he
  have hik := hb.standing.index_le
  have hkl := hb.standing.furthest_le
  have hki : k = i := by omega
  have hnone := Reading.flatMap_diagnostics_eq_nil_iff.2 hclean
  constructor
  · rw [← diagnosticsThrough_of_le (Nat.le_refl _), diagnosticsThrough_lastIndex, ← hi, hnone]
  · rw [hb.standing.reported, hki, hnone]

/-- A source that is accepted is free of malformed tokens. -/
theorem reported_of_accepted {s : Source} {limits : Limits}
    (h : ((Grammar.program limits.nesting).run
      (s.tape limits.tokenLength)).violation? = none) :
    s.lexicalDiagnostics limits.tokenLength = [] ∧
      ((Parser.start s.chars limits.tokenLength).program
        limits.nesting).state.lexer.reported.toList = [] := by
  have ha := program_agree s limits
  generalize ho : (Grammar.program limits.nesting).run (s.tape limits.tokenLength) = o at h ha
  generalize (Parser.start s.chars limits.tokenLength).program limits.nesting = o' at ha ⊢
  cases ha with
  | accepted hr => exact Abreast.reported_of_end hr (TokenTape.kind_of_program_accepted ho)
  | rejected hr => cases h

/-- A source that is rejected has been read up to the offending token or one token further. -/
theorem reported_of_rejected {s : Source} {limits : Limits} {v : Violation}
    (h : ((Grammar.program limits.nesting).run
      (s.tape limits.tokenLength)).violation? = some v) :
    ∃ j m, (s.tokens limits.tokenLength)[j]? = some v.found ∧ (m = j ∨ m = j + 1) ∧
      m < (s.tokens limits.tokenLength).length ∧
      (((Grammar.program limits.nesting).run (s.tape limits.tokenLength)).state.tokens =
          (s.tokens limits.tokenLength).drop j ∨
        ((Grammar.program limits.nesting).run (s.tape limits.tokenLength)).state.tokens =
          (s.tokens limits.tokenLength).drop (j + 1)) ∧
      ((Parser.start s.chars limits.tokenLength).program
        limits.nesting).state.lexer.reported.toList =
          s.diagnosticsThrough limits.tokenLength m := by
  have ha := program_agree s limits
  generalize (Grammar.program limits.nesting).run (s.tape limits.tokenLength) = o at h ha ⊢
  generalize (Parser.start s.chars limits.tokenLength).program limits.nesting = o' at ha ⊢
  cases ha with
  | accepted hr => cases h
  | @rejected v' w p t hr =>
    obtain ⟨hv, i, j, k, hh⟩ := hr
    obtain rfl : v = v' := (hv.trans (Option.some.inj h)).symm
    obtain ⟨m, hml, hmj, hreported⟩ := Halted.reported hh
    have hfound : (s.tokens limits.tokenLength)[j]? = some v.found := by
      have hf := hh.found
      rw [← List.getElem?_map] at hf
      exact hf
    refine ⟨j, m, hfound, hmj, ?_, ?_, hreported⟩
    · rw [Source.length_tokens]
      omega
    · have htokens := hh.beside.tokens
      have hf : following s.chars limits.tokenLength j = j ∨
          following s.chars limits.tokenLength j = j + 1 := by
        have hj := (List.getElem?_eq_some_iff.mp hfound).1
        rw [Source.length_tokens] at hj
        unfold following
        omega
      rcases hh.index_eq with hi | hi
      · exact Or.inl (by rw [hi] at htokens; exact htokens)
      · rcases hf with hf | hf
        · exact Or.inl (by rw [hi, hf] at htokens; exact htokens)
        · exact Or.inr (by rw [hi, hf] at htokens; exact htokens)

end Recognizer
