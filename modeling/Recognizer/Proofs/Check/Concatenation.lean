import Recognizer.Proofs.Check.Continuation
import Recognizer.Proofs.Check.Shadow
import Recognizer.Proofs.Text.Preparation

/-!
# Programs one after the other

A text that begins with a program, on lines of its own, is checked as if it began behind that
program: nothing of what has been read there is left but the lines, and the bytes that are in
front.
-/

namespace Recognizer

open TokenSource TokenTape Lexer

/-- The syntax error with so many more lines and bytes in front of it. -/
def SyntaxError.shift (lines bytes : Nat) (e : SyntaxError) : SyntaxError :=
  { e with line := lines + e.line, span := ⟨bytes + e.span.offset, e.span.length⟩ }

/-- A violation behind complete lines is the syntax error that it is without them, further down. -/
theorem SyntaxError.ofViolation_shift {s t : Source} {before : List Char}
    (h : s.chars = before ++ '\n' :: t.chars) {v : Violation} (hv : 1 ≤ v.found.line) :
    ofViolation s (v.shift (before.count '\n' + 1)) =
      (ofViolation t v).shift (before.count '\n' + 1) (byteLength before + 1) := by
  have hspan := Source.span_append h hv v.found.column v.found.text.length
  exact congrArg (atToken (v.found.shift (before.count '\n' + 1)) v.expected.message) hspan

namespace Source

/-- What is accepted as a source with lines in front is accepted without them. -/
theorem exists_prepare_of_append {front back : String} {limits : Limits} {s st : Source}
    (hs : prepare front limits = .ok s) (hst : prepare (front ++ "\n" ++ back) limits = .ok st) :
    ∃ t, prepare back limits = .ok t ∧ st.chars = s.chars ++ '\n' :: t.chars := by
  obtain ⟨s', t, hs', ht, hchars⟩ := exists_prepare_parts hst
  obtain rfl := Except.ok.inj (hs.symm.trans hs')
  exact ⟨t, ht, hchars⟩

end Source

/-- The tokens of a source that is accepted are items of a program, and then the end. -/
theorem items_of_accepted {s : Source} {limits : Limits} (h : (s.check limits).1 = none) :
    ∃ w, (s.tape limits.tokenLength).kinds = w ++ [.endOfSource] ∧
      Derives limits.nesting (.many Grammar.programItem) w := by
  rw [check_fst, Option.map_eq_none_iff] at h
  cases ho : (Grammar.program limits.nesting).run (s.tape limits.tokenLength) with
  | accepted t' =>
    have hd := derives_of_accepted (ended_tape s limits.tokenLength) ho
    rw [← Phrase.mem_language, Phrase.language_program] at hd
    obtain ⟨w, hw, last, hlast, hk⟩ := Language.mem_mul.1 hd
    rw [Phrase.mem_language_ending.1 hlast] at hk
    exact ⟨w, hk.symm, hw⟩
  | rejected v t' =>
    rw [ho] at h
    cases h

/-- Nothing is wrong with the tokens of a source that is accepted. -/
theorem faults_of_accepted {s : Source} {limits : Limits} (h : (s.check limits).1 = none) :
    ∀ r ∈ stream s.chars limits.tokenLength, r.faults = [] := by
  rw [check_fst, Option.map_eq_none_iff] at h
  have hclean := (reported_of_accepted h).1
  exact Reading.flatMap_diagnostics_eq_nil_iff.1 hclean

section

variable {limits : Limits} {s t st : Source}

/-- The stream of a text that begins with a program ends with that of what follows the program. -/
theorem exists_endsWith_of_accepted (h : (s.check limits).1 = none)
    (hst : st.chars = s.chars ++ '\n' :: t.chars) :
    ∃ front, EndsWith st.chars t.chars limits.tokenLength front (s.chars.length + 1)
        (s.chars.count '\n' + 1) ∧
      front.map (·.token.kind) ++ [.endOfSource] = (s.tape limits.tokenLength).kinds := by
  have hclean := faults_of_accepted h
  have hclosed : ∀ r ∈ stream s.chars limits.tokenLength, .unclosedComment ∉ r.faults := by
    intro r hr
    rw [hclean r hr]
    exact List.not_mem_nil
  obtain ⟨front, hstream, hfront⟩ := stream_append t.chars hclosed
  rw [← hst] at hstream
  refine ⟨front, ⟨hstream, ?_⟩, ?_⟩
  · have hlengths := Reading.map_eq_of_extends hfront fun _ _ hr => hr.faults_eq
    intro r' hr'
    have hmem := List.mem_map_of_mem (f := fun r : Reading => r.faults.length) hr'
    rw [hlengths] at hmem
    obtain ⟨r, hr, hl⟩ := List.mem_map.1 hmem
    rw [hclean r (List.mem_of_mem_dropLast hr)] at hl
    exact List.length_eq_zero_iff.1 hl.symm
  · have hkinds := Reading.map_eq_of_extends hfront fun _ _ hr => congrArg Token.kind hr.token_eq
    obtain ⟨before, last, hall, hlast, -⟩ :=
      Reading.all_eq_append_end limits.tokenLength .start s.chars
    change stream s.chars limits.tokenLength = _ at hall
    rw [hkinds, kinds_tape, hall, List.dropLast_concat, List.map_append, List.map_singleton, hlast]

/-- A text that begins with a program is read as if it began behind that program. -/
theorem exists_agree_of_accepted (h : (s.check limits).1 = none)
    (hst : st.chars = s.chars ++ '\n' :: t.chars) :
    ∃ front, ∃ he : EndsWith st.chars t.chars limits.tokenLength front (s.chars.length + 1)
        (s.chars.count '\n' + 1),
      (shadowSimulation he).Agree
        ((Parser.start st.chars limits.tokenLength).program limits.nesting)
        ((Parser.start t.chars limits.tokenLength).program limits.nesting) := by
  obtain ⟨front, he, hfront⟩ := exists_endsWith_of_accepted h hst
  obtain ⟨w, hw, hd⟩ := items_of_accepted h
  obtain ⟨rfl, -⟩ := List.append_inj' (hfront.trans hw) rfl
  have hkinds : (st.tape limits.tokenLength).kinds =
      front.map (·.token.kind) ++ (t.tape limits.tokenLength).kinds := by
    rw [kinds_tape, kinds_tape, he.stream_eq, List.map_append, List.map_map]
    rfl
  have hne : (t.tape limits.tokenLength).kinds ≠ [] := by
    obtain ⟨u, hu, -⟩ := ended_tape t limits.tokenLength
    rw [hu]
    exact List.concat_ne_nil _ _
  obtain ⟨p, t', ⟨i, k, hb, hk, -⟩, ht', hrun⟩ :=
    (besideSimulation st.chars limits.tokenLength).run_program_of_items
      (abreast_start st limits.tokenLength) (ended_tape st limits.tokenLength) hkinds hne hd
  have hi : i = front.length := by
    have hle := hb.standing.belongs.index_le
    have hlast := he.lastIndex_eq
    have hlength := congrArg List.length ht'
    rw [kinds_tape, kinds, hb.tokens, List.length_map, List.length_drop, List.length_map,
      List.length_map, length_stream, length_stream] at hlength
    omega
  subst hi
  refine ⟨front, he, ?_⟩
  change (shadowSimulation he).Agree ((Grammar.program limits.nesting).run _) _
  rw [hrun]
  exact agree_of_standing limits.nesting hb.standing hk

/-- Behind a source that is accepted and a line feed a source is checked as it is alone, but for
the lines and bytes in front of it: it is accepted if it is accepted alone, and otherwise the same
syntax error is found further down, after the same has been reported further down. -/
theorem check_append {front back : String} (hs : Source.prepare front limits = .ok s)
    (h : (s.check limits).1 = none)
    (hst : Source.prepare (front ++ "\n" ++ back) limits = .ok st) :
    ∃ t, Source.prepare back limits = .ok t ∧
      ((st.check limits).1 = none ↔ (t.check limits).1 = none) ∧
      (∀ e, (t.check limits).1 = some e → (st.check limits).1 =
        some (e.shift (front.toList.count '\n' + 1) (byteLength s.chars + 1))) ∧
      ∃ found, (t.check limits).2 = found ++ [verdictDiagnostic (t.check limits).1] ∧
        (st.check limits).2 = found.map (Diagnostic.shift (front.toList.count '\n' + 1)) ++
          [verdictDiagnostic (st.check limits).1] := by
  obtain ⟨t, ht, hchars⟩ := Source.exists_prepare_of_append hs hst
  obtain ⟨_, he, hagree⟩ := exists_agree_of_accepted h hchars
  rw [← Source.count_newline_of_prepare hs]
  have hverdict : (st.check limits).1 = (t.check limits).1.map
      (SyntaxError.shift (s.chars.count '\n' + 1) (byteLength s.chars + 1)) := by
    have hrel := hagree.violation?_rel
    change ((Parser.start st.chars limits.tokenLength).program limits.nesting).violation?.map _ =
      (((Parser.start t.chars limits.tokenLength).program limits.nesting).violation?.map _).map _
    generalize ((Parser.start st.chars limits.tokenLength).program limits.nesting).violation? = v
      at hrel
    generalize ((Parser.start t.chars limits.tokenLength).program limits.nesting).violation? = v'
      at hrel
    cases hrel with
    | none => rfl
    | some hv =>
      obtain ⟨rfl, hline, -⟩ := hv
      exact congrArg some (SyntaxError.ofViolation_shift hchars hline)
  refine ⟨t, ht, ?_, fun e he => ?_, _, check_snd t limits, ?_⟩
  · rw [hverdict, Option.map_eq_none_iff]
  · rw [hverdict, he, Option.map_some]
  · rw [check_snd st limits, reported_of_agree hagree]

end

/-- The source `int x;`. -/
def declaredX : Source :=
  ⟨"int x;".toList, by decide, by decide⟩

/-- The source `int x;` with `int @;` on the line behind it. -/
def declaredXAt : Source :=
  ⟨"int x;\nint @;".toList, by decide, by decide⟩

/-- A declaration and, a line further down, one with a character that begins no token. -/
theorem check_append_declaredX :
    Source.prepare "int x;" {} = .ok declaredX ∧ (declaredX.check {}).1 = none ∧
      Source.prepare ("int x;" ++ "\n" ++ "int @;") {} = .ok declaredXAt ∧
      ∃ t, Source.prepare "int @;" {} = .ok t ∧
        ((declaredXAt.check {}).1 = none ↔ (t.check {}).1 = none) ∧
        (∀ e, (t.check {}).1 = some e → (declaredXAt.check {}).1 =
          some (e.shift ("int x;".toList.count '\n' + 1) (byteLength declaredX.chars + 1))) ∧
        ∃ found, (t.check {}).2 = found ++ [verdictDiagnostic (t.check {}).1] ∧
          (declaredXAt.check {}).2 =
            found.map (Diagnostic.shift ("int x;".toList.count '\n' + 1)) ++
              [verdictDiagnostic (declaredXAt.check {}).1] := by
  have hfront : Source.prepare "int x;" {} = .ok declaredX :=
    Source.prepare_eq_ok_iff.2 ⟨by decide, by decide⟩
  have hboth : Source.prepare ("int x;" ++ "\n" ++ "int @;") {} = .ok declaredXAt :=
    Source.prepare_eq_ok_iff.2 ⟨by decide, by decide⟩
  have haccepted : (declaredX.check {}).1 = none := by
    decide +kernel
  exact ⟨hfront, haccepted, hboth, check_append hfront haccepted hboth⟩

/-- The character that no token begins with is found on the second line, eleven bytes behind the
beginning. -/
example : (declaredXAt.check {}).1 =
    some ⟨"@", 2, 5, Expectation.identifier.message, ⟨11, 1⟩⟩ := by
  decide +kernel

end Recognizer
