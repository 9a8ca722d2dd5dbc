import Mathlib.Data.List.Forall2
import Recognizer.Proofs.Lexical.Backtracking
import Recognizer.Proofs.Lexical.Faults
import Recognizer.Proofs.Lexical.Lookahead
import Recognizer.Proofs.Lexical.Shift
import Recognizer.Proofs.Text.Lines
import Recognizer.Proofs.Text.Preparation

/-!
# Texts one behind the other

Behind a line feed a text is read as if it stood alone. What stands in front of the line feed is
read as if the text ended there: no word, numeral, operator or comment but one that is not closed
goes on behind it.
-/

namespace Recognizer

namespace Reading

variable {cap : Nat} {p : Position} {cs : List Char}

/-- The second step is the first one, and more is left behind it. -/
structure Extends (r r' : Reading) (more : List Char) : Prop where
  /-- The token is the same. -/
  token_eq : r'.token = r.token
  /-- The token begins at the same place. -/
  start_eq : r'.start = r.start
  /-- As many things are wrong. -/
  faults_eq : r'.faults.length = r.faults.length
  /-- The step stops at the same place. -/
  stop_eq : r'.stop = r.stop
  /-- More is left. -/
  rest_eq : r'.rest = r.rest ++ more

/-- What is the same for a step and for the one that leaves more behind is the same all along. -/
theorem map_eq_of_extends {α : Type} {rs rs' : List Reading} {more : List Char}
    (h : List.Forall₂ (fun r r' => r.Extends r' more) rs rs') {f : Reading → α}
    (hf : ∀ r r', r.Extends r' more → f r' = f r) : rs'.map f = rs.map f := by
  induction h with
  | nil => rfl
  | cons hr _ ih => rw [List.map_cons, List.map_cons, hf _ _ hr, ih]

/-- What is wrong is reported at the same places. -/
theorem Extends.map_location_diagnostics {r r' : Reading} {more : List Char}
    (h : r.Extends r' more) :
    r'.diagnostics.map (·.location) = r.diagnostics.map (·.location) := by
  rw [Reading.map_location_diagnostics, Reading.map_location_diagnostics, h.token_eq, h.faults_eq]

/-- A step that does not reach the end of the text is the same in front of a line feed. -/
theorem scan_extends (hend : (scan cap p cs).token.kind ≠ .endOfSource)
    (hclosed : .unclosedComment ∉ (scan cap p cs).faults) (more : List Char) :
    (scan cap p cs).Extends (scan cap p (cs ++ '\n' :: more)) ('\n' :: more) := by
  have hopen : ∀ rest, (Trivia.readAll cs).2 ≠ '/' :: '*' :: rest := by
    intro rest ho
    refine hclosed ?_
    rw [(scan_of_open cap p ho).1]
    exact List.mem_cons_self
  have h := scan_recurs hend hopen (.append_newline (scan cap p cs).rest more)
  rw [← List.append_assoc, passed_append_rest] at h
  exact ⟨h.token_eq, h.start_eq, h.length_faults_eq, h.stop_eq, h.rest_eq⟩

/-- Where a text has come to its end, the step behind a line feed begins on a new line. -/
theorem scan_append_of_end (hend : (scan cap p cs).token.kind = .endOfSource) (more : List Char) :
    scan cap p (cs ++ '\n' :: more) = scan cap (p.advance (cs ++ ['\n'])) more := by
  have hnil := (kind_eq_endOfSource_iff cap p cs).1 hend
  have hcs := Trivia.textOf_append_readAll cs
  rw [hnil, List.append_nil] at hcs
  have hgap := Trivia.readAll_textOf_append
    ((Trivia.laid_readAll cs).of_beginsAlike (.append_newline _ more))
  have hline : Trivia.readAll ('\n' :: more) =
      (.newline :: (Trivia.readAll more).1, (Trivia.readAll more).2) := Trivia.readAll_eq_cons rfl
  rw [hnil, List.nil_append, hcs, hline] at hgap
  have hstart : p.advance (Trivia.textOf
      ((Trivia.readAll cs).1 ++ .newline :: (Trivia.readAll more).1)) =
        (p.advance (cs ++ ['\n'])).advance (Trivia.textOf (Trivia.readAll more).1) := by
    rw [← Position.advance_append, Trivia.textOf_append, hcs, Trivia.textOf_cons, Trivia.text,
      List.append_assoc]
  unfold scan
  rw [hgap]
  dsimp only
  rw [hstart]

/-- The same first step leads to the same steps. -/
theorem all_eq_of_scan_eq {q : Position} {ds : List Char} (h : scan cap p cs = scan cap q ds) :
    all cap p cs = all cap q ds := by
  by_cases hend : (scan cap p cs).token.kind = .endOfSource
  · have hend' := hend
    rw [h] at hend'
    rw [all_of_end hend, all_of_end hend', h]
  · have hend' := hend
    rw [h] at hend'
    rw [all_of_ne_end hend, all_of_ne_end hend', h]

/-- Two texts with a line feed between them are read one after the other: the first as if it stood
alone but for its end, and then the second from the new line on. -/
theorem all_append (more : List Char) (hclosed : ∀ r ∈ all cap p cs, .unclosedComment ∉ r.faults) :
    ∃ front, all cap p (cs ++ '\n' :: more) = front ++ all cap (p.advance (cs ++ ['\n'])) more ∧
      List.Forall₂ (fun r r' => r.Extends r' ('\n' :: more)) (all cap p cs).dropLast front := by
  fun_induction all cap p cs with
  | case1 p cs r hend =>
    exact ⟨[], all_eq_of_scan_eq (scan_append_of_end hend more), .nil⟩
  | case2 p cs r hend hlt ih =>
    obtain ⟨hr, htail⟩ := List.forall_mem_cons.1 hclosed
    have hext := scan_extends hend hr more
    obtain ⟨front, hall, hfront⟩ := ih htail
    have hend' : (scan cap p (cs ++ '\n' :: more)).token.kind ≠ .endOfSource := by
      rw [hext.token_eq]
      exact hend
    have hplace : r.stop.advance (r.rest ++ ['\n']) = p.advance (cs ++ ['\n']) := by
      rw [stop_eq, ← Position.advance_append, ← List.append_assoc, passed_append_rest]
    have hnext : all cap (scan cap p (cs ++ '\n' :: more)).stop
        (scan cap p (cs ++ '\n' :: more)).rest = front ++ all cap (p.advance (cs ++ ['\n'])) more := by
      rw [hext.stop_eq, hext.rest_eq, ← hplace]
      exact hall
    refine ⟨scan cap p (cs ++ '\n' :: more) :: front, ?_, ?_⟩
    · rw [all_of_ne_end hend', hnext, List.cons_append]
    · rw [List.dropLast_cons_of_ne_nil (all_ne_nil cap _ _)]
      exact .cons hext hfront

end Reading

/-- Behind a line feed one is where one was at the beginning, but for what is in front. -/
theorem Position.advance_newline (cs : List Char) :
    start.advance (cs ++ ['\n']) = start.shift (cs.length + 1) (cs.count '\n' + 1) := by
  rw [advance_start, lastLine_concat_newline, List.count_append, List.length_append]
  simp only [shift, start, List.length_singleton, List.count_singleton_self, List.length_nil]
  rw [Position.mk.injEq]
  omega

namespace Lexer

/-- The stream of two texts with a line feed between them is the stream of the first without its
end, and then the stream of the second further down. -/
theorem stream_append {cap : Nat} {cs : List Char} (ds : List Char)
    (hclosed : ∀ r ∈ stream cs cap, .unclosedComment ∉ r.faults) :
    ∃ front, stream (cs ++ '\n' :: ds) cap =
        front ++ (stream ds cap).map (Reading.shift (cs.length + 1) (cs.count '\n' + 1)) ∧
      List.Forall₂ (fun r r' => r.Extends r' ('\n' :: ds)) (stream cs cap).dropLast front := by
  obtain ⟨front, hall, hfront⟩ := Reading.all_append ds hclosed
  rw [Position.advance_newline, Reading.all_shift] at hall
  exact ⟨front, hall, hfront⟩

/-- No comment is left open in a text if no token is the opening mark of one. -/
theorem closed_of_tokens {text : List Char} {cap : Nat}
    (h : ∀ x ∈ (start text cap).drain.1, x.kind = .error → x.text ≠ "/*") :
    ∀ r ∈ stream text cap, .unclosedComment ∉ r.faults := by
  rw [drain_start, List.forall_mem_map] at h
  intro r hr hopen
  obtain ⟨_, _, -, rfl⟩ := Reading.eq_scan_of_mem hr
  obtain ⟨-, hkind, htext, -⟩ := Reading.of_unclosedComment_mem hopen
  exact h _ hr hkind htext

/-- Everything that is wrong is wrong in front of the end. -/
theorem flatMap_diagnostics_dropLast (text : List Char) (cap : Nat) :
    (stream text cap).dropLast.flatMap Reading.diagnostics =
      (stream text cap).flatMap Reading.diagnostics := by
  rw [List.dropLast_eq_take]
  exact flatMap_diagnostics_take text cap

end Lexer

open Lexer in
/-- Two texts with a line feed between them are tokenized one after the other, whatever else is
wrong with them, if the first leaves no comment open: the tokens of the first but for its end, and
then those of the second further down. Also what is wrong is reported at these places. -/
theorem tokens_append {front back : String} {limits : Limits} {st : Source} (cap : Nat)
    (hst : Source.prepare (front ++ "\n" ++ back) limits = .ok st) :
    ∃ s t, Source.prepare front limits = .ok s ∧ Source.prepare back limits = .ok t ∧
      let first := (start s.chars cap).drain
      let second := (start t.chars cap).drain
      let both := (start st.chars cap).drain
      let lines := front.toList.count '\n' + 1
      (∀ x ∈ first.1, x.kind = .error → x.text ≠ "/*") →
        both.1 = first.1.dropLast ++ second.1.map (Token.shift lines) ∧
          ∃ found, both.2.reported.toList =
              found ++ second.2.reported.toList.map (Diagnostic.shift lines) ∧
            found.map (·.location) = first.2.reported.toList.map (·.location) := by
  obtain ⟨s, t, hs, ht, hchars⟩ := Source.exists_prepare_parts hst
  refine ⟨s, t, hs, ht, ?_⟩
  intro first second both lines hopen
  obtain ⟨before, hstream, hbefore⟩ := stream_append t.chars (closed_of_tokens hopen)
  rw [← hchars, Source.count_newline_of_prepare hs] at hstream
  have htokens := Reading.map_eq_of_extends hbefore fun _ _ hr => hr.token_eq
  have hplaces := Reading.map_eq_of_extends hbefore fun _ _ hr => hr.map_location_diagnostics
  refine ⟨?_, before.flatMap Reading.diagnostics, ?_, ?_⟩
  · rw [drain_start, drain_start, drain_start, hstream, List.map_append, htokens,
      List.map_dropLast, List.map_map, List.map_map]
    rfl
  · rw [reported_drain_start, reported_drain_start, hstream, List.flatMap_append,
      List.flatMap_map, List.map_flatMap]
    simp only [Reading.diagnostics_shift]
    rfl
  · rw [reported_drain_start, ← flatMap_diagnostics_dropLast,
      List.map_flatMap, List.map_flatMap, List.flatMap_def, List.flatMap_def, hplaces]

/-- The source with `a 0x` on its first line and `@` on its second. -/
def prefixThenAt : Source :=
  ⟨"a 0x\n@".toList, by decide, by decide⟩

open Lexer in
/-- A prefix without digits and, a line further down, a character that begins no token. -/
theorem tokens_append_prefixThenAt :
    Source.prepare ("a 0x" ++ "\n" ++ "@") {} = .ok prefixThenAt ∧
      ∃ s t, Source.prepare "a 0x" {} = .ok s ∧ Source.prepare "@" {} = .ok t ∧
        (∀ x ∈ (start s.chars 4).drain.1, x.kind = .error → x.text ≠ "/*") ∧
        (start prefixThenAt.chars 4).drain.1 = (start s.chars 4).drain.1.dropLast ++
          (start t.chars 4).drain.1.map (Token.shift ("a 0x".toList.count '\n' + 1)) ∧
        ∃ found, (start prefixThenAt.chars 4).drain.2.reported.toList = found ++
            (start t.chars 4).drain.2.reported.toList.map
              (Diagnostic.shift ("a 0x".toList.count '\n' + 1)) ∧
          found.map (·.location) =
            (start s.chars 4).drain.2.reported.toList.map (·.location) := by
  have hboth : Source.prepare ("a 0x" ++ "\n" ++ "@") {} = .ok prefixThenAt :=
    Source.prepare_eq_ok_iff.2 ⟨by decide, by decide⟩
  obtain ⟨s, t, hs, ht, happend⟩ := tokens_append 4 hboth
  have hclosed : ∀ x ∈ (start s.chars 4).drain.1, x.kind = .error → x.text ≠ "/*" := by
    have hchars : s.chars = "a 0x".toList := (Source.prepare_eq_ok_iff.1 hs).2.trans (by decide)
    rw [hchars]
    decide +kernel
  exact ⟨hboth, s, t, hs, ht, hclosed, happend hclosed⟩

/-- Alone, the prefix is at the end of the text; in front of another line, at the end of its own.
The place of what is wrong is the same, but not the message. -/
example : (Lexer.start prefixThenAt.chars 4).drain.2.reported =
      #[.error "invalid digit '\\n' in hex constant" 1 3,
        .error "token not found for char '@'" 2 1] ∧
    (Lexer.start "a 0x".toList 4).drain.2.reported =
      #[.error "invalid digit '\\0' in hex constant" 1 3] := by
  decide +kernel

end Recognizer
