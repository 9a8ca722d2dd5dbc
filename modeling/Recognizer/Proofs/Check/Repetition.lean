import Recognizer.Proofs.Check.Moments
import Recognizer.Proofs.Check.Pending

/-!
# Checking again and again

A parser that has been checked can be checked again and goes on where it stopped. What the checks
before have left of the text decides what the next one says. A check that rejects leaves less than
there was, so only so many can; after one that accepts there is nothing left to say. What is
wrong with a token is reported by one of the checks at most.
-/

namespace Recognizer

open TokenSource Lexer

namespace Parser

variable {text : List Char} {cap : Nat} {p p' q : Parser text cap}

/-! ### Progress -/

/-- A run from a token before the end that stops at a violation has passed something. What it has
passed ends with the offending token, unless that is the end or would have been too deep. -/
theorem Stopped.exists_index {total : Nat} {v : Violation} (h : p.Stopped total v q)
    (hp : (next p).1.kind ≠ .endOfSource) :
    ∃ w j, p.Passes w q ∧ w ≠ [] ∧ p.pending[j]? = some v.found ∧
      w.length = if v.expected = .shallowerNesting ∨ v.found.kind = .endOfSource then j
        else j + 1 := by
  cases h with
  | @behind w he hk h =>
    refine ⟨_, w.length, h, List.append_ne_nil_of_right_ne_nil _ (List.cons_ne_nil _ _), ?_, ?_⟩
    · rw [h.pending_eq, List.append_assoc, List.getElem?_append_right (Nat.le_refl _),
        Nat.sub_self]
      rfl
    · rw [if_neg (not_or.2 ⟨he, hk⟩), List.length_append, List.length_singleton]
  | @atEnd w he hk h hf =>
    have hpending := h.pending_eq
    rw [hf] at hpending
    refine ⟨w, w.length, h, ?_, ?_, ?_⟩
    · rintro rfl
      have hhead := head?_pending p
      rw [hpending] at hhead
      rw [← Option.some.inj hhead] at hp
      exact hp hk
    · rw [hpending, List.getElem?_append_right (Nat.le_refl _), Nat.sub_self]
      rfl
    · rw [if_pos (Or.inr hk)]
  | @before w opener he h hf ho hd =>
    refine ⟨_, (w ++ [opener]).length, h,
      List.append_ne_nil_of_right_ne_nil _ (List.cons_ne_nil _ _), ?_, ?_⟩
    · rw [h.pending_eq, List.getElem?_append_right (Nat.le_refl _), Nat.sub_self,
        ← List.head?_eq_getElem?]
      exact hf
    · rw [if_pos (Or.inl he)]

/-- In front of the end a program is accepted, and nothing is reported. -/
theorem program_of_end (room : Nat) (h : (next p).1.kind = .endOfSource) :
    ∃ q, (Grammar.program room).run p = .accepted q ∧ (next q).1.kind = .endOfSource ∧
      q.lexer.reported = p.lexer.reported := by
  have hrun : (Grammar.program room).run p = .accepted (rewind p (next p).2) :=
    Procedure.iterate_of_stop _ (if_pos h)
  have hfaults : (p.lexer.cursor.reading cap).diagnostics = [] := by
    have hnone : (p.lexer.cursor.reading cap).faults = [] := Reading.faults_of_end h
    rw [Reading.diagnostics, hnone, List.map_nil]
  have hfresh : p.lexer.fresh = [] := by
    unfold fresh
    dsimp only
    rw [hfaults, ite_self]
  refine ⟨_, hrun, h, ?_⟩
  change p.lexer.reported ++ p.lexer.fresh = _
  rw [hfresh, Array.appendList_nil]

/-- A program is accepted in front of the end only. -/
theorem kind_of_program_accepted {room : Nat} (h : (Grammar.program room).run p = .accepted q) :
    (next q).1.kind = .endOfSource := by
  have ha := (tapeSimulation text cap).respects_program room p p.tape rfl
  rw [h] at ha
  generalize ho : (Grammar.program room).run p.tape = o at ha
  cases ha with
  | accepted ht =>
    have hk := TokenTape.kind_of_program_accepted ho
    rw [ht] at hk
    rw [← hk]
    exact congrArg (Token.kind ·.1) (next_tape q).symm

/-! ### Reports -/

/-- Two parsers at the same place, which have reported the same since one had reported `base` and
the other `old`. -/
structure Alike (base old : List Diagnostic) (p q : Parser text cap) : Prop where
  cursor : p.lexer.cursor = q.lexer.cursor
  mark : p.lexer.mark = q.lexer.mark
  reported : ∃ d, p.lexer.reported.toList = base ++ d ∧ q.lexer.reported.toList = old ++ d

variable {base old : List Diagnostic}

/-- Two parsers at the same place read the same token. -/
theorem Alike.token_eq (h : Alike base old p q) : (next p).1 = (next q).1 :=
  congrArg (fun c : Cursor text => (c.reading cap).token) h.cursor

/-- They are alike behind it, and have reported the same about it. -/
theorem Alike.next (h : Alike base old p q) : Alike base old (next p).2 (next q).2 := by
  have hfresh : p.lexer.fresh = q.lexer.fresh := by
    unfold fresh
    rw [h.cursor, h.mark]
  obtain ⟨d, hp, hq⟩ := h.reported
  refine ⟨congrArg (Cursor.next · cap) h.cursor, ?_, d ++ q.lexer.fresh, ?_, ?_⟩
  · change max p.lexer.mark (p.lexer.cursor.reading cap).stop.offset =
      max q.lexer.mark (q.lexer.cursor.reading cap).stop.offset
    rw [h.cursor, h.mark]
  · change (p.lexer.reported ++ p.lexer.fresh).toList = _
    rw [Array.toList_appendList, hp, hfresh, List.append_assoc]
  · change (q.lexer.reported ++ q.lexer.fresh).toList = _
    rw [Array.toList_appendList, hq, List.append_assoc]

/-- They stay alike when each goes back to a place at which they were alike. -/
theorem Alike.rewind {q' : Parser text cap} (h : Alike base old p q) (hn : Alike base old p' q') :
    Alike base old (rewind p p') (TokenSource.rewind q q') :=
  ⟨h.cursor, hn.mark, hn.reported⟩

/-- What has been reported before does not matter. -/
def alikeSimulation (text : List Char) (cap : Nat) (base old : List Diagnostic) :
    Simulation (Parser text cap) (Parser text cap) where
  related := Alike base old
  failed v w p q := v = w ∧ Alike base old p q
  kind_eq h := congrArg Token.kind h.token_eq
  second_eq h := congrArg Token.kind h.next.token_eq
  read h _ _ := h.next
  look h := h.rewind h.next
  lookTwice h := h.rewind h.next.next
  enter h := ⟨h.cursor, h.mark, h.reported⟩
  leave h := ⟨h.cursor, h.mark, h.reported⟩
  failed_read h e := ⟨congrArg (Violation.mk · e) h.token_eq, h.next⟩
  failed_look h e := ⟨congrArg (Violation.mk · e) h.token_eq, h.rewind h.next⟩
  failed_leave h := ⟨h.1, h.2.cursor, h.2.mark, h.2.reported⟩

/-- A lexer stands somewhere in the stream, and has reported what it has passed. -/
def Stands (l : Lexer text cap) : Prop :=
  ∃ i k, l.Standing i k

/-- A lexer that stands in the stream still does after the next token. -/
theorem Stands.next {l : Lexer text cap} (h : Stands l) : Stands l.next.2 := by
  obtain ⟨i, k, hs⟩ := h
  exact ⟨_, _, hs.next⟩

/-- Putting a lexer back to where it stood before it went on. -/
theorem Stands.look {l : Lexer text cap} (h : Stands l) : Stands (l.rewind l.next.2) := by
  obtain ⟨i, k, hs⟩ := h
  have hi := hs.index_le
  exact ⟨i, _, hs.rewind hs.next (by omega)⟩

/-- Looking at two tokens and going back does not lose the place in the stream. -/
theorem Stands.lookTwice {l : Lexer text cap} (h : Stands l) :
    Stands (l.rewind l.next.2.next.2) := by
  obtain ⟨i, k, hs⟩ := h
  have hi := hs.index_le
  exact ⟨i, _, hs.rewind hs.next.next (by omega)⟩

/-- All through a run the parser has reported what it has passed. -/
def standing (text : List Char) (cap : Nat) : Invariant (Parser text cap) where
  holds _ p := Stands p.lexer
  broken _ _ p := Stands p.lexer
  read h _ _ := h.next
  look h := h.look
  lookTwice h := h.lookTwice
  enter h _ := h.next
  leave _ h := h
  failed_read h _ _ := h.next
  failed_end h _ _ _ := h.look
  failed_enter h _ := h.next.look
  failed_leave _ h := h

/-- A lexer that has reported something else. -/
def withReports (l : Lexer text cap) (lexical : List Diagnostic) : Lexer text cap :=
  { l with reported := lexical.toArray }

/-- What is reported in a run, whatever has been reported before, is what a lexer reports that
stands at the same place with nothing but its own reports: the run is the same without the verdicts
of earlier checks. -/
theorem exists_reported (room : Nat) {lexical : List Diagnostic}
    (h : Stands (withReports p.lexer lexical)) :
    ∃ fresh, ((Grammar.program room).run p).state.lexer.reported.toList =
        p.lexer.reported.toList ++ fresh ∧
      Stands (withReports ((Grammar.program room).run p).state.lexer (lexical ++ fresh)) := by
  let q : Parser text cap := { p with lexer := withReports p.lexer lexical }
  have halike : Alike p.lexer.reported.toList lexical p q :=
    ⟨rfl, rfl, [], (List.append_nil _).symm, (List.append_nil _).symm⟩
  have hagree := (alikeSimulation text cap _ _).respects_program room p q halike
  have hafter : (standing text cap).After room ((Grammar.program room).run q) :=
    (standing text cap).after_routine .program h
  have hstate : Alike p.lexer.reported.toList lexical
      ((Grammar.program room).run p).state ((Grammar.program room).run q).state ∧
      Stands ((Grammar.program room).run q).state.lexer := by
    generalize (Grammar.program room).run p = o at hagree
    generalize (Grammar.program room).run q = o' at hagree hafter
    cases hagree with
    | accepted h => exact ⟨h, hafter⟩
    | rejected h => exact ⟨h.2, hafter⟩
  generalize ((Grammar.program room).run p).state = p' at hstate
  generalize ((Grammar.program room).run q).state = q' at hstate
  obtain ⟨⟨hcursor, hmark, d, hp, hq⟩, hstands⟩ := hstate
  have hlexer : q'.lexer = withReports p'.lexer (lexical ++ d) := by
    obtain ⟨⟨c, m, r⟩, n⟩ := q'
    dsimp only at hcursor hmark hq
    rw [withReports, hcursor, hmark, ← hq]
  exact ⟨d, hp, hlexer ▸ hstands⟩

end Parser

/-! ### One check after the other -/

open Recognizer.Parser

/-- What a parser is like between two checks, of which those before have reported the diagnostics
`lexical` about tokens. -/
structure Between (s : Source) (cap : Nat) (lexical : List Diagnostic)
    (p : Parser s.chars cap) : Prop where
  /-- Nothing is open. -/
  depth : p.depth = 0
  /-- Some tokens have been passed. -/
  passes : ∃ w, (Parser.start s.chars cap).Passes w p
  /-- But for the verdicts, what has been passed has been reported. -/
  stands : Stands (withReports p.lexer lexical)

/-- Before the first check nothing has been reported. -/
theorem between_start (s : Source) (cap : Nat) :
    Between s cap [] (Parser.start s.chars cap) :=
  ⟨rfl, ⟨[], .refl _⟩, 0, 0, standing_start s.chars cap⟩

namespace Between

variable {s : Source} {cap limit : Nat} {lexical : List Diagnostic} {p : Parser s.chars cap}

/-- Nothing is open, so a check may open as many constructs as the limit allows. -/
theorem program_eq (h : Between s cap lexical p) (limit : Nat) :
    p.program limit = (Grammar.program limit).run p := by
  rw [Parser.program, h.depth, Nat.sub_zero]

/-- A check from between two checks goes forward only, and stops as it should. -/
theorem after_program (h : Between s cap lexical p) (limit : Nat) :
    (p.advancing limit).After limit (p.program limit) := by
  have hstart := p.advanced_refl limit
  rw [h.depth, Nat.zero_add] at hstart
  rw [h.program_eq]
  exact (p.advancing limit).after_routine .program hstart

/-- A check leaves nothing open and goes forward. -/
theorem exists_passes (h : Between s cap lexical p) (limit : Nat) :
    (p.program limit).state.depth = 0 ∧ ∃ w, p.Passes w (p.program limit).state := by
  have hafter := h.after_program limit
  generalize p.program limit = o at hafter
  cases o with
  | accepted q =>
    obtain ⟨hd, w, hw, -⟩ := hafter
    have hdepth : q.depth = 0 := by omega
    exact ⟨hdepth, w, hw⟩
  | rejected v q =>
    obtain ⟨hd, hstopped⟩ := hafter
    have hdepth : q.depth = 0 := by omega
    exact ⟨hdepth, hstopped.exists_passes⟩

/-- A check reports what is wrong with tokens that no check before has passed, and then its
verdict. -/
theorem checkFrom (h : Between s cap lexical p) (limit : Nat) :
    ∃ fresh, (s.checkFrom limit p).2.lexer.reported.toList =
        p.lexer.reported.toList ++ fresh ++ [verdictDiagnostic (s.checkFrom limit p).1] ∧
      Between s cap (lexical ++ fresh) (s.checkFrom limit p).2 := by
  obtain ⟨hdepth, w, hw⟩ := h.exists_passes limit
  obtain ⟨v, hv⟩ := h.passes
  obtain ⟨fresh, hfresh, hstands⟩ := exists_reported limit h.stands
  rw [← h.program_eq] at hfresh hstands
  refine ⟨fresh, ?_, hdepth, ⟨_, (hv.trans hw).congr rfl⟩, hstands⟩
  change (Array.push _ _).toList = _
  rw [Array.toList_push, hfresh]
  rfl

/-- A check that rejects has passed something; what it has passed ends with the offending token,
unless that is the end or would have been too deep. -/
theorem rejected (h : Between s cap lexical p) {e : SyntaxError}
    (he : (s.checkFrom limit p).1 = some e) :
    ∃ v w j, e = .ofViolation s v ∧ p.Passes w (s.checkFrom limit p).2 ∧ w ≠ [] ∧
      p.pending[j]? = some v.found ∧
      w.length = if v.expected = .shallowerNesting ∨ v.found.kind = .endOfSource then j
        else j + 1 := by
  have hafter := h.after_program limit
  have hverdict : (p.program limit).violation?.map (SyntaxError.ofViolation s) = some e := he
  obtain ⟨v, hv, rfl⟩ := Option.map_eq_some_iff.1 hverdict
  have hp : (next p).1.kind ≠ .endOfSource := by
    intro hk
    obtain ⟨q, hq, -⟩ := program_of_end limit hk
    rw [h.program_eq, hq] at hv
    cases hv
  have hstopped : p.Stopped limit v (p.program limit).state := by
    generalize p.program limit = o at hafter hv
    cases o with
    | accepted q => cases hv
    | rejected v' q =>
      cases hv
      exact hafter.2
  obtain ⟨w, j, hw, hne, hj, hlength⟩ := hstopped.exists_index hp
  exact ⟨v, w, j, rfl, hw.congr rfl, hne, hj, hlength⟩

/-- A check that accepts stops in front of the end. -/
theorem kind_of_accepted (h : Between s cap lexical p) (he : (s.checkFrom limit p).1 = none) :
    (next (s.checkFrom limit p).2).1.kind = .endOfSource := by
  have hverdict : (p.program limit).violation?.map (SyntaxError.ofViolation s) = none := he
  rw [Option.map_eq_none_iff, h.program_eq] at hverdict
  change (next ((p.program limit).state.report _)).1.kind = _
  rw [h.program_eq]
  generalize ho : (Grammar.program limit).run p = o at hverdict
  cases o with
  | accepted q =>
    have hq := kind_of_program_accepted ho
    exact hq
  | rejected v q => cases hverdict

/-- In front of the end a check accepts, and reports nothing else. -/
theorem checkFrom_of_end (h : Between s cap lexical p) (hk : (next p).1.kind = .endOfSource) :
    (s.checkFrom limit p).1 = none ∧
      (s.checkFrom limit p).2.lexer.reported.toList =
        p.lexer.reported.toList ++ [favourable] := by
  obtain ⟨q, hq, -, hr⟩ := program_of_end limit hk
  have hverdict : (s.checkFrom limit p).1 = none := by
    change (p.program limit).violation?.map _ = none
    rw [h.program_eq, hq]
    rfl
  refine ⟨hverdict, ?_⟩
  change (Array.push (p.program limit).state.lexer.reported
    (verdictDiagnostic (s.checkFrom limit p).1)).toList = _
  rw [hverdict, h.program_eq, hq, Array.toList_push, ← hr]
  rfl

end Between

namespace Source

variable (s : Source) (limits : Limits)

/-- The parser of a source after so many checks. -/
def parserAfter : Nat → Parser s.chars limits.tokenLength
  | 0 => .start s.chars limits.tokenLength
  | n + 1 => (s.checkFrom limits.nesting (parserAfter n)).2

/-- The verdict of the check behind so many others. -/
def verdictAfter (n : Nat) : Option SyntaxError :=
  (s.checkFrom limits.nesting (s.parserAfter limits n)).1

/-- Everything reported in so many checks. -/
def reportedAfter (n : Nat) : List Diagnostic :=
  (s.parserAfter limits n).lexer.reported.toList

/-- What the check behind so many others reports before its verdict. -/
def freshAfter (n : Nat) : List Diagnostic :=
  ((s.reportedAfter limits (n + 1)).drop (s.reportedAfter limits n).length).dropLast

/-- Number of tokens that so many checks have passed. -/
def consumedAfter (n : Nat) : Nat :=
  (s.tokens limits.tokenLength).length - (s.parserAfter limits n).pending.length

variable {s limits} in
/-- One more check reports what it finds and its verdict, and leaves the parser between two
checks. -/
theorem between_succ {lexical : List Diagnostic} {n : Nat}
    (h : Between s limits.tokenLength lexical (s.parserAfter limits n)) :
    s.reportedAfter limits (n + 1) = s.reportedAfter limits n ++ s.freshAfter limits n ++
        [verdictDiagnostic (s.verdictAfter limits n)] ∧
      Between s limits.tokenLength (lexical ++ s.freshAfter limits n)
        (s.parserAfter limits (n + 1)) := by
  obtain ⟨fresh, hreported, hbetween⟩ := h.checkFrom limits.nesting
  change s.reportedAfter limits (n + 1) = s.reportedAfter limits n ++ fresh ++
    [verdictDiagnostic (s.verdictAfter limits n)] at hreported
  have hfresh : s.freshAfter limits n = fresh := by
    rw [freshAfter, hreported, List.append_assoc, List.drop_left, List.dropLast_concat]
  rw [hfresh]
  exact ⟨hreported, hbetween⟩

/-- After any number of checks the parser is as it has to be between two. -/
theorem between_parserAfter (n : Nat) :
    Between s limits.tokenLength ((List.range n).flatMap (s.freshAfter limits))
      (s.parserAfter limits n) := by
  induction n with
  | zero => exact between_start s limits.tokenLength
  | succ n ih =>
    have h := (between_succ ih).2
    rwa [← List.flatMap_singleton (s.freshAfter limits) n, ← List.flatMap_append,
      ← List.range_succ] at h

/-- The reports grow by those of each check, with its verdict at the end. -/
theorem reportedAfter_succ (n : Nat) :
    s.reportedAfter limits (n + 1) = s.reportedAfter limits n ++ s.freshAfter limits n ++
      [verdictDiagnostic (s.verdictAfter limits n)] :=
  (between_succ (s.between_parserAfter limits n)).1

/-- The checks have passed the tokens in front of those that are pending. -/
theorem exists_consumed (n : Nat) :
    ∃ w, s.tokens limits.tokenLength = w ++ (s.parserAfter limits n).pending ∧
      w.length = s.consumedAfter limits n ∧ ∀ t ∈ w, t.kind ≠ .endOfSource := by
  obtain ⟨w, hw⟩ := (s.between_parserAfter limits n).passes
  have htokens := hw.pending_eq
  rw [pending_start] at htokens
  refine ⟨w, htokens, ?_, hw.solid⟩
  rw [consumedAfter, htokens, List.length_append, Nat.add_sub_cancel_right]

/-- What is pending between two checks is what the checks before have not consumed. -/
theorem pending_parserAfter (n : Nat) :
    (s.parserAfter limits n).pending =
      (s.tokens limits.tokenLength).drop (s.consumedAfter limits n) := by
  obtain ⟨w, htokens, hlength, -⟩ := s.exists_consumed limits n
  rw [htokens, ← hlength, List.drop_left]

variable {s limits} {n : Nat}

/-- What one check passes, all checks have passed after it. -/
theorem consumedAfter_succ {w : List Token}
    (h : (s.parserAfter limits n).Passes w (s.parserAfter limits (n + 1))) :
    s.consumedAfter limits (n + 1) = s.consumedAfter limits n + w.length := by
  obtain ⟨v, htokens, hlength, -⟩ := s.exists_consumed limits n
  have hpending := h.length_pending
  have htotal := congrArg List.length htokens
  rw [List.length_append] at htotal
  rw [consumedAfter, htotal, ← hlength]
  omega

variable (s limits) in
/-- Every check consumes some tokens more, or none. -/
theorem consumedAfter_le_succ (n : Nat) :
    s.consumedAfter limits n ≤ s.consumedAfter limits (n + 1) := by
  obtain ⟨-, w, hw⟩ := (s.between_parserAfter limits n).exists_passes limits.nesting
  have hnext : (s.parserAfter limits n).Passes w (s.parserAfter limits (n + 1)) := hw.congr rfl
  rw [consumedAfter_succ hnext]
  exact Nat.le_add_right ..

/-- A check that rejects goes forward, up to the offending token or past it. -/
theorem rejected_verdictAfter {e : SyntaxError} (h : s.verdictAfter limits n = some e) :
    ∃ v j, e = .ofViolation s v ∧ (s.tokens limits.tokenLength)[j]? = some v.found ∧
      s.consumedAfter limits (n + 1) =
        (if v.expected = .shallowerNesting ∨ v.found.kind = .endOfSource then j else j + 1) ∧
      s.consumedAfter limits n < s.consumedAfter limits (n + 1) ∧
      (s.parserAfter limits n).offset < (s.parserAfter limits (n + 1)).offset := by
  obtain ⟨v, w, j, rfl, hw, hne, hj, hlength⟩ := (s.between_parserAfter limits n).rejected h
  have hnext : (s.parserAfter limits n).Passes w (s.parserAfter limits (n + 1)) := hw
  have hconsumed := consumedAfter_succ hnext
  have hpos := List.length_pos_iff.2 hne
  have hoffset := hnext.offset_le
  rw [pending_parserAfter, List.getElem?_drop] at hj
  refine ⟨v, _, rfl, hj, ?_, by omega, by omega⟩
  rw [hconsumed, hlength]
  split <;> rfl

/-- Each check that rejects has passed a token of its own. -/
theorem countP_rejected_le_consumedAfter (n : Nat) :
    (List.range n).countP (fun i => (s.verdictAfter limits i).isSome) ≤
      s.consumedAfter limits n := by
  induction n with
  | zero => exact Nat.zero_le _
  | succ n ih =>
    rw [List.range_succ, List.countP_append, List.countP_singleton]
    cases hv : s.verdictAfter limits n with
    | none =>
      have hstep := consumedAfter_le_succ s limits n
      simp only [Option.isSome_none, Bool.false_eq_true, if_false]
      omega
    | some e =>
      obtain ⟨-, -, -, -, -, hlt, -⟩ := rejected_verdictAfter hv
      simp only [Option.isSome_some, if_true]
      omega

/-- As many checks reject as there are tokens before the end at most. -/
theorem countP_rejected_le (n : Nat) :
    (List.range n).countP (fun i => (s.verdictAfter limits i).isSome) ≤
      (s.tokens limits.tokenLength).countP (fun t => t.kind ≠ .endOfSource) := by
  obtain ⟨w, htokens, hlength, hsolid⟩ := s.exists_consumed limits n
  have hall : w.countP (fun t => t.kind ≠ .endOfSource) = w.length :=
    List.countP_eq_length.2 fun t ht => decide_eq_true (hsolid t ht)
  rw [htokens, List.countP_append, hall, hlength]
  exact Nat.le_trans (countP_rejected_le_consumedAfter n) (Nat.le_add_right ..)

/-- Behind a check that accepts the end is next for good. -/
theorem kind_of_accepted (h : s.verdictAfter limits n = none) {m : Nat} (hm : n < m) :
    (next (s.parserAfter limits m)).1.kind = .endOfSource := by
  induction m, hm using Nat.le_induction with
  | base => exact (s.between_parserAfter limits n).kind_of_accepted h
  | succ m hm ih =>
    have hbetween := s.between_parserAfter limits m
    exact hbetween.kind_of_accepted (hbetween.checkFrom_of_end ih).1

/-- All checks together report what is wrong with the tokens up to some place, once. -/
theorem flatMap_freshAfter_prefix (n : Nat) :
    (List.range n).flatMap (s.freshAfter limits) <+: s.lexicalDiagnostics limits.tokenLength := by
  obtain ⟨i, k, hs⟩ := (s.between_parserAfter limits n).stands
  have hreported : (List.range n).flatMap (s.freshAfter limits) =
      ((stream s.chars limits.tokenLength).take k).flatMap Reading.diagnostics := hs.reported
  have hall : s.lexicalDiagnostics limits.tokenLength =
      (stream s.chars limits.tokenLength).flatMap Reading.diagnostics := rfl
  rw [hreported, hall, ← List.take_append_drop k (stream s.chars limits.tokenLength),
    List.flatMap_append, List.take_append_drop]
  exact List.prefix_append ..

end Source

/-- Checks of one source in succession. At no moment more constructs are open than the limit
allows, and between two checks none is. The verdict of each check is the one on a tape with the
tokens that the checks before have not passed. A check that rejects goes forward to the token
behind the offending one, or to that one if it is the end or would have been too deep; so no more
checks reject than there are tokens before the end. A check behind one that accepts accepts and
has nothing else to report. Of what is wrong with the tokens all checks together report a first
part, and nothing of it twice. -/
theorem checks_in_succession (s : Source) (limits : Limits) :
    let tokens := (Lexer.start s.chars limits.tokenLength).drain.1
    let parser := s.parserAfter limits
    let verdict := s.verdictAfter limits
    let reported := s.reportedAfter limits
    let consumed := s.consumedAfter limits
    (∀ n, (parser n).depth = 0 ∧
      Traced.forget ((parser n).traced limits.nesting) = (parser n).program limits.nesting ∧
      ∀ p ∈ (parser n).moments limits.nesting, p.depth ≤ limits.nesting) ∧
    (consumed 0 = 0 ∧ ∀ n, (parser n).lexer.drain.1 = tokens.drop (consumed n) ∧
      verdict n = ((Grammar.program limits.nesting).run
        (⟨tokens.drop (consumed n), 0⟩ : TokenTape)).violation?.map (.ofViolation s)) ∧
    (∀ n e, verdict n = some e → ∃ v j, e = .ofViolation s v ∧ tokens[j]? = some v.found ∧
      consumed (n + 1) =
        (if v.expected = .shallowerNesting ∨ v.found.kind = .endOfSource then j else j + 1) ∧
      consumed n < consumed (n + 1) ∧ (parser n).offset < (parser (n + 1)).offset) ∧
    (∀ n, ∀ t ∈ tokens.take (consumed n), t.kind ≠ .endOfSource) ∧
    (∀ n, (List.range n).countP (fun i => (verdict i).isSome) ≤
      tokens.countP (fun t => t.kind ≠ .endOfSource)) ∧
    (∀ n m, verdict n = none → n < m →
      verdict m = none ∧ reported (m + 1) = reported m ++ [favourable]) ∧
    (∀ n, reported (n + 1) =
      reported n ++ s.freshAfter limits n ++ [verdictDiagnostic (verdict n)]) ∧
    ∀ n, (List.range n).flatMap (s.freshAfter limits) <+:
      s.lexicalDiagnostics limits.tokenLength := by
  intro tokens parser verdict reported consumed
  have htokens : tokens = s.tokens limits.tokenLength :=
    Lexer.drain_start s.chars limits.tokenLength
  have hbetween := s.between_parserAfter limits
  rw [htokens]
  refine ⟨fun n => ⟨(hbetween n).depth, forget_traced _ _, fun p hp => ?_⟩, ⟨?_, fun n => ?_⟩,
    fun n e he => Source.rejected_verdictAfter he, fun n t ht => ?_, Source.countP_rejected_le,
    fun n m hn hm => ?_, s.reportedAfter_succ limits,
    Source.flatMap_freshAfter_prefix⟩
  · have hdepth : (parser n).depth ≤ limits.nesting := by
      rw [(hbetween n).depth]
      exact Nat.zero_le _
    exact depth_le_of_mem_moments hdepth hp
  · have hstart : (parser 0).pending = s.tokens limits.tokenLength :=
      pending_start s limits.tokenLength
    change (s.tokens limits.tokenLength).length - (parser 0).pending.length = 0
    rw [hstart, Nat.sub_self]
  · have hpending := s.pending_parserAfter limits n
    refine ⟨hpending, ?_⟩
    change ((parser n).program limits.nesting).violation?.map _ = _
    rw [(hbetween n).program_eq, violation?_program, Parser.tape, hpending, (hbetween n).depth]
  · obtain ⟨w, hw, hlength, hsolid⟩ := s.exists_consumed limits n
    have htake : (s.tokens limits.tokenLength).take (s.consumedAfter limits n) = w := by
      rw [hw, ← hlength, List.take_left]
    exact hsolid t (htake ▸ ht)
  · exact (hbetween m).checkFrom_of_end (Source.kind_of_accepted hn hm)

/-- A mark that begins nothing, and a declaration that is not finished. -/
def strayMark : Source :=
  ⟨"; int".toList, by decide, by decide⟩

example : (List.range 4).map (strayMark.consumedAfter {}) = [0, 1, 2, 2] ∧
    (List.range 4).map (fun n => (strayMark.verdictAfter {} n).map (·.expected)) =
      [some "data type or 'class' keyword expected", some "identifier expected", none, none] := by
  decide +kernel

end Recognizer
