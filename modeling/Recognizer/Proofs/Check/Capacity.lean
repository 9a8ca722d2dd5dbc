import Recognizer.Proofs.Check.Refinement
import Recognizer.Proofs.Lexical.Capacity

/-!
# A check under a higher cap

A parser goes back in the text, but never to a place that does not belong to the token stream. So
where nothing in the stream is too long a parser with a higher cap does the same, step by step.
-/

namespace Recognizer

open TokenSource Lexer

variable {text : List Char} {cap : Nat}

/-- The same lexer with another cap. -/
def Lexer.withCap (l : Lexer text cap) (cap' : Nat) : Lexer text cap' :=
  ⟨l.cursor, l.mark, l.reported⟩

/-- Where the next token is the same the lexer with the other cap goes on in the same way. -/
theorem Lexer.next_withCap {l : Lexer text cap} {cap' : Nat}
    (h : l.cursor.reading cap' = l.cursor.reading cap) :
    (l.withCap cap').next = (l.next.1, l.next.2.withCap cap') := by
  have hcursor : l.cursor.next cap' = l.cursor.next cap :=
    Cursor.eq_of_position_eq (congrArg Reading.stop h)
  have hfresh : (l.withCap cap').fresh = l.fresh := by
    change (if (l.cursor.reading cap').start.offset < l.mark then []
      else (l.cursor.reading cap').diagnostics) = _
    rw [h]
    rfl
  change ((l.cursor.reading cap').token, Lexer.mk (l.cursor.next cap')
    (max l.mark (l.cursor.reading cap').stop.offset) (l.reported ++ (l.withCap cap').fresh)) = _
  rw [hcursor, hfresh, h]
  rfl

namespace Parser

/-- The same parser with another cap. -/
def withCap (p : Parser text cap) (cap' : Nat) : Parser text cap' :=
  ⟨p.lexer.withCap cap', p.depth⟩

/-- A parser whose cursor belongs to the token stream, and the same parser with another cap. -/
def Recapped (cap' : Nat) (p : Parser text cap) (q : Parser text cap') : Prop :=
  (∃ i, Belongs text cap p.lexer.cursor.position i) ∧ q = p.withCap cap'

namespace Recapped

variable {cap' : Nat} {p p' : Parser text cap} {q q' : Parser text cap'}

/-- In front of a token that is not too long both do the same. -/
theorem next_eq (hc : cap ≤ cap') (hs : ∀ r ∈ stream text cap, .tooLong ∉ r.faults)
    (h : Recapped cap' p q) : next q = ((next p).1, (next p).2.withCap cap') := by
  obtain ⟨⟨i, hb⟩, rfl⟩ := h
  have hmem : p.lexer.cursor.reading cap ∈ stream text cap := by
    rw [reading_eq]
    exact List.mem_of_getElem? hb.getElem?
  have hreading : p.lexer.cursor.reading cap' = p.lexer.cursor.reading cap :=
    Reading.scan_of_cap_le hc (hs _ hmem)
  have hnext := Lexer.next_withCap hreading
  change ((p.lexer.withCap cap').next.1, Parser.mk (p.lexer.withCap cap').next.2 p.depth) = _
  rw [hnext]
  rfl

/-- Where no token is too long, the same token is read with a higher cap. -/
theorem token_eq (hc : cap ≤ cap') (hs : ∀ r ∈ stream text cap, .tooLong ∉ r.faults)
    (h : Recapped cap' p q) : (next q).1 = (next p).1 :=
  congrArg Prod.fst (h.next_eq hc hs)

/-- Reading a token leads to the following place of the stream. -/
theorem next (hc : cap ≤ cap') (hs : ∀ r ∈ stream text cap, .tooLong ∉ r.faults)
    (h : Recapped cap' p q) : Recapped cap' (TokenSource.next p).2 (TokenSource.next q).2 := by
  have hnext := congrArg Prod.snd (h.next_eq hc hs)
  obtain ⟨⟨i, hb⟩, -⟩ := h
  exact ⟨⟨_, belongs_next hb⟩, hnext⟩

/-- Putting back leads to a place of the stream where the parser has been. -/
theorem rewind (h : Recapped cap' p q) (hn : Recapped cap' p' q') :
    Recapped cap' (rewind p p') (TokenSource.rewind q q') := by
  obtain ⟨hb, rfl⟩ := h
  obtain ⟨-, rfl⟩ := hn
  exact ⟨hb, rfl⟩

/-- Opening a construct does not depend on the cap. -/
theorem enter (h : Recapped cap' p q) :
    Recapped cap' (TokenSource.enter p) (TokenSource.enter q) := by
  obtain ⟨hb, rfl⟩ := h
  exact ⟨hb, rfl⟩

/-- Closing a construct does not depend on the cap. -/
theorem leave (h : Recapped cap' p q) :
    Recapped cap' (TokenSource.leave p) (TokenSource.leave q) := by
  obtain ⟨hb, rfl⟩ := h
  exact ⟨hb, rfl⟩

end Recapped

/-- Where nothing is too long no procedure can tell a higher cap. -/
def recappedSimulation (text : List Char) {cap cap' : Nat} (hc : cap ≤ cap')
    (hs : ∀ r ∈ stream text cap, .tooLong ∉ r.faults) :
    Simulation (Parser text cap) (Parser text cap') where
  related := Recapped cap'
  failed v w p q := v = w ∧ Recapped cap' p q
  kind_eq h := congrArg Token.kind (h.token_eq hc hs).symm
  second_eq h := congrArg Token.kind ((h.next hc hs).token_eq hc hs).symm
  read h _ _ := h.next hc hs
  look h := h.rewind (h.next hc hs)
  lookTwice h := h.rewind ((h.next hc hs).next hc hs)
  enter h := h.enter
  leave h := h.leave
  failed_read h e := ⟨by rw [h.token_eq hc hs], h.next hc hs⟩
  failed_look h e := ⟨by rw [h.token_eq hc hs], h.rewind (h.next hc hs)⟩
  failed_leave h := ⟨h.1, h.2.leave⟩

/-- Both come to the same verdict with the same reports. -/
theorem eq_of_recapped_agree {cap' : Nat} {hc : cap ≤ cap'}
    {hs : ∀ r ∈ stream text cap, .tooLong ∉ r.faults} {o : Outcome (Parser text cap)}
    {o' : Outcome (Parser text cap')} (h : (recappedSimulation text hc hs).Agree o o') :
    o'.violation? = o.violation? ∧ o'.state.lexer.reported = o.state.lexer.reported := by
  cases h with
  | accepted h =>
    obtain ⟨-, rfl⟩ := h
    exact ⟨rfl, rfl⟩
  | rejected h =>
    obtain ⟨rfl, -, rfl⟩ := h
    exact ⟨rfl, rfl⟩

/-- A fresh parser with another cap is a fresh parser. -/
theorem recapped_start (text : List Char) (cap cap' : Nat) :
    Recapped cap' (start text cap) (start text cap') :=
  ⟨⟨0, (standing_start text cap).belongs⟩, rfl⟩

end Parser

/-- Where nothing is too long the verdict and the reports are the same under any higher cap. -/
theorem Source.check_of_cap_le {s : Source} {cap cap' : Nat} (hc : cap ≤ cap')
    (hs : ∀ r ∈ stream s.chars cap, .tooLong ∉ r.faults) (limits : Limits) :
    s.check { limits with tokenLength := cap' } = s.check { limits with tokenLength := cap } := by
  have hagree : (Parser.recappedSimulation s.chars hc hs).Agree
      ((Parser.start s.chars cap).program limits.nesting)
      ((Parser.start s.chars cap').program limits.nesting) :=
    (Parser.recappedSimulation s.chars hc hs).respects_program _ _ _
      (Parser.recapped_start s.chars cap cap')
  obtain ⟨hviolation, hreported⟩ := Parser.eq_of_recapped_agree hagree
  have hverdict : (s.check { limits with tokenLength := cap' }).1 =
      (s.check { limits with tokenLength := cap }).1 :=
    congrArg (Option.map (SyntaxError.ofViolation s)) hviolation
  refine Prod.ext hverdict ?_
  rw [check_snd, check_snd, hverdict]
  exact congrArg (fun reports : Array Diagnostic => reports.toList ++ _) hreported

/-- Words and numerals have no more characters than the cap allows, and no other token has more than
one above it, or two. If nothing is reported as too long, then a higher cap changes nothing: neither
the tokens, nor the reports, nor what comes of a check. -/
theorem higher_cap_changes_nothing (s : Source) (cap : Nat) :
    (∀ t ∈ (Lexer.start s.chars cap).drain.1,
        (t.kind.isLimited = true → t.text.length ≤ cap) ∧ t.text.length ≤ max (cap + 1) 2) ∧
      ((∀ d ∈ (Lexer.start s.chars cap).drain.2.reported,
          d.message ≠ LexicalFault.tooLong.message) →
        ∀ cap', cap ≤ cap' →
          (Lexer.start s.chars cap').drain.1 = (Lexer.start s.chars cap).drain.1 ∧
            (Lexer.start s.chars cap').drain.2.reported =
              (Lexer.start s.chars cap).drain.2.reported ∧
            ∀ limits : Limits, s.check { limits with tokenLength := cap' } =
              s.check { limits with tokenLength := cap }) := by
  refine ⟨fun t ht => ?_, fun h cap' hc => ?_⟩
  · rw [Lexer.drain_start] at ht
    exact Source.length_text_le ht
  · have hs := Lexer.tooLong_notMem_of_drain h
    obtain ⟨htokens, hreported⟩ := Lexer.drain_of_cap_le hc hs
    exact ⟨htokens, hreported, Source.check_of_cap_le hc hs⟩

end Recognizer
