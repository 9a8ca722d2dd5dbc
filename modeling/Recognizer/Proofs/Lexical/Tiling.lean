import Recognizer.Proofs.Lexical.Backtracking
import Recognizer.Proofs.Lexical.Classification
import Recognizer.Proofs.Text.Lines

/-!
# Tokens and gaps tile a source

Written one behind the other, the tokens of a source and the gaps between them are the text of
the source. Each token stands at the line and column that are found by counting in front of it,
and the cursor moves over exactly the characters that are there.
-/

namespace Recognizer

/-- The line and column of a token are those of the place behind a piece of text. -/
def Token.StandsBehind (t : Token) (passed : List Char) : Prop :=
  t.line = 1 + passed.count '\n' ∧ t.column = 1 + (lastLine passed).length

/-- The token is found in the text at an offset, and its line and column are those of the offset. -/
def Token.PlacedAt (t : Token) (text : List Char) (offset : Nat) : Prop :=
  ∃ before behind, text = before ++ (t.text.toList ++ behind) ∧ before.length = offset ∧
    t.StandsBehind before

/-- Behind the text `passed`, the text `ahead` consists of these tokens with gaps in front of
them. The last one is the end. -/
inductive Tiled : List Char → List Char → List Token → Prop where
  /-- Behind the last gap there is nothing but the end. -/
  | ending {passed : List Char} {gap : List Trivia} {t : Token} (hg : Trivia.Laid gap [])
    (hk : t.kind = .endOfSource) (ht : t.text = "")
    (hs : t.StandsBehind (passed ++ Trivia.textOf gap)) : Tiled passed (Trivia.textOf gap) [t]
  /-- A comment that is not closed is an error token, and everything behind it is skipped. -/
  | unclosed {passed rest : List Char} {gap : List Trivia} {t last : Token}
    (hg : Trivia.Laid gap ('/' :: '*' :: rest)) (hopen : ¬ ['*', '/'] <:+: rest)
    (hk : t.kind = .error) (ht : t.text = "/*") (hs : t.StandsBehind (passed ++ Trivia.textOf gap))
    (hlast : Tiled (passed ++ (Trivia.textOf gap ++ '/' :: '*' :: rest)) [] [last]) :
    Tiled passed (Trivia.textOf gap ++ '/' :: '*' :: rest) [t, last]
  /-- A token stands behind its gap, and the next gap begins right behind it. -/
  | token {passed behind : List Char} {gap : List Trivia} {t : Token} {ts : List Token}
    (hg : Trivia.Laid gap (t.text.toList ++ behind)) (hk : t.kind ≠ .endOfSource)
    (ht : t.text ≠ "") (hs : t.StandsBehind (passed ++ Trivia.textOf gap))
    (hrest : Tiled (passed ++ (Trivia.textOf gap ++ t.text.toList)) behind ts) :
    Tiled passed (Trivia.textOf gap ++ (t.text.toList ++ behind)) (t :: ts)

namespace Reading

variable {cap : Nat} {p : Position} {cs : List Char}

/-- A token that begins at the place behind a piece of text stands there. -/
theorem standsBehind_scan (cap : Nat) (front cs : List Char) :
    (scan cap (Position.start.advance front) cs).token.StandsBehind
      (front ++ Trivia.textOf (Trivia.readAll cs).1) := by
  have hstart : (scan cap (Position.start.advance front) cs).start = _ :=
    (Position.advance_append ..).symm.trans (Position.advance_start _)
  exact ⟨congrArg Position.line hstart, congrArg Position.column hstart⟩

/-- Where nothing is thrown away, a step passes a gap and a token. -/
theorem scan_of_discarded (p : Position)
    (hd : (Lexeme.read cap (Trivia.readAll cs).2).discarded = []) :
    (scan cap p cs).token.text.toList ++ (scan cap p cs).rest = (Trivia.readAll cs).2 ∧
      passed cap cs =
        Trivia.textOf (Trivia.readAll cs).1 ++ (scan cap p cs).token.text.toList := by
  have hcovers := Lexeme.read_covers cap (Trivia.readAll cs).2
  rw [Lexeme.Covers, Lexeme.consumed, hd, List.append_nil] at hcovers
  constructor
  · simpa [scan] using hcovers
  · simp [passed, scan, Lexeme.consumed, hd]

/-- A comment that is opened and not closed is passed with all the text behind it. -/
theorem passed_of_open (cap : Nat) {rest : List Char}
    (ho : (Trivia.readAll cs).2 = '/' :: '*' :: rest) :
    passed cap cs = Trivia.textOf (Trivia.readAll cs).1 ++ '/' :: '*' :: rest ∧
      ¬ ['*', '/'] <:+: rest := by
  have hnone := Trivia.read?_readAll cs
  rw [ho] at hnone
  have hclosed := Trivia.splitAtClose?_eq_none_iff.1 (Option.map_eq_none_iff.1 hnone)
  refine ⟨?_, hclosed⟩
  simp [passed, Lexeme.consumed, ho, Lexeme.read]

/-- A token before the end has a text. -/
theorem text_ne_empty (h : (scan cap p cs).token.kind ≠ .endOfSource) :
    (scan cap p cs).token.text ≠ "" := by
  have hn : (Trivia.readAll cs).2 ≠ [] := fun hn => h ((kind_eq_endOfSource_iff cap p cs).2 hn)
  intro he
  have hl := congrArg String.toList he
  rw [scan, String.toList_ofList] at hl
  exact (Lexeme.read_solid cap hn).2 hl

end Reading

/-- The tokens read from a place on tile the text from there on. -/
theorem tiled_all (cap : Nat) (front cs : List Char) :
    Tiled front cs ((Reading.all cap (Position.start.advance front) cs).map (·.token)) := by
  have hlaid := Trivia.laid_readAll cs
  have hcs := Trivia.textOf_append_readAll cs
  have hstands := Reading.standsBehind_scan cap front cs
  by_cases hend : (Reading.scan cap (Position.start.advance front) cs).token.kind = .endOfSource
  · have hnil := (Reading.kind_eq_endOfSource_iff cap _ cs).1 hend
    rw [hnil] at hlaid
    rw [hnil, List.append_nil] at hcs
    have h := Tiled.ending hlaid hend (Reading.text_of_end hend) hstands
    rw [Reading.all_of_end hend, List.map_singleton]
    rwa [hcs] at h
  · have hshorter := Reading.length_rest_lt hend
    have ih := tiled_all cap (front ++ Reading.passed cap cs)
      (Reading.scan cap (Position.start.advance front) cs).rest
    rw [Position.advance_append, ← Reading.stop_eq] at ih
    rw [Reading.all_of_ne_end hend, List.map_cons]
    rcases Lexeme.read_discarded cap (Trivia.readAll cs).2 with hd | ⟨rest, ho⟩
    · obtain ⟨hread, hpassed⟩ := Reading.scan_of_discarded (Position.start.advance front) hd
      rw [hpassed] at ih
      rw [← hread] at hlaid
      have h := Tiled.token hlaid hend (Reading.text_ne_empty hend) hstands ih
      rwa [hread, hcs] at h
    · obtain ⟨-, hkind, htext, hrest⟩ := Reading.scan_of_open cap (Position.start.advance front) ho
      obtain ⟨hpassed, hclosed⟩ := Reading.passed_of_open cap ho
      rw [hpassed, hrest, Reading.all_of_end (Reading.kind_scan_nil cap _), List.map_singleton] at ih
      rw [hrest, Reading.all_of_end (Reading.kind_scan_nil cap _), List.map_singleton]
      rw [ho] at hlaid hcs
      have h := Tiled.unclosed hlaid hclosed hkind htext hstands ih
      rwa [hcs] at h
  termination_by cs.length

/-- The tokens with their offsets in a text, none of which is before `first`. -/
structure Placement (text : List Char) (first : Nat) (placed : List (Nat × Token))
    (ts : List Token) : Prop where
  /-- All tokens are there. -/
  tokens : placed.map Prod.snd = ts
  /-- None of them begins earlier. -/
  first_le : ∀ x ∈ placed, first ≤ x.1
  /-- Each is found at its offset. -/
  placedAt : ∀ x ∈ placed, x.2.PlacedAt text x.1
  /-- The end is found behind the last character, and nothing else is. -/
  atEnd : ∀ x ∈ placed, x.2.kind = .endOfSource ↔ x.1 = text.length
  /-- Each begins behind the one before it. -/
  apart : placed.Pairwise fun x y => x.1 < y.1 ∧ x.1 + x.2.text.length ≤ y.1

/-- A token with a text has a length. -/
theorem Token.length_pos {t : Token} (h : t.text ≠ "") : 0 < t.text.length := by
  rw [← String.length_toList, List.length_pos_iff]
  intro hn
  exact h (String.toList_inj.1 hn)

/-- A token is placed in front of those that begin behind it. -/
theorem Placement.cons {text : List Char} {first n last : Nat} {placed : List (Nat × Token)}
    {t : Token} {ts : List Token} (h : Placement text last placed ts) (hp : t.PlacedAt text n)
    (hk : t.kind ≠ .endOfSource) (ht : t.text ≠ "") (hf : first ≤ n)
    (hl : n + t.text.length ≤ last) : Placement text first ((n, t) :: placed) (t :: ts) := by
  have hpos := Token.length_pos ht
  refine ⟨?_, ?_, ?_, ?_, ?_⟩
  · rw [List.map_cons, h.tokens]
  · refine List.forall_mem_cons.2 ⟨hf, fun x hx => ?_⟩
    have hx := h.first_le x hx
    omega
  · exact List.forall_mem_cons.2 ⟨hp, h.placedAt⟩
  · refine List.forall_mem_cons.2 ⟨⟨fun he => absurd he hk, fun he => ?_⟩, h.atEnd⟩
    obtain ⟨before, behind, htext, hn, -⟩ := hp
    have hlength := congrArg List.length htext
    rw [List.length_append, List.length_append, String.length_toList] at hlength
    change n = text.length at he
    omega
  · refine List.pairwise_cons.2 ⟨fun y hy => ?_, h.apart⟩
    have hy := h.first_le y hy
    change n < y.1 ∧ n + t.text.length ≤ y.1
    omega

namespace Tiled

variable {front cs : List Char} {ts : List Token}

/-- The last token is the end and the only one, and there are not more tokens than characters. -/
theorem exists_last (h : Tiled front cs ts) : ∃ before last, ts = before ++ [last] ∧
    last.kind = .endOfSource ∧ before.length ≤ cs.length ∧
    ∀ t ∈ before, t.kind ≠ .endOfSource ∧ t.text ≠ "" := by
  induction h with
  | ending hg hk ht hs => exact ⟨[], _, rfl, hk, Nat.zero_le _, by simp⟩
  | @unclosed front rest gap t last hg hopen hk ht hs hlast ih =>
    obtain ⟨before, last', hts, hend, hlength, -⟩ := ih
    obtain rfl : before = [] := List.length_eq_zero_iff.1 (Nat.le_zero.1 hlength)
    obtain rfl : last = last' := (List.cons.inj hts).1
    refine ⟨[t], last, rfl, hend, ?_, ?_⟩
    · simp only [List.length_append, List.length_cons, List.length_nil]
      omega
    · intro t' ht'
      obtain rfl := List.mem_singleton.1 ht'
      rw [hk, ht]
      decide
  | @token front behind gap t ts hg hk ht hs hrest ih =>
    obtain ⟨before, last, rfl, hend, hlength, hall⟩ := ih
    have hpos := Token.length_pos ht
    refine ⟨t :: before, last, rfl, hend, ?_, List.forall_mem_cons.2 ⟨⟨hk, ht⟩, hall⟩⟩
    simp only [List.length_append, List.length_cons, String.length_toList]
    omega

/-- Each token is found in the text where it stands, one behind the other. -/
theorem exists_placement (h : Tiled front cs ts) :
    ∃ placed, Placement (front ++ cs) front.length placed ts := by
  induction h with
  | @ending front gap t hg hk ht hs =>
    have hat : t.PlacedAt (front ++ Trivia.textOf gap) (front ++ Trivia.textOf gap).length :=
      ⟨front ++ Trivia.textOf gap, [], by simp [ht], rfl, hs⟩
    refine ⟨[((front ++ Trivia.textOf gap).length, t)], rfl, ?_, ?_, ?_, List.pairwise_singleton _ _⟩
    · simp
    · simpa using hat
    · simpa using hk
  | @unclosed front rest gap t last hg hopen hk ht hs hlast ih =>
    obtain ⟨placed, hp⟩ := ih
    rw [List.append_nil] at hp
    have hat : t.PlacedAt (front ++ (Trivia.textOf gap ++ '/' :: '*' :: rest))
        (front ++ Trivia.textOf gap).length :=
      ⟨front ++ Trivia.textOf gap, rest, by simp [ht], rfl, hs⟩
    refine ⟨_, hp.cons hat ?_ ?_ ?_ ?_⟩
    · rw [hk]
      decide
    · rw [ht]
      decide
    · simp
    · have hl : "/*".length = 2 := rfl
      rw [ht, hl]
      simp only [List.length_append, List.length_cons]
      omega
  | @token front behind gap t ts hg hk ht hs hrest ih =>
    obtain ⟨placed, hp⟩ := ih
    have hat : t.PlacedAt (front ++ (Trivia.textOf gap ++ (t.text.toList ++ behind)))
        (front ++ Trivia.textOf gap).length :=
      ⟨front ++ Trivia.textOf gap, behind, by simp, rfl, hs⟩
    have hassoc : front ++ (Trivia.textOf gap ++ t.text.toList) ++ behind =
        front ++ (Trivia.textOf gap ++ (t.text.toList ++ behind)) := by simp
    rw [hassoc] at hp
    refine ⟨_, hp.cons hat hk ht (by simp) ?_⟩
    simp only [List.length_append, String.length_toList]
    omega

end Tiled

/-! ### The cursor -/

/-- A place of a text is reached from its beginning over the characters in front of it. -/
def Position.Within (p : Position) (text : List Char) : Prop :=
  ∃ front behind, text = front ++ behind ∧ p = start.advance front

namespace Position.Within

variable {p : Position} {text : List Char}

/-- No place of a text is behind its end. -/
theorem offset_le (h : p.Within text) : p.offset ≤ text.length := by
  obtain ⟨front, behind, rfl, rfl⟩ := h
  rw [advance_offset, List.length_append]
  change 0 + front.length ≤ _
  omega

end Position.Within

namespace Lexer

variable {text : List Char} {cap : Nat}

/-- From a place of the text the next step leads to a place of the text. -/
theorem within_next {l : Lexer text cap} (h : l.cursor.position.Within text) :
    l.next.2.cursor.position.Within text := by
  obtain ⟨front, behind, htext, hp⟩ := h
  have hrest : l.cursor.rest = behind := by
    have hoffset : l.cursor.position.offset = front.length := by
      rw [hp, Position.advance_offset]
      exact Nat.zero_add _
    rw [l.cursor.rest_eq, hoffset, htext, List.drop_left]
  refine ⟨front ++ Reading.passed cap behind,
    (Reading.scan cap l.cursor.position behind).rest, ?_, ?_⟩
  · rw [List.append_assoc, Reading.passed_append_rest, htext]
  · change (Reading.scan cap l.cursor.position l.cursor.rest).stop = _
    rw [hrest, Reading.stop_eq, hp, Position.advance_append]

/-- Reading past some tokens does not leave the text. -/
theorem within_skip (n : Nat) {l : Lexer text cap} (h : l.cursor.position.Within text) :
    (skip n l).cursor.position.Within text := by
  induction n generalizing l with
  | zero => exact h
  | succ n ih => exact ih (within_next h)

/-- The cursor and the places remembered are places of the text. -/
def Session.Within (s : Session text cap) : Prop :=
  s.lexer.cursor.position.Within text ∧ ∀ p ∈ s.saved, p.Within text

/-- Whatever is asked, the cursor stays in the text. -/
theorem Session.Within.step {s : Session text cap} (h : s.Within) (move : Move) :
    (s.step move).Within := by
  cases move with
  | next => exact ⟨within_next h.1, h.2⟩
  | skip n => exact ⟨within_skip n h.1, h.2⟩
  | save => exact ⟨h.1, List.forall_mem_cons.2 ⟨h.1, h.2⟩⟩
  | restore slot =>
    rw [Session.step]
    cases hs : s.saved[slot]? with
    | none => exact h
    | some p => exact ⟨h.2 p (List.mem_of_getElem? hs), h.2⟩

/-- No moves leave the text. -/
theorem Session.Within.run {s : Session text cap} (h : s.Within) (moves : List Move) :
    (s.run moves).Within := by
  induction moves generalizing s with
  | nil => exact h
  | cons move moves ih => exact ih (h.step move)

/-- A step moves the cursor over what it passes. -/
theorem advance_next (l : Lexer text cap) :
    l.next.2.cursor.position.advance l.next.2.cursor.rest =
      l.cursor.position.advance l.cursor.rest := by
  change (Reading.scan cap l.cursor.position l.cursor.rest).stop.advance
    (Reading.scan cap l.cursor.position l.cursor.rest).rest = _
  rw [Reading.stop_eq, ← Position.advance_append, Reading.passed_append_rest]

/-- A lexer that is drained has passed the whole text. -/
theorem position_drain (l : Lexer text cap) :
    l.drain.2.cursor.position = l.cursor.position.advance l.cursor.rest := by
  fun_induction drain l with
  | case1 l step h =>
    have hrest : l.next.2.cursor.rest = [] := Reading.rest_of_end h
    have hnext := advance_next l
    rw [hrest] at hnext
    exact hnext
  | case2 l step h hlt tail ih => rw [← advance_next l, ← ih]

end Lexer

/-- No token of a source has a line feed in it. -/
theorem Source.newline_notMem_text {s : Source} {cap : Nat} {t : Token} (h : t ∈ s.tokens cap) :
    '\n' ∉ t.text.toList := by
  obtain ⟨r, hr, rfl⟩ := List.mem_map.1 h
  obtain ⟨before, ahead, -, ht, -, -, htext, -⟩ := Reading.exists_lexeme_of_mem hr
  rw [htext]
  cases Lexeme.read_sound cap ht with
  | classified h => exact h.spelled.notMem (.inl rfl)
  | malformed hk h => exact h.newline_notMem

/-- A token of a source is found in it where its line and column say; behind the last character
there is the end only. -/
theorem Source.exists_placedAt {s : Source} {cap : Nat} {t : Token} (h : t ∈ s.tokens cap) :
    ∃ n, t.PlacedAt s.chars n ∧ (t.kind = .endOfSource ↔ n = s.chars.length) := by
  have htiled : Tiled [] s.chars (s.tokens cap) := tiled_all cap [] s.chars
  obtain ⟨placed, hplaced⟩ := htiled.exists_placement
  rw [← hplaced.tokens] at h
  obtain ⟨⟨n, t⟩, hx, rfl⟩ := List.mem_map.1 h
  exact ⟨n, hplaced.placedAt _ hx, hplaced.atEnd _ hx⟩

/-- Every token of a source is what the source has at the token's line and column. -/
theorem Source.holds_of_mem {s : Source} {cap : Nat} {t : Token} (h : t ∈ s.tokens cap) :
    s.holds t = true := by
  obtain ⟨n, ⟨front, behind, hchars, -, hline, hcolumn⟩, -⟩ := exists_placedAt h
  exact holds_of_append hchars (newline_notMem_text h) hline hcolumn

/-- The tokens of a source are as many pieces of it, at most one for each character, and the end;
between them there are gaps and nothing else. Each is found where its line and column say, and
the cursor of a lexer is never put anywhere but in the text. -/
theorem tokens_tile_source (s : Source) (cap : Nat) :
    let tokens := (Lexer.start s.chars cap).drain.1
    Tiled [] s.chars tokens ∧
      (∃ before last, tokens = before ++ [last] ∧ last.kind = .endOfSource ∧
        before.length ≤ s.chars.length ∧
        ∀ t ∈ before, t.kind ≠ .endOfSource ∧ t.text ≠ "" ∧ s.holds t = true) ∧
      (∃ placed, Placement s.chars 0 placed tokens) ∧
      (Lexer.start s.chars cap).drain.2.cursor.position = Position.start.advance s.chars ∧
      ∀ moves,
        let place := ((Lexer.Session.start s.chars cap).run moves).lexer.cursor.position
        place.Within s.chars ∧ place.offset ≤ s.chars.length := by
  intro tokens
  have htokens : tokens = s.tokens cap := Lexer.drain_start s.chars cap
  have htiled : Tiled [] s.chars tokens := by
    rw [htokens]
    exact tiled_all cap [] s.chars
  obtain ⟨before, last, hts, hend, hlength, hall⟩ := htiled.exists_last
  obtain ⟨placed, hplaced⟩ := htiled.exists_placement
  refine ⟨htiled, ⟨before, last, hts, hend, hlength, ?_⟩, ⟨placed, hplaced⟩,
    Lexer.position_drain _, fun moves => ?_⟩
  · intro t ht
    have hmem : t ∈ tokens := by
      rw [hts]
      exact List.mem_append_left _ ht
    have hn : '\n' ∉ t.text.toList := by
      rw [htokens] at hmem
      exact Source.newline_notMem_text hmem
    refine ⟨(hall t ht).1, (hall t ht).2, ?_⟩
    rw [← hplaced.tokens, List.mem_map] at hmem
    obtain ⟨x, hx, rfl⟩ := hmem
    obtain ⟨front, behind, hchars, -, hline, hcolumn⟩ := hplaced.placedAt x hx
    exact Source.holds_of_append hchars hn hline hcolumn
  · have hstart : (Lexer.Session.start s.chars cap).Within :=
      ⟨⟨[], s.chars, rfl, rfl⟩, fun p hp => absurd hp List.not_mem_nil⟩
    have hplace := (hstart.run moves).1
    exact ⟨hplace, hplace.offset_le⟩

end Recognizer
