import Recognizer.Proofs.Lexical.Backtracking
import Recognizer.Proofs.Lexical.Determinacy

/-!
# Reading what was written

Tokens that are written one behind the other, each with a gap behind it that begins with a blank,
are read as the same tokens again. A gap is whatever trivia may stand between tokens; it ends
where the next token begins, since a blank ends a token and nothing in it ends too late.
-/

namespace Recognizer

open Text Lexeme Lexer

/-- A token and the gap that is written behind it. -/
structure Written where
  /-- What the token is. -/
  kind : TokenKind
  /-- How the token is written. -/
  text : List Char
  /-- The gap behind it. -/
  gap : List Trivia
  deriving DecidableEq, Repr

namespace Written

/-- Tokens as a text. -/
def print : List Written → List Char
  | [] => []
  | x :: xs => x.text ++ (Trivia.textOf x.gap ++ print xs)

/-- The gap begins with a blank. -/
def Separated (x : Written) : Prop :=
  ∃ t ts, x.gap = t :: ts ∧ t ∈ [.space, .tab, .newline]

/-- The token is written as its kind is and not too long. -/
structure Correct (cap : Nat) (x : Written) : Prop where
  /-- The end is not written. -/
  kind_ne : x.kind ≠ .endOfSource
  /-- The token is written as its kind is. -/
  spelled : x.kind.Spelled x.text
  /-- Words and numerals are not too long. -/
  fits : x.kind.isLimited = true → x.text.length ≤ cap

/-- The tokens are written correctly, and they are separated by gaps. Behind the last token there
need not be one. -/
def WellWritten (cap : Nat) : List Written → Prop
  | [] => True
  | x :: xs => x.Correct cap ∧ (x.Separated ∨ xs = [] ∧ x.gap = []) ∧
      Trivia.Laid x.gap (print xs) ∧ WellWritten cap xs

/-- What must be read again: kind and text. -/
def image (x : Written) : TokenKind × List Char :=
  (x.kind, x.text)

end Written

/-- Neither a blank nor the end mark makes a token longer. -/
theorem TokenKind.endsAt_blank (kind : TokenKind) (w : List Char) {c : Char}
    (hc : c ∈ [' ', '\t', '\n', endMark]) : kind.EndsAt w c := by
  simp only [List.mem_cons, List.not_mem_nil, or_false] at hc
  have hword : continuesWord c = false := by rcases hc with rfl | rfl | rfl | rfl <;> decide
  have hhex : isHexDigit c = false := by rcases hc with rfl | rfl | rfl | rfl <;> decide
  have hdigit : c.isDigit = false := by rcases hc with rfl | rfl | rfl | rfl <;> decide
  have hx : c ≠ 'x' ∧ c ≠ 'X' := by rcases hc with rfl | rfl | rfl | rfl <;> decide
  have hslash : c ≠ '/' ∧ c ≠ '*' := by rcases hc with rfl | rfl | rfl | rfl <;> decide
  have hoperator : ∀ o : Operator, c ∉ o.spelling.toList := by
    intro o
    rcases hc with rfl | rfl | rfl | rfl <;> cases o <;> decide
  cases kind with
  | keyword k | identifier => exact hword
  | number r =>
    cases r with
    | octal => exact ⟨hdigit, fun _ => hx⟩
    | decimal => exact hdigit
    | hexadecimal => exact hhex
  | operator o =>
    refine ⟨fun _ o' he => hoperator o' ?_, fun _ => hslash⟩
    rw [he]
    exact List.mem_append_right _ List.mem_cons_self
  | punctuation p | endOfSource | error => trivial

namespace Written

variable {cap : Nat} {x : Written} {xs : List Written}

/-- What begins with a blank or is empty begins with a blank or the end mark. -/
theorem headD_gap (h : x.Separated ∨ xs = [] ∧ x.gap = []) :
    (Trivia.textOf x.gap ++ print xs).headD endMark ∈ [' ', '\t', '\n', endMark] := by
  rcases h with ⟨t, ts, hgap, ht⟩ | ⟨hxs, hgap⟩
  · rw [hgap]
    simp only [List.mem_cons, List.not_mem_nil, or_false] at ht
    rcases ht with rfl | rfl | rfl <;> simp [Trivia.text]
  · rw [hgap, hxs]
    decide

/-- A token that is written correctly in front of a gap is one of its kind. -/
theorem Correct.classified (h : x.Correct cap) (hs : x.Separated ∨ xs = [] ∧ x.gap = []) :
    Classified cap x.kind x.text (Trivia.textOf x.gap ++ print xs) :=
  ⟨h.spelled, h.fits, x.kind.endsAt_blank x.text (headD_gap hs)⟩

end Written

namespace Reading

/-- A token behind a gap is read as what it is. -/
theorem scan_of_classified {cap : Nat} {kind : TokenKind} {w behind : List Char}
    {gap : List Trivia} (p : Position) (hg : Trivia.Laid gap (w ++ behind))
    (h : Classified cap kind w behind) (hk : kind ≠ .endOfSource) :
    (scan cap p (Trivia.textOf gap ++ (w ++ behind))).token.kind = kind ∧
      (scan cap p (Trivia.textOf gap ++ (w ++ behind))).token.text.toList = w ∧
      (scan cap p (Trivia.textOf gap ++ (w ++ behind))).faults = [] ∧
      (scan cap p (Trivia.textOf gap ++ (w ++ behind))).rest = behind := by
  have hgap := Trivia.readAll_textOf_append hg
  rw [Trivia.readAll_eq_nil (h.read?_eq_none hk)] at hgap
  simp [scan, hgap, Lexeme.read_of_classified h hk]

/-- The image and the faults of what is read. -/
def image (r : Reading) : (TokenKind × List Char) × List LexicalFault :=
  ((r.token.kind, r.token.text.toList), r.faults)

/-- Tokens that are written behind a gap are read one by one, then the end is. -/
theorem all_print {cap : Nat} (xs : List Written) (gap : List Trivia) (p : Position)
    (hg : Trivia.Laid gap (Written.print xs)) (hw : Written.WellWritten cap xs) :
    (all cap p (Trivia.textOf gap ++ Written.print xs)).map image =
      xs.map (fun x => (x.image, [])) ++ [((.endOfSource, []), [])] := by
  induction xs generalizing gap p with
  | nil =>
    have hnil : Trivia.readAll [] = ([], []) := Trivia.readAll_eq_nil rfl
    have hgap := Trivia.readAll_textOf_append hg
    rw [Written.print, hnil] at hgap
    have hlast : (Trivia.readAll (Trivia.textOf gap ++ [])).2 = [] := congrArg Prod.snd hgap
    rw [Written.print, all_of_end ((kind_eq_endOfSource_iff cap p _).2 hlast), List.map_singleton,
      image, scan, hlast]
    rfl
  | cons x xs ih =>
    obtain ⟨hx, hs, hgap, hw⟩ := hw
    have hscan := scan_of_classified p hg (hx.classified hs) hx.kind_ne
    rw [Written.print]
    generalize hr : scan cap p _ = r at hscan
    obtain ⟨hkind, htext, hfaults, hrest⟩ := hscan
    have hend : r.token.kind ≠ .endOfSource := by
      rw [hkind]
      exact hx.kind_ne
    have hi := ih x.gap r.stop hgap hw
    rw [← hr] at hend
    rw [all_of_ne_end hend, hr, hrest, List.map_cons, hi]
    simp [image, Written.image, hkind, htext, hfaults]

end Reading

namespace Written

/-- No carriage return is written where none is in the gaps. -/
theorem return_notMem_print {cap : Nat} {xs : List Written} (hw : WellWritten cap xs)
    (hr : ∀ x ∈ xs, '\r' ∉ Trivia.textOf x.gap) : '\r' ∉ print xs := by
  induction xs with
  | nil => exact List.not_mem_nil
  | cons x xs ih =>
    obtain ⟨hx, hxs⟩ := List.forall_mem_cons.1 hr
    have htext : '\r' ∉ x.text := hw.1.spelled.notMem (.inr rfl)
    have hrest := ih hw.2.2.2 hxs
    simp [print, htext, hx, hrest]

end Written

/-- Tokens that are written correctly are read again, and nothing is wrong with them. -/
theorem drain_of_written (limits : Limits) (leading : List Trivia) (xs : List Written)
    (s : Source) (hl : Trivia.Laid leading (Written.print xs))
    (hw : Written.WellWritten limits.tokenLength xs)
    (hr : '\r' ∉ Trivia.textOf leading ∧ ∀ x ∈ xs, '\r' ∉ Trivia.textOf x.gap)
    (hs : Source.prepare (String.ofList (Trivia.textOf leading ++ Written.print xs)) limits =
      .ok s) :
    let done := (Lexer.start s.chars limits.tokenLength).drain
    done.1.map (fun t => (t.kind, t.text.toList)) =
        xs.map Written.image ++ [(.endOfSource, [])] ∧
      done.2.reported = #[] := by
  intro done
  have hreturn : '\r' ∉ Trivia.textOf leading ++ Written.print xs := by
    rw [List.mem_append, not_or]
    exact ⟨hr.1, Written.return_notMem_print hw hr.2⟩
  have hchars : s.chars = Trivia.textOf leading ++ Written.print xs := by
    rw [(Source.prepare_eq_ok_iff.1 hs).2, Source.withoutReturns, String.toList_ofList,
      List.filter_eq_self]
    intro c hc
    rw [bne_iff_ne]
    rintro rfl
    exact hreturn hc
  have hall : (stream s.chars limits.tokenLength).map Reading.image =
      xs.map (fun x => (x.image, [])) ++ [((.endOfSource, []), [])] := by
    rw [hchars]
    exact Reading.all_print xs leading .start hl hw
  constructor
  · have himage := congrArg (List.map Prod.fst) hall
    change (drain _).1.map _ = _
    rw [drain_start, List.map_map]
    simpa [Function.comp_def, Reading.image] using himage
  · have hfaults : ∀ r ∈ stream s.chars limits.tokenLength, r.faults = [] := by
      intro r hm
      have hi : r.image ∈ (stream s.chars limits.tokenLength).map Reading.image :=
        List.mem_map_of_mem hm
      rw [hall] at hi
      simp only [List.mem_append, List.mem_map, List.mem_singleton] at hi
      rcases hi with ⟨x, -, hx⟩ | hx
      · exact (congrArg Prod.snd hx).symm
      · exact congrArg Prod.snd hx
    have hreported := reported_drain _ 0 (standing_start s.chars limits.tokenLength)
    rw [Reading.flatMap_diagnostics_eq_nil_iff.2 hfaults] at hreported
    exact Array.toList_inj.1 hreported

/-- A type, a name and a number, with comments in front of them, between them and behind them. -/
def writtenSample : List Written :=
  [⟨.keyword .intWord, ['i', 'n', 't'], [.space, .blockComment ['/', '/', '*']]⟩,
    ⟨.identifier, ['x', '1'], [.tab]⟩,
    ⟨.number .hexadecimal, ['0', 'x', 'f'], [.newline, .lineComment ['/', '*']]⟩]

/-- A few tokens between comments that could be taken for others. -/
theorem drain_of_writtenSample :
    ∃ s : Source, s.text = "//*/\nint /*//**/x1\t0xf\n///*" ∧
      (Lexer.start s.chars 20).drain.1.map (fun t => (t.kind, t.text.toList)) =
          [(.keyword .intWord, ['i', 'n', 't']), (.identifier, ['x', '1']),
            (.number .hexadecimal, ['0', 'x', 'f']), (.endOfSource, [])] ∧
        (Lexer.start s.chars 20).drain.2.reported = #[] := by
  have hw : Written.WellWritten 20 writtenSample := by
    refine ⟨⟨nofun, ⟨?_, rfl⟩, fun _ => by decide⟩, .inl ⟨_, _, rfl, by decide⟩, by decide,
      ⟨nofun, ⟨?_, fun k => by cases k <;> decide⟩, fun _ => by decide⟩,
      .inl ⟨_, _, rfl, by decide⟩, by decide,
      ⟨nofun, ?_, fun _ => by decide⟩, .inl ⟨_, _, rfl, by decide⟩, by decide, trivial⟩
    · exact ⟨'i', ['n', 't'], rfl, by decide, List.all_eq_true.1 rfl⟩
    · exact ⟨'x', ['1'], rfl, by decide, List.all_eq_true.1 rfl⟩
    · exact ⟨'x', ['f'], rfl, .inl rfl, List.cons_ne_nil _ _, List.all_eq_true.1 rfl⟩
  have hs : Source.prepare (String.ofList
      (Trivia.textOf [.lineComment ['*', '/'], .newline] ++ Written.print writtenSample)) {} =
        .ok ⟨"//*/\nint /*//**/x1\t0xf\n///*".toList, by decide, by decide⟩ :=
    Source.prepare_eq_ok_iff.2 ⟨by decide, by decide⟩
  exact ⟨_, rfl, drain_of_written {} [.lineComment ['*', '/'], .newline] writtenSample _
    (by decide) hw ⟨by decide, by simp [writtenSample, Trivia.text]⟩ hs⟩

end Recognizer
