import Recognizer.Lexical.Lexer
import Recognizer.Proofs.Text.Slicing

/-!
# Which texts are accepted as a source

A text is refused if it is too long without its carriage returns, and otherwise if it holds the end
mark. The place that is named then is found by two searches, for the mark and for the last line
feed in front of it; both tell a place in bytes, and it is still the place that is reached by
advancing over the characters in front of the mark. In an accepted source nothing but its end looks
like the end.
-/

namespace Recognizer

/-- The line that a text ends in is found behind the last line feed. -/
theorem cutAt?_lastByte_newline (cs : List Char) :
    ∃ front, cutAt? ((lastByte? '\n' cs).elim 0 (· + 1)) cs = some (front, lastLine cs) := by
  obtain ⟨front, he, -, rfl | ⟨before, rfl⟩⟩ := eq_append_lastLine cs
  · have hnone : '\n' ∉ cs := by
      rw [he]
      exact newline_notMem_lastLine cs
    rw [lastByte?_of_notMem hnone]
    exact ⟨[], cutAt?_eq_some_iff.2 ⟨he, rfl⟩⟩
  · have hlast : lastByte? '\n' cs = some (byteLength before) := by
      have hcs : cs = before ++ '\n' :: lastLine cs := by
        rw [List.append_cons]
        exact he
      have hfound := lastByte?_append before (newline_notMem_lastLine cs)
      rwa [← hcs] at hfound
    rw [hlast]
    exact ⟨before ++ ['\n'], cutAt?_eq_some_iff.2 ⟨he, byteLength_append ..⟩⟩

namespace Source

/-- The line and column of the first end mark in a text, if there is one, as they are found by
bytes: the text is cut in front of the mark, and what is in front of it behind its last line feed. -/
def markPlaceByBytes? (cs : List Char) : Option (Option (Nat × Nat)) :=
  match firstByte? endMark cs with
  | none => some none
  | some markByte => do
    let (before, _) ← cutAt? markByte cs
    let lineByte := (lastByte? '\n' before).elim 0 (· + 1)
    let (_, line) ← cutAt? lineByte before
    return some (before.count '\n' + 1, line.length + 1)

/-- Make a text ready for reading, with the place of an end mark found by bytes. -/
def prepareByBytes? (raw : String) (limits : Limits) : Option (Except SourceError (List Char)) :=
  let chars := withoutReturns raw
  if limits.sourceLength < chars.length + 2 then
    some (.error (.tooLong (chars.length + 2) limits.sourceLength))
  else
    (markPlaceByBytes? chars).map fun
      | some (line, column) => .error (.embeddedEndMark line column)
      | none => .ok chars

variable {cs before : List Char}

/-- Without a mark in the text none is found. -/
theorem markPlaceByBytes?_of_notMem (h : endMark ∉ cs) : markPlaceByBytes? cs = some none := by
  rw [markPlaceByBytes?, firstByte?_of_notMem h]

/-- Whatever is in front of the mark, the searches lead to the place behind it. -/
theorem markPlaceByBytes?_append (h : endMark ∉ before) (behind : List Char) :
    markPlaceByBytes? (before ++ endMark :: behind) =
      some (some ((Position.start.advance before).line, (Position.start.advance before).column)) := by
  obtain ⟨front, hline⟩ := cutAt?_lastByte_newline before
  rw [markPlaceByBytes?, firstByte?_append h]
  simp only [cutAt?_append, Option.bind_eq_bind, Option.bind_some, hline, Position.advance_start]
  rw [Nat.add_comm 1, Nat.add_comm 1]
  rfl

/-- The text in front of the first mark is what is taken up to it. -/
theorem takeWhile_append_endMark (h : endMark ∉ before) (behind : List Char) :
    (before ++ endMark :: behind).takeWhile (· != endMark) = before := by
  have hall : ∀ c ∈ before, (c != endMark) = true := by
    intro c hc
    rw [bne_iff_ne]
    rintro rfl
    exact h hc
  rw [List.takeWhile_append_of_pos hall, List.takeWhile_cons_of_neg (by simp), List.append_nil]

variable {raw : String} {limits : Limits}

/-- A text that is too long with its two end marks is refused for that. -/
theorem prepare_of_long (h : limits.sourceLength < (withoutReturns raw).length + 2) :
    prepare raw limits =
      .error (.tooLong ((withoutReturns raw).length + 2) limits.sourceLength) :=
  if_pos h

/-- A text that is short enough but holds a mark is refused for the first one. -/
theorem prepare_of_mark (hl : (withoutReturns raw).length + 2 ≤ limits.sourceLength)
    (hm : endMark ∉ before) {behind : List Char}
    (h : withoutReturns raw = before ++ endMark :: behind) :
    prepare raw limits = .error (.embeddedEndMark (Position.start.advance before).line
      (Position.start.advance before).column) := by
  have hmem : endMark ∈ withoutReturns raw := by
    rw [h]
    exact List.mem_append_right _ List.mem_cons_self
  unfold prepare
  dsimp only
  rw [if_neg (Nat.not_lt.2 hl), dif_pos hmem, h, takeWhile_append_endMark hm]

/-- Any other text is accepted, without its carriage returns. -/
theorem exists_prepare (hl : (withoutReturns raw).length + 2 ≤ limits.sourceLength)
    (hm : endMark ∉ withoutReturns raw) :
    ∃ s, prepare raw limits = .ok s ∧ s.chars = withoutReturns raw :=
  ⟨⟨withoutReturns raw, hm, return_notMem_withoutReturns raw⟩, prepare_eq_ok_iff.2 ⟨hl, rfl⟩, rfl⟩

/-- What comes of making a text ready: there are three cases. -/
theorem prepare_cases (raw : String) (limits : Limits) :
    limits.sourceLength < (withoutReturns raw).length + 2 ∨
      (withoutReturns raw).length + 2 ≤ limits.sourceLength ∧
        ((∃ before behind, withoutReturns raw = before ++ endMark :: behind ∧ endMark ∉ before) ∨
          endMark ∉ withoutReturns raw) := by
  rcases Nat.lt_or_ge limits.sourceLength ((withoutReturns raw).length + 2) with hl | hl
  · exact .inl hl
  · refine .inr ⟨hl, ?_⟩
    by_cases hm : endMark ∈ withoutReturns raw
    · exact .inl (List.eq_append_cons_of_mem hm)
    · exact .inr hm

/-- The length is checked first. -/
theorem prepare_eq_tooLong_iff {n max : Nat} :
    prepare raw limits = .error (.tooLong n max) ↔
      limits.sourceLength < (withoutReturns raw).length + 2 ∧
        n = (withoutReturns raw).length + 2 ∧ max = limits.sourceLength := by
  rcases prepare_cases raw limits with hl | ⟨hl, ⟨before, behind, hc, hm⟩ | hm⟩
  · rw [prepare_of_long hl]
    simp [hl, eq_comm]
  · rw [prepare_of_mark hl hm hc]
    simp [Nat.not_lt.2 hl]
  · obtain ⟨s, hs, -⟩ := exists_prepare hl hm
    rw [hs]
    simp [Nat.not_lt.2 hl]

/-- The place told is the one behind the text in front of the first end mark. -/
theorem prepare_eq_embeddedEndMark_iff {line column : Nat} :
    prepare raw limits = .error (.embeddedEndMark line column) ↔
      (withoutReturns raw).length + 2 ≤ limits.sourceLength ∧
        ∃ before behind, withoutReturns raw = before ++ endMark :: behind ∧ endMark ∉ before ∧
          Position.start.advance before = ⟨before.length, line, column⟩ := by
  rcases prepare_cases raw limits with hl | ⟨hl, ⟨before, behind, hc, hm⟩ | hm⟩
  · rw [prepare_of_long hl]
    simp [Nat.not_le.2 hl]
  · rw [prepare_of_mark hl hm hc]
    constructor
    · intro h
      cases h
      refine ⟨hl, before, behind, hc, hm, ?_⟩
      rw [Position.advance_start]
    · rintro ⟨-, before', behind', hc', hm', hplace⟩
      have hsame : before = before' := by
        have hfront := congrArg (List.takeWhile (· != endMark)) (hc.symm.trans hc')
        rwa [takeWhile_append_endMark hm, takeWhile_append_endMark hm'] at hfront
      rw [hsame, hplace]
  · obtain ⟨s, hs, -⟩ := exists_prepare hl hm
    rw [hs]
    refine ⟨nofun, ?_⟩
    rintro ⟨-, before, behind, hc, -⟩
    exact absurd (hc ▸ List.mem_append_right _ List.mem_cons_self) hm

/-- A text is accepted exactly if it is short enough and holds no mark. -/
theorem exists_prepare_iff :
    (∃ s, prepare raw limits = .ok s) ↔
      (withoutReturns raw).length + 2 ≤ limits.sourceLength ∧ endMark ∉ withoutReturns raw := by
  constructor
  · rintro ⟨s, hs⟩
    obtain ⟨hl, hc⟩ := prepare_eq_ok_iff.1 hs
    rw [← hc]
    exact ⟨hl, s.endMark_notMem⟩
  · rintro ⟨hl, hm⟩
    obtain ⟨s, hs, -⟩ := exists_prepare hl hm
    exact ⟨s, hs⟩

/-- The searches by bytes never cut a text where it cannot be cut, and give the same. -/
theorem prepareByBytes?_eq (raw : String) (limits : Limits) :
    prepareByBytes? raw limits = some ((prepare raw limits).map chars) := by
  unfold prepareByBytes?
  dsimp only
  rcases prepare_cases raw limits with hl | ⟨hl, ⟨before, behind, hc, hm⟩ | hm⟩
  · rw [if_pos hl, prepare_of_long hl]
    rfl
  · rw [if_neg (Nat.not_lt.2 hl), prepare_of_mark hl hm hc, hc, markPlaceByBytes?_append hm]
    rfl
  · obtain ⟨s, hs, hchars⟩ := exists_prepare hl hm
    rw [if_neg (Nat.not_lt.2 hl), markPlaceByBytes?_of_notMem hm, hs, ← hchars]
    rfl

/-! ### Reading to the end -/

/-- A character behind a cursor is the one at its offset. -/
theorem charAt_add (s : Source) (c : Cursor s.chars) (k : Nat) :
    s.charAt (c.position.offset + k) = (c.rest.drop k).headD endMark := by
  rw [charAt, c.rest_eq, List.drop_drop, List.headD_eq_head?_getD, List.head?_drop,
    List.getD_eq_getElem?_getD]

/-- Only behind the last character there is the end mark. -/
theorem charAt_eq_endMark_iff (s : Source) (i : Nat) :
    s.charAt i = endMark ↔ s.chars.length ≤ i := by
  rw [charAt, List.getD_eq_getElem?_getD]
  rcases Nat.lt_or_ge i s.chars.length with hi | hi
  · rw [List.getElem?_eq_getElem hi, Option.getD_some]
    refine ⟨fun h => absurd (List.getElem_mem hi) ?_, fun h => absurd h (Nat.not_le.2 hi)⟩
    rw [h]
    exact s.endMark_notMem
  · rw [List.getElem?_eq_none hi]
    exact ⟨fun _ => hi, fun _ => rfl⟩

/-- A text without its carriage returns and with two end marks is refused as too long exactly if it
is longer than allowed; otherwise it is refused for an end mark exactly if it holds one, with the
line and column behind what is in front of the first; and otherwise it is accepted as it is. The
places are the same if they are found by bytes. In the source a character is the end mark exactly
from the end of the text on, which is where nothing is left to read. -/
theorem preparation_is_exact (raw : String) (limits : Limits) :
    let chars := raw.toList.filter (· ≠ '\r')
    let length := chars.length + 2
    prepareByBytes? raw limits = some ((prepare raw limits).map Source.chars) ∧
    (∀ n max, prepare raw limits = .error (.tooLong n max) ↔
      limits.sourceLength < length ∧ n = length ∧ max = limits.sourceLength) ∧
    (∀ line column, prepare raw limits = .error (.embeddedEndMark line column) ↔
      length ≤ limits.sourceLength ∧ ∃ before behind, chars = before ++ endMark :: behind ∧
        endMark ∉ before ∧ Position.start.advance before = ⟨before.length, line, column⟩) ∧
    ((∃ s, prepare raw limits = .ok s) ↔ length ≤ limits.sourceLength ∧ endMark ∉ chars) ∧
    ∀ s, prepare raw limits = .ok s →
      s.text = String.ofList chars ∧ s.length = length ∧
      (∀ (i : Nat) (h : i < chars.length), s.charAt i = chars[i]) ∧
      (∀ i, s.charAt i = endMark ↔ chars.length ≤ i) ∧
      ∀ c : Cursor s.chars,
        (∀ k, s.charAt (c.position.offset + k) = (c.rest.drop k).headD endMark) ∧
        (s.charAt c.position.offset = endMark ↔ c.rest = []) := by
  intro chars length
  have hchars : chars = withoutReturns raw := by
    refine List.filter_congr fun c _ => ?_
    by_cases hc : c = '\r' <;> simp [hc]
  have hlength : length = (withoutReturns raw).length + 2 := congrArg (List.length · + 2) hchars
  rw [hlength, hchars]
  refine ⟨prepareByBytes?_eq raw limits, fun _ _ => prepare_eq_tooLong_iff,
    fun _ _ => prepare_eq_embeddedEndMark_iff, exists_prepare_iff, fun s hs => ?_⟩
  have hc := (prepare_eq_ok_iff.1 hs).2
  rw [← hc]
  refine ⟨rfl, rfl, fun i hi => ?_, s.charAt_eq_endMark_iff, fun c => ⟨s.charAt_add c, ?_⟩⟩
  · rw [charAt, List.getD_eq_getElem?_getD, List.getElem?_eq_getElem hi, Option.getD_some]
  · rw [charAt_eq_endMark_iff, c.rest_eq, List.drop_eq_nil_iff]

end Source

end Recognizer
