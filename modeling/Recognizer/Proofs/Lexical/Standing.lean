import Recognizer.Proofs.Lexical.Stream

/-!
# Where a lexer stands in the token stream

A place belongs to an index of the stream if reading on from it gives the rest of the stream
from that index on. A lexer stands in front of the `i`th reading with the first `k` passed at
least once; one step takes it to the reading behind, and putting it back to a place that
belongs to the stream changes nothing but the index. The mark, which only compares offsets,
separates what has been passed from whatever is malformed and has not been.
-/

namespace Recognizer

namespace Lexer

variable {text : List Char} {cap : Nat}

/-- The readings of a text from its beginning to its end. -/
def stream (text : List Char) (cap : Nat) : List Reading :=
  Reading.all cap .start text

/-- The index of the reading of the end. -/
def lastIndex (text : List Char) (cap : Nat) : Nat :=
  (stream text cap).length - 1

/-- The index behind an index. Behind the end there is only the end. -/
def following (text : List Char) (cap : Nat) (i : Nat) : Nat :=
  min (i + 1) (lastIndex text cap)

/-- A place that belongs to an index: from there on the stream is read from that index on. -/
def Belongs (text : List Char) (cap : Nat) (p : Position) (i : Nat) : Prop :=
  Reading.all cap p (text.drop p.offset) = (stream text cap).drop i

/-- The lexer stands in front of the `i`th reading and has passed the first `k`. -/
structure Standing (l : Lexer text cap) (i k : Nat) : Prop where
  /-- The cursor belongs to the index. -/
  belongs : Belongs text cap l.cursor.position i
  /-- The lexer is not ahead of what it has passed. -/
  index_le : i ≤ k
  /-- The end is not counted as passed. -/
  furthest_le : k ≤ lastIndex text cap
  /-- What has been passed begins before the mark. -/
  passed : ∀ r ∈ (stream text cap).take k, r.start.offset < l.mark
  /-- What is malformed and has not been passed does not. -/
  unread : ∀ r ∈ (stream text cap).drop k, r.faults ≠ [] → l.mark ≤ r.start.offset
  /-- What has been passed is reported, and nothing else. -/
  reported : l.reported.toList = ((stream text cap).take k).flatMap Reading.diagnostics

/-- Every text has a reading, that of its end if nothing else. -/
theorem stream_ne_nil (text : List Char) (cap : Nat) : stream text cap ≠ [] :=
  Reading.all_ne_nil cap .start text

/-- The index of the end is the last one of the stream. -/
theorem length_stream (text : List Char) (cap : Nat) :
    (stream text cap).length = lastIndex text cap + 1 := by
  have h := List.length_pos_iff.mpr (stream_ne_nil text cap)
  unfold lastIndex
  omega

/-- The last reading is the one of the end, with which nothing is wrong. -/
theorem getElem?_lastIndex (text : List Char) (cap : Nat) :
    ∃ last, (stream text cap)[lastIndex text cap]? = some last ∧
      last.token.kind = .endOfSource ∧ last.diagnostics = [] := by
  obtain ⟨before, last, hs, hl, -⟩ := Reading.all_eq_append_end cap .start text
  change stream text cap = before ++ [last] at hs
  have hlast : lastIndex text cap = before.length := by
    have hlength := length_stream text cap
    rw [hs, List.length_append, List.length_singleton] at hlength
    omega
  have hmem : last ∈ Reading.all cap .start text := by
    change last ∈ stream text cap
    rw [hs]
    exact List.mem_append_right _ List.mem_cons_self
  obtain ⟨front, ahead, -, rfl⟩ := Reading.eq_scan_of_mem hmem
  refine ⟨_, ?_, hl, ?_⟩
  · rw [hlast, hs, List.getElem?_append_right (Nat.le_refl _), Nat.sub_self,
      List.getElem?_cons_zero]
  · rw [Reading.diagnostics, Reading.faults_of_end hl, List.map_nil]

/-- All that is wrong is wrong before the end. -/
theorem flatMap_diagnostics_take (text : List Char) (cap : Nat) :
    ((stream text cap).take (lastIndex text cap)).flatMap Reading.diagnostics =
      (stream text cap).flatMap Reading.diagnostics := by
  obtain ⟨last, hlast, -, hd⟩ := getElem?_lastIndex text cap
  have hall : (stream text cap).take (lastIndex text cap + 1) = stream text cap := by
    rw [← length_stream, List.take_length]
  have hsplit := congrArg (List.flatMap Reading.diagnostics) hall
  rw [List.take_add_one, hlast, Option.toList_some, List.flatMap_append, List.flatMap_singleton,
    hd, List.append_nil] at hsplit
  exact hsplit

/-- A lexer at the beginning has passed nothing. -/
theorem standing_start (text : List Char) (cap : Nat) : (start text cap).Standing 0 0 where
  belongs := rfl
  index_le := Nat.le_refl 0
  furthest_le := Nat.zero_le _
  passed := by simp
  unread := by simp [start]
  reported := rfl

/-- A place that belongs to an index lies in front of the reading with that index. -/
theorem Belongs.drop_eq_cons {p : Position} {i : Nat} (h : Belongs text cap p i) :
    (stream text cap).drop i = Reading.scan cap p (text.drop p.offset) ::
      (stream text cap).drop (i + 1) := by
  obtain ⟨tail, ht⟩ := Reading.all_eq_cons cap p (text.drop p.offset)
  have hd : (stream text cap).drop i = Reading.scan cap p (text.drop p.offset) :: tail := by
    rw [← h, ht]
  rw [List.drop_add_one_eq_tail_drop, hd, List.tail_cons]

/-- No place belongs to an index behind the end. -/
theorem Belongs.index_le {p : Position} {i : Nat} (h : Belongs text cap p i) :
    i ≤ lastIndex text cap := by
  have hl := congrArg List.length h.drop_eq_cons
  rw [List.length_drop, List.length_cons, length_stream] at hl
  omega

/-- The reading from a place is the one with the index that the place belongs to. -/
theorem Belongs.getElem? {p : Position} {i : Nat} (h : Belongs text cap p i) :
    (stream text cap)[i]? = some (Reading.scan cap p (text.drop p.offset)) := by
  have hg : ((stream text cap).drop i)[0]? = (stream text cap)[i]? := by
    rw [List.getElem?_drop, Nat.add_zero]
  rw [← hg, h.drop_eq_cons, List.getElem?_cons_zero]

/-- The end is read exactly at the last index. -/
theorem Belongs.kind_eq_endOfSource_iff {p : Position} {i : Nat} (h : Belongs text cap p i) :
    (Reading.scan cap p (text.drop p.offset)).token.kind = .endOfSource ↔
      i = lastIndex text cap := by
  have hl := congrArg List.length h
  have hi := h.index_le
  rw [List.length_drop, length_stream] at hl
  constructor
  · intro he
    rw [Reading.all_of_end he, List.length_singleton] at hl
    omega
  · intro hi
    by_cases he : (Reading.scan cap p (text.drop p.offset)).token.kind = .endOfSource
    · exact he
    · have hn := List.length_pos_iff.mpr (Reading.all_ne_nil cap
        (Reading.scan cap p (text.drop p.offset)).stop
        (Reading.scan cap p (text.drop p.offset)).rest)
      rw [Reading.all_of_ne_end he, List.length_cons] at hl
      omega

/-- The reading of a lexer is the step from the place of its cursor. -/
theorem reading_eq (l : Lexer text cap) :
    l.cursor.reading cap =
      Reading.scan cap l.cursor.position (text.drop l.cursor.position.offset) := by
  rw [Cursor.reading, l.cursor.rest_eq]

/-- A step goes on to the place behind the reading. -/
theorem belongs_next {l : Lexer text cap} {i : Nat}
    (h : Belongs text cap l.cursor.position i) :
    Belongs text cap l.next.2.cursor.position (following text cap i) := by
  have hr : (l.cursor.reading cap).rest = text.drop (l.cursor.reading cap).stop.offset :=
    (l.cursor.next cap).rest_eq
  have hall : Reading.all cap l.cursor.position (text.drop l.cursor.position.offset) =
      (stream text cap).drop i := h
  change Reading.all cap (l.cursor.reading cap).stop
    (text.drop (l.cursor.reading cap).stop.offset) = _
  have hk := h.kind_eq_endOfSource_iff
  have hle := h.index_le
  rw [← hr, reading_eq]
  by_cases he : i = lastIndex text cap
  · have hend := hk.mpr he
    have hf : following text cap i = i := by unfold following; omega
    rw [hf, ← hall, Reading.all_of_end hend]
    have hs := Reading.scan_stop_of_end hend
    rw [Reading.all_of_end (by rw [hs]; exact hend), hs]
  · have hend := fun hkind => he (hk.mp hkind)
    have hf : following text cap i = i + 1 := by unfold following; omega
    rw [hf, List.drop_add_one_eq_tail_drop, ← hall, Reading.all_of_ne_end hend, List.tail_cons]

/-- What has been passed has its reading reported; it is not reported again. -/
theorem fresh_of_lt {l : Lexer text cap} {i k : Nat} (h : l.Standing i k) (hi : i < k) :
    l.fresh = [] := by
  have hm : l.cursor.reading cap ∈ (stream text cap).take k := by
    rw [reading_eq]
    refine List.mem_of_getElem? (i := i) ?_
    rw [List.getElem?_take_of_lt hi]
    exact h.belongs.getElem?
  have hp := h.passed _ hm
  unfold fresh
  dsimp only
  rw [if_pos hp]

/-- What is read for the first time is reported in full. -/
theorem fresh_of_eq {l : Lexer text cap} {k : Nat} (h : l.Standing k k) :
    l.fresh = (l.cursor.reading cap).diagnostics := by
  have hm : l.cursor.reading cap ∈ (stream text cap).drop k := by
    rw [reading_eq, h.belongs.drop_eq_cons]
    exact List.mem_cons_self
  unfold fresh
  dsimp only
  split
  · next hlt =>
    by_cases hf : (l.cursor.reading cap).faults = []
    · simp [Reading.diagnostics, hf]
    · have hu := h.unread _ hm hf
      omega
  · rfl

/-- Reading the end leaves everything as it was but for the mark. -/
theorem Standing.next_of_end {l : Lexer text cap} {i k : Nat} (h : l.Standing i k)
    (he : i = lastIndex text cap) : l.next.2.Standing i k := by
  have hkind := h.belongs.kind_eq_endOfSource_iff.mpr he
  have hfaults := Reading.faults_of_end hkind
  have hk : k = i := by
    have hi := h.index_le
    have hf := h.furthest_le
    omega
  have hb := belongs_next h.belongs
  have hf : following text cap i = i := by unfold following; omega
  rw [hf] at hb
  have hdrop : (stream text cap).drop k =
      [Reading.scan cap l.cursor.position (text.drop l.cursor.position.offset)] := by
    rw [hk, ← h.belongs, Reading.all_of_end hkind]
  subst hk
  refine ⟨hb, h.index_le, h.furthest_le, ?_, ?_, ?_⟩
  · intro r hr
    have hp := h.passed r hr
    change r.start.offset < max l.mark _
    omega
  · intro r hr hn
    rw [hdrop] at hr
    rw [List.mem_singleton.mp hr] at hn
    exact absurd hfaults hn
  · have hfresh := fresh_of_eq h
    rw [reading_eq, Reading.diagnostics, hfaults, List.map_nil] at hfresh
    change (l.reported ++ l.fresh).toList = _
    rw [hfresh, Array.toList_appendList, List.append_nil]
    exact h.reported

/-- Reading a token before the end takes the lexer one index further. -/
theorem Standing.next_of_ne_end {l : Lexer text cap} {i k : Nat} (h : l.Standing i k)
    (he : i ≠ lastIndex text cap) : l.next.2.Standing (i + 1) (max k (i + 1)) := by
  have hkind := fun hkind => he (h.belongs.kind_eq_endOfSource_iff.mp hkind)
  have hile := h.belongs.index_le
  have hik := h.index_le
  have hkl := h.furthest_le
  have hb := belongs_next h.belongs
  have hf : following text cap i = i + 1 := by unfold following; omega
  rw [hf] at hb
  have hread := reading_eq l
  have hstart := Reading.start_lt_stop hkind
  rw [← hread] at hstart
  have hdrop := h.belongs.drop_eq_cons
  rw [← hread] at hdrop
  have hsome := h.belongs.getElem?
  rw [← hread] at hsome
  have hbehind : ∀ r ∈ (stream text cap).drop (i + 1),
      (l.cursor.reading cap).stop.offset ≤ r.start.offset := by
    have hw := (Reading.all_pairwise cap .start text).drop (i := i)
    change ((stream text cap).drop i).Pairwise _ at hw
    rw [hdrop] at hw
    exact (List.pairwise_cons.mp hw).1
  have htake : ∀ m, i = m → (stream text cap).take (m + 1) =
      (stream text cap).take m ++ [l.cursor.reading cap] := by
    rintro m rfl
    rw [List.take_add_one, hsome, Option.toList_some]
  refine ⟨hb, by omega, by omega, ?_, ?_, ?_⟩
  · intro r hr
    change r.start.offset < max l.mark (l.cursor.reading cap).stop.offset
    by_cases hlt : i < k
    · have hm : max k (i + 1) = k := by omega
      rw [hm] at hr
      have hp := h.passed r hr
      omega
    · have hm : max k (i + 1) = k + 1 := by omega
      rw [hm, htake k (by omega)] at hr
      rcases List.mem_append.mp hr with hr | hr
      · have hp := h.passed r hr
        omega
      · rw [List.mem_singleton.mp hr]
        omega
  · intro r hr hn
    have hk : r ∈ (stream text cap).drop k :=
      List.drop_subset_drop_left _ (by omega) hr
    have hi : r ∈ (stream text cap).drop (i + 1) :=
      List.drop_subset_drop_left _ (by omega) hr
    have hu := h.unread r hk hn
    have hs := hbehind r hi
    change max l.mark (l.cursor.reading cap).stop.offset ≤ r.start.offset
    omega
  · change (l.reported ++ l.fresh).toList = _
    rw [Array.toList_appendList, h.reported]
    by_cases hlt : i < k
    · have hm : max k (i + 1) = k := by omega
      rw [fresh_of_lt h hlt, hm, List.append_nil]
    · have hik : i = k := by omega
      subst hik
      have hm : max i (i + 1) = i + 1 := by omega
      rw [fresh_of_eq h, hm, htake i rfl, List.flatMap_append, List.flatMap_singleton]

/-- One step takes the lexer to the following index. -/
theorem Standing.next {l : Lexer text cap} {i k : Nat} (h : l.Standing i k) :
    l.next.2.Standing (following text cap i) (max k (following text cap i)) := by
  have hile := h.belongs.index_le
  have hik := h.index_le
  by_cases he : i = lastIndex text cap
  · have hf : following text cap i = i := by unfold following; omega
    have hm : max k i = k := by omega
    rw [hf, hm]
    exact h.next_of_end he
  · have hf : following text cap i = i + 1 := by unfold following; omega
    rw [hf]
    exact h.next_of_ne_end he

/-- The token that a lexer reads is the one in front of which it stands. -/
theorem Standing.token_next {l : Lexer text cap} {i k : Nat} (h : l.Standing i k) :
    (stream text cap)[i]? = some (l.cursor.reading cap) := by
  rw [reading_eq]
  exact h.belongs.getElem?

/-- Putting a lexer to a place that it has been at changes the index only. -/
theorem Standing.moveTo {l : Lexer text cap} {i j k : Nat} {p : Position}
    (h : l.Standing i k) (hp : Belongs text cap p j) (hj : j ≤ k) :
    (l.moveTo p).Standing j k :=
  ⟨hp, hj, h.furthest_le, h.passed, h.unread, h.reported⟩

/-- Putting a lexer back to an earlier state restores the index of that state. -/
theorem Standing.rewind {saved now : Lexer text cap} {i j k m : Nat}
    (hs : saved.Standing j m) (hn : now.Standing i k) (hj : j ≤ k) :
    (Lexer.rewind saved now).Standing j k :=
  ⟨hs.belongs, hj, hn.furthest_le, hn.passed, hn.unread, hn.reported⟩

end Lexer

end Recognizer
