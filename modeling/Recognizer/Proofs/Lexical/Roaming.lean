import Recognizer.Proofs.Lexical.Reports
import Recognizer.Proofs.Lexical.Tiling

/-!
# A lexer that may stand anywhere

The cursor of a lexer can be put to any place: into a token or a comment, behind the end of the
text, to a line and a column that the text does not have. Nothing that is known of the token stream
helps there. But each step is made of what stands behind the cursor, whatever that is, and goes on
over it; and the mark, wherever it is, keeps the reports in order.
-/

namespace Recognizer

/-- A piece of a source, found between two others, is the slice at its offset. -/
theorem Source.slice_of_append {s : Source} {front piece behind : List Char}
    (h : s.chars = front ++ (piece ++ behind)) :
    s.slice front.length (front.length + piece.length) = String.ofList piece := by
  have hlength := congrArg List.length h
  rw [List.length_append, List.length_append] at hlength
  have hle : front.length + piece.length ≤ s.length := by
    rw [length]
    omega
  rw [slice, if_pos ⟨Nat.le_add_right _ _, hle⟩, h, Nat.add_sub_cancel_left, List.append_assoc,
    List.append_assoc, List.drop_left, List.take_left]

namespace Reading

variable {cap : Nat} {p : Position}

/-- A step that reads the end passes all that is left. -/
theorem passed_of_end {cs : List Char} (h : (scan cap p cs).token.kind = .endOfSource) :
    passed cap cs = cs := by
  have hall := passed_append_rest cap p cs
  rwa [rest_of_end h, List.append_nil] at hall

/-- If the end is read, token and step stop where the text does. -/
theorem offsets_of_end {cs : List Char} (h : (scan cap p cs).token.kind = .endOfSource) :
    (scan cap p cs).start.offset = p.offset + cs.length ∧
      (scan cap p cs).stop.offset = p.offset + cs.length := by
  have hall := Trivia.textOf_append_readAll cs
  rw [(kind_eq_endOfSource_iff cap p cs).1 h, List.append_nil] at hall
  constructor
  · change (p.advance (Trivia.textOf (Trivia.readAll cs).1)).offset = _
    rw [hall, Position.advance_offset]
  · rw [stop_offset, passed_of_end h]

/-- Where something is left a step goes on. -/
theorem offset_lt_stop {cs : List Char} (h : cs ≠ []) :
    p.offset < (scan cap p cs).stop.offset := by
  by_cases hend : (scan cap p cs).token.kind = .endOfSource
  · have hpos := List.length_pos_iff.2 h
    rw [(offsets_of_end hend).2]
    omega
  · have hstart := offset_le_start cap p cs
    have hstop := start_lt_stop hend
    omega

/-- Behind the last character the end is read, and the place stays. -/
theorem scan_nil (cap : Nat) (p : Position) :
    scan cap p [] = ⟨⟨.endOfSource, "", p.line, p.column⟩, p, [], p, []⟩ := by
  have hnil : Trivia.readAll [] = ([], []) := Trivia.readAll_eq_nil rfl
  simp [scan, hnil, Lexeme.read, Lexeme.consumed, Trivia.textOf]

/-- There are no more steps up to the end than characters, and the one that reads it. -/
theorem length_all_le (cap : Nat) (p : Position) (cs : List Char) :
    (all cap p cs).length ≤ cs.length + 1 := by
  fun_induction all cap p cs with
  | case1 p cs r h => exact Nat.le_add_left ..
  | case2 p cs r h hlt ih =>
    rw [List.length_cons]
    omega

/-- A token is found in the text where it begins, and the step stops behind it unless it is the
opening mark of a comment that takes up the rest. -/
theorem covers_start (cap : Nat) {front : List Char} (hfront : p.offset = front.length)
    (cs : List Char) :
    ∃ before behind, front ++ cs = before ++ ((scan cap p cs).token.text.toList ++ behind) ∧
      (scan cap p cs).start.offset = before.length ∧
      ((scan cap p cs).stop.offset =
          (scan cap p cs).start.offset + (scan cap p cs).token.text.length ∨
        (scan cap p cs).token.kind = .error ∧ (scan cap p cs).token.text = "/*" ∧
          (scan cap p cs).stop.offset = (front ++ cs).length) := by
  have hcs := Trivia.textOf_append_readAll cs
  have hstart : (scan cap p cs).start.offset =
      (front ++ Trivia.textOf (Trivia.readAll cs).1).length := by
    rw [List.length_append, ← hfront]
    exact Position.advance_offset ..
  refine ⟨front ++ Trivia.textOf (Trivia.readAll cs).1, ?_⟩
  rcases Lexeme.read_discarded cap (Trivia.readAll cs).2 with hd | ⟨rest, ho⟩
  · obtain ⟨hread, hpassed⟩ := scan_of_discarded p hd
    refine ⟨(scan cap p cs).rest, ?_, hstart, .inl ?_⟩
    · rw [hread, List.append_assoc, hcs]
    · rw [stop_offset, hpassed, hstart, List.length_append, List.length_append,
        String.length_toList]
      omega
  · obtain ⟨-, hkind, htext, hrest⟩ := scan_of_open cap p ho
    have hall := passed_append_rest cap p cs
    rw [hrest, List.append_nil] at hall
    refine ⟨rest, ?_, hstart, .inr ⟨hkind, htext, ?_⟩⟩
    · rw [ho] at hcs
      have hmark : "/*".toList = ['/', '*'] := rfl
      rw [htext, hmark, List.append_assoc]
      exact congrArg (front ++ ·) hcs.symm
    · rw [stop_offset, hall, List.length_append, hfront]

end Reading

namespace Lexer

/-- Where the next token begins. -/
def nextStart {text : List Char} {cap : Nat} (l : Lexer text cap) : Position :=
  (l.cursor.reading cap).start

/-- What the next step does, wherever the cursor stands and whatever the mark is. -/
structure Advances (s : Source) {cap : Nat} (l : Lexer s.chars cap) : Prop where
  /-- From the end on the end is read, and the cursor stays. -/
  ended (h : s.chars.length ≤ l.cursor.position.offset) :
    l.next.1 = ⟨.endOfSource, "", l.cursor.position.line, l.cursor.position.column⟩ ∧
      l.next.2.cursor = l.cursor
  /-- In front of the end the cursor moves on within the text. -/
  moved (h : l.cursor.position.offset < s.chars.length) :
    l.cursor.position.offset < l.next.2.cursor.position.offset ∧
      l.next.2.cursor.position.offset ≤ s.chars.length
  /-- The token begins behind all the trivia that stands at the cursor. -/
  gap : ∃ gap behind, s.chars.drop l.cursor.position.offset = Trivia.textOf gap ++ behind ∧
    Trivia.Laid gap behind ∧ Trivia.read? behind = none ∧
    l.nextStart = l.cursor.position.advance (Trivia.textOf gap) ∧
    l.next.1.location = l.nextStart.location
  /-- If the end is read, there was nothing but trivia. -/
  exhausted (h : l.cursor.position.offset < s.chars.length) (he : l.next.1.kind = .endOfSource) :
    l.next.1.text = "" ∧ l.nextStart.offset = s.chars.length ∧
      l.next.2.cursor.position.offset = s.chars.length
  /-- Any other token is a piece of the text that is found where it begins. The cursor is put behind
  it, or behind the text if it opens a comment that is not closed. -/
  found (he : l.next.1.kind ≠ .endOfSource) :
    l.next.1.text ≠ "" ∧
      l.next.1.text =
        s.slice l.nextStart.offset (l.nextStart.offset + l.next.1.text.length) ∧
      (l.next.2.cursor.position.offset = l.nextStart.offset + l.next.1.text.length ∨
        l.next.1.kind = .error ∧ l.next.1.text = "/*" ∧
          l.next.2.cursor.position.offset = s.chars.length)
  /-- The mark is the furthest place reached. -/
  mark : l.next.2.mark = max l.mark l.next.2.cursor.position.offset
  /-- What is new is reported last. -/
  reported : l.next.2.reported = l.reported ++ l.fresh
  /-- Nothing is reported for a token in front of the mark, or for one that is not malformed. -/
  ahead (h : l.fresh ≠ []) : l.mark ≤ l.nextStart.offset ∧ l.next.1.kind = .error
  /-- What is reported is an error at the place where the token begins. -/
  located (d : Diagnostic) (hd : d ∈ l.fresh) :
    d.severity = .error ∧ d.location = some l.nextStart.location

variable {text : List Char} {cap : Nat}

/-- Something is new only if the token is malformed and begins at the mark or behind it. -/
theorem of_fresh_ne_nil {l : Lexer text cap} (h : l.fresh ≠ []) :
    l.mark ≤ l.nextStart.offset ∧ l.next.1.kind = .error := by
  unfold fresh at h
  dsimp only at h
  split at h
  · exact absurd rfl h
  · next hmark =>
    refine ⟨Nat.not_lt.1 hmark, (Reading.kind_eq_error_iff ..).2 ?_⟩
    intro hfaults
    exact h (List.map_eq_nil_iff.2 hfaults)

/-- What is new is at the place where the token begins. -/
theorem of_mem_fresh {l : Lexer text cap} {d : Diagnostic} (hd : d ∈ l.fresh) :
    d.severity = .error ∧ d.location = some l.nextStart.location := by
  unfold fresh at hd
  dsimp only at hd
  split at hd
  · cases hd
  · obtain ⟨fault, -, rfl⟩ := List.mem_map.1 hd
    exact ⟨rfl, rfl⟩

/-- A token for which something is reported begins in front of the mark afterwards. -/
theorem nextStart_lt_mark {l : Lexer text cap} (h : l.fresh ≠ []) :
    l.nextStart.offset < l.next.2.mark := by
  have hkind := (of_fresh_ne_nil h).2
  have hstop : l.nextStart.offset < (l.cursor.reading cap).stop.offset := by
    refine Reading.start_lt_stop fun hend => ?_
    exact absurd (hkind.symm.trans hend) (by decide)
  change _ < max l.mark (l.cursor.reading cap).stop.offset
  omega

/-- Every step goes on as it should, wherever it is made. -/
theorem advances (s : Source) (l : Lexer s.chars cap) : l.Advances s := by
  obtain ⟨⟨p, cs, rfl⟩, mark, reported⟩ := l
  refine ⟨fun h => ?_, fun h => ?_, ?_, fun h he => ?_, fun he => ?_, rfl, rfl, of_fresh_ne_nil,
    fun d => of_mem_fresh⟩
  · have hscan := Reading.scan_nil cap p
    rw [← List.drop_eq_nil_of_le h] at hscan
    refine ⟨congrArg Reading.token hscan, Cursor.eq_of_position_eq ?_⟩
    exact congrArg Reading.stop hscan
  · refine ⟨Reading.offset_lt_stop fun hnil => ?_, Reading.stop_le_length cap (Nat.le_of_lt h)⟩
    exact absurd (List.drop_eq_nil_iff.1 hnil) (Nat.not_le.2 h)
  · exact ⟨_, _, (Trivia.textOf_append_readAll _).symm, Trivia.laid_readAll _,
      Trivia.read?_readAll _, rfl, rfl⟩
  · have hlength : p.offset + (s.chars.drop p.offset).length = s.chars.length := by
      rw [List.length_drop]
      exact Nat.add_sub_of_le (Nat.le_of_lt h)
    obtain ⟨hstart, hstop⟩ := Reading.offsets_of_end he
    exact ⟨Reading.text_of_end he, hstart.trans hlength, hstop.trans hlength⟩
  · have hlt : p.offset < s.chars.length := by
      refine Nat.lt_of_not_le fun hle => he ?_
      have hkind := Reading.kind_scan_nil cap p
      rwa [← List.drop_eq_nil_of_le hle] at hkind
    have hfront : p.offset = (s.chars.take p.offset).length := by
      rw [List.length_take]
      omega
    obtain ⟨before, behind, htext, hstart, hstop⟩ :=
      Reading.covers_start cap hfront (s.chars.drop p.offset)
    rw [List.take_append_drop] at htext hstop
    have hslice := Source.slice_of_append htext
    rw [← hstart, String.length_toList, String.ofList_toList] at hslice
    exact ⟨Reading.text_ne_empty he, hslice.symm, hstop⟩

/-! ### One step after the other -/

/-- What can be asked of a lexer that need not come back to where it has been. -/
inductive Leap where
  /-- Read the next token. -/
  | next
  /-- Read past `n` tokens. -/
  | skip (n : Nat)
  /-- Put the cursor to any place at all. -/
  | restore (p : Position)
  deriving DecidableEq, Repr

/-- Where the token of a step begins, and what is reported for it. -/
structure Scan where
  /-- Where the token begins. -/
  start : Position
  /-- The diagnostics reported in the step. -/
  reported : List Diagnostic
  deriving DecidableEq, Repr

/-- What the next step reports, and for which place. -/
def nextScan (l : Lexer text cap) : Scan :=
  ⟨l.nextStart, l.fresh⟩

/-- What is reported while `n` tokens are read. -/
def scans : Nat → Lexer text cap → List Scan
  | 0, _ => []
  | n + 1, l => l.nextScan :: scans n l.next.2

/-- Ask for one thing; the steps made for it are told. -/
def leap (l : Lexer text cap) : Leap → List Scan × Lexer text cap
  | .next => ([l.nextScan], l.next.2)
  | .skip n => (scans n l, l.skip n)
  | .restore p => ([], l.moveTo p)

/-- Ask for one thing after the other; all steps that are made are told. -/
def roam (l : Lexer text cap) : List Leap → List Scan × Lexer text cap
  | [] => ([], l)
  | move :: moves =>
    let first := l.leap move
    let others := roam first.2 moves
    (first.1 ++ others.1, others.2)

/-- The steps that lead from one state to another report in the order of the text. -/
structure Orderly (l : Lexer text cap) (steps : List Scan) (l' : Lexer text cap) : Prop where
  /-- What the steps report is reported behind what has been reported before. -/
  reported : l'.reported.toList = l.reported.toList ++ steps.flatMap (·.reported)
  /-- What a step reports is an error at the place where its token begins. -/
  located : ∀ x ∈ steps, ∀ d ∈ x.reported,
    d.severity = .error ∧ d.location = some x.start.location
  /-- The mark is never put back. -/
  mark_le : l.mark ≤ l'.mark
  /-- What is reported begins neither in front of the first mark nor behind the last one. -/
  between : ∀ x ∈ steps, x.reported ≠ [] → l.mark ≤ x.start.offset ∧ x.start.offset < l'.mark
  /-- Of two steps that report something the later one begins further on. -/
  increasing : steps.Pairwise fun x y =>
    x.reported ≠ [] → y.reported ≠ [] → x.start.offset < y.start.offset

namespace Orderly

variable {l l' l'' : Lexer text cap} {steps steps' : List Scan}

/-- Without a step nothing is out of order. -/
theorem refl (l : Lexer text cap) : l.Orderly [] l where
  reported := by simp
  located := by simp
  mark_le := Nat.le_refl _
  between := by simp
  increasing := .nil

/-- Steps that report in order, and then others that do, do so together: the mark between them
separates the reports of the first from those of the others. -/
theorem trans (h : l.Orderly steps l') (h' : l'.Orderly steps' l'') :
    l.Orderly (steps ++ steps') l'' where
  reported := by rw [h'.reported, h.reported, List.flatMap_append, List.append_assoc]
  located := by
    intro x hx
    rcases List.mem_append.1 hx with hx | hx
    · exact h.located x hx
    · exact h'.located x hx
  mark_le := Nat.le_trans h.mark_le h'.mark_le
  between := by
    intro x hx hr
    have hle := h.mark_le
    have hle' := h'.mark_le
    rcases List.mem_append.1 hx with hx | hx
    · have hb := h.between x hx hr
      omega
    · have hb := h'.between x hx hr
      omega
  increasing := by
    refine List.pairwise_append.2 ⟨h.increasing, h'.increasing, fun x hx y hy hr hr' => ?_⟩
    have hb := h.between x hx hr
    have hb' := h'.between y hy hr'
    omega

/-- One step is in order. -/
theorem next (l : Lexer text cap) : l.Orderly [l.nextScan] l.next.2 where
  reported := by
    rw [List.flatMap_singleton]
    exact Array.toList_appendList ..
  located := by
    intro x hx d hd
    rw [List.mem_singleton.1 hx] at hd ⊢
    exact of_mem_fresh hd
  mark_le := Nat.le_max_left ..
  between := by
    intro x hx hr
    rw [List.mem_singleton.1 hx] at hr ⊢
    exact ⟨(of_fresh_ne_nil hr).1, nextStart_lt_mark hr⟩
  increasing := List.pairwise_singleton ..

/-- So are any number of steps in a row. -/
theorem skip (n : Nat) (l : Lexer text cap) : l.Orderly (scans n l) (l.skip n) := by
  induction n generalizing l with
  | zero => exact refl l
  | succ n ih => exact (next l).trans (ih l.next.2)

/-- Putting the cursor elsewhere changes neither the mark nor the reports. -/
theorem moveTo (l : Lexer text cap) (p : Position) : l.Orderly [] (l.moveTo p) :=
  ⟨(refl l).reported, (refl l).located, (refl l).mark_le, (refl l).between, (refl l).increasing⟩

/-- Whatever is asked for once, it is done in order. -/
theorem leap (l : Lexer text cap) (move : Leap) :
    l.Orderly (l.leap move).1 (l.leap move).2 := by
  cases move with
  | next => exact next l
  | skip n => exact skip n l
  | restore p => exact moveTo l p

/-- Whatever is asked, and wherever the cursor is put, the reports are in order. -/
theorem roam (l : Lexer text cap) (moves : List Leap) :
    l.Orderly (l.roam moves).1 (l.roam moves).2 := by
  induction moves generalizing l with
  | nil => exact refl l
  | cons move moves ih => exact (leap l move).trans (ih _)

end Orderly

/-- Reading on from anywhere comes to the end, after at most one token for each character left. -/
theorem exists_drain (l : Lexer text cap) :
    ∃ before last, l.drain.1 = before ++ [last] ∧ last.kind = .endOfSource ∧
      before.length ≤ text.length - l.cursor.position.offset := by
  obtain ⟨before, last, hall, hend, -⟩ :=
    Reading.all_eq_append_end cap l.cursor.position l.cursor.rest
  have hlength := Reading.length_all_le cap l.cursor.position l.cursor.rest
  rw [hall, List.length_append, List.length_singleton, l.cursor.rest_eq, List.length_drop]
    at hlength
  refine ⟨before.map (·.token), last.token, ?_, hend, ?_⟩
  · rw [drain_fst, hall, List.map_append, List.map_singleton]
  · rw [List.length_map]
    omega

/-- A lexer may stand anywhere and have any mark: each step goes on within the text and returns a
piece of it, or has come to the end; reading on comes to the end; and however it is sent about from
there, what it reports, it reports in the order of the text. -/
theorem roaming_is_safe (s : Source) (cap : Nat) (l : Lexer s.chars cap) :
    l.Advances s ∧
      (∃ before last, l.drain.1 = before ++ [last] ∧ last.kind = .endOfSource ∧
        before.length ≤ s.chars.length - l.cursor.position.offset) ∧
      ∀ moves, l.Orderly (l.roam moves).1 (l.roam moves).2 :=
  ⟨advances s l, exists_drain l, Orderly.roam l⟩

/-- Put into a comment, a lexer reads what it says; put back, it keeps what it has reported to
itself. -/
example : ((start "/*!*/?".toList 9).roam
      [.restore ⟨2, 7, 7⟩, .skip 1, .restore .start, .next, .restore ⟨5, 1, 1⟩, .next]).1 =
    [⟨⟨2, 7, 7⟩, [.error "invalid token '!'" 7 7]⟩,
      ⟨⟨5, 1, 6⟩, [.error "token not found for char '?'" 1 6]⟩, ⟨⟨5, 1, 1⟩, []⟩] := by
  decide +kernel

end Lexer

end Recognizer
