import Recognizer.Proofs.Lexical.Faults
import Recognizer.Proofs.Lexical.Trace

/-!
# What is reported for which token

A lexer that reads a text from its beginning to its end reports something for each error token and
for no other one, where the token begins. So the reports are in the order of the text, and a comment
that is not closed is reported last.
-/

namespace Recognizer

/-! ### The order of places -/

namespace Location

/-- One place is on an earlier line than another, or on the same line and not behind it. -/
instance : LE Location :=
  ⟨fun l m => l.line < m.line ∨ l.line = m.line ∧ l.column ≤ m.column⟩

/-- Places are compared by their lines, and on one line by their columns. -/
theorem le_def {l m : Location} :
    l ≤ m ↔ l.line < m.line ∨ l.line = m.line ∧ l.column ≤ m.column :=
  Iff.rfl

theorem le_refl (l : Location) : l ≤ l :=
  .inr ⟨rfl, Nat.le_refl _⟩

/-- The order of places is transitive. -/
theorem le_trans {l m n : Location} (h : l ≤ m) (h' : m ≤ n) : l ≤ n := by
  rw [le_def] at *
  omega

end Location

namespace Position

/-- The line and the column of a place. -/
def location (p : Position) : Location :=
  ⟨p.line, p.column⟩

/-- A character leads to no earlier place. -/
theorem location_le_step (p : Position) (c : Char) : p.location ≤ (p.step c).location := by
  rw [Location.le_def]
  unfold step
  split
  · simp [location, advanceLines]
  · simp [location, advanceColumns]

/-- Moving on never leads to an earlier place. -/
theorem location_le_advance (p : Position) (cs : List Char) :
    p.location ≤ (p.advance cs).location := by
  induction cs generalizing p with
  | nil => exact Location.le_refl _
  | cons c cs ih => exact Location.le_trans (location_le_step p c) (ih (p.step c))

end Position

namespace Reading

variable {cap : Nat} {p : Position} {cs : List Char}

/-- A token begins no earlier than the step that reads it. -/
theorem location_le_token (cap : Nat) (p : Position) (cs : List Char) :
    p.location ≤ (scan cap p cs).token.location :=
  Position.location_le_advance p _

/-- A step stops no earlier than where its token begins. -/
theorem token_location_le_stop (cap : Nat) (p : Position) (cs : List Char) :
    (scan cap p cs).token.location ≤ (scan cap p cs).stop.location :=
  Position.location_le_advance (scan cap p cs).start _

/-- No token from a place on begins in front of that place. -/
theorem location_le_of_mem {r : Reading} (hr : r ∈ all cap p cs) :
    p.location ≤ r.token.location := by
  fun_induction all cap p cs with
  | case1 p cs r' h =>
    rw [List.mem_singleton.mp hr]
    exact location_le_token cap p cs
  | case2 p cs r' h hlt ih =>
    have hstart := location_le_token cap p cs
    have hstop := token_location_le_stop cap p cs
    rcases List.mem_cons.mp hr with rfl | hm
    · exact hstart
    · exact Location.le_trans (Location.le_trans hstart hstop) (ih hm)

/-- The tokens begin in the order in which they are read. -/
theorem all_pairwise_location (cap : Nat) (p : Position) (cs : List Char) :
    (all cap p cs).Pairwise fun r r' => r.token.location ≤ r'.token.location := by
  fun_induction all cap p cs with
  | case1 p cs r h => exact List.pairwise_singleton _ _
  | case2 p cs r h hlt ih =>
    refine List.pairwise_cons.mpr ⟨fun r' hr' => ?_, ih⟩
    exact Location.le_trans (token_location_le_stop cap p cs) (location_le_of_mem hr')

/-- The places of what is wrong with readings in order are in order. -/
theorem exists_places {rs : List Reading}
    (h : rs.Pairwise fun r r' => r.token.location ≤ r'.token.location) :
    ∃ places : List Location, (rs.flatMap diagnostics).map (·.location) = places.map some ∧
      places.Pairwise (· ≤ ·) := by
  refine ⟨rs.flatMap fun r => List.replicate r.faults.length r.token.location, ?_, ?_⟩
  · rw [List.map_flatMap, List.map_flatMap]
    simp only [map_location_diagnostics, List.map_replicate]
  · refine List.pairwise_flatMap.2 ⟨fun r _ => ?_, h.imp fun hle => ?_⟩
    · exact List.pairwise_replicate.2 (.inr (Location.le_refl _))
    · intro l hl m hm
      rw [List.eq_of_mem_replicate hl, List.eq_of_mem_replicate hm]
      exact hle

/-! ### Faults of a reading -/

/-- The text of a reading that begins the stream at a place is what the place leaves over. -/
theorem rest_eq_drop_of_mem {text : List Char} {r : Reading} (hr : r ∈ all cap .start text) :
    r.rest = text.drop r.stop.offset := by
  obtain ⟨front, ahead, rfl, rfl⟩ := eq_scan_of_mem hr
  have hstart : (Position.start.advance front).offset = front.length := by
    rw [Position.advance_offset]
    exact Nat.zero_add _
  have hrest := rest_eq_drop cap (Position.start.advance front) ahead
  have hle := offset_le_stop cap (Position.start.advance front) ahead
  rw [hstart] at hrest hle
  obtain ⟨n, hn⟩ := Nat.exists_eq_add_of_le hle
  rw [hn, Nat.add_sub_cancel_left] at hrest
  rw [hrest, hn, List.drop_length_add_append]

/-- What is read from a reading on is all that is read from some place on. -/
theorem exists_all_of_append {front behind : List Reading} {r : Reading}
    (h : all cap p cs = front ++ r :: behind) : ∃ q ds, all cap q ds = r :: behind := by
  induction front generalizing p cs with
  | nil => exact ⟨p, cs, h⟩
  | cons r' front ih =>
    by_cases hend : (scan cap p cs).token.kind = .endOfSource
    · rw [all_of_end hend] at h
      simp at h
    · rw [all_of_ne_end hend] at h
      exact ih (List.cons.inj h).2

/-- A comment that is left open is followed by the end and by nothing else. -/
theorem eq_singleton_of_unclosed {front behind : List Reading} {r : Reading}
    (h : all cap p cs = front ++ r :: behind) (hr : .unclosedComment ∈ r.faults) :
    ∃ last, behind = [last] ∧ last.token.kind = .endOfSource := by
  obtain ⟨q, ds, hq⟩ := exists_all_of_append h
  have hend : (scan cap q ds).token.kind ≠ .endOfSource := by
    intro hend
    rw [all_of_end hend] at hq
    obtain ⟨rfl, -⟩ := List.cons.inj hq
    rw [faults_of_end hend] at hr
    exact List.not_mem_nil hr
  rw [all_of_ne_end hend] at hq
  obtain ⟨rfl, rfl⟩ := List.cons.inj hq
  have hrest := (of_unclosedComment_mem hr).2.2.2
  have hkind := kind_scan_nil cap (scan cap q ds).stop
  rw [← hrest] at hkind
  exact ⟨_, all_of_end hkind, hkind⟩

/-- At most one comment is left open. -/
theorem count_unclosedComment_le (cap : Nat) (p : Position) (cs : List Char) :
    ((all cap p cs).flatMap (·.faults)).count .unclosedComment ≤ 1 := by
  fun_induction all cap p cs with
  | case1 p cs r hend =>
    have hfaults : r.faults = [] := faults_of_end hend
    simp [hfaults]
  | case2 p cs r hend hlt ih =>
    rw [List.flatMap_cons, List.count_append]
    by_cases hr : .unclosedComment ∈ r.faults
    · have hall : all cap p cs = [] ++ r :: all cap r.stop r.rest := all_of_ne_end hend
      obtain ⟨last, hlast, hkind⟩ := eq_singleton_of_unclosed hall hr
      have hmem : last ∈ all cap r.stop r.rest := by
        rw [hlast]
        exact List.mem_cons_self
      obtain ⟨_, _, -, rfl⟩ := eq_scan_of_mem hmem
      have hfaults : r.faults = [.unclosedComment] := (of_unclosedComment_mem hr).1
      rw [hlast, List.flatMap_singleton, faults_of_end hkind, hfaults]
      decide
    · rw [List.count_eq_zero.2 hr, Nat.zero_add]
      exact ih

end Reading

/-! ### What a lexer reports -/

/-- What a text begins with is known from the first of its three parts. -/
theorem head?_append_append {front middle behind : String} {c : Char}
    (h : front.toList.head? = some c) : (front ++ middle ++ behind).toList.head? = some c := by
  rw [String.append_assoc, String.toList_append, List.head?_append, h]
  rfl

/-- Only the message for a comment that is left open says so: no other begins with its letter,
whatever character is shown further on. -/
theorem LexicalFault.message_eq_unclosed_iff {fault : LexicalFault} :
    fault.message = unclosedComment.message ↔ fault = unclosedComment := by
  refine ⟨fun h => ?_, congrArg message⟩
  have hhead := congrArg (fun m => m.toList.head?) h
  cases fault with
  | unclosedComment => rfl
  | tooLong => exact absurd hhead (by decide)
  | loneExclamation => exact absurd hhead (by decide)
  | badHexDigit found => exact absurd ((head?_append_append rfl).symm.trans hhead) (by decide)
  | badOctalDigit found => exact absurd ((head?_append_append rfl).symm.trans hhead) (by decide)
  | unknownCharacter found => exact absurd ((head?_append_append rfl).symm.trans hhead) (by decide)

namespace Lexer

/-- What a step reports is told by its token and by the text behind its cursor: nothing but for an
error token; for that, what is wrong, where the token begins. -/
structure Step.Accounted (text : List Char) (cap : Nat) (x : Step) : Prop where
  /-- Nothing is reported for a token that is not malformed. -/
  silent (h : x.token.kind ≠ .error) : x.reported = []
  /-- What is reported is an error at the place where the token begins. -/
  located (d : Diagnostic) (hd : d ∈ x.reported) :
    d.severity = .error ∧ d.location = some ⟨x.token.line, x.token.column⟩
  /-- A numeral that is too long and followed by an invalid digit is reported for both. -/
  twice (bad : LexicalFault)
    (hb : Lexeme.InvalidDigit x.token.text.toList (text.drop x.stop.offset) bad)
    (hl : cap < x.token.text.length) :
    x.token.kind = .error ∧ x.reported =
      [bad.diagnostic x.token.line x.token.column,
        LexicalFault.tooLong.diagnostic x.token.line x.token.column]
  /-- Any other error token is reported once. -/
  once (hk : x.token.kind = .error)
    (h : ¬ ((∃ bad, Lexeme.InvalidDigit x.token.text.toList (text.drop x.stop.offset) bad) ∧
      cap < x.token.text.length)) : x.reported.length = 1

end Lexer

namespace Reading

variable {text : List Char} {cap : Nat}

/-- Each reading of a text is accounted for. -/
theorem shown_accounted {r : Reading} (hr : r ∈ all cap .start text) :
    r.shown.Accounted text cap := by
  have hrest := rest_eq_drop_of_mem hr
  obtain ⟨front, ahead, -, rfl⟩ := eq_scan_of_mem hr
  generalize Position.start.advance front = q at hrest ⊢
  have hkind := kind_eq_error_iff cap q ahead
  have hread := Lexeme.read_accounted cap (Trivia.readAll ahead).2
  have htext : (scan cap q ahead).shown.token.text.toList =
      (Lexeme.read cap (Trivia.readAll ahead).2).text := String.toList_ofList
  have hbehind : text.drop (scan cap q ahead).shown.stop.offset =
      (Lexeme.read cap (Trivia.readAll ahead).2).rest := hrest.symm
  refine ⟨fun h => ?_, fun d hd => ?_, fun bad hb hl => ?_, fun hk h => ?_⟩
  · have hnone := Classical.not_not.1 (mt hkind.2 h)
    exact List.map_eq_nil_iff.2 hnone
  · obtain ⟨fault, -, rfl⟩ := List.mem_map.1 hd
    exact ⟨rfl, rfl⟩
  · rw [htext, hbehind] at hb
    rw [← String.length_toList, htext] at hl
    have hf : (scan cap q ahead).faults = [bad, .tooLong] := hread.twice bad hb hl
    refine ⟨hkind.2 ?_, ?_⟩
    · rw [hf]
      exact List.cons_ne_nil _ _
    · rw [shown, diagnostics, hf]
      rfl
  · rw [htext, hbehind, ← String.length_toList, htext] at h
    have hpos := List.length_pos_iff.2 (hkind.1 hk)
    have hle : (scan cap q ahead).faults.length ≤ 1 := hread.once h
    rw [shown, diagnostics, List.length_map]
    omega

/-- The message for a comment that is left open is reported as often as that is wrong. -/
theorem countP_message_diagnostics (rs : List Reading) :
    (rs.flatMap diagnostics).countP (·.message == LexicalFault.unclosedComment.message) =
      (rs.flatMap (·.faults)).count .unclosedComment := by
  induction rs with
  | nil => rfl
  | cons r rs ih =>
    have hr : r.diagnostics.countP (·.message == LexicalFault.unclosedComment.message) =
        r.faults.count .unclosedComment := by
      rw [diagnostics, List.countP_map, List.count]
      refine List.countP_congr fun fault _ => ?_
      rw [Function.comp_apply, beq_iff_eq, beq_iff_eq]
      exact LexicalFault.message_eq_unclosed_iff
    rw [List.flatMap_cons, List.flatMap_cons, List.countP_append, List.count_append, hr, ih]

end Reading

/-- A run of the lexer reports for its error tokens and for no other: once for each, or twice for a
numeral that is too long and followed by an invalid digit. So what is reported is in the order of
the text, nothing is reported exactly if there is no error token, and a comment is left open at
most once, in front of the end. -/
theorem reports_account_for_errors (s : Source) (cap : Nat) :
    let run := (Lexer.start s.chars cap).trace
    let reported := (Lexer.start s.chars cap).drain.2.reported.toList
    run.map (·.token) = (Lexer.start s.chars cap).drain.1 ∧
      reported = run.flatMap (·.reported) ∧
      (∀ x ∈ run, x.Accounted s.chars cap) ∧
      (∃ places : List Location,
        reported.map (·.location) = places.map some ∧ places.Pairwise (· ≤ ·)) ∧
      ((∀ x ∈ run, x.token.kind ≠ .error) ↔ reported = []) ∧
      reported.countP (·.message == LexicalFault.unclosedComment.message) ≤ 1 ∧
      ∀ front x behind, run = front ++ x :: behind →
        (∃ d ∈ x.reported, d.message = LexicalFault.unclosedComment.message) →
          x.token.text = "/*" ∧ ∃ last, behind = [last] ∧ last.token.kind = .endOfSource := by
  intro run reported
  have hrun : run = (Lexer.stream s.chars cap).map Reading.shown := Lexer.trace_start s.chars cap
  have hreported : reported = (Lexer.stream s.chars cap).flatMap Reading.diagnostics :=
    Lexer.reported_drain_start s.chars cap
  refine ⟨Lexer.map_token_trace s.chars cap, (Lexer.flatMap_reported_trace s.chars cap).symm,
    fun x hx => ?_, ?_, ?_, ?_, fun front x behind hsplit hopen => ?_⟩
  · rw [hrun] at hx
    obtain ⟨r, hr, rfl⟩ := List.mem_map.1 hx
    exact Reading.shown_accounted hr
  · rw [hreported]
    exact Reading.exists_places (Reading.all_pairwise_location cap .start s.chars)
  · rw [hreported, Reading.flatMap_diagnostics_eq_nil_iff, hrun, List.forall_mem_map]
    refine forall₂_congr fun r hr => ?_
    obtain ⟨_, _, -, rfl⟩ := Reading.eq_scan_of_mem hr
    exact (not_congr (Reading.kind_eq_error_iff ..)).trans Classical.not_not
  · rw [hreported, Reading.countP_message_diagnostics]
    exact Reading.count_unclosedComment_le cap .start s.chars
  · rw [hrun] at hsplit
    obtain ⟨before, after, hstream, rfl, hafter⟩ := List.map_eq_append_iff.1 hsplit
    obtain ⟨r, rest, rfl, rfl, rfl⟩ := List.map_eq_cons_iff.1 hafter
    obtain ⟨d, hd, hmessage⟩ := hopen
    obtain ⟨fault, hfault, rfl⟩ := List.mem_map.1 hd
    obtain rfl := LexicalFault.message_eq_unclosed_iff.1 hmessage
    obtain ⟨last, rfl, hlast⟩ := Reading.eq_singleton_of_unclosed hstream hfault
    have hmem : r ∈ Lexer.stream s.chars cap := by
      rw [hstream]
      exact List.mem_append_right _ List.mem_cons_self
    obtain ⟨_, _, -, rfl⟩ := Reading.eq_scan_of_mem hmem
    exact ⟨(Reading.of_unclosedComment_mem hfault).2.2.1, last.shown, rfl, hlast⟩

/-- A prefix that announces hexadecimal digits, without one, longer than allowed. -/
example : (Lexer.start "a\n 0xg".toList 1).drain.2.reported =
    #[.error "invalid digit 'g' in hex constant" 2 2, .error "too long token" 2 2] := by
  decide +kernel

end Recognizer
