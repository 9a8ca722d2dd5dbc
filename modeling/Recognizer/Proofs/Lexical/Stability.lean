import Recognizer.Proofs.Lexical.Lookahead
import Recognizer.Proofs.Lexical.Trace

/-!
# What an edit leaves alone

Two texts that begin with the same characters are read in the same way as long as the cursor stays
in front of the last of these. So an edit changes no token that has ended at least one character in
front of it, and nothing that was reported for one.
-/

namespace Recognizer

namespace Reading

variable {cap : Nat} {p : Position} {cs : List Char}

/-- The first step of all stops first. -/
theorem stop_le_stop_of_mem {r : Reading} (hr : r ∈ all cap p cs) :
    (scan cap p cs).stop.offset ≤ r.stop.offset := by
  obtain ⟨tail, htail⟩ := all_eq_cons cap p cs
  have hpairs := all_pairwise cap p cs
  have hmem := hr
  rw [htail] at hpairs hmem
  rcases List.mem_cons.1 hmem with rfl | htail
  · exact Nat.le_refl _
  · obtain ⟨front, ahead, -, rfl⟩ := eq_scan_of_mem hr
    have hnext := (List.pairwise_cons.1 hpairs).1 _ htail
    have hstop := start_le_stop cap (p.advance front) ahead
    omega

/-- Where the first step does not stop in front of a place, none does. -/
theorem filter_stop_eq_nil {k : Nat} (h : k ≤ (scan cap p cs).stop.offset) :
    (all cap p cs).filter (·.stop.offset < k) = [] := by
  rw [List.filter_eq_nil_iff]
  intro r hr hlt
  have hle := stop_le_stop_of_mem hr
  have hlt := of_decide_eq_true hlt
  omega

/-- The steps that stop in front of a place are the first ones. -/
theorem filter_stop_prefix (cap : Nat) (p : Position) (cs : List Char) (k : Nat) :
    (all cap p cs).filter (·.stop.offset < k) <+: all cap p cs := by
  fun_induction all cap p cs with
  | case1 p cs r h =>
    by_cases hk : r.stop.offset < k
    · simp [hk]
    · simp [hk]
  | case2 p cs r h hlt ih =>
    by_cases hk : r.stop.offset < k
    · rw [List.filter_cons, if_pos (decide_eq_true hk), List.prefix_cons_inj]
      exact ih
    · have hnone := filter_stop_eq_nil (Nat.not_lt.1 hk)
      rw [all_of_ne_end h] at hnone
      rw [hnone]
      exact List.nil_prefix

/-- Where something is left a token has been read that is not the opening mark of a comment. -/
theorem of_rest_ne_nil (h : (scan cap p cs).rest ≠ []) :
    (scan cap p cs).token.kind ≠ .endOfSource ∧
      ∀ rest, (Trivia.readAll cs).2 ≠ '/' :: '*' :: rest := by
  exact ⟨fun hend => h (rest_of_end hend), fun _ ho => h (scan_of_open cap p ho).2.2.2⟩

/-- A step that stops in front of the last character of a text shows the same whatever is behind
that text. -/
theorem shown_of_stop_lt {xs ys : List Char}
    (h : (scan cap p (xs ++ ys)).stop.offset < p.offset + xs.length) (zs : List Char) :
    (scan cap p (xs ++ zs)).shown = (scan cap p (xs ++ ys)).shown ∧
      (scan cap p (xs ++ ys)).token.kind ≠ .endOfSource ∧
      ∃ w, (scan cap p (xs ++ ys)).rest = w ++ ys ∧ (scan cap p (xs ++ zs)).rest = w ++ zs ∧
        (scan cap p (xs ++ ys)).stop.offset + w.length = p.offset + xs.length := by
  have hall := passed_append_rest cap p (xs ++ ys)
  rw [stop_offset] at h ⊢
  obtain ⟨w, hxs, hrest⟩ : ∃ w, xs = passed cap (xs ++ ys) ++ w ∧
      (scan cap p (xs ++ ys)).rest = w ++ ys := by
    obtain ⟨w, hp, hr⟩ | ⟨w, hp, hr⟩ := List.append_eq_append_iff.1 hall
    · exact ⟨w, hp, hr⟩
    · have hlength := congrArg List.length hp
      rw [List.length_append] at hlength
      omega
  have hlength := congrArg List.length hxs
  rw [List.length_append] at hlength
  obtain ⟨c, w, rfl⟩ : ∃ c w', w = c :: w' := by
    cases w with
    | nil =>
      rw [List.length_nil] at hlength
      omega
    | cons c w => exact ⟨c, w, rfl⟩
  have hne : (scan cap p (xs ++ ys)).rest ≠ [] := by
    rw [hrest]
    exact List.cons_ne_nil _ _
  obtain ⟨hend, hopen⟩ := of_rest_ne_nil hne
  have halike : BeginsAlike (scan cap p (xs ++ ys)).rest (c :: w ++ zs) := by
    rw [hrest]
    exact .inl rfl
  have hrecurs := scan_recurs hend hopen halike
  rw [← List.append_assoc, ← hxs] at hrecurs
  have hfaults := hrecurs.faults_eq (by rw [hrest]; rfl)
  refine ⟨?_, hend, c :: w, hrest, hrecurs.rest_eq, by omega⟩
  rw [shown, shown, diagnostics, diagnostics, hrecurs.token_eq, hrecurs.stop_eq, hfaults]

/-- The steps that stop in front of the last character of a text show the same whatever is behind
that text: a step that stops there in front of one continuation does so in front of every other. -/
theorem shown_before (cap : Nat) (p : Position) (xs ys zs : List Char) :
    ((all cap p (xs ++ ys)).filter (·.stop.offset < p.offset + xs.length)).map shown =
      ((all cap p (xs ++ zs)).filter (·.stop.offset < p.offset + xs.length)).map shown := by
  by_cases h : (scan cap p (xs ++ ys)).stop.offset < p.offset + xs.length
  · obtain ⟨hshown, hend, w, hrest, hrest', hlength⟩ := shown_of_stop_lt h zs
    have hshorter := length_rest_lt hend
    have htoken : (scan cap p (xs ++ zs)).token = (scan cap p (xs ++ ys)).token :=
      congrArg Lexer.Step.token hshown
    have hstop : (scan cap p (xs ++ zs)).stop = (scan cap p (xs ++ ys)).stop :=
      congrArg Lexer.Step.stop hshown
    have hend' : (scan cap p (xs ++ zs)).token.kind ≠ .endOfSource := by rwa [htoken]
    have h' : (scan cap p (xs ++ zs)).stop.offset < p.offset + xs.length := by rwa [hstop]
    have ih := shown_before cap (scan cap p (xs ++ ys)).stop w ys zs
    rw [hlength, ← hrest, ← hrest', ← hstop] at ih
    rw [all_of_ne_end hend, all_of_ne_end hend', List.filter_cons, List.filter_cons,
      if_pos (decide_eq_true h), if_pos (decide_eq_true h'), List.map_cons, List.map_cons, hshown,
      ← ih, hstop]
  · have h' : ¬ (scan cap p (xs ++ zs)).stop.offset < p.offset + xs.length := by
      intro hlt
      have hstop := congrArg Lexer.Step.stop (shown_of_stop_lt hlt ys).1
      change (scan cap p (xs ++ ys)).stop = (scan cap p (xs ++ zs)).stop at hstop
      rw [hstop] at h
      exact h hlt
    rw [filter_stop_eq_nil (Nat.not_lt.1 h), filter_stop_eq_nil (Nat.not_lt.1 h')]
  termination_by (xs ++ ys).length
  decreasing_by
    rw [← hrest]
    exact hshorter

end Reading

namespace Lexer

/-- What a fresh lexer shows in the steps that stop in front of the character with an offset. -/
def settled (text : List Char) (cap k : Nat) : List Step :=
  (start text cap).trace.filter (·.stop.offset < k)

/-- The steps that stop in front of an offset are told by the stream. -/
theorem settled_eq (text : List Char) (cap k : Nat) :
    settled text cap k = ((stream text cap).filter (·.stop.offset < k)).map Reading.shown := by
  rw [settled, trace_start, List.filter_map]
  rfl

/-- The steps that stop in front of a character are the first ones. -/
theorem settled_prefix (text : List Char) (cap k : Nat) :
    settled text cap k <+: (start text cap).trace := by
  rw [settled_eq, trace_start]
  exact (Reading.filter_stop_prefix cap .start text k).map Reading.shown

/-- Behind a piece of text anything may stand: what has stopped in front of its last character is
the same. -/
theorem settled_append (cap : Nat) (xs ys zs : List Char) :
    settled (xs ++ ys) cap xs.length = settled (xs ++ zs) cap xs.length := by
  have h := Reading.shown_before cap .start xs ys zs
  rw [settled_eq, settled_eq]
  rwa [show Position.start.offset + xs.length = xs.length from Nat.zero_add _] at h

end Lexer

/-- Two sources that share their first `k` characters show the same tokens, places and reports in the
steps after which the cursor stands in front of the last of these, and these are the first steps of
either. -/
theorem settled_eq_of_take_eq (s t : Source) (cap : Nat) {k : Nat}
    (h : s.chars.take k = t.chars.take k) :
    Lexer.settled s.chars cap k = Lexer.settled t.chars cap k ∧
      Lexer.settled s.chars cap k <+: (Lexer.start s.chars cap).trace ∧
      Lexer.settled t.chars cap k <+: (Lexer.start t.chars cap).trace := by
  refine ⟨?_, Lexer.settled_prefix _ _ _, Lexer.settled_prefix _ _ _⟩
  have hs := List.take_append_drop k s.chars
  have ht := List.take_append_drop k t.chars
  have hlength := congrArg List.length h
  rw [List.length_take, List.length_take] at hlength
  by_cases hk : k ≤ s.chars.length
  · have hshared : (s.chars.take k).length = k := by
      rw [List.length_take]
      omega
    have hall := Lexer.settled_append cap (s.chars.take k) (s.chars.drop k) (t.chars.drop k)
    rwa [hs, h, ht, ← h, hshared] at hall
  · rw [List.take_of_length_le (by omega), List.take_of_length_le (by omega)] at h
    rw [h]

/-- The source `int a=1`. -/
def assignedOne : Source :=
  ⟨"int a=1".toList, by decide, by decide⟩

/-- The source `int a==`, which differs from its seventh character on. -/
def comparedToNothing : Source :=
  ⟨"int a==".toList, by decide, by decide⟩

/-- An assignment and a comparison that share their first six characters. -/
theorem settled_in_front_of_assigned :
    assignedOne.chars.take 6 = comparedToNothing.chars.take 6 ∧
      Lexer.settled assignedOne.chars 20 6 = Lexer.settled comparedToNothing.chars 20 6 ∧
      Lexer.settled assignedOne.chars 20 6 <+: (Lexer.start assignedOne.chars 20).trace ∧
      Lexer.settled comparedToNothing.chars 20 6 <+:
        (Lexer.start comparedToNothing.chars 20).trace := by
  have h : assignedOne.chars.take 6 = comparedToNothing.chars.take 6 := by decide
  exact ⟨h, settled_eq_of_take_eq assignedOne comparedToNothing 20 h⟩

/-- The sign that both texts have behind the variable is not among them: it goes on in one. -/
example : (Lexer.settled comparedToNothing.chars 20 6).map (·.token.text) = ["int", "a"] := by
  decide +kernel

end Recognizer
