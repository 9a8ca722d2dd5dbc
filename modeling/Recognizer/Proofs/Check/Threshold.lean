import Mathlib.Order.Interval.Set.Defs
import Mathlib.Order.Monotone.Defs
import Recognizer.Proofs.Check.Language
import Recognizer.Proofs.Check.Moments
import Recognizer.Proofs.Check.Pending

/-!
# The nesting limit as a threshold

Two runs on one source that differ in their limits are the same until the lower limit stops the
first of them. The other one opens a construct there, at the same token, and meets whatever it
meets further down. So a limit either makes no difference, or it decides the verdict; and the
limits that do decide it stop at tokens in the order of the limits.
-/

namespace Recognizer

open TokenSource

/-- Whether a run was stopped because of too many constructs inside one another. -/
def Outcome.TooDeep {σ : Type} (o : Outcome σ) : Prop :=
  ∃ v, o.violation? = some v ∧ v.expected = .shallowerNesting

namespace Parser

variable {text : List Char} {cap : Nat}

/-- A run from the state `s` goes on from there: what is pending only gets less, the trace only gets
longer, and no construct is one too many before a token has been read. -/
structure Onward (s : Traced (Parser text cap)) (o : Outcome (Traced (Parser text cap))) :
    Prop where
  visited : s.visited <+: o.state.visited
  pending : o.state.now.pending <:+ s.now.pending
  deeper : o.TooDeep → o.state.now.pending.length < s.now.pending.length

variable {s : Traced (Parser text cap)}

/-- Whatever is run goes on from where it was. -/
theorem onward_plan {bound : Nat} {a : Bool} (p : Plan bound a) (n : Nat)
    (s : Traced (Parser text cap)) : Onward s ((p.procedure n).run s) := by
  have hvisited := (Traced.growing s.visited).after_plan (m := n) p (List.prefix_refl _)
  have hafter := (s.now.advancing (s.now.depth + n)).after_plan p (s.now.advanced_refl n)
  rw [← Traced.forget_run_plan] at hafter
  generalize (p.procedure n).run s = o at hvisited hafter
  cases o with
  | accepted t =>
    obtain ⟨-, w, hw, -⟩ := hafter
    refine ⟨hvisited, ⟨w, hw.pending_eq.symm⟩, ?_⟩
    rintro ⟨v, hv, -⟩
    cases hv
  | rejected v t =>
    obtain ⟨-, hstopped⟩ := hafter
    obtain ⟨w, hw⟩ := hstopped.exists_passes
    refine ⟨hvisited, ⟨w, hw.pending_eq.symm⟩, ?_⟩
    rintro ⟨v', hv, he⟩
    cases hv
    obtain ⟨w, opener, hw, -⟩ := hstopped.exists_opener he
    have hlength := hw.length_pending
    rw [List.length_append, List.length_singleton] at hlength
    change t.now.pending.length < s.now.pending.length
    omega

/-- So does a procedure inside a nested construct. -/
theorem onward_nested (r : Routine) (n : Nat) (s : Traced (Parser text cap)) :
    Onward s ((Procedure.nested (r.procedure n)).run s) := by
  have h := onward_plan r.body n (enter s)
  rw [← r.procedure_eq] at h
  have hvisited := (Traced.prefix_move (List.prefix_refl s.visited) _).trans h.visited
  change Onward s (((r.procedure n).run (enter s)).mapState leave)
  generalize (r.procedure n).run (enter s) = o at h hvisited
  cases o with
  | accepted t =>
    refine ⟨Traced.prefix_move hvisited _, h.pending, ?_⟩
    rintro ⟨v, hv, -⟩
    cases hv
  | rejected v t => exact ⟨Traced.prefix_move hvisited _, h.pending, h.deeper⟩

/-- Behind the condition of a loop a parenthesis has to be read before anything is opened. -/
theorem onward_repeat (n : Nat) (s : Traced (Parser text cap)) :
    Onward s (((Grammar.symbol .closeParen).andThen (Routine.inside .statement n)).run s) := by
  have hnext : s.visited <+: (next s).2.visited := Traced.prefix_move (List.prefix_refl _) _
  simp only [Procedure.andThen, Grammar.symbol, Procedure.expect]
  split
  · next hc =>
    have hpending : s.now.pending = (next s).1 :: (next s).2.now.pending :=
      pending_of_ne_end (Terminal.ne_endOfSource_of_covers hc)
    change Onward s ((Routine.inside .statement n).run (next s).2)
    cases n with
    | zero =>
      have hlook : (rewind (next s).2 (next (next s).2).2).now.pending = (next s).2.now.pending :=
        pending_eq_of_cursor_eq rfl
      refine ⟨Traced.prefix_move (Traced.prefix_move hnext _) _, ?_, fun _ => ?_⟩
      · change (rewind (next s).2 (next (next s).2).2).now.pending <:+ _
        rw [hlook, hpending]
        exact List.suffix_cons ..
      · change (rewind (next s).2 (next (next s).2).2).now.pending.length < _
        rw [hlook, hpending]
        exact Nat.lt_succ_self _
    | succ n =>
      have h := onward_nested .statement n (next s).2
      have hsuffix := List.suffix_cons (next s).1 (next s).2.now.pending
      rw [← hpending] at hsuffix
      exact ⟨hnext.trans h.visited, h.pending.trans hsuffix,
        fun hd => Nat.lt_of_lt_of_le (h.deeper hd) hsuffix.length_le⟩
  · refine ⟨hnext, pending_next_suffix s.now, ?_⟩
    rintro ⟨v, hv, he⟩
    cases hv
    cases he

/-- Where the limit has stopped a run in front of the tokens `tokens`, another run opens a construct
that is deeper than any before, and goes on. -/
structure Deeper (limit : Nat) (tokens : List Token) (o : Outcome (Traced (Parser text cap))) :
    Prop where
  pending : o.state.now.pending <:+ tokens
  deeper : o.TooDeep → o.state.now.pending.length < tokens.length
  first : ∃ before p, before ++ [p] <+: o.state.visited ∧ (∀ q ∈ before, q.depth ≤ limit) ∧
    p.depth = limit + 1 ∧ p.pending = tokens

namespace Deeper

variable {limit : Nat} {tokens : List Token} {o : Outcome (Traced (Parser text cap))}

/-- A run that has gone deeper goes on from where it has come to. -/
theorem bind (h : Deeper limit tokens o)
    {f : Traced (Parser text cap) → Outcome (Traced (Parser text cap))}
    (hf : ∀ t, Onward t (f t)) : Deeper limit tokens (o.bind f) := by
  cases o with
  | rejected v t => exact h
  | accepted t =>
    have hon := hf t
    obtain ⟨before, p, hp, hrest⟩ := h.first
    exact ⟨hon.pending.trans h.pending,
      fun hd => Nat.lt_of_lt_of_le (hon.deeper hd) h.pending.length_le,
      before, p, hp.trans hon.visited, hrest⟩

/-- A construct that was deeper than any before still was when it is left. -/
theorem leave (h : Deeper limit tokens o) : Deeper limit tokens (o.mapState leave) := by
  obtain ⟨before, p, hp, hrest⟩ := h.first
  cases o with
  | accepted t =>
    refine ⟨h.pending, ?_, before, p, Traced.prefix_move hp _, hrest⟩
    rintro ⟨v, hv, -⟩
    cases hv
  | rejected v t => exact ⟨h.pending, h.deeper, before, p, Traced.prefix_move hp _, hrest⟩

/-- Entering a construct that the limit forbids. -/
theorem of_nested {s : Traced (Parser text cap)} (hs : Bounded limit 0 s) (r : Routine) (n : Nat) :
    Deeper limit s.now.pending ((Procedure.nested (r.procedure n)).run s) := by
  have h := onward_plan r.body n (enter s)
  rw [← r.procedure_eq] at h
  have hdepth : s.now.depth + 0 = limit := hs.depth_add
  have hdeeper : Deeper limit s.now.pending ((r.procedure n).run (enter s)) := by
    refine ⟨h.pending, h.deeper, s.visited, enter s.now, h.visited, hs.depth_le, ?_, rfl⟩
    rw [depth_enter]
    omega
  exact hdeeper.leave

end Deeper

/-- Two runs of which the second may open more constructs: both do the same until the limit stops
the first. -/
def thresholdCoupling (text : List Char) (cap limit k : Nat) :
    Coupling (Traced (Parser text cap)) (Traced (Parser text cap)) (k + 1) where
  related m s t := s = t ∧ Bounded limit m s
  failed _ v w s t := v = w ∧ s = t ∧ v.expected ≠ .shallowerNesting
  lost v s o := v.expected = .shallowerNesting ∧
    (∃ p ∈ s.visited, p.depth = limit ∧ p.pending = s.now.pending) ∧
    Deeper limit s.now.pending o
  kind_eq h := by rw [h.1]
  second_eq h := by rw [h.1]
  read h _ _ := ⟨by rw [h.1], h.2.next⟩
  look h := ⟨by rw [h.1], h.2.next.rewind _⟩
  lookTwice h := ⟨by rw [h.1], h.2.next.next.rewind _⟩
  enter h _ := ⟨by rw [h.1], h.2.next.enter⟩
  leave h₀ h := ⟨by rw [h.1], h.2.leave h₀.2⟩
  failed_read h _ he := ⟨by rw [h.1], by rw [h.1], he⟩
  failed_end h _ _ he := ⟨by rw [h.1], by rw [h.1], he⟩
  failed_enter hx := nomatch hx
  failed_leave _ h := ⟨h.1, by rw [h.2.1], h.2.2⟩
  lost_enter {n s t} hx h _ r := by
    obtain ⟨rfl, hb⟩ := h
    have hnext := hb.next
    have hdepth : (next s).2.now.depth + 0 = limit := hnext.depth_add
    have hlook : (rewind (next s).2 (next (next s).2).2).now.pending = (next s).2.now.pending :=
      pending_eq_of_cursor_eq rfl
    refine ⟨rfl, ⟨(next s).2.now, ?_, hdepth, hlook.symm⟩, ?_⟩
    · have hmem : (next s).2.now ∈ (next s).2.visited :=
        List.mem_append_right _ (List.mem_singleton_self _)
      exact List.mem_append_left _ (List.mem_append_left _ hmem)
    · rw [hlook]
      exact .of_nested hnext r n
  lost_plan h _ _ p n := ⟨h.1, h.2.1, h.2.2.bind (onward_plan p n)⟩
  lost_repeat h n := ⟨h.1, h.2.1, h.2.2.bind (onward_repeat n)⟩
  lost_leave h := by
    obtain ⟨he, ⟨p, hp, hrest⟩, hd⟩ := h
    exact ⟨he, ⟨p, List.mem_append_left _ hp, hrest⟩, hd.leave⟩

end Parser

namespace Source

variable (s : Source) (cap : Nat)

/-- The run on a source under a limit, with its trace. -/
def run (limit : Nat) : Outcome (Traced (Parser s.chars cap)) :=
  (Parser.start s.chars cap).traced limit

/-- A verdict and what is reported with it are those of the run. -/
theorem check_eq_of_run_eq {limits : Limits} {m n : Nat}
    (h : s.run limits.tokenLength m = s.run limits.tokenLength n) :
    s.check { limits with nesting := m } = s.check { limits with nesting := n } := by
  have hprogram : (Parser.start s.chars limits.tokenLength).program m =
      (Parser.start s.chars limits.tokenLength).program n := by
    have hm := (Parser.start s.chars limits.tokenLength).forget_traced m
    have hn := (Parser.start s.chars limits.tokenLength).forget_traced n
    change Traced.forget (s.run limits.tokenLength m) = _ at hm
    rw [h] at hm
    exact hm.symm.trans hn
  simp only [check, checkFrom, hprogram]

/-- The verdict under a limit is that of the run under it. -/
theorem check_fst_eq_run (limits : Limits) (n : Nat) :
    (s.check { limits with nesting := n }).1 =
      (s.run limits.tokenLength n).violation?.map (.ofViolation s) := by
  have hforget := (Parser.start s.chars limits.tokenLength).forget_traced n
  change Traced.forget (s.run limits.tokenLength n) = _ at hforget
  change ((Parser.start s.chars limits.tokenLength).program n).violation?.map _ = _
  rw [← hforget]
  cases s.run limits.tokenLength n <;> rfl

variable {s cap} {m n : Nat}

/-- Under a higher limit a run is the same, or it goes deeper where the lower limit stops it. -/
theorem run_of_lt (h : m < n) :
    (s.run cap n = s.run cap m ∧ ¬ (s.run cap m).TooDeep) ∨
      (s.run cap m).TooDeep ∧
        (∃ p ∈ (s.run cap m).state.visited,
          p.depth = m ∧ p.pending = (s.run cap m).state.now.pending) ∧
        Parser.Deeper m (s.run cap m).state.now.pending (s.run cap n) := by
  obtain ⟨k, rfl⟩ : ∃ k, n = k + 1 + m := ⟨n - m - 1, by omega⟩
  have hstart := Parser.bounded_start (Parser.start s.chars cap) m
  rw [show (Parser.start s.chars cap).depth = 0 from rfl, Nat.zero_add] at hstart
  have hagree := (Parser.thresholdCoupling s.chars cap m k).respects_routine m .program _ _ ⟨rfl, hstart⟩
  change (Parser.thresholdCoupling s.chars cap m k).Agree m (s.run cap m) (s.run cap (k + 1 + m)) at hagree
  generalize s.run cap m = o at hagree
  generalize s.run cap (k + 1 + m) = o' at hagree
  cases hagree with
  | accepted h =>
    obtain ⟨rfl, -⟩ := h
    refine Or.inl ⟨rfl, ?_⟩
    rintro ⟨v, hv, -⟩
    cases hv
  | rejected h =>
    obtain ⟨rfl, rfl, he⟩ := h
    refine Or.inl ⟨rfl, ?_⟩
    rintro ⟨v, hv, he'⟩
    cases hv
    exact he he'
  | lost h => exact Or.inr ⟨⟨_, rfl, h.1⟩, h.2⟩

/-- A run that is stopped because of its limit is stopped behind a mark that opens a construct, with
as many tokens in front of it as the limit at least. -/
theorem exists_opener (h : (s.run cap m).TooDeep) :
    ∃ v t w opener, s.run cap m = .rejected v t ∧ v.expected = .shallowerNesting ∧
      s.tokens cap = w ++ opener :: t.now.pending ∧ t.now.pending.head? = some v.found ∧
      OpensBehind (w.map Token.kind) opener.kind ∧ m ≤ w.length := by
  have hafter : ((Parser.start s.chars cap).advancing m).After m
      ((Parser.start s.chars cap).program m) :=
    ((Parser.start s.chars cap).advancing m).after_routine .program
      ⟨Nat.zero_add m, [], .refl _, Nat.le_refl _⟩
  rw [← Parser.forget_traced] at hafter
  change ((Parser.start s.chars cap).advancing m).After m (Traced.forget (s.run cap m)) at hafter
  obtain ⟨v, hv, he⟩ := h
  generalize s.run cap m = o at hafter hv
  cases o with
  | accepted t => cases hv
  | rejected v' t =>
    cases hv
    obtain ⟨w, opener, hw, hhead, hopens, hle⟩ := hafter.2.exists_opener he
    have htokens := hw.pending_eq
    rw [Parser.pending_start, List.append_assoc, List.singleton_append] at htokens
    have hdepth : (Parser.start s.chars cap).depth = 0 := rfl
    rw [hdepth, Nat.zero_add] at hle
    exact ⟨v, t, w, opener, rfl, he, htokens, hhead, hopens, hle⟩

/-- The limit makes no difference if it is as high as there are tokens. -/
theorem not_tooDeep_of_length_le (h : (s.tokens cap).length ≤ m) : ¬ (s.run cap m).TooDeep := by
  intro hdeep
  obtain ⟨v, t, w, opener, -, -, htokens, -, -, hle⟩ := exists_opener hdeep
  have hlength := congrArg List.length htokens
  rw [List.length_append, List.length_cons] at hlength
  omega

/-- From some limit on the run is the same, and all lower limits stop it. -/
theorem exists_threshold (s : Source) (cap : Nat) :
    ∃ threshold ≤ (s.tokens cap).length,
      (∀ n ≥ threshold, s.run cap n = s.run cap threshold ∧ ¬ (s.run cap n).TooDeep) ∧
      ∀ m < threshold, (s.run cap m).TooDeep := by
  classical
  have hexists : ∃ n, ¬ (s.run cap n).TooDeep := ⟨_, not_tooDeep_of_length_le (Nat.le_refl _)⟩
  have hspec := Nat.find_spec hexists
  refine ⟨Nat.find hexists, Nat.find_min' hexists (not_tooDeep_of_length_le (Nat.le_refl _)),
    fun n hn => ?_, fun m hm => not_not.1 (Nat.find_min hexists hm)⟩
  rcases Nat.eq_or_lt_of_le hn with he | hlt
  · rw [← he]
    exact ⟨rfl, hspec⟩
  · rcases run_of_lt hlt with ⟨hrun, hnot⟩ | ⟨hdeep, -⟩
    · rw [hrun]
      exact ⟨rfl, hnot⟩
    · exact absurd hdeep hspec

/-- A run that its limit does not stop, while the limit below would stop it, gets as deep as the
limit allows. -/
theorem exists_moment_at_threshold {threshold : Nat} (h : ∀ m < threshold, (s.run cap m).TooDeep) :
    ∃ p ∈ (Parser.start s.chars cap).moments threshold, p.depth = threshold := by
  cases threshold with
  | zero =>
    have hvisited : [Parser.start s.chars cap] <+: (s.run cap 0).state.visited :=
      (Parser.onward_plan Routine.program.body 0 (.start (Parser.start s.chars cap))).visited
    exact ⟨_, hvisited.subset (List.mem_singleton_self _), rfl⟩
  | succ m =>
    rcases run_of_lt (s := s) (Nat.lt_succ_self m) with ⟨-, hnot⟩ | ⟨-, -, hdeeper⟩
    · exact absurd (h m (Nat.lt_succ_self m)) hnot
    · obtain ⟨before, p, hvisited, -, hdepth, -⟩ := hdeeper.first
      exact ⟨p, hvisited.subset (List.mem_append_right _ (List.mem_singleton_self _)), hdepth⟩

variable (s cap m) in
/-- The index of the mark behind which a limit stops a run. -/
def place : Nat :=
  (s.tokens cap).length - (s.run cap m).state.now.pending.length - 1

/-- Where a run is stopped because of its limit. -/
theorem place_spec (h : (s.run cap m).TooDeep) :
    (s.run cap m).state.now.pending = (s.tokens cap).drop (s.place cap m + 1) ∧
      (∃ t, (s.tokens cap)[s.place cap m + 1]? = some t ∧
        (s.run cap m).violation? = some ⟨t, .shallowerNesting⟩) ∧
      ∃ t, (s.tokens cap)[s.place cap m]? = some t ∧
        OpensBehind (((s.tokens cap).take (s.place cap m)).map Token.kind) t.kind := by
  obtain ⟨v, t, w, opener, hrun, he, htokens, hhead, hopens, -⟩ := exists_opener h
  have hstate : (s.run cap m).state.now.pending = t.now.pending := by rw [hrun]; rfl
  have hplace : s.place cap m = w.length := by
    rw [place, hstate, htokens, List.length_append, List.length_cons]
    omega
  have hdrop : (s.tokens cap).drop (w.length + 1) = t.now.pending := by
    rw [htokens, ← List.drop_drop, List.drop_left, List.drop_one, List.tail_cons]
  rw [hplace, hstate, hdrop]
  refine ⟨rfl, ⟨v.found, ?_, ?_⟩, opener, ?_, ?_⟩
  · rw [← hhead, List.head?_eq_getElem?, ← hdrop, List.getElem?_drop, Nat.add_zero]
  · rw [hrun, ← he]
    rfl
  · rw [htokens, List.getElem?_append_right (Nat.le_refl _), Nat.sub_self]
    rfl
  · rw [htokens, List.take_left]
    exact hopens

/-- A greater limit stops a run further down. -/
theorem place_lt (hm : (s.run cap m).TooDeep) (hn : (s.run cap n).TooDeep) (h : m < n) :
    s.place cap m < s.place cap n := by
  rcases run_of_lt h with ⟨-, hnot⟩ | ⟨-, -, hdeeper⟩
  · exact absurd hm hnot
  · have hlt := hdeeper.deeper hn
    obtain ⟨v, t, w, opener, hrun, -, htokens, -⟩ := exists_opener hm
    have hlength := congrArg List.length htokens
    rw [List.length_append, List.length_cons] at hlength
    rw [hrun] at hlt
    rw [place, place, hrun]
    change _ < t.now.pending.length at hlt
    change _ - t.now.pending.length - 1 < _
    omega

/-- Where a limit stops a run so many constructs are open as it allows, and never more. -/
theorem moments_of_tooDeep (h : (s.run cap m).TooDeep) :
    (∃ p ∈ (Parser.start s.chars cap).moments m,
      p.depth = m ∧ p.pending = (s.tokens cap).drop (s.place cap m + 1)) ∧
    ∀ p ∈ (Parser.start s.chars cap).moments m, p.depth ≤ m := by
  refine ⟨?_, fun p hp => Parser.depth_le_of_mem_moments (Nat.zero_le m) hp⟩
  rcases run_of_lt (Nat.lt_succ_self m) with ⟨-, hnot⟩ | ⟨-, hvisited, -⟩
  · exact absurd h hnot
  · rw [← (place_spec h).1]
    exact hvisited

/-- Under a greater limit the run opens a construct there that is deeper than any before. -/
theorem find?_moments_of_tooDeep (h : (s.run cap m).TooDeep) (hn : m < n) :
    ∃ p, ((Parser.start s.chars cap).moments n).find? (fun p => m < p.depth) = some p ∧
      p.depth = m + 1 ∧ p.pending = (s.tokens cap).drop (s.place cap m + 1) := by
  rcases run_of_lt hn with ⟨-, hnot⟩ | ⟨-, -, hdeeper⟩
  · exact absurd h hnot
  · obtain ⟨before, p, ⟨behind, hvisited⟩, hbefore, hdepth, hpending⟩ := hdeeper.first
    have hmoments : (Parser.start s.chars cap).moments n = before ++ p :: behind := by
      change (s.run cap n).state.visited = _
      rw [← hvisited, List.append_assoc, List.singleton_append]
    refine ⟨p, ?_, hdepth, by rw [← (place_spec h).1, hpending]⟩
    rw [hmoments, List.find?_eq_some_iff_append]
    refine ⟨decide_eq_true (by omega), before, behind, rfl, fun q hq => ?_⟩
    have hle := hbefore q hq
    simp only [Bool.not_eq_true', decide_eq_false_iff_not]
    omega

end Source

/-- The nesting limit is a threshold. From some limit on, which is no greater than the number of
tokens, the verdict and everything reported are the same, and not that the nesting is too deep;
that limit is the greatest number of constructs that are ever open at once. Under any lower limit
the verdict is that the nesting is too deep; the offending tokens stand in the order of the limits,
each behind a mark that opens a construct. Under the limit `m` there are `m` constructs open at that
token and never more, and under any greater limit it is the first token inside more than `m`
constructs. -/
theorem nesting_limit_is_threshold (s : Source) (limits : Limits) :
    let tokens := (Lexer.start s.chars limits.tokenLength).drain.1
    let check := fun n => s.check { limits with nesting := n }
    let moments := fun n => (Parser.start s.chars limits.tokenLength).moments n
    ∃ threshold ≤ tokens.length,
      (∀ n ≥ threshold, check n = check threshold ∧
        (∀ e, (check n).1 = some e → e.expected ≠ "nesting is too deep") ∧
        (∀ p ∈ moments n, p.depth ≤ threshold) ∧ ∃ p ∈ moments n, p.depth = threshold) ∧
      ∃ place : Nat → Nat, StrictMonoOn place (Set.Iio threshold) ∧ ∀ m < threshold,
        (∃ t, tokens[place m + 1]? = some t ∧
          (check m).1 = some (.ofViolation s ⟨t, .shallowerNesting⟩)) ∧
        (∃ t, tokens[place m]? = some t ∧
          OpensBehind ((tokens.take (place m)).map Token.kind) t.kind) ∧
        ((∃ p ∈ moments m, p.depth = m ∧ p.lexer.drain.1 = tokens.drop (place m + 1)) ∧
          ∀ p ∈ moments m, p.depth ≤ m) ∧
        ∀ n > m, ∃ p, (moments n).find? (fun p => m < p.depth) = some p ∧ p.depth = m + 1 ∧
          p.lexer.drain.1 = tokens.drop (place m + 1) := by
  intro tokens check moments
  have htokens : tokens = s.tokens limits.tokenLength :=
    Lexer.drain_start s.chars limits.tokenLength
  obtain ⟨threshold, hle, habove, hbelow⟩ := s.exists_threshold limits.tokenLength
  rw [htokens]
  refine ⟨threshold, hle,
    fun n hn => ⟨s.check_eq_of_run_eq (habove n hn).1, fun e he => ?_, ?_⟩,
    s.place limits.tokenLength, fun m hm n hn h => Source.place_lt (hbelow m hm) (hbelow n hn) h,
    fun m hm => ?_⟩
  · have hnot := (habove n hn).2
    rw [s.check_fst_eq_run, Option.map_eq_some_iff] at he
    obtain ⟨v, hv, rfl⟩ := he
    exact fun hm => hnot ⟨v, hv, Expectation.message_injective hm⟩
  · have hmoments : moments n = moments threshold :=
      congrArg (fun o => o.state.visited) (habove n hn).1
    rw [hmoments]
    exact ⟨fun p hp => Parser.depth_le_of_mem_moments (Nat.zero_le _) hp,
      Source.exists_moment_at_threshold hbelow⟩
  · have hdeep := hbelow m hm
    obtain ⟨-, ⟨t, ht, hverdict⟩, hopener⟩ := Source.place_spec hdeep
    refine ⟨⟨t, ht, ?_⟩, hopener, Source.moments_of_tooDeep hdeep,
      fun n hn => Source.find?_moments_of_tooDeep hdeep hn⟩
    change (s.check { limits with nesting := m }).1 = _
    rw [s.check_fst_eq_run, hverdict]
    rfl

/-- A block inside a loop inside a block. -/
def nestedLoop : Source :=
  ⟨"int main() { while (a) { ; } }".toList, by decide, by decide⟩

example : (nestedLoop.check { nesting := 2 }).1.map (·.column) = some 26 ∧
    (nestedLoop.check { nesting := 3 }).1 = none := by
  decide +kernel

end Recognizer
