/-!
# Bounded munching

Taking characters of one class from the front of a text, as many as there are but no more
than a bound allows.
-/

namespace Recognizer

/-- Split off the longest front piece of at most `bound` characters that all satisfy `p`. -/
def munch (p : Char → Bool) : Nat → List Char → List Char × List Char
  | 0, cs => ([], cs)
  | _ + 1, [] => ([], [])
  | bound + 1, c :: cs =>
    if p c then
      let parts := munch p bound cs
      (c :: parts.1, parts.2)
    else ([], c :: cs)

/-- Munching loses nothing. -/
theorem munch_append (p : Char → Bool) (bound : Nat) (cs : List Char) :
    (munch p bound cs).1 ++ (munch p bound cs).2 = cs := by
  fun_induction munch p bound cs with
  | case1 => rfl
  | case2 => rfl
  | case3 bound c cs _ parts ih => rw [List.cons_append, ih]
  | case4 => rfl

/-- What is split off are the leading characters of the class, cut at the bound. -/
theorem munch_fst (p : Char → Bool) (bound : Nat) (cs : List Char) :
    (munch p bound cs).1 = (cs.takeWhile p).take bound := by
  fun_induction munch p bound cs with
  | case1 => rfl
  | case2 => rfl
  | case3 bound c cs hc parts ih => rw [List.takeWhile_cons_of_pos hc, List.take_succ_cons, ih]
  | case4 bound c cs hc => rw [List.takeWhile_cons_of_neg hc, List.take_nil]

/-- No more is split off than the bound allows. -/
theorem length_munch_le (p : Char → Bool) (bound : Nat) (cs : List Char) :
    (munch p bound cs).1.length ≤ bound := by
  rw [munch_fst]
  exact List.length_take_le ..

/-- What is split off belongs to the class. -/
theorem forall_mem_munch (p : Char → Bool) (bound : Nat) (cs : List Char) :
    ∀ c ∈ (munch p bound cs).1, p c = true := by
  fun_induction munch p bound cs with
  | case1 => simp
  | case2 => simp
  | case3 bound c cs hc parts ih => simpa [hc] using ih
  | case4 => simp

/-- Where less is split off than the bound allows, the rest does not begin with the class. -/
theorem head_munch_of_lt (p : Char → Bool) (bound : Nat) (cs : List Char)
    (h : (munch p bound cs).1.length < bound) :
    ∀ c, (munch p bound cs).2.head? = some c → p c = false := by
  fun_induction munch p bound cs with
  | case1 => nomatch h
  | case2 => simp
  | case3 bound c cs hc parts ih => exact ih (Nat.lt_of_succ_lt_succ h)
  | case4 bound c cs hc => simpa using hc

/-- A front piece of the class is split off if the bound allows it, and more would have been
split off only if the bound allowed that and the rest began with the class. -/
theorem munch_append_of_forall {p : Char → Bool} {bound : Nat} {xs rest : List Char}
    (hx : ∀ c ∈ xs, p c = true) (hl : xs.length ≤ bound)
    (hr : xs.length < bound → ∀ c, rest.head? = some c → p c = false) :
    munch p bound (xs ++ rest) = (xs, rest) := by
  induction xs generalizing bound with
  | nil =>
    cases bound with
    | zero => rfl
    | succ bound =>
      cases rest with
      | nil => rfl
      | cons c rest =>
        have hc := hr (Nat.succ_pos bound) c rfl
        simp [munch, hc]
  | cons c xs ih =>
    obtain ⟨hc, hxs⟩ := List.forall_mem_cons.1 hx
    cases bound with
    | zero => nomatch hl
    | succ bound =>
      have hi := ih hxs (Nat.le_of_succ_le_succ hl) fun h => hr (Nat.succ_lt_succ h)
      simp [munch, hc, hi]

end Recognizer
