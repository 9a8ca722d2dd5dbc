import Recognizer.Check
import Recognizer.Proofs.Grammar.Invariant

/-!
# The moments of a run

A parser that reads a program can be traced: the states that it gets into, one after the other, are
the moments of the run. At each of them as many constructs are open as the limit allows at most,
and at the end as many as at the beginning, however the run ends.
-/

namespace Recognizer

open TokenSource

namespace Parser

variable {text : List Char} {cap : Nat}

/-- Read the rest of the text as a program, and remember every state. -/
def traced (p : Parser text cap) (limit : Nat) : Outcome (Traced (Parser text cap)) :=
  (Grammar.program (limit - p.depth)).run (.start p)

/-- Every state of a parser that reads the rest of the text as a program, the first in front. -/
def moments (p : Parser text cap) (limit : Nat) : List (Parser text cap) :=
  (p.traced limit).state.visited

/-- A parser does the same whether it is traced or not. -/
theorem forget_traced (p : Parser text cap) (limit : Nat) :
    Traced.forget (p.traced limit) = p.program limit :=
  Traced.forget_run_routine (limit - p.depth) .program (.start p)

/-- At no moment up to now have more than `total` constructs been open, and so many still may be
opened that these would be reached. -/
structure Bounded (total room : Nat) (s : Traced (Parser text cap)) : Prop where
  /-- What is open and what still may be opened. -/
  depth_add : s.now.depth + room = total
  /-- What has been open. -/
  depth_le : ∀ p ∈ s.visited, p.depth ≤ total

variable {total room : Nat} {s : Traced (Parser text cap)}

/-- A bound on what has been open is kept by a step that leaves as much room as it says. -/
theorem Bounded.move (h : Bounded total room s) {now : Parser text cap} {room' : Nat}
    (hd : now.depth + room' = total) : Bounded total room' (s.move now) := by
  refine ⟨hd, fun p hp => ?_⟩
  rcases List.mem_append.1 hp with hp | hp
  · exact h.depth_le p hp
  · rw [List.mem_singleton.1 hp]
    omega

/-- Reading a token opens nothing. -/
theorem Bounded.next (h : Bounded total room s) : Bounded total room (next s).2 :=
  h.move h.depth_add

/-- Putting a parser back closes nothing. -/
theorem Bounded.rewind (h : Bounded total room s) (saved : Traced (Parser text cap)) :
    Bounded total room (rewind saved s) :=
  h.move h.depth_add

/-- Opening a construct takes up some of the room. -/
theorem Bounded.enter (h : Bounded total (room + 1) s) : Bounded total room (enter s) := by
  have hd := h.depth_add
  exact h.move (by rw [depth_enter]; omega)

/-- What is left has been opened before. -/
theorem Bounded.leave {s₀ : Traced (Parser text cap)} (h : Bounded total room s)
    (h₀ : Bounded total (room + 1) s₀) : Bounded total (room + 1) (leave s) := by
  have hd := h.depth_add
  have hd₀ := h₀.depth_add
  exact h.move (by rw [depth_leave]; omega)

/-- No procedure opens more constructs than there is room for. -/
def bounded (text : List Char) (cap total : Nat) : Invariant (Traced (Parser text cap)) where
  holds := Bounded total
  broken room _ := Bounded total room
  read h _ _ := h.next
  look h := h.next.rewind _
  lookTwice h := h.next.next.rewind _
  enter h _ := h.next.enter
  leave h₀ h := h.leave h₀
  failed_read h _ _ := h.next
  failed_end h _ _ _ := h.next.rewind _
  failed_enter h _ := h.next.next.rewind _
  failed_leave h₀ h := h.leave h₀

/-- At the beginning only what is open already is open. -/
theorem bounded_start (p : Parser text cap) (room : Nat) :
    Bounded (p.depth + room) room (.start p) := by
  refine ⟨rfl, fun q hq => ?_⟩
  rw [List.mem_singleton.1 hq]
  exact Nat.le_add_right ..

/-- At every moment no more constructs are open than the limit allows. -/
theorem depth_le_of_mem_moments {p q : Parser text cap} {limit : Nat} (hp : p.depth ≤ limit)
    (hq : q ∈ p.moments limit) : q.depth ≤ limit := by
  have hstart := bounded_start p (limit - p.depth)
  rw [Nat.add_sub_cancel' hp] at hstart
  have hafter : (bounded text cap limit).After (limit - p.depth) (p.traced limit) :=
    (bounded text cap limit).after_routine .program hstart
  have hbound : Bounded limit (limit - p.depth) (p.traced limit).state := by
    generalize p.traced limit = o at hafter
    cases o <;> exact hafter
  exact hbound.depth_le q hq

end Parser

end Recognizer
