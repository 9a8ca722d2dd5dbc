import Recognizer.Proofs.Grammar.Simulation

/-!
# What holds all through a run

An invariant says what holds of the states of one run between two steps, and of the state that a
violation leaves behind. It has to be kept by single steps only: by the plans of the procedures,
which decide when a step is taken, it is then kept by every run. A traced source also remembers
every state that it has ever been in; so what is said of the trace at the end of a run is said of
each moment of the run.
-/

namespace Recognizer

open TokenSource Procedure

/-- A property of the states of a run that each step keeps. -/
structure Invariant (σ : Type) [TokenSource σ] where
  /-- The states between two steps, where so many constructs may still be opened. -/
  holds : Nat → σ → Prop
  /-- The states that a violation leaves behind. -/
  broken : Nat → Violation → σ → Prop
  /-- Reading a token that some class of the grammar covers. -/
  read {m : Nat} {s : σ} (h : holds m s) {c : Terminal} (hc : c.covers (next s).1.kind = true) :
    holds m (next s).2
  /-- Looking at a token and putting it back. -/
  look {m : Nat} {s : σ} (h : holds m s) : holds m (rewind s (next s).2)
  /-- Looking at two tokens and putting them back. -/
  lookTwice {m : Nat} {s : σ} (h : holds m s) : holds m (rewind s (next (next s).2).2)
  /-- Reading a mark that opens a construct, and entering it. -/
  enter {m : Nat} {s : σ} (h : holds (m + 1) s) (ho : Opens (holds (m + 1)) (m + 1) s) :
    holds m (enter (next s).2)
  /-- Leaving a construct that has been opened. -/
  leave {m : Nat} {s₀ s : σ} (h₀ : holds (m + 1) s₀) (h : holds m s) : holds (m + 1) (leave s)
  /-- A violation at a token that has been read. -/
  failed_read {m : Nat} {s : σ} (h : holds m s) {e : Expectation} (he : e ≠ .shallowerNesting) :
    broken m ⟨(next s).1, e⟩ (next s).2
  /-- A violation at the end of the source, which has been put back. -/
  failed_end {m : Nat} {s : σ} (h : holds m s) (hk : (next s).1.kind = .endOfSource)
    {e : Expectation} (he : e ≠ .shallowerNesting) :
    broken m ⟨(next s).1, e⟩ (rewind s (next s).2)
  /-- A violation behind a mark that would open a construct for which there is no room. -/
  failed_enter {s : σ} (h : holds 0 s) (ho : Opens (holds 0) 0 s) :
    broken 0 ⟨(next (next s).2).1, .shallowerNesting⟩ (rewind (next s).2 (next (next s).2).2)
  /-- Leaving a construct because of a violation. -/
  failed_leave {m : Nat} {v : Violation} {s₀ s : σ} (h₀ : holds (m + 1) s₀) (h : broken m v s) :
    broken (m + 1) v (TokenSource.leave s)

/-- What holds where a construct is opened may be weakened. -/
theorem Opens.mono {σ : Type} [TokenSource σ] {P Q : σ → Prop} {room : Nat} {s : σ}
    (h : Opens P room s) (hpq : ∀ s, P s → Q s) : Opens Q room s := by
  cases h with
  | mark hq h => exact .mark hq h
  | loop h₀ hw hp he h => exact .loop (hpq _ h₀) hw hp he h

namespace Invariant

variable {σ : Type} [TokenSource σ] (I : Invariant σ)

/-- What an invariant says of an outcome. -/
def After (m : Nat) : Outcome σ → Prop
  | .accepted s => I.holds m s
  | .rejected v s => I.broken m v s

/-- A run that keeps an invariant goes along with itself. -/
def coupling : Coupling σ σ 0 where
  related m s t := s = t ∧ I.holds m s
  failed m v w s t := v = w ∧ s = t ∧ I.broken m v s
  lost _ _ _ := False
  kind_eq h := by rw [h.1]
  second_eq h := by rw [h.1]
  read h _ hc := ⟨by rw [h.1], I.read h.2 hc⟩
  look h := ⟨by rw [h.1], I.look h.2⟩
  lookTwice h := ⟨by rw [h.1], I.lookTwice h.2⟩
  enter h ho := ⟨by rw [h.1], I.enter h.2 (ho.mono fun _ h₀ => h₀.choose_spec.2)⟩
  leave h₀ h := ⟨by rw [h.1], I.leave h₀.2 h.2⟩
  failed_read h _ he := ⟨by rw [h.1], by rw [h.1], I.failed_read h.2 he⟩
  failed_end h hk _ he := ⟨by rw [h.1], by rw [h.1], I.failed_end h.2 hk he⟩
  failed_enter _ h ho :=
    ⟨by rw [h.1], by rw [h.1], I.failed_enter h.2 (ho.mono fun _ h₀ => h₀.choose_spec.2)⟩
  failed_leave h₀ h := ⟨h.1, by rw [h.2.1], I.failed_leave h₀.2 h.2.2⟩
  lost_enter hx := nomatch hx
  lost_plan h := h.elim
  lost_repeat h := h.elim
  lost_leave h := h.elim

variable {I} {m : Nat} {s : σ}

/-- An invariant, taken as a coupling, holds of each outcome that corresponds to one. -/
theorem After.of_agree {o o' : Outcome σ} (h : I.coupling.Agree m o o') : I.After m o := by
  cases h with
  | accepted h => exact h.2
  | rejected h => exact h.2.2
  | lost h => exact h.elim

variable (I) in
/-- Every procedure keeps an invariant. -/
theorem after_routine (r : Routine) (h : I.holds m s) : I.After m ((r.procedure m).run s) :=
  .of_agree (I.coupling.respects_routine m r s s ⟨rfl, h⟩)

variable (I) in
/-- Whatever is built from the procedures keeps an invariant. -/
theorem after_plan {bound : Nat} {a : Bool} (p : Plan bound a) (h : I.holds m s) :
    I.After m ((p.procedure m).run s) :=
  .of_agree (Coupling.respects_plan (fun r k _ => I.coupling.respects_routine k r)
    (fun r _ => I.coupling.respects_routine m r) p s s ⟨rfl, h⟩)

end Invariant

/-- A source that remembers every state it has been in. -/
structure Traced (σ : Type) where
  /-- The state of the source. -/
  now : σ
  /-- All states up to this one, the first in front. -/
  visited : List σ

namespace Traced

variable {σ : Type}

/-- A source that has been in one state only. -/
def start (s : σ) : Traced σ :=
  ⟨s, [s]⟩

/-- Get into another state. -/
def move (s : Traced σ) (now : σ) : Traced σ :=
  ⟨now, s.visited ++ [now]⟩

@[simp] theorem now_move (s : Traced σ) (now : σ) : (s.move now).now = now := rfl

@[simp] theorem visited_move (s : Traced σ) (now : σ) :
    (s.move now).visited = s.visited ++ [now] := rfl

/-- Moving on keeps what has been visited. -/
theorem prefix_move {visited : List σ} {s : Traced σ} (h : visited <+: s.visited) (now : σ) :
    visited <+: (s.move now).visited :=
  h.trans (List.prefix_append ..)

variable [TokenSource σ]

instance : TokenSource (Traced σ) where
  next s := ((next s.now).1, s.move (next s.now).2)
  rewind saved s := s.move (rewind saved.now s.now)
  enter s := s.move (enter s.now)
  leave s := s.move (leave s.now)
  remaining s := remaining s.now
  remaining_next_le s := remaining_next_le s.now
  remaining_next_lt h := remaining_next_lt h
  remaining_rewind saved s := remaining_rewind saved.now s.now
  remaining_enter s := remaining_enter s.now
  remaining_leave s := remaining_leave s.now

/-- An outcome without the trace. -/
def forget : Outcome (Traced σ) → Outcome σ
  | .accepted s => .accepted s.now
  | .rejected v s => .rejected v s.now

/-- No procedure looks at the trace. -/
def simulation : Simulation (Traced σ) σ where
  related s t := s.now = t
  failed v w s t := v = w ∧ s.now = t
  kind_eq h := by rw [← h]; rfl
  second_eq h := by rw [← h]; rfl
  read h _ _ := by rw [← h]; rfl
  look h := by rw [← h]; rfl
  lookTwice h := by rw [← h]; rfl
  enter h := by rw [← h]; rfl
  leave h := by rw [← h]; rfl
  failed_read h _ := by rw [← h]; exact ⟨rfl, rfl⟩
  failed_look h _ := by rw [← h]; exact ⟨rfl, rfl⟩
  failed_leave h := by rw [← h.2]; exact ⟨h.1, rfl⟩

/-- Outcomes that agree are the same without the trace. -/
theorem forget_eq_of_agree {o : Outcome (Traced σ)} {o' : Outcome σ}
    (h : simulation.Agree o o') : forget o = o' := by
  cases h with
  | accepted h => exact congrArg Outcome.accepted h
  | rejected h =>
    obtain ⟨rfl, rfl⟩ := h
    rfl

/-- A procedure does the same whether it is traced or not. -/
theorem forget_run_routine (room : Nat) (r : Routine) (s : Traced σ) :
    forget ((r.procedure room).run s) = (r.procedure room).run s.now :=
  forget_eq_of_agree (simulation.respects_routine room r s s.now rfl)

/-- A plan does the same without the trace. -/
theorem forget_run_plan (room : Nat) {bound : Nat} {a : Bool} (p : Plan bound a) (s : Traced σ) :
    forget ((p.procedure room).run s) = (p.procedure room).run s.now :=
  forget_eq_of_agree (simulation.respects_plan room p s s.now rfl)

/-- What has been visited stays in front of the trace. -/
def growing (visited : List σ) : Invariant (Traced σ) where
  holds _ s := visited <+: s.visited
  broken _ _ s := visited <+: s.visited
  read h _ _ := prefix_move h _
  look h := prefix_move (prefix_move h _) _
  lookTwice h := prefix_move (prefix_move (prefix_move h _) _) _
  enter h _ := prefix_move (prefix_move h _) _
  leave _ h := prefix_move h _
  failed_read h _ _ := prefix_move h _
  failed_end h _ _ _ := prefix_move (prefix_move h _) _
  failed_enter h _ := prefix_move (prefix_move (prefix_move h _) _) _
  failed_leave _ h := prefix_move h _

end Traced

end Recognizer
