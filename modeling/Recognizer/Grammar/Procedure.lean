import Recognizer.Grammar.Terminal
import Recognizer.Grammar.TokenSource

/-!
# Recognizing procedures

A procedure reads tokens from a source until it accepts or meets a violation. It carries the
proof that it never gives back more than it was given and, if it is a consuming one, that it
accepts only after reading a token before the end. That is what makes repetition terminate:
every turn of a loop has less left than the turn before it.

The grammar is written with the combinators of this module: sequence, option, choice by
lookahead, repetition, and the opening of a nested construct.
-/

namespace Recognizer

open TokenSource

/-- What became of a procedure, and the state it left behind. -/
inductive Outcome (σ : Type) where
  /-- The procedure found what it looks for. -/
  | accepted (s : σ)
  /-- The procedure met a violation. -/
  | rejected (v : Violation) (s : σ)

namespace Outcome

variable {σ : Type}

/-- The state left behind. -/
def state : Outcome σ → σ
  | accepted s => s
  | rejected _ s => s

/-- The violation, if there is one. -/
def violation? : Outcome σ → Option Violation
  | accepted _ => none
  | rejected v _ => some v

/-- Go on after acceptance; a violation stands. -/
def bind (o : Outcome σ) (f : σ → Outcome σ) : Outcome σ :=
  match o with
  | accepted s => f s
  | rejected v s => rejected v s

/-- Change the state left behind. -/
def mapState (f : σ → σ) : Outcome σ → Outcome σ
  | accepted s => accepted (f s)
  | rejected v s => rejected v (f s)

/-- Two steps accept if and only if the first accepts and the second accepts what it leaves. -/
theorem bind_eq_accepted_iff {o : Outcome σ} {f : σ → Outcome σ} {s : σ} :
    o.bind f = accepted s ↔ ∃ s', o = accepted s' ∧ f s' = accepted s := by
  cases o <;> simp [bind]

end Outcome

/-- A procedure over the states `σ`; a consuming one accepts only after reading a token. -/
structure Procedure (σ : Type) [TokenSource σ] (consuming : Bool) where
  /-- Run the procedure from a state. -/
  run : σ → Outcome σ
  /-- Acceptance leaves no more than there was, and less if the procedure is consuming. -/
  progress {s s' : σ} : run s = .accepted s' → remaining s' + consuming.toNat ≤ remaining s

namespace Procedure

variable {σ : Type} [TokenSource σ] {a b : Bool}

/-- Accept without reading. -/
def done : Procedure σ false where
  run s := .accepted s
  progress h := by
    cases h
    exact Nat.le_refl _

/-- Reject at the next token without reading past it. -/
def rejectNext (e : Expectation) : Procedure σ a where
  run s :=
    let step := next s
    .rejected ⟨step.1, e⟩ (rewind s step.2)
  progress h := nomatch h

/-- Read one token of a class; any other token is read, too, and is a violation. -/
def expect (t : Terminal) (e : Expectation) : Procedure σ true where
  run s :=
    let step := next s
    if t.covers step.1.kind then .accepted step.2 else .rejected ⟨step.1, e⟩ step.2
  progress {s s'} h := by
    dsimp only at h
    split at h
    · next hc =>
      cases h
      exact remaining_next_lt (Terminal.ne_endOfSource_of_covers hc)
    · cases h

/-- If the next token is of a class, read it and go on with `yes`; otherwise put it back and
go on with `no`. -/
def ifNext (t : Terminal) (yes : Procedure σ a) (no : Procedure σ b) : Procedure σ b where
  run s :=
    let step := next s
    if t.covers step.1.kind then yes.run step.2 else no.run (rewind s step.2)
  progress {s s'} h := by
    dsimp only at h
    split at h
    · next hc =>
      have h1 := remaining_next_lt (Terminal.ne_endOfSource_of_covers hc)
      have h2 := yes.progress h
      have h3 := b.toNat_le
      omega
    · have h1 := no.progress h
      rwa [remaining_rewind] at h1

/-- Read the next token if it is of a class. -/
def optional (t : Terminal) : Procedure σ false :=
  ifNext t done done

/-- One procedure after the other. -/
def andThen (p : Procedure σ a) (q : Procedure σ b) : Procedure σ (a || b) where
  run s := (p.run s).bind q.run
  progress {s s'} h := by
    obtain ⟨s₁, h1, h2⟩ := Outcome.bind_eq_accepted_iff.1 h
    have h1 := p.progress h1
    have h2 := q.progress h2
    cases a <;> cases b <;> simp only [Bool.toNat_true, Bool.toNat_false, Bool.or_true,
      Bool.or_false] at h1 h2 ⊢ <;> omega

/-- Forget that a procedure is consuming. -/
def weaken (p : Procedure σ a) : Procedure σ false where
  run := p.run
  progress {s s'} h := by
    have h1 := p.progress h
    rw [Bool.toNat_false]
    omega

/-- Let the kind of the next token, which is put back, decide how to go on. -/
def peek (f : TokenKind → Procedure σ a) : Procedure σ a where
  run s :=
    let step := next s
    (f step.1.kind).run (rewind s step.2)
  progress {s s'} h := by
    have h1 := (f (next s).1.kind).progress h
    rwa [remaining_rewind] at h1

/-- Build a procedure only when it is run. -/
def delay (p : Unit → Procedure σ a) : Procedure σ a where
  run s := (p ()).run s
  progress h := (p ()).progress h

/-- Run a procedure inside a nested construct, which is left in any case. -/
def nested (p : Procedure σ a) : Procedure σ a where
  run s := (p.run (enter s)).mapState leave
  progress {s s'} h := by
    cases hp : p.run (enter s) with
    | accepted s₁ =>
      rw [hp] at h
      cases h
      have h1 := p.progress hp
      rwa [remaining_enter, ← remaining_leave s₁] at h1
    | rejected v s₁ =>
      rw [hp] at h
      cases h

/-- What one turn of a loop leads to. -/
inductive Turn (σ : Type) where
  /-- The loop takes another turn. -/
  | again (s : σ)
  /-- The loop ends. -/
  | stop (o : Outcome σ)

/-- A turn from a state with `n` left takes the loop on with less, or ends it with no more. -/
def Turn.Within (n : Nat) : Turn σ → Prop
  | again s => remaining s < n
  | stop (.accepted s) => remaining s ≤ n
  | stop (.rejected _ _) => True

/-- Take turns until one ends the loop. -/
def iterate (turn : σ → Turn σ) (h : ∀ s, (turn s).Within (remaining s)) (s : σ) : Outcome σ :=
  match ht : turn s with
  | .again s' =>
    have : remaining s' < remaining s := by
      have hw := h s
      rwa [ht] at hw
    iterate turn h s'
  | .stop o => o
  termination_by remaining s

/-- A loop goes on from where a turn has left it. -/
theorem iterate_of_again {turn : σ → Turn σ} (h : ∀ s, (turn s).Within (remaining s)) {s s' : σ}
    (ht : turn s = .again s') : iterate turn h s = iterate turn h s' := by
  rw [iterate]
  split
  · next ht' =>
    rw [ht] at ht'
    cases ht'
    rfl
  · next ht' =>
    rw [ht] at ht'
    cases ht'

/-- A loop ends as its last turn says. -/
theorem iterate_of_stop {turn : σ → Turn σ} (h : ∀ s, (turn s).Within (remaining s)) {s : σ}
    {o : Outcome σ} (ht : turn s = .stop o) : iterate turn h s = o := by
  rw [iterate]
  split
  · next ht' =>
    rw [ht] at ht'
    cases ht'
  · next ht' =>
    rw [ht] at ht'
    cases ht'
    rfl

/-- A loop that accepts has no more left than when it began. -/
theorem remaining_iterate_le {turn : σ → Turn σ} (h : ∀ s, (turn s).Within (remaining s))
    {s s' : σ} (hs : iterate turn h s = .accepted s') : remaining s' ≤ remaining s := by
  fun_induction iterate turn h s with
  | case1 s s₁ ht hlt ih =>
    have := ih hs
    omega
  | case2 s o ht =>
    have hw := h s
    rw [ht, hs] at hw
    exact hw

/-- Repeat a turn. -/
def loop (turn : σ → Turn σ) (h : ∀ s, (turn s).Within (remaining s)) : Procedure σ false where
  run := iterate turn h
  progress := remaining_iterate_le h

/-- One turn with an item: the loop goes on after the item, and ends at its violation. -/
def Turn.ofItem : Outcome σ → Turn σ
  | .accepted s => .again s
  | .rejected v s => .stop (.rejected v s)

/-- A turn with an item is within what the item leaves. -/
theorem Turn.ofItem_within {n : Nat} {o : Outcome σ}
    (h : ∀ s, o = .accepted s → remaining s < n) : (Turn.ofItem o).Within n := by
  cases o with
  | accepted s => exact h s rfl
  | rejected v s => trivial

/-- A loop whose first turn is with an item goes on after the item. -/
theorem iterate_of_item {turn : σ → Turn σ} (h : ∀ s, (turn s).Within (remaining s)) {s : σ}
    {o : Outcome σ} (ht : turn s = Turn.ofItem o) : iterate turn h s = o.bind (iterate turn h) := by
  cases o with
  | accepted s' => exact iterate_of_again h ht
  | rejected v s' => exact iterate_of_stop h ht

/-- As long as the next token is of a class, read it and then an item. -/
def repeatAfter (t : Terminal) (item : Procedure σ a) : Procedure σ false :=
  loop
    (fun s =>
      let step := next s
      if t.covers step.1.kind then .ofItem (item.run step.2)
      else .stop (.accepted (rewind s step.2)))
    (fun s => by
      dsimp only
      split
      · next hc =>
        have h1 := remaining_next_lt (Terminal.ne_endOfSource_of_covers hc)
        refine Turn.ofItem_within fun s' hs => ?_
        have h2 := item.progress hs
        omega
      · exact Nat.le_of_eq (remaining_rewind ..))

end Procedure

end Recognizer
