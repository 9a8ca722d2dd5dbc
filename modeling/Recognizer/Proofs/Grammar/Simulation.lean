import Recognizer.Proofs.Grammar.Coupling

/-!
# Procedures do not look behind a source of tokens

A procedure reaches its source only by reading a token, by reading one or two and putting them
back, and by entering and leaving a construct. A relation between the states of two sources
that survives these is therefore kept by every procedure of the grammar: from related states
the same procedure comes to the same end on both sides, with violations that correspond if there
are any. The tokens on the two sides need to be of the same kind only. Only tokens that the
grammar knows are read for good. Such a relation is a coupling of two runs with the same room.
-/

namespace Recognizer

open TokenSource Procedure

/-- A relation between the states of two sources that a procedure cannot tell apart. -/
structure Simulation (σ τ : Type) [TokenSource σ] [TokenSource τ] where
  /-- The states between two steps of a procedure. -/
  related : σ → τ → Prop
  /-- Violations that correspond and the states that they leave behind. -/
  failed : Violation → Violation → σ → τ → Prop
  /-- Both sides read a token of the same kind. -/
  kind_eq {s : σ} {t : τ} (h : related s t) : (next s).1.kind = (next t).1.kind
  /-- Both sides read a token of the same kind after that. -/
  second_eq {s : σ} {t : τ} (h : related s t) :
    (next (next s).2).1.kind = (next (next t).2).1.kind
  /-- Reading a token that some class of the grammar covers. -/
  read {s : σ} {t : τ} (h : related s t) {c : Terminal} (hc : c.covers (next s).1.kind = true) :
    related (next s).2 (next t).2
  /-- Looking at a token and putting it back. -/
  look {s : σ} {t : τ} (h : related s t) :
    related (rewind s (next s).2) (rewind t (next t).2)
  /-- Looking at two tokens and putting them back. -/
  lookTwice {s : σ} {t : τ} (h : related s t) :
    related (rewind s (next (next s).2).2) (rewind t (next (next t).2).2)
  /-- Entering a construct. -/
  enter {s : σ} {t : τ} (h : related s t) : related (enter s) (enter t)
  /-- Leaving a construct. -/
  leave {s : σ} {t : τ} (h : related s t) : related (leave s) (leave t)
  /-- A violation at a token that has been read. -/
  failed_read {s : σ} {t : τ} (h : related s t) (e : Expectation) :
    failed ⟨(next s).1, e⟩ ⟨(next t).1, e⟩ (next s).2 (next t).2
  /-- A violation at a token that has been put back. -/
  failed_look {s : σ} {t : τ} (h : related s t) (e : Expectation) :
    failed ⟨(next s).1, e⟩ ⟨(next t).1, e⟩ (rewind s (next s).2) (rewind t (next t).2)
  /-- Leaving a construct because of a violation. -/
  failed_leave {v w : Violation} {s : σ} {t : τ} (h : failed v w s t) :
    failed v w (TokenSource.leave s) (TokenSource.leave t)

namespace Simulation

variable {σ τ : Type} [TokenSource σ] [TokenSource τ] (S : Simulation σ τ)

/-- Two outcomes are the same but for the source. -/
inductive Agree : Outcome σ → Outcome τ → Prop where
  /-- Both accept. -/
  | accepted {s : σ} {t : τ} (h : S.related s t) : Agree (.accepted s) (.accepted t)
  /-- Both reject with violations that correspond. -/
  | rejected {v w : Violation} {s : σ} {t : τ} (h : S.failed v w s t) :
    Agree (.rejected v s) (.rejected w t)

/-- Two turns of a loop are the same but for the source. -/
inductive TurnAgree : Turn σ → Turn τ → Prop where
  /-- Both loops go on. -/
  | again {s : σ} {t : τ} (h : S.related s t) : TurnAgree (.again s) (.again t)
  /-- Both loops end. -/
  | stop {o : Outcome σ} {o' : Outcome τ} (h : S.Agree o o') : TurnAgree (.stop o) (.stop o')

/-- Two procedures do the same on related states. -/
def Respects {a : Bool} (p : Procedure σ a) (q : Procedure τ a) : Prop :=
  ∀ (s : σ) (t : τ), S.related s t → S.Agree (p.run s) (q.run t)

/-- Wherever there is the same room on both sides, a simulation is a coupling. -/
def coupling : Coupling σ τ 0 where
  related _ := S.related
  failed _ := S.failed
  lost _ _ _ := False
  kind_eq := S.kind_eq
  second_eq := S.second_eq
  read := S.read
  look := S.look
  lookTwice := S.lookTwice
  enter h ho := by
    obtain ⟨q, hc⟩ := ho.exists_covers
    exact S.enter (S.read h hc)
  leave _ := S.leave
  failed_read h _ _ := S.failed_read h _
  failed_end h _ _ _ := S.failed_look h _
  failed_enter _ h ho := by
    obtain ⟨q, hc⟩ := ho.exists_covers
    exact S.failed_look (S.read h hc) _
  failed_leave _ := S.failed_leave
  lost_enter hx := nomatch hx
  lost_plan h := h.elim
  lost_repeat h := h.elim
  lost_leave h := h.elim

variable {S} {m : Nat} {s : σ} {t : τ}

/-- As a coupling without extra room, a simulation relates the same outcomes. -/
theorem agree_iff {o : Outcome σ} {o' : Outcome τ} : S.coupling.Agree m o o' ↔ S.Agree o o' := by
  constructor
  · intro h
    cases h with
    | accepted h => exact .accepted h
    | rejected h => exact .rejected h
    | lost h => exact h.elim
  · intro h
    cases h with
    | accepted h => exact .accepted h
    | rejected h => exact .rejected h

/-- It relates the same turns. -/
theorem turnAgree_iff {u : Turn σ} {u' : Turn τ} :
    S.coupling.TurnAgree m u u' ↔ S.TurnAgree u u' := by
  constructor
  · intro h
    cases h with
    | again h => exact .again h
    | stop h => exact .stop (agree_iff.1 h)
    | lost h => exact h.elim
  · intro h
    cases h with
    | again h => exact .again h
    | stop h => exact .stop (agree_iff.2 h)

/-- Two outcomes that agree have violations that correspond, or none. -/
theorem Agree.violation?_rel {o : Outcome σ} {o' : Outcome τ} (h : S.Agree o o') :
    Option.Rel (fun v w => S.failed v w o.state o'.state) o.violation? o'.violation? := by
  cases h with
  | accepted h => exact .none
  | rejected h => exact .some h

/-- Loops whose first turns are the same, and whose turns are the same on related states, come to
the same end. -/
theorem TurnAgree.iterate {turn : σ → Turn σ} {turn' : τ → Turn τ}
    {hw : ∀ s, (turn s).Within (remaining s)} {hw' : ∀ t, (turn' t).Within (remaining t)}
    (ht : ∀ s t, S.related s t → S.TurnAgree (turn s) (turn' t))
    (h : S.TurnAgree (turn s) (turn' t)) :
    S.Agree (Procedure.iterate turn hw s) (Procedure.iterate turn' hw' t) :=
  agree_iff.1 (Coupling.TurnAgree.iterate (C := S.coupling) (m := 0)
    (fun s t h => turnAgree_iff.2 (ht s t h)) (fun _ _ _ hl => hl) (turnAgree_iff.2 h))

/-! ### The grammar -/

open Grammar

variable (S) in
/-- Every procedure does the same on related states. -/
theorem respects_routine (room : Nat) (r : Routine) :
    S.Respects (r.procedure room) (r.procedure room) := by
  intro s t h
  have ha := S.coupling.respects_routine room r s t h
  rw [Nat.zero_add] at ha
  exact agree_iff.1 ha

variable (S) in
/-- Whatever is built from the procedures does the same on related states. -/
theorem respects_plan (room : Nat) {bound : Nat} {a : Bool} (p : Plan bound a) :
    S.Respects (p.procedure room) (p.procedure room) := by
  intro s t h
  have hr := Coupling.respects_plan (fun r k _ => S.coupling.respects_routine k r)
    (fun r _ => S.coupling.respects_routine room r) p
  have ha := hr s t h
  rw [Nat.zero_add] at ha
  exact agree_iff.1 ha

/-- A turn through a program looks at two tokens before it does anything else. -/
theorem turnAgree_program_of_look (room : Nat)
    (hk : (next s).1.kind = (next t).1.kind)
    (hk' : (next (next s).2).1.kind = (next (next t).2).1.kind)
    (hl : (next s).1.kind = .endOfSource →
      S.related (rewind s (next s).2) (rewind t (next t).2))
    (hl' : (next s).1.kind ≠ .endOfSource →
      S.related (rewind s (next (next s).2).2) (rewind t (next (next t).2).2)) :
    S.TurnAgree (programTurn (mainFunction room) (declaration room) s)
      (programTurn (mainFunction room) (declaration room) t) := by
  have hm : S.coupling.Respects room (mainFunction room) (mainFunction room) :=
    fun s t h => agree_iff.2 (S.respects_routine room .mainFunction s t h)
  have hd : S.coupling.Respects room (declaration room) (declaration room) :=
    fun s t h => agree_iff.2 (S.respects_routine room .declaration s t h)
  exact turnAgree_iff.1 (Coupling.turnAgree_program hm hd hk hk' hl hl')

/-- A turn through a program agrees with itself. -/
theorem turnAgree_program (room : Nat) (h : S.related s t) :
    S.TurnAgree (programTurn (mainFunction room) (declaration room) s)
      (programTurn (mainFunction room) (declaration room) t) :=
  turnAgree_program_of_look room (S.kind_eq h) (S.second_eq h) (fun _ => S.look h)
    fun _ => S.lookTwice h

/-- From related states a program is accepted on both sides or rejected on both sides with
violations that correspond. -/
theorem respects_program (room : Nat) : S.Respects (program (σ := σ) room) (program room) :=
  S.respects_routine room .program

end Simulation

end Recognizer
