import Mathlib.Logic.Relation
import Mathlib.Order.WellFounded
import Recognizer.Proofs.Check.Pending

/-!
# Progress of the parser

In the course of a run procedures call procedures, and loops take turns. A call either leads to a
procedure of a lower rank or comes after a token, and a turn that is followed by another one has
read a token. So whatever goes round, in calls or in turns, goes forward in the text; and since
there are only so many tokens, every procedure comes to an end.
-/

namespace Recognizer

open TokenSource

/-! ### Calls and turns -/

/-- A procedure that has been called: with so much room, in this state. -/
structure Frame (σ : Type) where
  /-- How many constructs the procedure may open inside one another. -/
  room : Nat
  /-- The procedure. -/
  routine : Routine
  /-- Where it begins. -/
  state : σ

/-- The turns of a loop lead from one state to another. -/
def Turns {σ : Type} (turn : σ → Procedure.Turn σ) : σ → σ → Prop :=
  Relation.ReflTransGen fun s s' => turn s = .again s'

section

variable {σ : Type} [TokenSource σ] {bound : Nat} {a : Bool}

/-- One turn of a loop over items, each behind a token of a class. -/
def repeatTurn (t : Terminal) (item : Procedure σ a) (s : σ) : Procedure.Turn σ :=
  if t.covers (next s).1.kind then .ofItem (item.run (next s).2)
  else .stop (.accepted (rewind s (next s).2))

/-- What is called inside a construct: the procedure, if there is room. -/
def Routine.CallsInside (r : Routine) : Nat → σ → Frame σ → Prop
  | 0, _, _ => False
  | room + 1, s, f => f = ⟨room, r, enter s⟩

/-- What is called in the course of a plan. -/
def Plan.Calls (room : Nat) {a : Bool} : Plan bound a → σ → Frame σ → Prop
  | done, _, _ => False
  | expect _ _ _, _, _ => False
  | ifNext t yes no, s, f =>
    (t.covers (next s).1.kind = true ∧ yes.Calls room (next s).2 f) ∨
      (t.covers (next s).1.kind = false ∧ no.Calls room (rewind s (next s).2) f)
  | andThen p q, s, f =>
    p.Calls room s f ∨ ∃ s', (p.procedure room).run s = .accepted s' ∧ q.Calls room s' f
  | weaken p, s, f => p.Calls room s f
  | peek g, s, f => (g (next s).1.kind).Calls room (rewind s (next s).2) f
  | call r _, s, f => f = ⟨room, r, s⟩
  | opening q _ r, s, f => (next s).1.kind = .punctuation q ∧ r.CallsInside room (next s).2 f
  | ifOpening q _ r after, s, f =>
    (next s).1.kind = .punctuation q ∧ (r.CallsInside room (next s).2 f ∨
      ∃ s', (r.inside room).run (next s).2 = .accepted s' ∧ after.Calls room s' f)
  | loop _, s, f =>
    (next s).1.kind = .keyword .whileWord ∧
      (next (next s).2).1.kind = .punctuation .openParen ∧
      (f = ⟨room, .expression, (next (next s).2).2⟩ ∨
        ∃ s', (Grammar.expression room).run (next (next s).2).2 = .accepted s' ∧
          (next s').1.kind = .punctuation .closeParen ∧
          Routine.CallsInside .statement room (next s').2 f)
  | repeatAfter t item, s, f =>
    ∃ s', Turns (repeatTurn t (item.procedure room)) s s' ∧ t.covers (next s').1.kind = true ∧
      item.Calls room (next s').2 f
  | members member, s, f =>
    ∃ s', Turns (Grammar.memberTurn (member.procedure room)) s s' ∧
      (next s').1.kind ≠ .punctuation .closeBrace ∧ (next s').1.kind ≠ .endOfSource ∧
      member.Calls room (rewind s' (next s').2) f
  | items declaration statement, s, f =>
    ∃ s', Turns (Grammar.itemTurn (declaration.procedure room) (statement.procedure room)) s s' ∧
      (next s').1.kind ≠ .punctuation .closeBrace ∧ (next s').1.kind ≠ .endOfSource ∧
      if Grammar.beginsDeclaration (next s').1.kind (next (next s').2).1.kind then
        declaration.Calls room (rewind s' (next (next s').2).2) f
      else statement.Calls room (rewind s' (next (next s').2).2) f
  | program main declaration, s, f =>
    ∃ s', Turns (Grammar.programTurn (main.procedure room) (declaration.procedure room)) s s' ∧
      (next s').1.kind ≠ .endOfSource ∧
      if (next (next s').2).1.kind = .keyword .mainWord then
        main.Calls room (rewind s' (next (next s').2).2) f
      else declaration.Calls room (rewind s' (next (next s').2).2) f

/-- One procedure calls another in the course of a run. -/
def Frame.Calls (f g : Frame σ) : Prop :=
  f.routine.body.Calls f.room f.state g

/-- The loops of the grammar. -/
inductive Loop where
  /-- Over the declarations and main functions of a program. -/
  | program
  /-- Over the declarators of a declaration. -/
  | declarators
  /-- Over the members of a class. -/
  | members
  /-- Over the items of a block. -/
  | items
  /-- Over the operands of the operators of one level; the tighter levels are those of an
  operand. -/
  | operators (level : Operator.Category) (tighter : List Operator.Category)
  /-- Over the parts of a left value. -/
  | parts

open Grammar in
/-- One turn of a loop. -/
def Loop.turn (room : Nat) : Loop → σ → Procedure.Turn σ
  | program => programTurn (mainFunction room) (declaration room)
  | declarators => repeatTurn (.punctuation .comma) (declarator room)
  | members => memberTurn (declaration room)
  | items => itemTurn (declaration room) (statement room)
  | operators level tighter => repeatTurn (.operatorOf level) (cascade (bracketed room) tighter)
  | parts => repeatTurn (.punctuation .dot) (identifier.andThen (Grammar.index (bracketed room)))

/-- A turn of a repetition that goes on has passed a token. -/
theorem repeatTurn_within (t : Terminal) (item : Procedure σ a) (s : σ) :
    (repeatTurn t item s).Within (remaining s) := by
  unfold repeatTurn
  split
  · next hc =>
    have hlt := remaining_next_lt (Terminal.ne_endOfSource_of_covers hc)
    refine Procedure.Turn.ofItem_within fun s' hs => ?_
    have hle := item.progress hs
    omega
  · exact Nat.le_of_eq (remaining_rewind ..)

/-- A turn of any loop of the grammar that goes on has passed a token. -/
theorem Loop.turn_within (room : Nat) (l : Loop) (s : σ) :
    (l.turn room s).Within (remaining s) := by
  cases l with
  | program => exact Grammar.programTurn_within _ _ s
  | members => exact Grammar.memberTurn_within _ s
  | items => exact Grammar.itemTurn_within _ _ s
  | _ => exact repeatTurn_within _ _ s

/-- Take turns until one ends the loop. -/
def Loop.procedure (room : Nat) (l : Loop) : Procedure σ false :=
  .loop (l.turn room) (l.turn_within room)

open Grammar in
/-- Where the loops are in the grammar. -/
theorem grammar_loops (room : Nat) :
    program (σ := σ) room = Loop.program.procedure room ∧
    declaratorList (σ := σ) room = (.peek fun kind =>
      if kind = .punctuation .semicolon then .done
      else .weaken ((declarator room).andThen (Loop.declarators.procedure room))) ∧
    classBody (σ := σ) (room + 1) = .nested (Loop.members.procedure room) ∧
    blockBody (σ := σ) (room + 1) = .nested (Loop.items.procedure room) ∧
    (∀ level tighter, cascade (σ := σ) (bracketed room) (level :: tighter) =
      (cascade (bracketed room) tighter).andThen ((Loop.operators level tighter).procedure room)) ∧
    leftValue (σ := σ) room =
      (identifier.andThen (Grammar.index (bracketed room))).andThen (Loop.parts.procedure room) :=
  ⟨rfl, rfl, rfl, rfl, fun _ _ => rfl, rfl⟩

end

/-! ### Forward -/

namespace Parser

variable {text : List Char} {cap : Nat} {p p' p'' : Parser text cap} {w : List Token} {a : Bool}

/-- Where a parser begins only its cursor matters. -/
theorem Passes.of_cursor_eq (h : p.Passes w p') (hc : p''.lexer.cursor = p.lexer.cursor) :
    p''.Passes w p' := by
  have ho : p''.offset = p.offset := by rw [offset, offset, hc]
  refine ⟨?_, h.solid, ?_, ?_⟩
  · rw [pending_eq_of_cursor_eq hc]
    exact h.pending_eq
  · rw [ho]
    exact h.offset_le
  · rw [ho]
    exact h.inText

/-- Reading a token other than the end passes that token. -/
theorem passes_next (hk : (next p).1.kind ≠ .endOfSource) : p.Passes [(next p).1] (next p).2 :=
  (Passes.refl p).next hk

/-- A procedure that accepts passes some tokens, one at least if it is consuming, and leaves as many
constructs open as there were. -/
def Forward (q : Procedure (Parser text cap) a) : Prop :=
  ∀ p p', q.run p = .accepted p' →
    ∃ w, p.Passes w p' ∧ a.toNat ≤ w.length ∧ p'.depth = p.depth

/-- A turn that is followed by another one passes a token. -/
def ForwardTurn (turn : Parser text cap → Procedure.Turn (Parser text cap)) : Prop :=
  ∀ p p', turn p = .again p' → ∃ w, p.Passes w p' ∧ w ≠ [] ∧ p'.depth = p.depth

/-- Every plan goes forward. That a consuming one has passed a token is seen on the tape, from which
a token that was read is gone. -/
theorem forward_plan {bound : Nat} (q : Plan bound a) (room : Nat) :
    Forward (q.procedure room : Procedure (Parser text cap) a) := by
  intro p p' h
  have hafter := (p.advancing (p.depth + room)).after_plan q (p.advanced_refl room)
  have hagree := (tapeSimulation text cap).respects_plan room q p p.tape rfl
  rw [h] at hafter hagree
  obtain ⟨hd, w, hw, -⟩ := hafter
  refine ⟨w, hw, ?_, by omega⟩
  generalize ho : (q.procedure room).run p.tape = o at hagree
  cases hagree with
  | accepted ht =>
    have hprogress := (q.procedure room).progress ho
    have hlength := hw.length_pending
    rw [ht] at hprogress
    change p'.pending.length + a.toNat ≤ p.pending.length at hprogress
    omega

/-- Every procedure of the grammar goes forward. -/
theorem forward_routine (r : Routine) (room : Nat) :
    Forward (r.procedure room : Procedure (Parser text cap) r.consuming) := by
  rw [r.procedure_eq]
  exact forward_plan r.body room

/-- So does every procedure inside a nested construct. -/
theorem forward_inside (r : Routine) (room : Nat) :
    Forward (r.inside room : Procedure (Parser text cap) r.consuming) := by
  intro p p' h
  cases room with
  | zero => cases h
  | succ room =>
    change ((r.procedure room).run (enter p)).mapState leave = .accepted p' at h
    cases ho : (r.procedure room).run (enter p) with
    | rejected v q =>
      rw [ho] at h
      cases h
    | accepted q =>
      rw [ho] at h
      cases h
      obtain ⟨w, hw, hlength, hd⟩ := forward_routine r room _ _ ho
      have hq : p.Passes w q := hw.of_cursor_eq rfl
      refine ⟨w, hq.congr rfl, hlength, ?_⟩
      rw [depth_leave, hd, depth_enter, Nat.add_sub_cancel]

/-- A turn with an item goes as far as the item. -/
theorem eq_accepted_of_ofItem {o : Outcome (Parser text cap)}
    (h : Procedure.Turn.ofItem o = .again p) : o = .accepted p := by
  cases o with
  | accepted q =>
    cases h
    rfl
  | rejected v q => cases h

/-- A turn of a repetition passes the token in front of its item. -/
theorem forwardTurn_repeat (t : Terminal) {item : Procedure (Parser text cap) a}
    (hi : Forward item) : ForwardTurn (repeatTurn t item) := by
  intro p p' h
  unfold repeatTurn at h
  split at h
  · next hc =>
    obtain ⟨w, hw, -, hd⟩ := hi _ _ (eq_accepted_of_ofItem h)
    have hk := Terminal.ne_endOfSource_of_covers hc
    exact ⟨_, (passes_next hk).trans hw, List.cons_ne_nil _ _, hd⟩
  · cases h

/-- An item that was looked at before begins where the loop stands. -/
theorem Forward.of_rewind {item : Procedure (Parser text cap) true} (hi : Forward item)
    {saved now : Parser text cap}
    (h : Procedure.Turn.ofItem (item.run (rewind saved now)) = .again p')
    (hnow : now.depth = saved.depth) :
    ∃ w, saved.Passes w p' ∧ w ≠ [] ∧ p'.depth = saved.depth := by
  obtain ⟨w, hw, hlength, hd⟩ := hi _ _ (eq_accepted_of_ofItem h)
  exact ⟨w, hw.of_cursor_eq rfl, List.length_pos_iff.1 hlength, hd.trans hnow⟩

/-- A turn through a class passes the tokens of a member. -/
theorem forwardTurn_member {member : Procedure (Parser text cap) true} (hm : Forward member) :
    ForwardTurn (Grammar.memberTurn member) := by
  intro p p' h
  unfold Grammar.memberTurn at h
  dsimp only at h
  split at h
  · cases h
  · split at h
    · cases h
    · exact hm.of_rewind h rfl

/-- A turn through a block passes the tokens of an item. -/
theorem forwardTurn_item {declaration statement : Procedure (Parser text cap) true}
    (hd : Forward declaration) (hs : Forward statement) :
    ForwardTurn (Grammar.itemTurn declaration statement) := by
  intro p p' h
  unfold Grammar.itemTurn at h
  dsimp only at h
  split at h
  · cases h
  · split at h
    · cases h
    · split at h
      · exact hd.of_rewind h rfl
      · exact hs.of_rewind h rfl

/-- A turn through a program passes the tokens of a main function or of a declaration. -/
theorem forwardTurn_program {main declaration : Procedure (Parser text cap) true}
    (hm : Forward main) (hd : Forward declaration) :
    ForwardTurn (Grammar.programTurn main declaration) := by
  intro p p' h
  unfold Grammar.programTurn at h
  dsimp only at h
  split at h
  · cases h
  · split at h
    · exact hm.of_rewind h rfl
    · exact hd.of_rewind h rfl

/-- A turn of any loop of the grammar passes a token before the next one. -/
theorem forwardTurn_loop (l : Loop) (room : Nat) :
    ForwardTurn (l.turn room : Parser text cap → Procedure.Turn (Parser text cap)) := by
  cases l with
  | program =>
    exact forwardTurn_program (forward_routine .mainFunction room) (forward_routine .declaration room)
  | declarators => exact forwardTurn_repeat _ (forward_routine .declarator room)
  | members => exact forwardTurn_member (forward_routine .declaration room)
  | items =>
    exact forwardTurn_item (forward_routine .declaration room) (forward_routine .statement room)
  | operators level tighter => exact forwardTurn_repeat _ (forward_routine (.level tighter) room)
  | parts => exact forwardTurn_repeat _ (forward_plan (Plan.part (Nat.zero_lt_succ 0)) room)

/-- Turns that are followed by others go forward. -/
theorem passes_of_turns {turn : Parser text cap → Procedure.Turn (Parser text cap)}
    (ht : ForwardTurn turn) (h : Turns turn p p') : ∃ w, p.Passes w p' := by
  induction h with
  | refl => exact ⟨[], .refl p⟩
  | tail _ hturn ih =>
    obtain ⟨v, hv⟩ := ih
    obtain ⟨w, hw, -⟩ := ht _ _ hturn
    exact ⟨_, hv.trans hw⟩

/-! ### Calls -/

/-- A call is of a procedure of a low rank, or comes after a token. -/
def Reaches (bound : Nat) (p : Parser text cap) (f : Frame (Parser text cap)) : Prop :=
  ∃ w, p.Passes w f.state ∧ (w = [] → f.routine.rank < bound)

variable {bound : Nat} {f : Frame (Parser text cap)}

/-- A call that is reached behind some tokens is reached from in front of them. -/
theorem Reaches.after (h : Reaches bound p' f) (hp : p.Passes w p') : Reaches bound p f := by
  obtain ⟨v, hv, hrank⟩ := h
  refine ⟨w ++ v, hp.trans hv, fun hnil => hrank ?_⟩
  exact (List.append_eq_nil_iff.1 hnil).2

/-- For what is reached only the place of the parser counts. -/
theorem Reaches.of_cursor_eq (h : Reaches bound p' f) (hc : p'.lexer.cursor = p.lexer.cursor) :
    Reaches bound p f :=
  h.after ((Passes.refl p).congr hc)

/-- Inside a construct the mark that opens it has been read. -/
theorem reaches_of_callsInside {r : Routine} {room : Nat} (hk : (next p).1.kind ≠ .endOfSource)
    (h : r.CallsInside room (next p).2 f) : Reaches bound p f := by
  cases room with
  | zero => exact h.elim
  | succ room =>
    obtain rfl : f = ⟨room, r, enter (next p).2⟩ := h
    exact ⟨_, (passes_next hk).congr rfl, fun hnil => absurd hnil (List.cons_ne_nil _ _)⟩

/-- Whatever a plan calls is of a low rank or comes after a token. -/
theorem reaches_of_calls {room : Nat} (q : Plan bound a) (h : q.Calls room p f) :
    Reaches bound p f := by
  induction q generalizing p with
  | done => exact h.elim
  | expect t e he => exact h.elim
  | ifNext t yes no ihy ihn =>
    rcases h with ⟨hc, h⟩ | ⟨-, h⟩
    · exact (ihy h).after (passes_next (Terminal.ne_endOfSource_of_covers hc))
    · exact (ihn h).of_cursor_eq rfl
  | andThen q r ihq ihr =>
    rcases h with h | ⟨p', ho, h⟩
    · exact ihq h
    · obtain ⟨w, hw, -⟩ := forward_plan q room _ _ ho
      exact (ihr h).after hw
  | weaken q ih => exact ih h
  | peek g ih => exact (ih _ h).of_cursor_eq rfl
  | call r hr =>
    obtain rfl : f = ⟨room, r, p⟩ := h
    exact ⟨[], .refl p, fun _ => hr⟩
  | opening q hq r =>
    obtain ⟨hk, h⟩ := h
    exact reaches_of_callsInside (by rw [hk]; nofun) h
  | ifOpening q hq r after ih =>
    obtain ⟨hk, h⟩ := h
    have hne : (next p).1.kind ≠ .endOfSource := by rw [hk]; nofun
    rcases h with h | ⟨p', ho, h⟩
    · exact reaches_of_callsInside hne h
    · obtain ⟨w, hw, -⟩ := forward_inside r room _ _ ho
      exact (ih h).after ((passes_next hne).trans hw)
  | loop hr =>
    obtain ⟨hw, hq, h⟩ := h
    have hcondition : p.Passes [(next p).1, (next (next p).2).1] (next (next p).2).2 :=
      (passes_next (by rw [hw]; nofun)).next (by rw [hq]; nofun)
    rcases h with rfl | ⟨p', ho, hc, h⟩
    · exact ⟨_, hcondition, fun hnil => absurd hnil (List.cons_ne_nil _ _)⟩
    · obtain ⟨w, hpass, -⟩ := forward_routine .expression room _ _ ho
      exact (reaches_of_callsInside (by rw [hc]; nofun) h).after (hcondition.trans hpass)
  | repeatAfter t item ih =>
    obtain ⟨p', hturns, hc, h⟩ := h
    obtain ⟨w, hw⟩ := passes_of_turns (forwardTurn_repeat t (forward_plan item room)) hturns
    exact (ih h).after (hw.next (Terminal.ne_endOfSource_of_covers hc))
  | members member ih =>
    obtain ⟨p', hturns, -, -, h⟩ := h
    obtain ⟨w, hw⟩ := passes_of_turns (forwardTurn_member (forward_plan member room)) hturns
    exact (ih h).after (hw.congr rfl)
  | items declaration statement ihd ihs =>
    obtain ⟨p', hturns, -, -, h⟩ := h
    obtain ⟨w, hw⟩ := passes_of_turns
      (forwardTurn_item (forward_plan declaration room) (forward_plan statement room)) hturns
    split at h
    · exact (ihd h).after (hw.congr rfl)
    · exact (ihs h).after (hw.congr rfl)
  | program main declaration ihm ihd =>
    obtain ⟨p', hturns, -, h⟩ := h
    obtain ⟨w, hw⟩ := passes_of_turns
      (forwardTurn_program (forward_plan main room) (forward_plan declaration room)) hturns
    split at h
    · exact (ihm h).after (hw.congr rfl)
    · exact (ihd h).after (hw.congr rfl)

/-- A chain of calls goes down in rank or past a token. -/
theorem reaches_of_transGen {g : Frame (Parser text cap)} (h : Relation.TransGen Frame.Calls f g) :
    Reaches f.routine.rank f.state g := by
  induction h with
  | single h => exact reaches_of_calls _ h
  | @tail g g' _ h ih =>
    obtain ⟨v, hv, hrank⟩ := ih
    obtain ⟨w, hw, hrank'⟩ := reaches_of_calls g.routine.body h
    refine ⟨v ++ w, hv.trans hw, fun hnil => ?_⟩
    obtain ⟨hv, hw⟩ := List.append_eq_nil_iff.1 hnil
    exact Nat.lt_trans (hrank' hw) (hrank hv)

/-- Calls come to an end: each leaves less pending, or as much and a lower rank. -/
theorem wellFounded_calls (text : List Char) (cap : Nat) :
    WellFounded fun g f : Frame (Parser text cap) => f.Calls g := by
  let size (f : Frame (Parser text cap)) : Nat × Nat := (f.state.pending.length, f.routine.rank)
  have hwf : WellFounded (InvImage (Prod.Lex (· < ·) (· < ·)) size) :=
    InvImage.wf size (Prod.lex ⟨_, wellFounded_lt⟩ ⟨_, wellFounded_lt⟩).wf
  refine Subrelation.wf (fun {g f} h => ?_) hwf
  obtain ⟨w, hw, hrank⟩ := reaches_of_calls f.routine.body h
  have hlength := hw.length_pending
  cases w with
  | nil =>
    rw [List.length_nil, Nat.zero_add] at hlength
    have hsize : size f = (g.state.pending.length, f.routine.rank) := by
      rw [← hlength]
    change Prod.Lex _ _ (size g) (size f)
    rw [hsize]
    exact .right _ (hrank rfl)
  | cons t w =>
    rw [List.length_cons] at hlength
    exact .left _ _ (by omega)

/-- Turns come to an end: each leaves less pending. -/
theorem wellFounded_turn {turn : Parser text cap → Procedure.Turn (Parser text cap)}
    (ht : ForwardTurn turn) : WellFounded fun p' p => turn p = .again p' := by
  refine Subrelation.wf (fun {p' p} h => ?_) (measure fun p : Parser text cap => p.pending.length).wf
  obtain ⟨w, hw, hne, -⟩ := ht _ _ h
  have hlength := hw.length_pending
  have hpos := List.length_pos_iff.2 hne
  change p'.pending.length < p.pending.length
  omega

end Parser

/-- Progress and termination, from every state of a parser and with any room for nested
constructs. A procedure that accepts has passed tokens before the end only, and at least one if it
is a consuming one; it has not left the text and has closed what it has opened. A turn of a loop
that is followed by another one has passed a token, and so has every chain of calls from a
procedure to itself. Therefore neither calls nor turns go on for ever. -/
theorem parser_makes_progress (text : List Char) (cap : Nat) :
    (∀ (r : Routine) room (p p' : Parser text cap), (r.procedure room).run p = .accepted p' →
      (∃ w, p.pending = w ++ p'.pending ∧ (∀ t ∈ w, t.kind ≠ .endOfSource) ∧
        (r.consuming = true → w ≠ [] ∧ p.offset < p'.offset)) ∧
      (p.offset ≤ text.length → p'.offset ≤ text.length) ∧ p'.depth = p.depth) ∧
    (∀ r ∈ ([.declaration, .declarator, .block, .statement, .whileStatement, .leftValue, .constant,
      .expression, .classDeclaration] : List Routine), r.consuming = true) ∧
    (∀ (l : Loop) room (p p' : Parser text cap), l.turn room p = .again p' →
      ∃ w, p.pending = w ++ p'.pending ∧ (∀ t ∈ w, t.kind ≠ .endOfSource) ∧ w ≠ []) ∧
    (∀ f g : Frame (Parser text cap), Relation.TransGen Frame.Calls f g → f.routine = g.routine →
      ∃ w, f.state.pending = w ++ g.state.pending ∧ (∀ t ∈ w, t.kind ≠ .endOfSource) ∧ w ≠ []) ∧
    (WellFounded fun g f : Frame (Parser text cap) => f.Calls g) ∧
    ∀ (l : Loop) room, WellFounded fun p' p : Parser text cap => l.turn room p = .again p' := by
  refine ⟨fun r room p p' h => ?_, by decide, fun l room p p' h => ?_, fun f g h hr => ?_,
    Parser.wellFounded_calls text cap,
    fun l room => Parser.wellFounded_turn (Parser.forwardTurn_loop l room)⟩
  · obtain ⟨w, hw, hlength, hd⟩ := Parser.forward_routine r room p p' h
    refine ⟨⟨w, hw.pending_eq, hw.solid, fun hc => ?_⟩, hw.inText, hd⟩
    rw [hc, Bool.toNat_true] at hlength
    have hoffset := hw.offset_le
    exact ⟨List.length_pos_iff.1 hlength, by omega⟩
  · obtain ⟨w, hw, hne, -⟩ := Parser.forwardTurn_loop l room p p' h
    exact ⟨w, hw.pending_eq, hw.solid, hne⟩
  · obtain ⟨w, hw, hrank⟩ := Parser.reaches_of_transGen h
    refine ⟨w, hw.pending_eq, hw.solid, fun hnil => ?_⟩
    have hlt := hrank hnil
    rw [hr] at hlt
    exact Nat.lt_irrefl _ hlt

end Recognizer
