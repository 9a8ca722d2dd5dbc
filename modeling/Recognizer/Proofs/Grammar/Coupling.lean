import Recognizer.Proofs.Grammar.Plan

/-!
# Two runs of the grammar side by side

Here the same procedure runs on two sources, and on the second one it may open more constructs
inside one another. A coupling relates the states of the two runs and says what becomes of the
relation when both take the same step: reading a token, looking ahead and putting back, opening
a construct and leaving it. It relates the violations, too. The one step that the runs do not
share is the one where the first has no room for a construct that the second opens; from there on
the first is lost, and the second goes on alone. By the plans of the procedures, what a coupling
says of one step holds of whole runs.
-/

namespace Recognizer

open TokenSource Procedure

variable {σ τ : Type} [TokenSource σ] [TokenSource τ] {a b : Bool}

/-- A nested construct is about to be opened by the next token: a mark that always opens one, or
the closing parenthesis of a loop whose beginning has been reached before. -/
inductive Opens (reached : σ → Prop) (room : Nat) (s : σ) : Prop where
  | mark {q : Punctuation} (hq : q.opens = true) (h : (next s).1.kind = .punctuation q)
  | loop {s₀ : σ} (h₀ : reached s₀) (hw : (next s₀).1.kind = .keyword .whileWord)
      (hp : (next (next s₀).2).1.kind = .punctuation .openParen)
      (he : (Grammar.expression room).run (next (next s₀).2).2 = .accepted s)
      (h : (next s).1.kind = .punctuation .closeParen)

/-- A construct is opened by a punctuation mark. -/
theorem Opens.exists_covers {reached : σ → Prop} {room : Nat} {s : σ} (h : Opens reached room s) :
    ∃ q, (Terminal.punctuation q).covers (next s).1.kind = true := by
  cases h with
  | mark hq h => exact ⟨_, beq_of_eq h⟩
  | loop h₀ hw hp he h => exact ⟨_, beq_of_eq h⟩

/-- A relation between the states of two runs, the second of which has room for `extra` constructs
more than the first. -/
structure Coupling (σ τ : Type) [TokenSource σ] [TokenSource τ] (extra : Nat) where
  /-- The states between two steps, where the first run has so much room. -/
  related : Nat → σ → τ → Prop
  /-- Violations that correspond, and the states that they leave behind. -/
  failed : Nat → Violation → Violation → σ → τ → Prop
  /-- The first run has met a violation where the second has opened a construct. -/
  lost : Violation → σ → Outcome τ → Prop
  /-- Both read a token of the same kind. -/
  kind_eq {m : Nat} {s : σ} {t : τ} (h : related m s t) : (next s).1.kind = (next t).1.kind
  /-- Both read a token of the same kind after that. -/
  second_eq {m : Nat} {s : σ} {t : τ} (h : related m s t) :
    (next (next s).2).1.kind = (next (next t).2).1.kind
  /-- Reading a token that some class of the grammar covers. -/
  read {m : Nat} {s : σ} {t : τ} (h : related m s t) {c : Terminal}
    (hc : c.covers (next s).1.kind = true) : related m (next s).2 (next t).2
  /-- Looking at a token and putting it back. -/
  look {m : Nat} {s : σ} {t : τ} (h : related m s t) :
    related m (rewind s (next s).2) (rewind t (next t).2)
  /-- Looking at two tokens and putting them back. -/
  lookTwice {m : Nat} {s : σ} {t : τ} (h : related m s t) :
    related m (rewind s (next (next s).2).2) (rewind t (next (next t).2).2)
  /-- Reading a mark that opens a construct for which both have room, and entering it. -/
  enter {m : Nat} {s : σ} {t : τ} (h : related (m + 1) s t)
    (ho : Opens (fun s₀ => ∃ t₀, related (m + 1) s₀ t₀) (m + 1) s) :
    related m (enter (next s).2) (enter (next t).2)
  /-- Leaving a construct that has been opened. -/
  leave {m : Nat} {s₀ s : σ} {t₀ t : τ} (h₀ : related (m + 1) s₀ t₀) (h : related m s t) :
    related (m + 1) (leave s) (leave t)
  /-- A violation at a token that has been read. -/
  failed_read {m : Nat} {s : σ} {t : τ} (h : related m s t) {e : Expectation}
    (he : e ≠ .shallowerNesting) :
    failed m ⟨(next s).1, e⟩ ⟨(next t).1, e⟩ (next s).2 (next t).2
  /-- A violation at the end of the source, which has been put back. -/
  failed_end {m : Nat} {s : σ} {t : τ} (h : related m s t)
    (hk : (next s).1.kind = .endOfSource) {e : Expectation} (he : e ≠ .shallowerNesting) :
    failed m ⟨(next s).1, e⟩ ⟨(next t).1, e⟩ (rewind s (next s).2) (rewind t (next t).2)
  /-- A violation behind a mark that would open a construct for which neither has room. -/
  failed_enter {s : σ} {t : τ} (hx : extra = 0) (h : related 0 s t)
    (ho : Opens (fun s₀ => ∃ t₀, related 0 s₀ t₀) 0 s) :
    failed 0 ⟨(next (next s).2).1, .shallowerNesting⟩ ⟨(next (next t).2).1, .shallowerNesting⟩
      (rewind (next s).2 (next (next s).2).2) (rewind (next t).2 (next (next t).2).2)
  /-- Leaving a construct because of a violation. -/
  failed_leave {m : Nat} {v w : Violation} {s₀ s : σ} {t₀ t : τ} (h₀ : related (m + 1) s₀ t₀)
    (h : failed m v w s t) : failed (m + 1) v w (TokenSource.leave s) (TokenSource.leave t)
  /-- Behind a mark that opens a construct for which the second has room only. -/
  lost_enter {k : Nat} {s : σ} {t : τ} (hx : extra = k + 1) (h : related 0 s t)
    (ho : Opens (fun s₀ => ∃ t₀, related 0 s₀ t₀) 0 s) (r : Routine) :
    lost ⟨(next (next s).2).1, .shallowerNesting⟩ (rewind (next s).2 (next (next s).2).2)
      ((nested (r.procedure k)).run (next t).2)
  /-- The second goes on with any procedure. -/
  lost_plan {v : Violation} {s : σ} {o : Outcome τ} (h : lost v s o) {bound : Nat} {a : Bool}
    (p : Plan bound a) (n : Nat) : lost v s (o.bind (p.procedure n).run)
  /-- The second goes on behind the condition of a loop. -/
  lost_repeat {v : Violation} {s : σ} {o : Outcome τ} (h : lost v s o) (n : Nat) :
    lost v s (o.bind ((Grammar.symbol .closeParen).andThen (Routine.inside .statement n)).run)
  /-- Both leave a construct. -/
  lost_leave {v : Violation} {s : σ} {o : Outcome τ} (h : lost v s o) :
    lost v (TokenSource.leave s) (o.mapState TokenSource.leave)

namespace Coupling

variable {extra : Nat} {C : Coupling σ τ extra} {m : Nat} {s : σ} {t : τ}

variable (C) in
/-- The outcomes of two runs correspond. -/
inductive Agree (m : Nat) : Outcome σ → Outcome τ → Prop where
  /-- Both accept. -/
  | accepted {s : σ} {t : τ} (h : C.related m s t) : Agree m (.accepted s) (.accepted t)
  /-- Both reject with violations that correspond. -/
  | rejected {v w : Violation} {s : σ} {t : τ} (h : C.failed m v w s t) :
    Agree m (.rejected v s) (.rejected w t)
  /-- The first is lost. -/
  | lost {v : Violation} {s : σ} {o : Outcome τ} (h : C.lost v s o) : Agree m (.rejected v s) o

variable (C) in
/-- Two turns of a loop correspond. -/
inductive TurnAgree (m : Nat) : Turn σ → Turn τ → Prop where
  /-- Both loops go on. -/
  | again {s : σ} {t : τ} (h : C.related m s t) : TurnAgree m (.again s) (.again t)
  /-- Both loops end. -/
  | stop {o : Outcome σ} {o' : Outcome τ} (h : C.Agree m o o') : TurnAgree m (.stop o) (.stop o')
  /-- The first is lost in an item. -/
  | lost {v : Violation} {s : σ} {o : Outcome τ} (h : C.lost v s o) :
    TurnAgree m (.stop (.rejected v s)) (.ofItem o)

variable (C) in
/-- From related states two procedures come to outcomes that correspond. -/
def Respects (m : Nat) (p : Procedure σ a) (q : Procedure τ a) : Prop :=
  ∀ s t, C.related m s t → C.Agree m (p.run s) (q.run t)

variable (C) in
/-- Where the first run is lost, the second may go on in this way. -/
def Carries (f : τ → Outcome τ) : Prop :=
  ∀ v s o, C.lost v s o → C.lost v s (o.bind f)

/-- The second run goes on with any plan where the first is lost. -/
theorem carries_plan {bound : Nat} (p : Plan bound a) (n : Nat) : C.Carries (p.procedure n).run :=
  fun _ _ _ h => C.lost_plan h p n

/-- Outcomes that correspond still do after another step, which has to respect the relation only
where the first run gets that far. -/
theorem Agree.bind {o : Outcome σ} {o' : Outcome τ} {f : σ → Outcome σ} {g : τ → Outcome τ}
    (h : C.Agree m o o')
    (hf : ∀ s t, o = .accepted s → C.related m s t → C.Agree m (f s) (g t))
    (hg : C.Carries g) : C.Agree m (o.bind f) (o'.bind g) := by
  cases h with
  | accepted h => exact hf _ _ rfl h
  | rejected h => exact .rejected h
  | lost h => exact .lost (hg _ _ _ h)

/-- Outcomes that correspond make turns that do. -/
theorem Agree.ofItem {o : Outcome σ} {o' : Outcome τ} (h : C.Agree m o o') :
    C.TurnAgree m (Turn.ofItem o) (Turn.ofItem o') := by
  cases h with
  | accepted h => exact .again h
  | rejected h => exact .stop (.rejected h)
  | lost h => exact .lost h

/-! ### The combinators -/

/-- Expecting a token, for any reason but nesting, respects the relation. -/
theorem respects_expect (c : Terminal) {e : Expectation} (he : e.aboutNesting = false) :
    C.Respects m (expect c e) (expect c e) := by
  intro s t h
  have ht := C.kind_eq h
  simp only [expect, ← ht]
  split
  · next hc => exact .accepted (C.read h hc)
  · exact .rejected (C.failed_read h (Expectation.ne_shallowerNesting he))

/-- Behind a token both go on, or both meet a violation at it. -/
theorem agree_expect_andThen {c : Terminal} {e : Expectation} {p : Procedure σ a}
    {q : Procedure τ a} (he : e.aboutNesting = false) (h : C.related m s t)
    (hpq : c.covers (next s).1.kind = true → C.Agree m (p.run (next s).2) (q.run (next t).2)) :
    C.Agree m (((expect c e).andThen p).run s) (((expect c e).andThen q).run t) := by
  have ht := C.kind_eq h
  simp only [andThen, expect, ← ht]
  split
  · next hc => exact hpq hc
  · exact .rejected (C.failed_read h (Expectation.ne_shallowerNesting he))

/-- A decision on the next token respects it if both ways do, the first one behind that token. -/
theorem agree_ifNext {c : Terminal} {yes : Procedure σ a} {yes' : Procedure τ a}
    {no : Procedure σ b} {no' : Procedure τ b} (h : C.related m s t)
    (hy : c.covers (next s).1.kind = true → C.Agree m (yes.run (next s).2) (yes'.run (next t).2))
    (hn : C.Respects m no no') :
    C.Agree m ((ifNext c yes no).run s) ((ifNext c yes' no').run t) := by
  have ht := C.kind_eq h
  simp only [ifNext, ← ht]
  split
  · next hc => exact hy hc
  · exact hn _ _ (C.look h)

/-- One procedure after another respects the relation if both do. -/
theorem respects_andThen {p : Procedure σ a} {p' : Procedure τ a} {q : Procedure σ b}
    {q' : Procedure τ b} (hp : C.Respects m p p') (hq : C.Respects m q q')
    (hc : C.Carries q'.run) : C.Respects m (p.andThen q) (p'.andThen q') :=
  fun s t h => (hp s t h).bind (fun s t _ => hq s t) hc

/-- What depends on the kind of the next token respects the relation if it does for each kind. -/
theorem respects_peek {f : TokenKind → Procedure σ a} {f' : TokenKind → Procedure τ a}
    (hf : ∀ kind, C.Respects m (f kind) (f' kind)) : C.Respects m (peek f) (peek f') := by
  intro s t h
  have ht := C.kind_eq h
  simp only [peek, ← ht]
  exact hf _ _ _ (C.look h)

/-- Behind a mark that opens a construct both go on inside it, and leave it in any case. -/
theorem agree_nested {p : Procedure σ a} {p' : Procedure τ a} (hp : C.Respects m p p')
    (h : C.related (m + 1) s t) (ho : Opens (fun s₀ => ∃ t₀, C.related (m + 1) s₀ t₀) (m + 1) s) :
    C.Agree (m + 1) ((nested p).run (next s).2) ((nested p').run (next t).2) := by
  have ha := hp _ _ (C.enter h ho)
  simp only [nested]
  generalize p.run (TokenSource.enter (next s).2) = o at ha ⊢
  generalize p'.run (TokenSource.enter (next t).2) = o' at ha ⊢
  cases ha with
  | accepted h' => exact .accepted (C.leave h h')
  | rejected h' => exact .rejected (C.failed_leave h h')
  | lost h' => exact .lost (C.lost_leave h')

/-- Inside a construct that the next token opens, unless there is no room. -/
theorem agree_inside {r : Routine}
    (hr : ∀ k, m = k + 1 → C.Respects k (r.procedure k) (r.procedure (extra + k)))
    (h : C.related m s t) (ho : Opens (fun s₀ => ∃ t₀, C.related m s₀ t₀) m s) :
    C.Agree m ((r.inside m).run (next s).2) ((r.inside (extra + m)).run (next t).2) := by
  cases m with
  | succ k => exact agree_nested (hr k rfl) h ho
  | zero =>
    cases extra with
    | zero => exact .rejected (C.failed_enter rfl h ho)
    | succ k => exact .lost (C.lost_enter rfl h ho r)

/-- Loops whose first turns correspond, and whose turns correspond on related states, come to
outcomes that correspond. By induction on what is left to read for the first; the second follows
it. -/
theorem TurnAgree.iterate {turn : σ → Turn σ} {turn' : τ → Turn τ}
    {hw : ∀ s, (turn s).Within (remaining s)} {hw' : ∀ t, (turn' t).Within (remaining t)}
    (ht : ∀ s t, C.related m s t → C.TurnAgree m (turn s) (turn' t))
    (hc : C.Carries (Procedure.iterate turn' hw')) (h : C.TurnAgree m (turn s) (turn' t)) :
    C.Agree m (Procedure.iterate turn hw s) (Procedure.iterate turn' hw' t) := by
  fun_induction Procedure.iterate turn hw s generalizing t with
  | case1 s s₁ hs hlt ih =>
    rw [hs] at h
    generalize hq : turn' t = u at h
    cases h with
    | again hr =>
      rw [iterate_of_again hw' hq]
      exact ih (ht _ _ hr)
  | case2 s o hs =>
    rw [hs] at h
    generalize hq : turn' t = u at h
    cases h with
    | stop ho =>
      rw [iterate_of_stop hw' hq]
      exact ho
    | lost hl =>
      rw [iterate_of_item hw' hq]
      exact .lost (hc _ _ _ hl)

/-- A loop respects the relation if each of its turns does. -/
theorem respects_loop {turn : σ → Turn σ} {turn' : τ → Turn τ}
    {hw : ∀ s, (turn s).Within (remaining s)} {hw' : ∀ t, (turn' t).Within (remaining t)}
    (ht : ∀ s t, C.related m s t → C.TurnAgree m (turn s) (turn' t))
    (hc : C.Carries (Procedure.iterate turn' hw')) :
    C.Respects m (loop turn hw) (loop turn' hw') :=
  fun s t h => TurnAgree.iterate ht hc (ht s t h)

/-- A turn of a repetition respects the relation if its item does. -/
theorem turnAgree_repeatAfter {c : Terminal} {item : Procedure σ a} {item' : Procedure τ a}
    (hi : C.Respects m item item') (h : C.related m s t) :
    C.TurnAgree m
      (if c.covers (next s).1.kind then .ofItem (item.run (next s).2)
        else .stop (.accepted (rewind s (next s).2)))
      (if c.covers (next t).1.kind then .ofItem (item'.run (next t).2)
        else .stop (.accepted (rewind t (next t).2))) := by
  rw [← C.kind_eq h]
  split
  · next hc => exact (hi _ _ (C.read h hc)).ofItem
  · exact .stop (.accepted (C.look h))

/-! ### The grammar -/

open Grammar

/-- A turn through a class respects the relation if a member does. -/
theorem turnAgree_member {member : Procedure σ true} {member' : Procedure τ true}
    (hm : C.Respects m member member') (h : C.related m s t) :
    C.TurnAgree m (memberTurn member s) (memberTurn member' t) := by
  have ht := C.kind_eq h
  simp only [memberTurn, ← ht]
  split
  · next hk => exact .stop (.accepted (C.read (c := .punctuation .closeBrace) h (beq_of_eq hk)))
  · split
    · next hk => exact .stop (.rejected (C.failed_end h hk (Expectation.ne_shallowerNesting rfl)))
    · exact (hm _ _ (C.look h)).ofItem

/-- A turn through a block respects the relation if declarations and statements do. -/
theorem turnAgree_item {declaration statement : Procedure σ true}
    {declaration' statement' : Procedure τ true} (hd : C.Respects m declaration declaration')
    (hs : C.Respects m statement statement') (h : C.related m s t) :
    C.TurnAgree m (itemTurn declaration statement s) (itemTurn declaration' statement' t) := by
  have ht := C.kind_eq h
  have ht' := C.second_eq h
  simp only [itemTurn, ← ht, ← ht']
  split
  · next hk => exact .stop (.accepted (C.read (c := .punctuation .closeBrace) h (beq_of_eq hk)))
  · split
    · exact .stop (.rejected (C.failed_read h (Expectation.ne_shallowerNesting rfl)))
    · split
      · exact (hd _ _ (C.lookTwice h)).ofItem
      · exact (hs _ _ (C.lookTwice h)).ofItem

/-- A turn through a program looks at two tokens before it does anything else. -/
theorem turnAgree_program {main declaration : Procedure σ true}
    {main' declaration' : Procedure τ true} (hm : C.Respects m main main')
    (hd : C.Respects m declaration declaration')
    (hk : (next s).1.kind = (next t).1.kind)
    (hk' : (next (next s).2).1.kind = (next (next t).2).1.kind)
    (hl : (next s).1.kind = .endOfSource →
      C.related m (rewind s (next s).2) (rewind t (next t).2))
    (hl' : (next s).1.kind ≠ .endOfSource →
      C.related m (rewind s (next (next s).2).2) (rewind t (next (next t).2).2)) :
    C.TurnAgree m (programTurn main declaration s) (programTurn main' declaration' t) := by
  simp only [programTurn, ← hk, ← hk']
  split
  · next he => exact .stop (.accepted (hl he))
  · next he =>
    split
    · exact (hm _ _ (hl' he)).ofItem
    · exact (hd _ _ (hl' he)).ofItem

/-- A loop opens a construct behind its condition. -/
theorem respects_while
    (hi : ∀ r k, m = k + 1 → C.Respects k (Routine.procedure k r) (r.procedure (extra + k)))
    (he : C.Respects m (expression m) (expression (extra + m))) :
    C.Respects m (whileWith m (Routine.inside .statement m))
      (whileWith (extra + m) (Routine.inside .statement (extra + m))) := by
  intro s t h
  refine agree_expect_andThen rfl h fun hw => ?_
  have h₁ := C.read h hw
  refine agree_expect_andThen rfl h₁ fun hp => ?_
  have h₂ := C.read h₁ hp
  refine (he _ _ h₂).bind (fun s₃ t₃ ho h₃ => ?_) fun _ _ _ hl => C.lost_repeat hl (extra + m)
  exact agree_expect_andThen rfl h₃ fun hq => agree_inside (hi .statement) h₃
    (.loop ⟨t, h⟩ (eq_of_beq hw) (eq_of_beq hp) ho (eq_of_beq hq))

/-- What holds of the procedures that a plan calls holds of the plan. -/
theorem respects_plan {bound : Nat} {a : Bool}
    (hi : ∀ r k, m = k + 1 → C.Respects k (Routine.procedure k r) (r.procedure (extra + k)))
    (hc : ∀ r, r.rank < bound → C.Respects m (Routine.procedure m r) (r.procedure (extra + m)))
    (p : Plan bound a) : C.Respects m (p.procedure m) (p.procedure (extra + m)) := by
  induction p with
  | done => exact fun _ _ h => .accepted h
  | expect c e he => exact respects_expect c he
  | ifNext c yes no ihy ihn => exact fun s t h => agree_ifNext h (fun hc => ihy _ _ (C.read h hc)) ihn
  | andThen p q ihp ihq => exact respects_andThen ihp ihq (carries_plan q _)
  | weaken p ih => exact ih
  | peek f ih => exact respects_peek ih
  | call r hr => exact hc r hr
  | opening q hq r =>
    exact fun s t h => agree_expect_andThen rfl h fun hs =>
      agree_inside (hi r) h (.mark hq (eq_of_beq hs))
  | ifOpening q hq r after ih =>
    exact fun s t h => agree_ifNext h
      (fun hs => (agree_inside (hi r) h (.mark hq (eq_of_beq hs))).bind
        (fun s t _ => ih s t) (carries_plan after _))
      fun _ _ h => .accepted h
  | loop hr => exact respects_while hi (hc .expression hr)
  | repeatAfter c item ih =>
    exact respects_loop (fun _ _ => turnAgree_repeatAfter ih)
      (carries_plan (Plan.repeatAfter c item) _)
  | members member ih =>
    exact respects_loop (fun _ _ => turnAgree_member ih) (carries_plan (Plan.members member) _)
  | items declaration statement ihd ihs =>
    exact respects_loop (fun _ _ => turnAgree_item ihd ihs)
      (carries_plan (Plan.items declaration statement) _)
  | program main declaration ihm ihd =>
    exact respects_loop
      (fun s t h => turnAgree_program ihm ihd (C.kind_eq h) (C.second_eq h) (fun _ => C.look h)
        fun _ => C.lookTwice h)
      (carries_plan (Plan.program main declaration) _)

variable (C) in
/-- From related states a procedure comes to outcomes that correspond. By induction on the room,
which is less inside a construct, and on the rank of the procedure, which is lower for those that it
calls elsewhere. -/
theorem respects_routine (m : Nat) (r : Routine) :
    C.Respects m (r.procedure m) (r.procedure (extra + m)) := by
  induction m using Nat.strongRecOn generalizing r with
  | _ m ihm =>
    induction hn : r.rank using Nat.strongRecOn generalizing r with
    | _ n ihn =>
      rw [r.procedure_eq, r.procedure_eq]
      refine respects_plan (fun r' k hk => ihm k (by omega) r') (fun r' hr => ?_) r.body
      exact ihn r'.rank (by omega) r' rfl

end Coupling

end Recognizer
