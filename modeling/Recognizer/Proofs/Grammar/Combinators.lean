import Recognizer.Proofs.Grammar.Recognition

/-!
# Recognizing by combinators

Each combinator of procedures recognizes the phrase that is built in the same way, if the kinds
of tokens that may follow let one token of lookahead decide how to go on.
-/

namespace Recognizer

open TokenSource TokenTape

namespace Procedure

variable {a b : Bool}

/-- A token that is expected is passed. -/
theorem run_expect_of_covers {c : Terminal} {t : TokenTape} (x : Expectation)
    (h : c.covers t.kind = true) : (expect c x).run t = .accepted t.tail :=
  if_pos h

/-- A token that is not expected is passed as well, and is the violation. -/
theorem run_expect_of_not_covers {c : Terminal} {t : TokenTape} (x : Expectation)
    (h : c.covers t.kind = false) : (expect c x).run t = .rejected ⟨t.next.1, x⟩ t.tail :=
  if_neg (ne_true_of_eq_false h)

/-- After a token that was found the next procedure goes on. -/
theorem run_expect_andThen_of_covers {c : Terminal} {t : TokenTape} (x : Expectation)
    (g : Procedure TokenTape b) (h : c.covers t.kind = true) :
    ((expect c x).andThen g).run t = g.run t.tail := by
  have he := run_expect_of_covers x h
  change ((expect c x).run t).bind g.run = g.run t.tail
  rw [he]
  rfl

/-- After a token that was not found nothing else is looked for. -/
theorem run_expect_andThen_of_not_covers {c : Terminal} {t : TokenTape} (x : Expectation)
    (g : Procedure TokenTape b) (h : c.covers t.kind = false) :
    ((expect c x).andThen g).run t = .rejected ⟨t.next.1, x⟩ t.tail := by
  have he := run_expect_of_not_covers x h
  change ((expect c x).run t).bind g.run = _
  rw [he]
  rfl

/-- Behind the token that decides, the first way is taken. -/
theorem run_ifNext_of_covers {c : Terminal} {t : TokenTape} (yes : Procedure TokenTape a)
    (no : Procedure TokenTape b) (h : c.covers t.kind = true) :
    (ifNext c yes no).run t = yes.run t.tail :=
  if_pos h

/-- In front of any other token the second way is taken, and the token is kept. -/
theorem run_ifNext_of_not_covers {c : Terminal} {t : TokenTape} (yes : Procedure TokenTape a)
    (no : Procedure TokenTape b) (h : c.covers t.kind = false) :
    (ifNext c yes no).run t = no.run t := by
  have hr : (ifNext c yes no).run t = no.run (rewind t (TokenSource.next t).2) :=
    if_neg (ne_true_of_eq_false h)
  rw [hr, rewind_next]

/-- Looking at the kind of the next token changes nothing on a tape. -/
theorem run_peek (f : TokenKind → Procedure TokenTape a) (t : TokenTape) :
    (peek f).run t = (f t.kind).run t := by
  change (f t.kind).run (rewind t (TokenSource.next t).2) = _
  rw [rewind_next]

/-- A loop over items ends in front of any token that does not announce one. -/
theorem run_repeatAfter_of_not_covers {c : Terminal} {t : TokenTape} (item : Procedure TokenTape a)
    (h : c.covers t.kind = false) : (repeatAfter c item).run t = .accepted t := by
  have hstop : (repeatAfter c item).run t = .accepted (rewind t (TokenSource.next t).2) :=
    iterate_of_stop _ (if_neg (ne_true_of_eq_false h))
  rw [hstop, rewind_next]

/-- Rejecting the next token keeps it. -/
theorem run_rejectNext (x : Expectation) (t : TokenTape) :
    (rejectNext (a := a) x).run t = .rejected ⟨t.next.1, x⟩ t := by
  change Outcome.rejected _ (rewind t (TokenSource.next t).2) = _
  rw [rewind_next]
  rfl

end Procedure

open Procedure

/-- A procedure is right about a phrase wherever it is run. -/
def Recognizes (room : ℕ∞) (p : Phrase) (follow : TokenKind → Bool) {a : Bool}
    (proc : Procedure TokenTape a) : Prop :=
  ∀ t, Recognition room p follow t (proc.run t)

/-- What a turn of a loop does right: it looks for an item where the loop cannot end, or ends the
loop where no item can begin. -/
inductive TurnRecognition (room : ℕ∞) (item last : Phrase) (between follow : TokenKind → Bool)
    (t : TokenTape) : Turn TokenTape → Prop where
  | item {o : Outcome TokenTape} {turn : Turn TokenTape} (he : turn = .ofItem o)
      (ho : Recognition room item between t o) (hl : last.leads follow t.kind = false) :
      TurnRecognition room item last between follow t turn
  | last {o : Outcome TokenTape} {turn : Turn TokenTape} (he : turn = .stop o)
      (ho : Recognition room last follow t o) (hi : item.first t.kind = false) :
      TurnRecognition room item last between follow t turn

namespace Recognizes

variable {room : ℕ∞} {p q : Phrase} {follow follow' : TokenKind → Bool} {a b : Bool}
  {f : Procedure TokenTape a} {g : Procedure TokenTape b} {c : Terminal}

/-- Less may follow than what a procedure is right for. -/
theorem mono (h : Recognizes room p follow f) (hf : ∀ k, follow' k = true → follow k = true) :
    Recognizes room p follow' f :=
  fun t => (h t).mono hf

/-- A procedure that is right about a phrase is right about any other with the same words. -/
theorem congr (h : Recognizes room p follow f) (hpq : ∀ n, p.language n = q.language n) :
    Recognizes room q follow f :=
  fun t => (h t).congr hpq

/-- A procedure for the body of a rule is one for the rule. -/
theorem rule {r : Rule} (h : Recognizes room r.body follow f) :
    Recognizes room (.rule r) follow f :=
  fun t => (h t).rule

/-- Doing nothing is right about nothing. -/
theorem done : Recognizes room .empty follow Procedure.done :=
  fun t => .done t

/-- A token of a class is found if its violation names tokens of the class. -/
theorem expect {x : Expectation} (hx : ∀ k, x.names k = true → c.covers k = true)
    (hb : x.beyond = []) : Recognizes room (.terminal c) follow (Procedure.expect c x) := by
  intro t
  cases h : c.covers t.kind with
  | true =>
    rw [run_expect_of_covers x h]
    exact .token h
  | false =>
    rw [run_expect_of_not_covers x h]
    refine .here ?_ ?_ ?_
    · rw [hb]
      exact List.nil_prefix
    · intro k hk
      exact ⟨[], .terminal (hx k hk)⟩
    · simp [Phrase.leads, Phrase.first, Phrase.nullable, h]

/-- One procedure after another is right about one phrase after another, if what leads the second
may follow the first. -/
theorem andThen (hf : Recognizes room p follow' f) (hg : Recognizes room q follow g)
    (hk : ∀ k, q.leads follow k = true → follow' k = true) :
    Recognizes room (.seq p q) follow (f.andThen g) :=
  fun t => (hf t).bind hk fun t' _ => hg t'

/-- What comes next is not empty, so what follows it does not matter. -/
theorem andThen_of_not_nullable (hf : Recognizes room p follow' f) (hg : Recognizes room q follow g)
    (hq : q.nullable = false) (hk : ∀ k, q.first k = true → follow' k = true) :
    Recognizes room (.seq p q) follow (f.andThen g) := by
  refine hf.andThen hg fun k hl => hk k ?_
  rwa [Phrase.leads_eq_first hq] at hl

/-- After a token whatever comes next may follow. -/
theorem expectThen {x : Expectation} (hx : ∀ k, x.names k = true → c.covers k = true)
    (hb : x.beyond = []) (hg : Recognizes room q follow g) :
    Recognizes room (.seq (.terminal c) q) follow ((Procedure.expect c x).andThen g) := by
  have hc : Recognizes room (.terminal c) (fun _ => true) (Procedure.expect c x) := expect hx hb
  exact hc.andThen hg fun _ _ => rfl

/-- A phrase that a token of a class announces, or one that no such token begins. -/
theorem ifNext (hf : Recognizes room p follow f) (hg : Recognizes room q follow g)
    (hk : ∀ k, q.leads follow k = true → c.covers k = false) :
    Recognizes room (.either (.seq (.terminal c) p) q) follow (Procedure.ifNext c f g) := by
  intro t
  cases h : c.covers t.kind with
  | true =>
    rw [run_ifNext_of_covers f g h]
    refine (Recognition.afterToken h (hf t.tail)).left ?_
    rw [← Bool.not_eq_true]
    intro hl
    rw [hk _ hl] at h
    cases h
  | false =>
    rw [run_ifNext_of_not_covers f g h]
    refine (hg t).right ?_
    simp [Phrase.leads, Phrase.first, Phrase.nullable, h]

/-- An optional token is read whenever it is there, so it must not be one that may follow. -/
theorem optional (hk : ∀ k, follow k = true → c.covers k = false) :
    Recognizes room (.option (.terminal c)) follow (Procedure.optional c) := by
  have h : Recognizes room (.either (.seq (.terminal c) .empty) .empty) follow
      (Procedure.optional c) := done.ifNext done hk
  refine h.congr fun n => ?_
  rw [Phrase.option, Phrase.language_either, Phrase.language_either, Phrase.language_seq,
    Phrase.language_empty, mul_one]

/-- Inside a nested construct there is room for one construct less. -/
theorem nested (h : Recognizes room p follow f) :
    Recognizes (room + 1) (.nested p) follow (Procedure.nested f) :=
  fun t => (h (enter t)).nested

/-- Without room no nested construct is opened. -/
theorem nested_zero :
    Recognizes 0 (.nested p) follow (Procedure.rejectNext (a := a) .shallowerNesting) := by
  intro t
  rw [run_rejectNext]
  exact .nested_zero t

/-- A loop whose turns are right recognizes any number of items and what comes last. -/
theorem loop {item last : Phrase} {between : TokenKind → Bool} {turn : TokenTape → Turn TokenTape}
    {hw : ∀ t, (turn t).Within (remaining t)}
    (h : ∀ t, TurnRecognition room item last between follow t (turn t))
    (hi : item.nullable = false)
    (hk : ∀ k, (Phrase.seq (.many item) last).leads follow k = true → between k = true) :
    Recognizes room (.seq (.many item) last) follow (Procedure.loop turn hw) := by
  have hunfold (n : ℕ∞) :
      (Phrase.either (.seq item (.seq (.many item) last)) last).language n =
        (Phrase.seq (.many item) last).language n := by
    rw [Phrase.language_either, Phrase.language_seq, Phrase.language_seq]
    calc item.language n * ((Phrase.many item).language n * last.language n) + last.language n
        = (1 + item.language n * (Phrase.many item).language n) * last.language n := by
          rw [add_mul, one_mul, mul_assoc, add_comm]
      _ = (Phrase.many item).language n * last.language n := by
          rw [← Phrase.language_many]
  intro t
  change Recognition _ _ _ _ (iterate turn hw t)
  induction hn : remaining t using Nat.strong_induction_on generalizing t with
  | _ n ih =>
    refine Recognition.congr ?_ hunfold
    cases h t with
    | @item o _ he ho hl =>
      rw [iterate_of_item hw he]
      refine (ho.bind hk fun t' ht => ?_).left hl
      have hlt := hw t
      rw [he, ht] at hlt
      change remaining t' < remaining t at hlt
      rw [hn] at hlt
      exact ih _ hlt t' rfl
    | @last o _ he ho hi' =>
      rw [iterate_of_stop hw he]
      refine ho.right ?_
      simp [Phrase.leads, Phrase.first, Phrase.nullable, hi, hi']

/-- Items that tokens of a class announce, as many as there are. -/
theorem repeatAfter {between : TokenKind → Bool} (hf : Recognizes room p between f)
    (hc : ∀ k, c.covers k = true → between k = true)
    (hk : ∀ k, follow k = true → between k = true ∧ c.covers k = false) :
    Recognizes room (.many (.seq (.terminal c) p)) follow (Procedure.repeatAfter c f) := by
  have h : Recognizes room (.seq (.many (.seq (.terminal c) p)) .empty) follow
      (Procedure.repeatAfter c f) := by
    have hturn (t : TokenTape) : TurnRecognition room (.seq (.terminal c) p) .empty between follow t
        (if c.covers (TokenSource.next t).1.kind then .ofItem (f.run (TokenSource.next t).2)
          else .stop (.accepted (rewind t (TokenSource.next t).2))) := by
      cases h : c.covers t.kind with
      | true =>
        refine .item (if_pos h) (.afterToken h (hf t.tail)) ?_
        rw [← Bool.not_eq_true]
        intro hl
        rw [(hk _ hl).2] at h
        cases h
      | false =>
        have hstop : Recognition room .empty follow t
            (.accepted (rewind t (TokenSource.next t).2)) := by
          rw [rewind_next]
          exact .done t
        refine .last (if_neg (ne_true_of_eq_false h)) hstop ?_
        simp [Phrase.first, Phrase.nullable, h]
    refine loop hturn rfl fun k hl => ?_
    simp only [Phrase.leads, Phrase.first, Phrase.nullable, Bool.or_eq_true, Bool.false_and,
      Bool.or_false, Bool.and_false, Bool.true_and, Bool.and_true] at hl
    rcases hl with hl | hl
    · exact hc k hl
    · exact (hk k hl).1
  refine h.congr fun n => ?_
  rw [Phrase.language_seq, Phrase.language_empty, mul_one]

end Recognizes

end Recognizer
