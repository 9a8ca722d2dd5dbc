import Recognizer.Check
import Recognizer.Proofs.Grammar.Expressions
import Recognizer.Proofs.Grammar.Invariant
import Recognizer.Proofs.Lexical.Backtracking

/-!
# The tokens in front of a parser

Wherever a parser stands, some tokens are pending: those that it would read one after the other up
to the end. It does what the same procedure does on a tape with these tokens. A run of a
procedure passes some of them. If it is rejected, the offending token is the last one that was
passed, or the end, or it stands behind a mark that would have opened one construct too many; so it
is never in doubt which token comes next.
-/

namespace Recognizer

open TokenSource

namespace Parser

variable {text : List Char} {cap : Nat}

/-- The tokens from the cursor up to the end. -/
def pending (p : Parser text cap) : List Token :=
  p.lexer.drain.1

/-- Number of characters in front of the cursor. -/
def offset (p : Parser text cap) : Nat :=
  p.lexer.cursor.position.offset

/-- At the beginning all tokens of the source are pending. -/
theorem pending_start (s : Source) (cap : Nat) :
    (start s.chars cap).pending = s.tokens cap :=
  Lexer.drain_start s.chars cap

variable {p p' p'' : Parser text cap} {v w : List Token}

/-- What is pending depends on the cursor only. -/
theorem pending_eq_of_cursor_eq (h : p'.lexer.cursor = p.lexer.cursor) : p'.pending = p.pending := by
  rw [pending, pending, Lexer.drain_fst, Lexer.drain_fst, h]

/-- Where the end comes next, nothing else is pending. -/
theorem pending_of_end (h : (next p).1.kind = .endOfSource) : p.pending = [(next p).1] := by
  have h' : p.lexer.next.1.kind = .endOfSource := h
  rw [pending, Lexer.drain]
  dsimp only
  rw [dif_pos h']
  rfl

/-- Any other token that comes next is pending in front of the others. -/
theorem pending_of_ne_end (h : (next p).1.kind ≠ .endOfSource) :
    p.pending = (next p).1 :: (next p).2.pending := by
  have h' : p.lexer.next.1.kind ≠ .endOfSource := h
  rw [pending, Lexer.drain]
  dsimp only
  rw [dif_neg h']
  rfl

/-- The next token is the first one that is pending. -/
theorem head?_pending (p : Parser text cap) : p.pending.head? = some (next p).1 := by
  by_cases h : (next p).1.kind = .endOfSource
  · rw [pending_of_end h]
    rfl
  · rw [pending_of_ne_end h]
    rfl

/-- Behind the end the end is read again. -/
theorem pending_next_of_end (h : (next p).1.kind = .endOfSource) :
    (next p).2.pending = p.pending := by
  have hagain : (p.lexer.cursor.next cap).reading cap = p.lexer.cursor.reading cap :=
    Reading.scan_stop_of_end h
  have htoken : (next (next p).2).1 = (next p).1 := congrArg Reading.token hagain
  have hend : (next (next p).2).1.kind = .endOfSource := by rw [htoken]; exact h
  rw [pending_of_end h, pending_of_end hend, htoken]

/-- Reading a token leaves no more pending than there was. -/
theorem pending_next_suffix (p : Parser text cap) : (next p).2.pending <:+ p.pending := by
  by_cases h : (next p).1.kind = .endOfSource
  · rw [pending_next_of_end h]
  · rw [pending_of_ne_end h]
    exact List.suffix_cons ..

/-- Reading a token does not move back. -/
theorem offset_le_next (p : Parser text cap) : p.offset ≤ (next p).2.offset :=
  Reading.offset_le_stop cap p.lexer.cursor.position p.lexer.cursor.rest

/-- Reading a token other than the end moves forward. -/
theorem offset_lt_next (h : (next p).1.kind ≠ .endOfSource) : p.offset < (next p).2.offset := by
  have hstart := Reading.offset_le_start cap p.lexer.cursor.position p.lexer.cursor.rest
  exact Nat.lt_of_le_of_lt hstart (Reading.start_lt_stop h)

/-- Reading a token never leads out of the text. -/
theorem offset_next_le (h : p.offset ≤ text.length) : (next p).2.offset ≤ text.length := by
  have hstop := Reading.stop_le_length cap h
  change (p.lexer.cursor.reading cap).stop.offset ≤ text.length
  rw [Lexer.reading_eq]
  exact hstop

/-! ### Passing tokens -/

/-- On its way from the state `p` to the state `p'` a parser passes the tokens `w`. -/
structure Passes (p : Parser text cap) (w : List Token) (p' : Parser text cap) : Prop where
  /-- The tokens that are passed were the first ones pending. -/
  pending_eq : p.pending = w ++ p'.pending
  /-- The end is not passed. -/
  solid : ∀ t ∈ w, t.kind ≠ .endOfSource
  /-- Every token takes up room. -/
  offset_le : p.offset + w.length ≤ p'.offset
  /-- The text is not left. -/
  inText : p.offset ≤ text.length → p'.offset ≤ text.length

namespace Passes

/-- Without a step no token is passed. -/
theorem refl (p : Parser text cap) : p.Passes [] p :=
  ⟨rfl, fun _ h => absurd h List.not_mem_nil, Nat.le_refl _, id⟩

/-- Only the cursor matters. -/
theorem congr (h : p.Passes w p') (hc : p''.lexer.cursor = p'.lexer.cursor) : p.Passes w p'' := by
  have ho : p''.offset = p'.offset := by rw [offset, offset, hc]
  refine ⟨?_, h.solid, ?_, ?_⟩
  · rw [pending_eq_of_cursor_eq hc]
    exact h.pending_eq
  · rw [ho]
    exact h.offset_le
  · rw [ho]
    exact h.inText

/-- Reading a token before the end passes it. -/
theorem next (h : p.Passes w p') (hk : (TokenSource.next p').1.kind ≠ .endOfSource) :
    p.Passes (w ++ [(TokenSource.next p').1]) (TokenSource.next p').2 := by
  have hlt := offset_lt_next hk
  have hle := h.offset_le
  refine ⟨?_, ?_, ?_, fun hp => offset_next_le (h.inText hp)⟩
  · rw [h.pending_eq, pending_of_ne_end hk, List.append_assoc, List.singleton_append]
  · intro t ht
    rcases List.mem_append.1 ht with ht | ht
    · exact h.solid t ht
    · rw [List.mem_singleton.1 ht]
      exact hk
  · rw [List.length_append, List.length_singleton]
    omega

/-- Reading the end passes nothing. -/
theorem next_of_end (h : p.Passes w p') (hk : (TokenSource.next p').1.kind = .endOfSource) :
    p.Passes w (TokenSource.next p').2 := by
  have hle := h.offset_le
  have hle' := offset_le_next p'
  refine ⟨?_, h.solid, by omega, fun hp => offset_next_le (h.inText hp)⟩
  rw [pending_next_of_end hk]
  exact h.pending_eq

/-- What is passed in two parts. -/
theorem trans (h : p.Passes v p')
    (h' : p'.Passes w p'') : p.Passes (v ++ w) p'' := by
  have hle := h.offset_le
  have hle' := h'.offset_le
  refine ⟨?_, ?_, ?_, fun hp => h'.inText (h.inText hp)⟩
  · rw [h.pending_eq, h'.pending_eq, List.append_assoc]
  · intro t ht
    rcases List.mem_append.1 ht with ht | ht
    · exact h.solid t ht
    · exact h'.solid t ht
  · rw [List.length_append]
    omega

/-- What is passed is no longer pending, and nothing else is lost. -/
theorem length_pending (h : p.Passes w p') : p.pending.length = w.length + p'.pending.length := by
  rw [h.pending_eq, List.length_append]

end Passes

/-! ### The tape -/

/-- The tape with the tokens that are pending. -/
def tape (p : Parser text cap) : TokenTape :=
  ⟨p.pending, p.depth⟩

/-- Reading a token and reading it from the tape of what is pending is the same. -/
theorem next_tape (p : Parser text cap) : TokenSource.next p.tape = ((next p).1, (next p).2.tape) := by
  change p.tape.next = _
  by_cases h : (next p).1.kind = .endOfSource
  · have hp := pending_next_of_end h
    have htokens := pending_of_end h
    simp only [TokenTape.next, tape, htokens] at hp ⊢
    rw [if_pos h, hp]
    rfl
  · have htokens := pending_of_ne_end h
    simp only [TokenTape.next, tape, htokens]
    rw [if_neg h]
    rfl

/-- Putting a token back and putting it back on the tape is the same. -/
theorem tape_rewind (saved now : Parser text cap) :
    (rewind saved now).tape = rewind saved.tape now.tape := by
  have hp : (rewind saved now).pending = saved.pending := pending_eq_of_cursor_eq rfl
  change TokenTape.mk _ _ = TokenTape.mk _ _
  rw [hp]
  rfl

/-- A parser does what the same procedure does on the tape with what is pending. -/
def tapeSimulation (text : List Char) (cap : Nat) : Simulation (Parser text cap) TokenTape where
  related p t := t = p.tape
  failed v w p t := v = w ∧ t = p.tape
  kind_eq h := by rw [h, next_tape]
  second_eq h := by rw [h, next_tape, next_tape]
  read h _ _ := by rw [h, next_tape]
  look h := by rw [h, next_tape, tape_rewind]
  lookTwice h := by rw [h, next_tape, next_tape, tape_rewind]
  enter h := by rw [h]; rfl
  leave h := by rw [h]; rfl
  failed_read h _ := by
    rw [h, next_tape]
    exact ⟨rfl, rfl⟩
  failed_look h _ := by
    rw [h, next_tape, tape_rewind]
    exact ⟨rfl, rfl⟩
  failed_leave h := by
    rw [h.2]
    exact ⟨h.1, rfl⟩

/-- The verdict of a procedure is the one on the tape. -/
theorem violation?_routine (room : Nat) (r : Routine) (p : Parser text cap) :
    ((r.procedure room).run p).violation? = ((r.procedure room).run p.tape).violation? := by
  have h := ((tapeSimulation text cap).respects_routine room r p p.tape rfl).violation?_rel
  generalize ((r.procedure room).run p).violation? = v at h
  generalize ((r.procedure room).run p.tape).violation? = w at h
  cases h with
  | none => rfl
  | some h => rw [h.1]

/-- The verdict on a program is the one on the tape. -/
theorem violation?_program (room : Nat) (p : Parser text cap) :
    ((Grammar.program room).run p).violation? = ((Grammar.program room).run p.tape).violation? :=
  violation?_routine room .program p

/-- What an expression that is accepted has passed is derived by the grammar. -/
theorem derives_of_expression_accepted {room : Nat}
    (h : (Grammar.expression room).run p = .accepted p') :
    ∃ u, p.pending = u ++ p'.pending ∧ Derives room (.rule .expression) (u.map Token.kind) := by
  have ha := (tapeSimulation text cap).respects_routine room .expression p p.tape rfl
  have hr := Grammar.recognizes_expression room p.tape
  change (tapeSimulation text cap).Agree ((Grammar.expression room).run p) _ at ha
  change Recognition _ _ _ _ ((Routine.procedure room .expression).run p.tape) at hr
  rw [h] at ha
  generalize (Routine.procedure room .expression).run p.tape = o at ha hr
  cases ha with
  | accepted ht =>
    cases hr with
    | accepted hread hd hx =>
      obtain ⟨u, hu, hkinds, -⟩ := hread
      rw [← hkinds] at hd
      rw [ht] at hu
      exact ⟨u, hu, hd⟩

end Parser

/-! ### Where a run stops -/

/-- Behind these tokens a token of this kind opens a nested construct: a mark that always does, or
the parenthesis that closes the condition of a loop. -/
inductive OpensBehind (before : List TokenKind) : TokenKind → Prop where
  | mark {q : Punctuation} (hq : q.opens = true) : OpensBehind before (.punctuation q)
  | loop {front condition : List TokenKind}
      (hb : before = front ++
        .keyword .whileWord :: .punctuation .openParen :: condition)
      (hd : Derives ⊤ (.rule .expression) condition) :
      OpensBehind before (.punctuation .closeParen)

namespace Parser

variable {text : List Char} {cap : Nat} {p p' : Parser text cap} {w : List Token}

/-- The state `p'` that a violation leaves behind in a run from the state `p`, inside which no more
than `total` constructs may be open at once. -/
inductive Stopped (p : Parser text cap) (total : Nat) (v : Violation) (p' : Parser text cap) :
    Prop where
  /-- The offending token has been passed. -/
  | behind {w : List Token} (he : v.expected ≠ .shallowerNesting)
      (hk : v.found.kind ≠ .endOfSource) (h : p.Passes (w ++ [v.found]) p')
  /-- The end is the offending token. -/
  | atEnd {w : List Token} (he : v.expected ≠ .shallowerNesting)
      (hk : v.found.kind = .endOfSource) (h : p.Passes w p') (hp : p'.pending = [v.found])
  /-- The offending token would have been inside one construct too many. -/
  | before {w : List Token} {opener : Token} (he : v.expected = .shallowerNesting)
      (h : p.Passes (w ++ [opener]) p') (hp : p'.pending.head? = some v.found)
      (ho : OpensBehind (w.map Token.kind) opener.kind) (hd : total ≤ p.depth + w.length)

/-- Only the cursor matters. -/
theorem Stopped.congr {total : Nat} {v : Violation} {p'' : Parser text cap}
    (h : p.Stopped total v p') (hc : p''.lexer.cursor = p'.lexer.cursor) : p.Stopped total v p'' := by
  have hp := pending_eq_of_cursor_eq hc
  cases h with
  | behind he hk h => exact .behind he hk (h.congr hc)
  | atEnd he hk h hf => exact .atEnd he hk (h.congr hc) (hp.trans hf)
  | before he h hf ho hd => exact .before he (h.congr hc) (by rw [hp]; exact hf) ho hd

/-- However a parser is stopped, it has passed some tokens on the way there. -/
theorem Stopped.exists_passes {total : Nat} {v : Violation} (h : p.Stopped total v p') :
    ∃ w, p.Passes w p' := by
  cases h with
  | behind he hk h => exact ⟨_, h⟩
  | atEnd he hk h hp => exact ⟨_, h⟩
  | before he h hp ho hd => exact ⟨_, h⟩

/-- What would have opened one construct too many stands behind a token that has been passed. -/
theorem Stopped.exists_opener {total : Nat} {v : Violation} (h : p.Stopped total v p')
    (he : v.expected = .shallowerNesting) :
    ∃ w opener, p.Passes (w ++ [opener]) p' ∧ p'.pending.head? = some v.found ∧
      OpensBehind (w.map Token.kind) opener.kind ∧ total ≤ p.depth + w.length := by
  cases h with
  | behind he' hk h => exact absurd he he'
  | atEnd he' hk h hp => exact absurd he he'
  | before he' h hp ho hd => exact ⟨_, _, h, hp, ho, hd⟩

/-- How far a run has come that began in the state `p`: each construct that is open has been opened
by a token of its own. -/
def Advanced (p : Parser text cap) (total room : Nat) (p' : Parser text cap) : Prop :=
  p'.depth + room = total ∧ ∃ w, p.Passes w p' ∧ p'.depth ≤ p.depth + w.length

/-- What opens a construct in a run opens one behind the tokens that the run has passed. In front of
the body of a loop these are the ones before it, its beginning and its condition. -/
theorem opensBehind {total room n : Nat} (hp : p.Passes w p')
    (h : Opens (p.Advanced total room) n p') :
    OpensBehind (w.map Token.kind) (next p').1.kind := by
  cases h with
  | mark hq hk =>
    rw [hk]
    exact .mark hq
  | @loop s₀ h₀ hw hq he hk =>
    obtain ⟨-, w₀, hp₀, -⟩ := h₀
    obtain ⟨u, hu, hd⟩ := derives_of_expression_accepted he
    have hne : (next s₀).1.kind ≠ .endOfSource := by rw [hw]; nofun
    have hne' : (next (next s₀).2).1.kind ≠ .endOfSource := by rw [hq]; nofun
    have hcut : w = w₀ ++ (next s₀).1 :: (next (next s₀).2).1 :: u := by
      have hall := hp.pending_eq
      rw [hp₀.pending_eq, pending_of_ne_end hne, pending_of_ne_end hne', hu] at hall
      refine List.append_cancel_right (hall.symm.trans ?_)
      simp only [List.append_assoc, List.cons_append]
    have hkinds := congrArg (List.map Token.kind) hcut
    rw [List.map_append, List.map_cons, List.map_cons, hw, hq] at hkinds
    rw [hk]
    exact .loop hkinds (hd.mono le_top)

/-- All through a run from the state `p` the parser goes forward only, and stops as it should. -/
def advancing (p : Parser text cap) (total : Nat) : Invariant (Parser text cap) where
  holds := p.Advanced total
  broken room v p' := p'.depth + room = total ∧ p.Stopped total v p'
  read h _ hc := by
    obtain ⟨hd, w, hp, hle⟩ := h
    refine ⟨hd, _, hp.next (Terminal.ne_endOfSource_of_covers hc), ?_⟩
    rw [List.length_append, ← Nat.add_assoc]
    exact Nat.le_trans hle (Nat.le_add_right _ _)
  look h := by
    obtain ⟨hd, w, hp, hle⟩ := h
    exact ⟨hd, w, hp.congr rfl, hle⟩
  lookTwice h := by
    obtain ⟨hd, w, hp, hle⟩ := h
    exact ⟨hd, w, hp.congr rfl, hle⟩
  enter {m s} h ho := by
    obtain ⟨hd, w, hp, hle⟩ := h
    obtain ⟨q, hc⟩ := ho.exists_covers
    have hnext := hp.next (Terminal.ne_endOfSource_of_covers hc)
    have hdepth : (enter (next s).2).depth = s.depth + 1 := depth_enter _
    refine ⟨by omega, _, hnext.congr rfl, ?_⟩
    rw [List.length_append, List.length_singleton]
    omega
  leave {m s₀ s} h₀ h := by
    obtain ⟨hd₀, -⟩ := h₀
    obtain ⟨hd, w, hp, hle⟩ := h
    have hdepth := depth_leave s
    exact ⟨by omega, w, hp.congr rfl, by omega⟩
  failed_read {m s} h e he := by
    obtain ⟨hd, w, hp, -⟩ := h
    by_cases hk : (next s).1.kind = .endOfSource
    · refine ⟨hd, .atEnd he hk (hp.next_of_end hk) ?_⟩
      rw [pending_next_of_end hk, pending_of_end hk]
    · exact ⟨hd, .behind he hk (hp.next hk)⟩
  failed_end h hk e he := by
    obtain ⟨hd, w, hp, -⟩ := h
    refine ⟨hd, .atEnd he hk (hp.congr rfl) ?_⟩
    rw [pending_eq_of_cursor_eq rfl]
    exact pending_of_end hk
  failed_enter {s} h ho := by
    obtain ⟨hd, w, hp, hle⟩ := h
    obtain ⟨q, hc⟩ := ho.exists_covers
    have hnext := hp.next (Terminal.ne_endOfSource_of_covers hc)
    have hdepth : s.depth + 0 = total := hd
    refine ⟨hd, .before rfl (hnext.congr rfl) ?_ (opensBehind hp ho) (by omega)⟩
    rw [pending_eq_of_cursor_eq rfl]
    exact head?_pending _
  failed_leave {m v s₀ s} h₀ h := by
    obtain ⟨hd₀, -⟩ := h₀
    have hd := h.1
    have hdepth := depth_leave s
    exact ⟨by omega, h.2.congr rfl⟩

/-- At its beginning a run has all of its room and has opened nothing. -/
theorem advanced_refl (p : Parser text cap) (room : Nat) :
    p.Advanced (p.depth + room) room p :=
  ⟨rfl, [], .refl p, Nat.le_refl _⟩

end Parser

end Recognizer
