import Recognizer.Grammar.Program

/-!
# Tapes

On a tape nothing but the tokens decides what is read: looking ahead and putting back leaves
the tape as it was. A program that is accepted has been read up to the end.
-/

namespace Recognizer

open TokenSource Procedure

/-- An item that is accepted does not end its loop. -/
theorem Procedure.Turn.ofItem_ne_stop_accepted {σ : Type} (o : Outcome σ) (s : σ) :
    Turn.ofItem o ≠ .stop (.accepted s) := by
  cases o <;> nofun

namespace TokenTape

/-- The kind of the next token. -/
def kind (t : TokenTape) : TokenKind :=
  t.next.1.kind

/-- The tape after one token. -/
def tail (t : TokenTape) : TokenTape :=
  t.next.2

/-- Reading a token leaves as many constructs open as there were. -/
theorem next_depth (t : TokenTape) : t.next.2.depth = t.depth := by
  unfold next
  split
  · rfl
  · split <;> rfl

/-- Looking at a token and putting it back changes nothing. -/
theorem rewind_next (t : TokenTape) : rewind t (TokenSource.next t).2 = t := by
  have hd := next_depth t
  change TokenTape.mk t.tokens t.next.2.depth = t
  rw [hd]

/-- Looking at two tokens and putting them back changes nothing. -/
theorem rewind_next_next (t : TokenTape) :
    rewind t (TokenSource.next (TokenSource.next t).2).2 = t := by
  have hd := next_depth t
  have hd' := next_depth t.next.2
  change TokenTape.mk t.tokens t.next.2.next.2.depth = t
  rw [hd', hd]

/-- Where a token before the end stands, it is the first of those left. -/
theorem tokens_eq_cons {t : TokenTape} (h : t.kind ≠ .endOfSource) :
    t.tokens = t.next.1 :: t.tail.tokens := by
  unfold kind tail next at *
  split at h
  · exact absurd rfl h
  · next token rest ht =>
    simp only [ht]
    rw [if_neg h]

/-- The kind of the next token is that of the first on the tape. -/
theorem kind_of_tokens_eq_cons {t : TokenTape} {token : Token} {rest : List Token}
    (h : t.tokens = token :: rest) : t.kind = token.kind := by
  simp only [kind, next, h]

/-- The next token depends on the tokens that are left only. -/
theorem kind_of_tokens_eq {t t' : TokenTape} (h : t.tokens = t'.tokens) : t.kind = t'.kind := by
  simp only [kind, next, h]
  cases t'.tokens <;> rfl

/-- Reading the end again changes nothing. -/
theorem tail_of_end {t : TokenTape} (h : t.kind = .endOfSource) : t.tail = t := by
  cases ht : t.tokens with
  | nil => simp only [tail, next, ht]
  | cons token rest =>
    have hk : token.kind = .endOfSource := (kind_of_tokens_eq_cons ht).symm.trans h
    simp only [tail, next, ht]
    rw [if_pos hk]

/-- A program is accepted only in front of the end. -/
theorem kind_of_program_accepted {room : Nat} {t t' : TokenTape}
    (h : (Grammar.program room).run t = .accepted t') : t'.kind = .endOfSource := by
  change iterate _ (Grammar.programTurn_within _ _) t = _ at h
  fun_induction iterate (Grammar.programTurn (Grammar.mainFunction room)
    (Grammar.declaration room)) (Grammar.programTurn_within _ _) t with
  | case1 t t₁ ht hlt ih => exact ih h
  | case2 t o ht =>
    subst h
    unfold Grammar.programTurn at ht
    dsimp only at ht
    split at ht
    · next hk =>
      rw [rewind_next] at ht
      cases ht
      exact hk
    · exact absurd ht (Turn.ofItem_ne_stop_accepted _ _)

end TokenTape

end Recognizer
