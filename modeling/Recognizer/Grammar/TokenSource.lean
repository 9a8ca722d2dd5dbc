import Recognizer.Lexical.Lexer

/-!
# Sources of tokens

The grammar reads tokens one at a time and sometimes looks ahead: it reads on and puts the
source back. It also says when a nested construct is entered and left. Whatever offers these
operations, and has less left whenever a token other than the end was read, is a source of
tokens. Two are defined here: a parser, which reads its tokens from a text only when they are
asked for, and a tape, on which all tokens stand already.
-/

namespace Recognizer

/-- States from which tokens can be read and read again. -/
class TokenSource (σ : Type) where
  /-- Read the next token. -/
  next : σ → Token × σ
  /-- The state `now`, put back to read from where `saved` does. -/
  rewind (saved now : σ) : σ
  /-- Enter a nested construct. -/
  enter : σ → σ
  /-- Leave a nested construct. -/
  leave : σ → σ
  /-- A bound on the number of tokens before the end. -/
  remaining : σ → Nat
  /-- Reading never leaves more. -/
  remaining_next_le (s : σ) : remaining (next s).2 ≤ remaining s
  /-- Reading a token before the end leaves less. -/
  remaining_next_lt {s : σ} (h : (next s).1.kind ≠ .endOfSource) :
    remaining (next s).2 < remaining s
  /-- Putting back restores what is left. -/
  remaining_rewind (saved now : σ) : remaining (rewind saved now) = remaining saved
  /-- Entering a construct reads nothing. -/
  remaining_enter (s : σ) : remaining (enter s) = remaining s
  /-- Leaving a construct reads nothing. -/
  remaining_leave (s : σ) : remaining (leave s) = remaining s

/-- A reader of tokens from a text, with the number of constructs it is inside of. -/
structure Parser (text : List Char) (cap : Nat) where
  /-- Where the tokens come from. -/
  lexer : Lexer text cap
  /-- Number of constructs that are open. -/
  depth : Nat

namespace Parser

variable {text : List Char} {cap : Nat}

/-- A parser at the beginning of a text. -/
def start (text : List Char) (cap : Nat) : Parser text cap :=
  ⟨.start text cap, 0⟩

instance : TokenSource (Parser text cap) where
  next p := (p.lexer.next.1, { p with lexer := p.lexer.next.2 })
  rewind saved now := { now with lexer := saved.lexer.rewind now.lexer }
  enter p := { p with depth := p.depth + 1 }
  leave p := { p with depth := p.depth - 1 }
  remaining p := p.lexer.remaining
  remaining_next_le p := p.lexer.remaining_next_le
  remaining_next_lt h := Lexer.remaining_next_lt h
  remaining_rewind _ _ := rfl
  remaining_enter _ := rfl
  remaining_leave _ := rfl

theorem depth_enter (p : Parser text cap) : (TokenSource.enter p).depth = p.depth + 1 := rfl

theorem depth_leave (p : Parser text cap) : (TokenSource.leave p).depth = p.depth - 1 := rfl

end Parser

/-- Tokens that stand one after the other, with the number of constructs that are open. -/
structure TokenTape where
  /-- The tokens that have not been read. -/
  tokens : List Token
  /-- Number of constructs that are open. -/
  depth : Nat
  deriving DecidableEq, Repr

namespace TokenTape

/-- Read the next token. The end stays where it is and is read again and again. -/
def next (t : TokenTape) : Token × TokenTape :=
  match t.tokens with
  | [] => (⟨.endOfSource, "", 1, 1⟩, t)
  | token :: rest =>
    (token, if token.kind = .endOfSource then t else { t with tokens := rest })

/-- Reading a token of a tape other than the end takes it off the tape. -/
theorem remaining_next_lt {t : TokenTape} (h : t.next.1.kind ≠ .endOfSource) :
    t.next.2.tokens.length < t.tokens.length := by
  unfold next at h ⊢
  split at h
  · exact absurd rfl h
  · next token rest ht =>
    simp only [ht]
    rw [if_neg h]
    exact Nat.lt_succ_self _

/-- Reading never puts a token on the tape. -/
theorem remaining_next_le (t : TokenTape) : t.next.2.tokens.length ≤ t.tokens.length := by
  by_cases h : t.next.1.kind = .endOfSource
  · unfold next at h ⊢
    split at h
    · exact Nat.le_refl _
    · next token rest ht =>
      simp only [ht]
      rw [if_pos h]
      exact Nat.le_of_eq (congrArg List.length ht)
  · exact Nat.le_of_lt (remaining_next_lt h)

instance : TokenSource TokenTape where
  next := next
  rewind saved now := { now with tokens := saved.tokens }
  enter t := { t with depth := t.depth + 1 }
  leave t := { t with depth := t.depth - 1 }
  remaining t := t.tokens.length
  remaining_next_le := remaining_next_le
  remaining_next_lt := remaining_next_lt
  remaining_rewind _ _ := rfl
  remaining_enter _ := rfl
  remaining_leave _ := rfl

end TokenTape

end Recognizer
