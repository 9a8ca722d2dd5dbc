import Recognizer.Proofs.Grammar.Plan
import Recognizer.Proofs.Lexical.Stream

/-!
# A cascade of levels is a chain of operands

The levels of binary operators nest loop in loop, and the same token is looked at by one loop after
the other until one of them reads it. Since looking at a token that has just been put back changes
nothing, the loops come to the same as a single one: operands, with an operator of any level between
one and the next.
-/

namespace Recognizer

open Procedure TokenSource

/-! ### Looking again -/

/-- Sources of tokens that a token read twice leaves as it left them at first. -/
class Rereadable (σ : Type) [TokenSource σ] : Prop where
  /-- Only the last state matters for where a source is put back to. -/
  rewind_rewind (saved now later : σ) : rewind (rewind saved now) later = rewind saved later
  /-- What is read again is read with the same outcome. -/
  next_look (s : σ) : next (rewind s (next s).2) = next s

section

variable {σ : Type} [TokenSource σ]

/-- Read the next token and put it back. -/
def look (s : σ) : σ :=
  rewind s (next s).2

variable [Rereadable σ]

/-- Looking at a token does not change which one comes next. -/
theorem next_look (s : σ) : next (look s) = next s :=
  Rereadable.next_look s

/-- Looking twice is looking once. -/
theorem look_look (s : σ) : look (look s) = look s := by
  rw [look, next_look]
  exact Rereadable.rewind_rewind s (next s).2 (next s).2

end

namespace Lexer

variable {text : List Char} {cap : Nat}

/-- A token that has been read and put back is read again without a report. -/
theorem fresh_rewind_next (l : Lexer text cap) : (rewind l l.next.2).fresh = [] := by
  unfold fresh
  dsimp only
  split
  · rfl
  · next hmark =>
    change ¬ (l.cursor.reading cap).start.offset < max l.mark (l.cursor.reading cap).stop.offset
      at hmark
    refine List.map_eq_nil_iff.2 (Reading.faults_of_end ?_)
    by_cases hend : (l.cursor.reading cap).token.kind = .endOfSource
    · exact hend
    · have hlt := Reading.start_lt_stop hend
      change (l.cursor.reading cap).start.offset < (l.cursor.reading cap).stop.offset at hlt
      omega

/-- A token that has been read and put back is read again with the same outcome. -/
theorem next_rewind_next (l : Lexer text cap) : (rewind l l.next.2).next = l.next := by
  have hmark : max l.next.2.mark l.next.2.cursor.position.offset = l.next.2.mark := by
    change max (max l.mark _) _ = max l.mark _
    exact Nat.max_eq_left (Nat.le_max_right ..)
  have hreported : l.next.2.reported ++ (rewind l l.next.2).fresh = l.next.2.reported := by
    rw [fresh_rewind_next]
    exact Array.toList_inj.1 (by simp)
  change (l.next.1, Lexer.mk l.next.2.cursor (max l.next.2.mark l.next.2.cursor.position.offset)
    (l.next.2.reported ++ (rewind l l.next.2).fresh)) = l.next
  rw [hmark, hreported]

end Lexer

instance (text : List Char) (cap : Nat) : Rereadable (Parser text cap) where
  rewind_rewind _ _ _ := rfl
  next_look p := by
    have hnext := Lexer.next_rewind_next p.lexer
    change ((Lexer.rewind p.lexer p.lexer.next.2).next.1,
      Parser.mk (Lexer.rewind p.lexer p.lexer.next.2).next.2 p.depth) = _
    rw [hnext]
    rfl

/-! ### Chains -/

/-- Whether a token is an operator of one of the levels. -/
def TokenKind.isOperatorAmong (levels : List Operator.Category) (kind : TokenKind) : Bool :=
  levels.any fun level => (Terminal.operatorOf level).covers kind

namespace TokenKind

variable {kind : TokenKind}

/-- The end of the source is no operator. -/
theorem ne_endOfSource_of_isOperatorAmong {levels : List Operator.Category}
    (h : kind.isOperatorAmong levels = true) : kind ≠ .endOfSource := by
  obtain ⟨level, -, hc⟩ := List.any_eq_true.1 h
  exact Terminal.ne_endOfSource_of_covers hc

/-- An operator of several levels is one of the first of them or of the others. -/
theorem isOperatorAmong_cons (level : Operator.Category) (levels : List Operator.Category) :
    kind.isOperatorAmong (level :: levels) =
      ((Terminal.operatorOf level).covers kind || kind.isOperatorAmong levels) :=
  rfl

end TokenKind

namespace Procedure

variable {σ : Type} [TokenSource σ] {a : Bool}

/-- One turn of a loop over items, each behind an operator of any of the levels. -/
def operatorTurn (levels : List Operator.Category) (item : Procedure σ a) (s : σ) : Turn σ :=
  if (next s).1.kind.isOperatorAmong levels then .ofItem (item.run (next s).2)
  else .stop (.accepted (look s))

/-- A turn that goes on has passed an operator. -/
theorem operatorTurn_within (levels : List Operator.Category) (item : Procedure σ a) (s : σ) :
    (operatorTurn levels item s).Within (remaining s) := by
  unfold operatorTurn
  split
  · next hc =>
    have hnext := remaining_next_lt (TokenKind.ne_endOfSource_of_isOperatorAmong hc)
    refine Turn.ofItem_within fun s' hs => ?_
    have hitem := item.progress hs
    omega
  · exact Nat.le_of_eq (remaining_rewind ..)

/-- As long as the next token is an operator of any of the levels, read it and then an item. -/
def repeatAfterOperator (levels : List Operator.Category) (item : Procedure σ a) :
    Procedure σ false :=
  loop (operatorTurn levels item) (operatorTurn_within levels item)

variable {levels : List Operator.Category} {item : Procedure σ a} {s : σ}

/-- Behind an operator there is an item, and then the loop goes on. -/
theorem run_repeatAfterOperator_of_among (h : (next s).1.kind.isOperatorAmong levels = true) :
    (repeatAfterOperator levels item).run s =
      (item.run (next s).2).bind (repeatAfterOperator levels item).run :=
  iterate_of_item _ (if_pos h)

/-- Any other token ends the loop, which has looked at it. -/
theorem run_repeatAfterOperator_of_not_among
    (h : (next s).1.kind.isOperatorAmong levels = false) :
    (repeatAfterOperator levels item).run s = .accepted (look s) :=
  iterate_of_stop _ (if_neg (ne_true_of_eq_false h))

/-- Loops that take the same turns run in the same way. -/
theorem loop_congr {turn turn' : σ → Turn σ} {h : ∀ s, (turn s).Within (remaining s)}
    {h' : ∀ s, (turn' s).Within (remaining s)} (ht : ∀ s, turn s = turn' s) :
    loop turn h = loop turn' h' := by
  obtain rfl : turn = turn' := funext ht
  rfl

/-- A loop behind the operators of one level is one behind the operators of any of one level. -/
theorem repeatAfter_operatorOf (level : Operator.Category) (item : Procedure σ a) :
    repeatAfter (.operatorOf level) item = repeatAfterOperator [level] item := by
  refine loop_congr fun s => ?_
  have hlevel : (next s).1.kind.isOperatorAmong [level] =
      (Terminal.operatorOf level).covers (next s).1.kind := Bool.or_false _
  rw [operatorTurn, hlevel]
  rfl

/-- A loop behind the operators of some levels is split by the loosest one: a loop behind the other
operators, and then one behind the operators of that level, whose items are followed by the others.
Each turn of the single loop leaves less to read, and behind an operator and an item both go on in
the same way. -/
theorem run_repeatAfterOperator_cons [Rereadable σ] (level : Operator.Category)
    (levels : List Operator.Category) (item : Procedure σ true) (s : σ) :
    (repeatAfterOperator (level :: levels) item).run s =
      ((repeatAfterOperator levels item).run s).bind
        (repeatAfterOperator [level] (item.andThen (repeatAfterOperator levels item))).run := by
  induction hn : remaining s using Nat.strongRecOn generalizing s with
  | ind n ih =>
    have hcons : (next s).1.kind.isOperatorAmong (level :: levels) =
        ((Terminal.operatorOf level).covers (next s).1.kind ||
          (next s).1.kind.isOperatorAmong levels) := TokenKind.isOperatorAmong_cons ..
    have hitem (h : (next s).1.kind ≠ .endOfSource) :
        (item.run (next s).2).bind (repeatAfterOperator (level :: levels) item).run =
          ((item.run (next s).2).bind (repeatAfterOperator levels item).run).bind
            (repeatAfterOperator [level] (item.andThen (repeatAfterOperator levels item))).run := by
      have hnext := remaining_next_lt h
      cases hi : item.run (next s).2 with
      | rejected v s' => rfl
      | accepted s' =>
        have hprogress := item.progress hi
        exact ih (remaining s') (by omega) s' rfl
    cases hlevels : (next s).1.kind.isOperatorAmong levels with
    | true =>
      have hall : (next s).1.kind.isOperatorAmong (level :: levels) = true := by
        rw [hcons, hlevels, Bool.or_true]
      rw [run_repeatAfterOperator_of_among hall, run_repeatAfterOperator_of_among hlevels]
      exact hitem (TokenKind.ne_endOfSource_of_isOperatorAmong hall)
    | false =>
      rw [hlevels, Bool.or_false] at hcons
      have hone : (next (look s)).1.kind.isOperatorAmong [level] =
          (Terminal.operatorOf level).covers (next s).1.kind := by
        rw [next_look]
        exact Bool.or_false _
      rw [run_repeatAfterOperator_of_not_among hlevels]
      change _ = (repeatAfterOperator [level] _).run (look s)
      cases hc : (Terminal.operatorOf level).covers (next s).1.kind with
      | true =>
        rw [hc] at hcons hone
        rw [run_repeatAfterOperator_of_among hcons, run_repeatAfterOperator_of_among hone,
          next_look]
        exact hitem (TokenKind.ne_endOfSource_of_isOperatorAmong hcons)
      | false =>
        rw [hc] at hcons hone
        rw [run_repeatAfterOperator_of_not_among hcons, run_repeatAfterOperator_of_not_among hone,
          look_look]

end Procedure

namespace Grammar

section

variable {σ : Type} [TokenSource σ]

/-- Operands with operators of the levels between them. -/
def chain (inner : Procedure σ true) (levels : List Operator.Category) : Procedure σ true :=
  (operand inner).andThen (repeatAfterOperator levels (operand inner))

/-- An expression in brackets, with chains in the place of cascades. -/
def bracketedChain : Nat → Procedure σ true
  | 0 => rejectNext .shallowerNesting
  | room + 1 => nested (delay fun _ => chain (bracketedChain room) Operator.binaryLevels)

variable [Rereadable σ]

/-- A chain is split at the operators of its loosest level. -/
theorem chain_cons (inner : Procedure σ true) (level : Operator.Category)
    (levels : List Operator.Category) :
    chain inner (level :: levels) =
      (chain inner levels).andThen (repeatAfterOperator [level] (chain inner levels)) := by
  refine Routine.eq_of_run_eq (funext fun s => ?_)
  change ((operand inner).run s).bind _ = (((operand inner).run s).bind _).bind _
  cases (operand inner).run s with
  | rejected v s' => rfl
  | accepted s' => exact run_repeatAfterOperator_cons level levels (operand inner) s'

/-- A cascade of at least one level is a chain. -/
theorem cascade_eq_chain (inner : Procedure σ true) (level : Operator.Category)
    (tighter : List Operator.Category) :
    cascade inner (level :: tighter) = chain inner (level :: tighter) := by
  induction tighter generalizing level with
  | nil =>
    change (operand inner).andThen (repeatAfter (.operatorOf level) (operand inner)) = _
    rw [repeatAfter_operatorOf]
    rfl
  | cons next tighter ih =>
    change (cascade inner (next :: tighter)).andThen
      (repeatAfter (.operatorOf level) (cascade inner (next :: tighter))) = _
    rw [ih, repeatAfter_operatorOf, chain_cons inner level]

/-- An expression is a chain of operands with binary operators between them. -/
theorem expression_eq_chain (room : Nat) :
    expression (σ := σ) room = chain (bracketed room) Operator.binaryLevels :=
  cascade_eq_chain (bracketed room) .equality _

/-- In brackets, too, cascades may be replaced by chains. -/
theorem bracketed_eq_bracketedChain (room : Nat) :
    bracketed (σ := σ) room = bracketedChain room := by
  induction room with
  | zero => rfl
  | succ room ih => rw [bracketed_succ, bracketedChain, expression_eq_chain, ih]

end

/-- Wherever a parser stands, reading an expression is reading a chain of operands with operators of
any of the five levels between them: the same is accepted or rejected, at the same token with the
same words, and the parser is left with the same cursor, depth, mark and reports. That is so whether
the expressions in brackets are cascades or chains. -/
theorem run_expression_eq_run_chain {text : List Char} {cap : Nat} (room : Nat)
    (p : Parser text cap) :
    (expression room).run p = (chain (bracketed room) Operator.binaryLevels).run p ∧
      (expression room).run p = (chain (bracketedChain room) Operator.binaryLevels).run p := by
  have h : (expression room).run p = (chain (bracketed room) Operator.binaryLevels).run p := by
    rw [expression_eq_chain]
  refine ⟨h, ?_⟩
  rw [h, bracketed_eq_bracketedChain]

end Grammar

end Recognizer
