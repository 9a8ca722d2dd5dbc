import Recognizer.Proofs.Grammar.Combinators

/-!
# Expressions are recognized

The procedures for expressions recognize the phrases for them. What may follow an operand or a
level of operators is what cannot make it longer.
-/

namespace Recognizer.Grammar

open Phrase TokenTape

/-- What may follow a left value: nothing that makes it longer. -/
def afterLeftValue (k : TokenKind) : Bool :=
  k != .punctuation .dot && k != .punctuation .openBracket

/-- What may follow operators of some levels: nothing that makes the last operand longer, and no
operator of these levels. -/
def afterBinary (levels : List Operator.Category) (k : TokenKind) : Bool :=
  afterLeftValue k && !k.isAfterOperand &&
    levels.all fun level => !(Terminal.operatorOf level).covers k

/-- What may follow an expression. -/
def afterExpression (k : TokenKind) : Bool :=
  afterBinary Operator.binaryLevels k

/-- What closes an expression in parentheses or in the brackets of an index. -/
def closing (k : TokenKind) : Bool :=
  k == .punctuation .closeParen || k == .punctuation .closeBracket

/-- An operator of one level may follow the tighter levels. -/
theorem afterBinary_of_covers {level : Operator.Category} {tighter : List Operator.Category}
    (h : level :: tighter <:+ Operator.binaryLevels) :
    ∀ k, (Terminal.operatorOf level).covers k = true → afterBinary tighter k = true := by
  have ht := (List.mem_tails _ _).2 h
  simp only [Operator.binaryLevels, List.tails, List.mem_cons, List.not_mem_nil, or_false,
    List.cons.injEq, reduceCtorEq] at ht
  rcases ht with ⟨rfl, rfl⟩ | ⟨rfl, rfl⟩ | ⟨rfl, rfl⟩ | ⟨rfl, rfl⟩ | ⟨rfl, rfl⟩ <;> decide

/-- What may follow more levels may follow fewer. -/
theorem afterBinary_of_cons {level : Operator.Category} {tighter : List Operator.Category}
    {k : TokenKind} (h : afterBinary (level :: tighter) k = true) :
    afterBinary tighter k = true ∧ (Terminal.operatorOf level).covers k = false := by
  simp only [afterBinary, List.all_cons, Bool.and_eq_true, Bool.not_eq_true'] at h ⊢
  obtain ⟨ho, hl, ht⟩ := h
  exact ⟨⟨ho, ht⟩, hl⟩

section

variable {room : ℕ∞} {follow : TokenKind → Bool} {inner : Procedure TokenTape true}

/-- A constant is one token. -/
theorem recognizes_constant : Recognizes room (.terminal .number) follow constant :=
  .expect (fun _ h => h) rfl

/-- A mark is one token. -/
theorem recognizes_symbol (p : Punctuation) : Recognizes room (mark p) follow (symbol p) :=
  .expect (fun _ h => h) rfl

section

variable {a : Bool} {q : Phrase} {g : Procedure TokenTape a}

/-- A mark is read and then what comes after. -/
theorem recognizes_symbolThen (p : Punctuation) (hg : Recognizes room q follow g) :
    Recognizes room (seq (mark p) q) follow ((symbol p).andThen g) :=
  .expectThen (fun _ h => h) rfl hg

/-- A reserved word is read and then what comes after. -/
theorem recognizes_wordThen (k : Keyword) (hg : Recognizes room q follow g) :
    Recognizes room (seq (word k) q) follow
      ((Procedure.expect (.keyword k) (.keyword k)).andThen g) :=
  .expectThen (fun _ h => h) rfl hg

/-- An identifier is read and then what comes after. -/
theorem recognizes_identifierThen (hg : Recognizes room q follow g) :
    Recognizes room (seq (.terminal .identifier) q) follow (identifier.andThen g) :=
  .expectThen (fun _ h => h) rfl hg

/-- A constant is read and then what comes after. -/
theorem recognizes_constantThen (hg : Recognizes room q follow g) :
    Recognizes room (seq (.terminal .number) q) follow (constant.andThen g) :=
  .expectThen (fun _ h => h) rfl hg

end

/-- An index is optional, and read if its bracket is there. -/
theorem recognizes_index (hi : Recognizes room (nested (rule .expression)) closing inner) :
    Recognizes room (option (rule .index)) (fun k => k != .punctuation .openBracket)
      (index inner) := by
  have hbrackets : Recognizes room (seq (nested (rule .expression)) (mark .closeBracket))
      (fun k => k != .punctuation .openBracket) (inner.andThen (symbol .closeBracket)) :=
    hi.andThen_of_not_nullable (recognizes_symbol _) rfl (by decide)
  have hopt : Recognizes room (option (Rule.body .index))
      (fun k => k != .punctuation .openBracket) (index inner) :=
    hbrackets.ifNext .done (by decide)
  refine hopt.congr fun n => ?_
  rw [option, option, language_either, language_either, language_rule]

/-- An identifier and its index are a part of a left value. -/
theorem recognizes_leftValuePart (hi : Recognizes room (nested (rule .expression)) closing inner) :
    Recognizes room leftValuePart (fun k => k != .punctuation .openBracket)
      (identifier.andThen (index inner)) :=
  recognizes_identifierThen (recognizes_index hi)

/-- More parts of a left value come behind dots. -/
theorem recognizes_leftValueParts (hi : Recognizes room (nested (rule .expression)) closing inner) :
    Recognizes room (many (seq (mark .dot) leftValuePart)) afterLeftValue
      (Procedure.repeatAfter (.punctuation .dot) (identifier.andThen (index inner))) :=
  (recognizes_leftValuePart hi).repeatAfter (by decide) (by decide)

/-- A left value is read as the grammar has it if the expressions in its brackets are. -/
theorem recognizes_leftValueWith (hi : Recognizes room (nested (rule .expression)) closing inner) :
    Recognizes room (rule .leftValue) afterLeftValue (leftValueWith inner) :=
  .rule ((recognizes_leftValuePart hi).andThen (recognizes_leftValueParts hi) (by decide))

/-- A primary expression is read as the grammar has it if the one in its parentheses is. -/
theorem recognizes_primary (hi : Recognizes room (nested (rule .expression)) closing inner) :
    Recognizes room (rule .primary) afterLeftValue (primary inner) := by
  have hclose : Recognizes room (seq (nested (rule .expression)) (mark .closeParen))
      afterLeftValue (inner.andThen (symbol .closeParen)) :=
    hi.andThen_of_not_nullable (recognizes_symbol _) rfl (by decide)
  have hparens := recognizes_symbolThen .openParen hclose
  have hleft : ∀ k, k ≠ .identifier → (rule .leftValue).leads afterLeftValue k = false := by
    decide
  refine .rule fun t => ?_
  rw [primary, Procedure.run_peek]
  split
  · next hk =>
    exact (recognizes_leftValueWith hi t).left_of_eq hk rfl
  · next hk =>
    exact ((hparens t).left_of_eq hk rfl).right_of_eq hk rfl
  · next hk hk' =>
    refine ((recognizes_constant t).right ?_).right (hleft _ hk)
    have hparen : ∀ k, k ≠ .punctuation .openParen → (inOrder (mark .openParen)
        [nested (rule .expression), mark .closeParen]).leads afterLeftValue k = false := by
      decide
    exact hparen _ hk'

/-- An operand is read as the grammar has it, with the operators in front of it and behind it. -/
theorem recognizes_operand (hi : Recognizes room (nested (rule .expression)) closing inner) :
    Recognizes room (rule .operand) (afterBinary []) (operand inner) := by
  have hafter : Recognizes room (option (.terminal .afterOperand)) (afterBinary [])
      (Procedure.optional .afterOperand) := .optional (by decide)
  have hpost : Recognizes room (seq (rule .primary) (option (.terminal .afterOperand)))
      (afterBinary []) (postfixed inner) :=
    (recognizes_primary hi).andThen hafter (by decide)
  have hbefore : Recognizes room (option (.terminal .beforeOperand)) (Rule.first .primary)
      (Procedure.optional .beforeOperand) := .optional (by decide)
  exact .rule (hbefore.andThen hpost (by decide))

/-- Each level of operators takes what the tighter levels leave. -/
theorem recognizes_cascade (hi : Recognizes room (nested (rule .expression)) closing inner)
    {levels : List Operator.Category} (hl : levels <:+ Operator.binaryLevels) :
    Recognizes room (binary levels) (afterBinary levels) (cascade inner levels) := by
  induction levels with
  | nil => exact recognizes_operand hi
  | cons level tighter ih =>
    have hitem := ih ((List.suffix_cons level tighter).trans hl)
    have hmore : Recognizes room (many (seq (.terminal (.operatorOf level)) (binary tighter)))
        (afterBinary (level :: tighter))
        (Procedure.repeatAfter (.operatorOf level) (cascade inner tighter)) :=
      hitem.repeatAfter (afterBinary_of_covers hl) fun k => afterBinary_of_cons
    refine hitem.andThen hmore fun k hk => ?_
    simp only [leads, first, nullable, Bool.false_and, Bool.or_false, Bool.true_and,
      Bool.or_eq_true] at hk
    rcases hk with hk | hk
    · exact afterBinary_of_covers hl k hk
    · exact (afterBinary_of_cons hk).1

end

/-- An expression in parentheses or brackets is read as the grammar has it, as deep as there is
room. -/
theorem recognizes_bracketed (room : ℕ) :
    Recognizes room (nested (rule .expression)) closing (bracketed room) := by
  induction room with
  | zero => exact .nested_zero
  | succ room ih =>
    have hexpr : Recognizes room (rule .expression) afterExpression
        (Procedure.delay fun _ => expression (σ := TokenTape) room) :=
      .rule (recognizes_cascade ih (List.suffix_refl _))
    rw [bracketed_succ, Nat.cast_add_one]
    exact (hexpr.mono (by decide)).nested

/-- An expression is read as the grammar has it. -/
theorem recognizes_expression (room : ℕ) :
    Recognizes room (rule .expression) afterExpression (expression room) :=
  .rule (recognizes_cascade (recognizes_bracketed room) (List.suffix_refl _))

end Recognizer.Grammar
