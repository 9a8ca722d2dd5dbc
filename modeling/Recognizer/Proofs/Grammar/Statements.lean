import Recognizer.Proofs.Grammar.Declarations

/-!
# Statements and blocks are recognized

The procedures for statements recognize the phrases for them. In a block a declaration and an
assignment may begin with the same token, an identifier; the token after it decides.
-/

namespace Recognizer.Grammar

open Phrase TokenTape

variable {room : ℕ} {follow : TokenKind → Bool} {t : TokenTape}

/-- What stands in a block. -/
def blockItem : Phrase :=
  either (rule .blockDeclaration) (rule .statement)

/-- The items of a block and the brace that closes it. -/
def blockBodyPhrase : Phrase :=
  nested (seq (many blockItem) (mark .closeBrace))

/-- What comes after the identifier at the beginning of an assignment. -/
def assignmentTail : Phrase :=
  seq (seq (option (rule .index)) (many (seq (mark .dot) leftValuePart)))
    (inOrder (.terminal (.operator .assign)) [rule .expression, mark .semicolon])

/-- What reads on after the identifier at the beginning of an assignment. -/
def assignmentRest (room : ℕ) : Procedure TokenTape true :=
  let part := identifier.andThen (index (bracketed room))
  ((index (bracketed room)).andThen (Procedure.repeatAfter (.punctuation .dot) part)).andThen
    ((Procedure.expect (.operator .assign) .assignment).andThen
      ((expression room).andThen (symbol .semicolon)))

/-- An assignment is an identifier and what comes after. -/
theorem language_assignment (n : ℕ∞) :
    Phrase.assignment.language n = (seq (.terminal .identifier) assignmentTail).language n := by
  simp only [Phrase.assignment, assignmentTail, leftValuePart, Rule.body, separated, inOrder,
    mark, language_seq, language_rule, mul_assoc]

/-- An expression and the semicolon after it. -/
theorem recognizes_terminated (room : ℕ) : Recognizes room
    (seq (rule .expression) (mark .semicolon)) follow
    ((expression room).andThen (symbol .semicolon)) :=
  (recognizes_expression room).andThen_of_not_nullable (recognizes_symbol _) rfl (by decide)

/-- The value of an assignment is read as the grammar has it. -/
theorem recognizes_assigned (room : ℕ) : Recognizes room
    (inOrder (.terminal (.operator .assign)) [rule .expression, mark .semicolon]) follow
    ((Procedure.expect (.operator .assign) .assignment).andThen
      ((expression room).andThen (symbol .semicolon))) :=
  .expectThen (fun _ h => h) rfl (recognizes_terminated room)

/-- What comes after the identifier of an assignment is read as the grammar has it. -/
theorem recognizes_assignmentRest (room : ℕ) :
    Recognizes room assignmentTail follow (assignmentRest room) := by
  have hi := recognizes_bracketed room
  have hindex : Recognizes room (option (rule .index)) (fun k => k != .punctuation .openBracket)
      (index (bracketed room)) := recognizes_index hi
  have hleft := hindex.andThen (recognizes_leftValueParts hi) (by decide)
  exact hleft.andThen_of_not_nullable (recognizes_assigned room) rfl (by decide)

/-- An assignment passes its identifier first. -/
theorem run_assignment_of_identifier (h : t.kind = .identifier) :
    (assignment room).run t = (assignmentRest room).run t.tail := by
  have hc : Terminal.identifier.covers t.kind = true := beq_iff_eq.2 h
  change ((((Procedure.expect _ _).run t).bind _).bind _).bind _ = _
  rw [Procedure.run_expect_of_covers _ hc]
  rfl

/-- An assignment that begins with an identifier is read as the grammar has it. -/
theorem recognition_assignment (h : t.kind = .identifier) :
    Recognition room Phrase.assignment follow t ((assignment room).run t) := by
  have hc : Terminal.identifier.covers t.kind = true := beq_iff_eq.2 h
  rw [run_assignment_of_identifier h]
  exact (Recognition.afterToken hc (recognizes_assignmentRest room t.tail)).congr fun n =>
    (language_assignment n).symm

/-- A return statement is read as the grammar has it. -/
theorem recognizes_returnStatement (room : ℕ) :
    Recognizes room returning follow (returnStatement room) :=
  recognizes_wordThen .returnWord (recognizes_terminated room)

/-- A loop is read as the grammar has it if its body is. -/
theorem recognizes_whileWith {repeated : Procedure TokenTape true}
    (hr : Recognizes room (nested (rule .statement)) follow repeated) :
    Recognizes room whileLoop follow (whileWith room repeated) := by
  have hclose : Recognizes room (seq (mark .closeParen) (nested (rule .statement))) follow
      ((symbol .closeParen).andThen repeated) := recognizes_symbolThen .closeParen hr
  have hcond := (recognizes_expression room).andThen_of_not_nullable hclose rfl (by decide)
  have hopen := recognizes_symbolThen .openParen hcond
  exact recognizes_wordThen .whileWord hopen

/-- A block is read as the grammar has it if its items are. -/
theorem recognizes_blockWith {body : Procedure TokenTape false}
    (hb : Recognizes room blockBodyPhrase follow body) :
    Recognizes room (rule .block) follow (blockWith body) :=
  .rule (recognizes_symbolThen .openBrace hb)

/-- A statement is read as the grammar has it if the constructs inside it are. -/
theorem recognizes_statementWith {body : Procedure TokenTape false}
    {repeated : Procedure TokenTape true}
    (hb : Recognizes room blockBodyPhrase follow body)
    (hr : Recognizes room (nested (rule .statement)) follow repeated) :
    Recognizes room (rule .statement) follow (statementWith room body repeated) := by
  refine .rule fun t => ?_
  rw [statementWith, Procedure.run_peek]
  split
  · next hk =>
    exact (recognizes_whileWith hr t).left_of_eq hk rfl
  · next hk =>
    exact ((recognizes_blockWith hb t).left_of_eq hk rfl).right_of_eq hk rfl
  · next hk =>
    exact (((recognition_assignment hk).left_of_eq hk rfl).right_of_eq hk rfl).right_of_eq hk rfl
  · next hk =>
    have hreturn : Recognition room (either returning (mark .semicolon)) follow t
        ((returnStatement room).run t) := (recognizes_returnStatement room t).left_of_eq hk rfl
    exact ((hreturn.right_of_eq hk rfl).right_of_eq hk rfl).right_of_eq hk rfl
  · next hw hb hi hr =>
    have hwhile : ∀ k, k ≠ .keyword .whileWord → whileLoop.first k = false := by decide
    have hblock : ∀ k, k ≠ .punctuation .openBrace → Rule.first .block k = false := by decide
    have hassign : ∀ k, k ≠ .identifier → Phrase.assignment.first k = false := by decide
    have hreturn : ∀ k, k ≠ .keyword .returnWord → returning.first k = false := by decide
    refine ((((recognizes_symbol _ t).right ?_).right ?_).right ?_).right ?_
    · rw [leads_eq_first rfl, hreturn _ hr]
    · rw [leads_eq_first rfl, hassign _ hi]
    · rw [leads_eq_first rfl]
      exact hblock _ hb
    · rw [leads_eq_first rfl, hwhile _ hw]

/-- The alternatives of a block item that do not begin with an identifier. -/
def otherItem : Phrase :=
  oneOf (seq basicType typedTail) [rule .classDeclaration, whileLoop, rule .block, returning,
    mark .semicolon]

/-- What may come after an identifier at the beginning of a block item. -/
def itemTail : Phrase :=
  either (seq declarators (mark .semicolon)) assignmentTail

/-- A block item with its first identifier taken out. -/
theorem language_blockItem (n : ℕ∞) :
    (either (seq (.terminal .identifier) itemTail) otherItem).language n =
      blockItem.language n := by
  simp only [blockItem, itemTail, otherItem, typedTail, Rule.body, oneOf, inOrder, language_seq,
    language_either, language_rule, language_assignment, mul_add]
  ac_rfl

/-- Two identifiers in a row begin a declaration. -/
theorem recognition_item_of_declaration (h : t.kind = .identifier)
    (h' : t.tail.kind = .identifier) :
    Recognition room blockItem follow t ((declaration room).run t) := by
  have hc : Terminal.identifier.covers t.kind = true := beq_iff_eq.2 h
  have hne : t.tail.kind ≠ .punctuation .semicolon := kind_ne_of_eq h' nofun
  have hrun : (declaration room).run t = (typedRest room).run t.tail :=
    run_declarationWith_of_single (.inl h)
  have htail : Recognition room itemTail follow t.tail ((typedRest room).run t.tail) :=
    (recognition_typedRest hne).left_of_eq h' rfl
  rw [hrun]
  have hitem := (Recognition.afterToken hc htail).left_of_eq (q := otherItem) h rfl
  exact hitem.congr language_blockItem

/-- An identifier that no other identifier comes after begins an assignment. -/
theorem recognition_item_of_assignment (h : t.kind = .identifier)
    (h' : t.tail.kind ≠ .identifier) :
    Recognition room blockItem follow t ((assignment room).run t) := by
  have hc : Terminal.identifier.covers t.kind = true := beq_iff_eq.2 h
  have hl : (seq declarators (mark .semicolon)).leads follow t.tail.kind = false := by
    rw [leads_eq_first rfl]
    have hd : ∀ k, k ≠ .identifier → (seq declarators (mark .semicolon)).first k = false := by
      decide
    exact hd _ h'
  have htail : Recognition room itemTail follow t.tail ((assignmentRest room).run t.tail) :=
    (recognizes_assignmentRest room t.tail).right hl
  rw [run_assignment_of_identifier h]
  have hitem := (Recognition.afterToken hc htail).left_of_eq (q := otherItem) h rfl
  exact hitem.congr language_blockItem

/-- A statement that begins with an identifier is an assignment. -/
theorem run_statement_of_identifier (h : t.kind = .identifier) :
    (statement room).run t = (assignment room).run t := by
  rw [statement_eq, statementWith, Procedure.run_peek, h]

/-- The two tokens that are looked at tell a declaration from a statement. -/
theorem recognition_item (hs : Recognizes room (rule .statement) follow (statement room))
    (t : TokenTape) :
    Recognition room blockItem follow t ((if beginsDeclaration t.kind t.tail.kind then
      declaration room else statement room).run t) := by
  cases hb : beginsDeclaration t.kind t.tail.kind with
  | true =>
    rw [if_pos rfl]
    by_cases hi : t.kind = .identifier
    · have ht : t.tail.kind = .identifier := by
        rw [hi] at hb
        exact eq_of_beq hb
      exact recognition_item_of_declaration hi ht
    · have hd : Recognition room (rule .blockDeclaration) follow t ((declaration room).run t) :=
        recognition_blockDeclaration fun h => absurd h hi
      have hk : t.kind = .keyword .classWord ∨ t.kind.isBasicType = true := by
        simpa [beginsDeclaration, hi] using hb
      have hstatement : ∀ k : TokenKind, k = .keyword .classWord ∨ k.isBasicType = true →
          Rule.first .statement k = false := by decide
      refine hd.left ?_
      rw [leads_eq_first rfl]
      exact hstatement _ hk
  | false =>
    rw [if_neg (by decide)]
    by_cases hi : t.kind = .identifier
    · have ht : t.tail.kind ≠ .identifier := by
        intro ht
        rw [hi, ht] at hb
        cases hb
      rw [run_statement_of_identifier hi]
      exact recognition_item_of_assignment hi ht
    · have hk : t.kind ≠ .keyword .classWord ∧ t.kind.isBasicType = false := by
        simpa [beginsDeclaration, hi] using hb
      refine (hs t).right ?_
      rw [leads_eq_first rfl]
      simp [first, Rule.first, hk, hi]

/-- The items of a block up to the closing brace. -/
theorem recognizes_items
    (hs : Recognizes room (rule .statement) (fun _ => true) (statement room)) :
    Recognizes room (seq (many blockItem) (mark .closeBrace)) follow
      (items (declaration room) (Procedure.delay fun _ => statement room)) := by
  have hturn (t : TokenTape) : TurnRecognition room blockItem (mark .closeBrace) (fun _ => true)
      follow t (itemTurn (declaration room) (Procedure.delay fun _ => statement room) t) := by
    rw [itemTurn]
    split
    · next hk =>
      change t.kind = _ at hk
      exact .closeBrace hk (by rw [hk]; rfl)
    · next hk =>
      split
      · next hk' =>
        change t.kind = _ at hk'
        exact .missingBrace hk' (by rw [hk']; rfl) _
      · dsimp only
        rw [rewind_next_next]
        refine .item rfl (recognition_item hs t) ?_
        rw [leads_eq_first rfl]
        exact beq_eq_false_iff_ne.2 hk
  exact .loop hturn rfl fun _ _ => rfl

/-- With room for one construct more, the items of a block are read as the grammar has it. -/
theorem recognizes_blockBody_succ
    (hs : Recognizes room (rule .statement) (fun _ => true) (statement room)) :
    Recognizes (room + 1 : ℕ) blockBodyPhrase follow (blockBody (room + 1)) := by
  rw [Nat.cast_add_one]
  exact (recognizes_items hs).nested

/-- With room for one construct more, so is the body of a loop. -/
theorem recognizes_loopBody_succ (hs : Recognizes room (rule .statement) follow (statement room)) :
    Recognizes (room + 1 : ℕ) (nested (rule .statement)) follow (loopBody (room + 1)) := by
  rw [Nat.cast_add_one]
  exact Recognizes.nested (f := Procedure.delay fun _ => statement room) hs

/-- A statement is read as the grammar has it, as deep as there is room. -/
theorem recognizes_statement (room : ℕ) :
    Recognizes room (rule .statement) (fun _ => true) (statement room) := by
  induction room with
  | zero =>
    rw [statement_eq]
    exact recognizes_statementWith .nested_zero .nested_zero
  | succ room ih =>
    rw [statement_eq]
    exact recognizes_statementWith (recognizes_blockBody_succ ih) (recognizes_loopBody_succ ih)

/-- A block is read as the grammar has it, as deep as there is room. -/
theorem recognizes_block (room : ℕ) : Recognizes room (rule .block) follow (block room) := by
  refine recognizes_blockWith ?_
  cases room with
  | zero => exact .nested_zero
  | succ room => exact recognizes_blockBody_succ (recognizes_statement room)

end Recognizer.Grammar
