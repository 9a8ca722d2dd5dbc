import Recognizer.Proofs.Check.Pending
import Recognizer.Proofs.Grammar.Programs

/-!
# What is chosen and what is not

In a block two tokens decide between a declaration and a statement, and in a program between a main
function and a declaration. The choice is final. But nothing is lost by it: what was not chosen
would have met a violation at one of these two tokens, but for a type that a semicolon follows.
-/

namespace Recognizer

open TokenSource TokenTape

namespace Grammar

variable {room : Nat} {t : TokenTape}

/-! ### A statement in the place of a declaration -/

/-- No statement begins with a word that begins a declaration. -/
theorem run_statement_of_word (h : t.kind = .keyword .classWord ∨ t.kind.isBasicType = true) :
    (statement room).run t = .rejected ⟨t.next.1, .symbol .semicolon⟩ t.tail := by
  have hword : t.kind = .keyword .classWord ∨ t.kind = .keyword .charWord ∨
      t.kind = .keyword .intWord ∨ t.kind = .keyword .shortWord ∨ t.kind = .keyword .longWord :=
    h.imp_right word_of_isBasicType
  have hc : (Terminal.punctuation .semicolon).covers t.kind = false := by
    rcases hword with hk | hk | hk | hk | hk <;> rw [hk] <;> rfl
  have hrun : (statement room).run t = (symbol .semicolon).run t := by
    rw [statement_eq, statementWith, Procedure.run_peek]
    rcases hword with hk | hk | hk | hk | hk <;> rw [hk]
  rw [hrun]
  exact Procedure.run_expect_of_not_covers _ hc

/-- An assignment goes on behind its first identifier with a bracket, a dot or the assignment
sign. -/
theorem run_assignmentRest_of_ne (hbracket : t.kind ≠ .punctuation .openBracket)
    (hdot : t.kind ≠ .punctuation .dot) (hassign : t.kind ≠ .operator .assign) :
    (assignmentRest room).run t = .rejected ⟨t.next.1, .assignment⟩ t.tail := by
  have hindex : (index (bracketed room)).run t = .accepted t :=
    Procedure.run_ifNext_of_not_covers _ _ (beq_eq_false_iff_ne.2 hbracket)
  have hparts : (Procedure.repeatAfter (.punctuation .dot)
      (identifier.andThen (index (bracketed room)))).run t = .accepted t :=
    Procedure.run_repeatAfter_of_not_covers _ (beq_eq_false_iff_ne.2 hdot)
  have hc : (Terminal.operator .assign).covers t.kind = false := beq_eq_false_iff_ne.2 hassign
  change ((((index (bracketed room)).run t).bind _).bind _) = _
  rw [hindex]
  change ((Procedure.run _ t).bind _) = _
  rw [hparts]
  exact Procedure.run_expect_andThen_of_not_covers _ _ hc

/-- A statement that begins with an identifier is an assignment, which a second identifier or a
semicolon cannot go on. -/
theorem run_statement_of_identifier_of (h : t.kind = .identifier)
    (ht : t.tail.kind = .identifier ∨ t.tail.kind = .punctuation .semicolon) :
    (statement room).run t = .rejected ⟨t.tail.next.1, .assignment⟩ t.tail.tail := by
  have hne {k : TokenKind} (hi : .identifier ≠ k) (hs : .punctuation .semicolon ≠ k) :
      t.tail.kind ≠ k := by
    rcases ht with ht | ht
    · exact kind_ne_of_eq ht hi
    · exact kind_ne_of_eq ht hs
  rw [run_statement_of_identifier h, run_assignment_of_identifier h]
  exact run_assignmentRest_of_ne (hne nofun nofun) (hne nofun nofun) (hne nofun nofun)

/-! ### A declaration in the place of a statement or of a main function -/

/-- Between a type and a semicolon nothing is needed. -/
theorem run_typedRest_of_semicolon (h : t.kind = .punctuation .semicolon) :
    (typedRest room).run t = .accepted t.tail := by
  have hnone : (declaratorList room).run t = .accepted t := by
    rw [declaratorList, Procedure.run_peek, if_pos h]
    rfl
  have hc : (Terminal.punctuation .semicolon).covers t.kind = true := covers_of_eq h rfl
  change ((declaratorList room).run t).bind _ = _
  rw [hnone]
  exact Procedure.run_expect_of_covers _ hc

/-- Anything else behind a type has to be a declarator, which begins with an identifier. -/
theorem run_typedRest_of_ne (hs : t.kind ≠ .punctuation .semicolon) (hi : t.kind ≠ .identifier) :
    (typedRest room).run t = .rejected ⟨t.next.1, .identifier⟩ t.tail := by
  have hc : Terminal.identifier.covers t.kind = false := beq_eq_false_iff_ne.2 hi
  have hlist : (declaratorList room).run t = .rejected ⟨t.next.1, .identifier⟩ t.tail := by
    rw [declaratorList, Procedure.run_peek, if_neg hs]
    change ((declarator room).run t).bind _ = _
    rw [declarator, identifier, Procedure.run_expect_andThen_of_not_covers _ _ hc]
    rfl
  change ((declaratorList room).run t).bind _ = _
  rw [hlist]
  rfl

/-- The name of a type takes up one token unless the word `int` comes second. -/
theorem run_declaration_of_typeName (hc : Terminal.typeName.covers t.kind = true)
    (hi : t.tail.kind ≠ .keyword .intWord) :
    (declaration room).run t = (typedRest room).run t.tail := by
  have hclass : t.kind ≠ .keyword .classWord := by
    intro hk
    rw [hk] at hc
    cases hc
  have hhead : typeHead.run t = .accepted t.tail := by
    by_cases h : t.kind = .keyword .shortWord ∨ t.kind = .keyword .longWord
    · rw [run_typeHead_of_eq h]
      exact Procedure.run_ifNext_of_not_covers _ _ (beq_eq_false_iff_ne.2 hi)
    · obtain ⟨hs, hl⟩ := not_or.1 h
      rw [run_typeHead_of_ne hs hl]
      exact Procedure.run_expect_of_covers _ hc
  rw [declaration, run_declarationWith_of_ne_class hclass]
  change ((typeHead.run t).bind _).bind _ = _
  rw [hhead]
  rfl

/-- A class has a name. -/
theorem run_declaration_of_class (h : t.kind = .keyword .classWord)
    (ht : t.tail.kind ≠ .identifier) :
    (declaration room).run t = .rejected ⟨t.tail.next.1, .identifier⟩ t.tail.tail := by
  have hc : (Terminal.keyword .classWord).covers t.kind = true := covers_of_eq h rfl
  have hi : Terminal.identifier.covers t.tail.kind = false := beq_eq_false_iff_ne.2 ht
  rw [declaration, run_declarationWith_of_class h]
  change ((classWith (classBody room)).run t).bind _ = _
  rw [classWith, Procedure.run_expect_andThen_of_covers _ _ hc, identifier,
    Procedure.run_expect_andThen_of_not_covers _ _ hi]
  rfl

/-! ### Where the alternative stops -/

/-- Where a statement stops that begins as a declaration does. -/
def statementViolation (first second : Token) : Violation :=
  if first.kind = .identifier then ⟨second, .assignment⟩ else ⟨first, .symbol .semicolon⟩

/-- Where a declaration stops whose first token does not name a type, or whose second one neither
names a class or a variable nor ends the declaration. -/
def declarationViolation (first second : Token) : Violation :=
  if first.kind = .keyword .classWord ∨ Terminal.typeName.covers first.kind = true then
    ⟨second, .identifier⟩
  else ⟨first, .typeOrClass⟩

/-- Where a main function stops that does not begin with the words `int` and `main`. -/
def mainViolation (first second : Token) : Violation :=
  if first.kind = .keyword .intWord then ⟨second, .keyword .mainWord⟩ else ⟨first, .intBeforeMain⟩

/-- A declaration begins with a word that begins no other item, or with two identifiers. -/
theorem beginsDeclaration_iff {first second : TokenKind} :
    beginsDeclaration first second = true ↔
      (first = .keyword .classWord ∨ first.isBasicType = true) ∨
        first = .identifier ∧ second = .identifier := by
  rw [beginsDeclaration, Bool.or_eq_true, Bool.or_eq_true, Bool.and_eq_true, beq_iff_eq,
    beq_iff_eq, beq_iff_eq]

/-- A type that is no built-in one is named by an identifier. -/
theorem covers_typeName_iff {kind : TokenKind} (h : kind.isBasicType = false) :
    Terminal.typeName.covers kind = true ↔ kind = .identifier := by
  rw [Terminal.covers, h, Bool.false_or, beq_iff_eq]

/-- A declaration begins with the word `class` or with a type. -/
theorem violation?_declaration_of_other (hc : Terminal.typeName.covers t.kind = false)
    (hk : t.kind ≠ .keyword .classWord) :
    ((declaration room).run t).violation? =
      some (declarationViolation t.next.1 t.tail.next.1) := by
  have hnone : ¬ (t.kind = .keyword .classWord ∨ Terminal.typeName.covers t.kind = true) :=
    not_or.2 ⟨hk, ne_true_of_eq_false hc⟩
  rw [declaration, run_declarationWith_of_rejected hc hk]
  exact congrArg some (if_neg hnone).symm

/-- Where two tokens begin a declaration, no statement goes on behind them. -/
theorem violation?_statement (h : beginsDeclaration t.kind t.tail.kind = true) :
    ((statement room).run t).violation? = some (statementViolation t.next.1 t.tail.next.1) := by
  rcases beginsDeclaration_iff.1 h with hword | ⟨hf, hs⟩
  · have hne : t.kind ≠ .identifier := by
      rintro hk
      rw [hk] at hword
      rcases hword with hword | hword <;> cases hword
    rw [run_statement_of_word hword]
    exact congrArg some (if_neg hne).symm
  · rw [run_statement_of_identifier_of hf (.inl hs)]
    exact congrArg some (if_pos hf).symm

/-- Where two tokens do not begin a declaration by the rule for blocks, no declaration goes on
behind them, unless they are an identifier and a semicolon. -/
theorem violation?_declaration (h : beginsDeclaration t.kind t.tail.kind = false)
    (hne : ¬ (t.kind = .identifier ∧ t.tail.kind = .punctuation .semicolon)) :
    ((declaration room).run t).violation? =
      some (declarationViolation t.next.1 t.tail.next.1) := by
  obtain ⟨hword, hidentifiers⟩ := not_or.1 (mt beginsDeclaration_iff.2 (ne_true_of_eq_false h))
  obtain ⟨hclass, hbasic⟩ := not_or.1 hword
  have htype := covers_typeName_iff (Bool.eq_false_of_not_eq_true hbasic)
  by_cases hf : t.kind = .identifier
  · have hs : t.tail.kind ≠ .punctuation .semicolon := fun hs => hne ⟨hf, hs⟩
    have hi : t.tail.kind ≠ .identifier := fun hi => hidentifiers ⟨hf, hi⟩
    rw [declaration, run_declarationWith_of_single (.inl hf), run_typedRest_of_ne hs hi]
    exact congrArg some (if_pos (.inr (htype.2 hf))).symm
  · exact violation?_declaration_of_other (Bool.eq_false_of_not_eq_true (mt htype.1 hf)) hclass

/-- No declaration has the word `main` in the second place. -/
theorem violation?_declaration_of_main (h : t.tail.kind = .keyword .mainWord) :
    ((declaration room).run t).violation? =
      some (declarationViolation t.next.1 t.tail.next.1) := by
  by_cases hclass : t.kind = .keyword .classWord
  · rw [run_declaration_of_class hclass (kind_ne_of_eq h nofun)]
    exact congrArg some (if_pos (.inl hclass)).symm
  · cases hc : Terminal.typeName.covers t.kind with
    | true =>
      rw [run_declaration_of_typeName hc (kind_ne_of_eq h nofun),
        run_typedRest_of_ne (kind_ne_of_eq h nofun) (kind_ne_of_eq h nofun)]
      exact congrArg some (if_pos (.inr hc)).symm
    | false => exact violation?_declaration_of_other hc hclass

/-- A main function has the word `main` in the second place. -/
theorem violation?_mainFunction (h : t.tail.kind ≠ .keyword .mainWord) :
    ((mainFunction room).run t).violation? = some (mainViolation t.next.1 t.tail.next.1) := by
  by_cases hf : t.kind = .keyword .intWord
  · have hc : (Terminal.keyword .mainWord).covers t.tail.kind = false := beq_eq_false_iff_ne.2 h
    rw [run_mainFunction_of_int hf, mainRest, Procedure.run_expect_andThen_of_not_covers _ _ hc]
    exact congrArg some (if_pos hf).symm
  · rw [run_mainFunction_of_ne_int hf]
    exact congrArg some (if_neg hf).symm

end Grammar

open Grammar

variable {text : List Char} {cap : Nat}

/-- From a place where these two tokens are next at most one of two alternatives goes on behind
them. -/
structure Exclusive (room : Nat) (first second : Token) (p : Parser text cap) : Prop where
  /-- Where a declaration is chosen in a block, a statement is rejected. -/
  noStatement (h : beginsDeclaration first.kind second.kind = true) :
    ((statement room).run p).violation? = some (statementViolation first second)
  /-- Where a statement is chosen, a declaration is rejected, with one exception. -/
  noDeclaration (h : beginsDeclaration first.kind second.kind = false)
    (hne : ¬ (first.kind = .identifier ∧ second.kind = .punctuation .semicolon)) :
    ((declaration room).run p).violation? = some (declarationViolation first second)
  /-- The exception is a declaration that consists of these two tokens. A statement is chosen and
  rejected. -/
  exception (hf : first.kind = .identifier) (hs : second.kind = .punctuation .semicolon) :
    beginsDeclaration first.kind second.kind = false ∧
      ((statement room).run p).violation? = some ⟨second, .assignment⟩ ∧
      ∃ p', (declaration room).run p = .accepted p' ∧ p'.tape = (next (next p).2).2.tape
  /-- Where a main function is chosen, a declaration is rejected. -/
  noDeclarationOfMain (h : second.kind = .keyword .mainWord) :
    ((declaration room).run p).violation? = some (declarationViolation first second)
  /-- Where a declaration is chosen in a program, a main function is rejected. -/
  noMain (h : second.kind ≠ .keyword .mainWord) :
    ((mainFunction room).run p).violation? = some (mainViolation first second)

/-- The two tokens that are next exclude one of two alternatives. -/
theorem exclusive_next (room : Nat) (p : Parser text cap) :
    Exclusive room (next p).1 (next (next p).2).1 p := by
  have hfirst : p.tape.next.1 = (next p).1 := congrArg Prod.fst p.next_tape
  have htail : p.tape.tail = (next p).2.tape := congrArg Prod.snd p.next_tape
  have hsecond : p.tape.tail.next.1 = (next (next p).2).1 := by
    rw [htail]
    exact congrArg Prod.fst (next p).2.next_tape
  have hbehind : p.tape.tail.tail = (next (next p).2).2.tape := by
    rw [htail]
    exact congrArg Prod.snd (next p).2.next_tape
  rw [← hfirst, ← hsecond]
  refine ⟨fun h => ?_, fun h hne => ?_, fun hf hs => ⟨?_, ?_, ?_⟩, fun h => ?_, fun h => ?_⟩
  · exact (p.violation?_routine room .statement).trans (violation?_statement h)
  · exact (p.violation?_routine room .declaration).trans (violation?_declaration h hne)
  · rw [hf, hs]
    rfl
  · have hrun : (statement room).run p.tape = _ := run_statement_of_identifier_of hf (.inr hs)
    exact (p.violation?_routine room .statement).trans (congrArg Outcome.violation? hrun)
  · have hrun : (declaration room).run p.tape = .accepted p.tape.tail.tail := by
      rw [declaration, run_declarationWith_of_single (.inl hf), run_typedRest_of_semicolon hs]
    have ha := (Parser.tapeSimulation text cap).respects_routine room .declaration p p.tape rfl
    change (Parser.tapeSimulation text cap).Agree ((declaration room).run p)
      ((declaration room).run p.tape) at ha
    rw [hrun] at ha
    generalize (declaration room).run p = o at ha
    cases ha with
    | @accepted p' _ h => exact ⟨p', rfl, h.symm.trans hbehind⟩
  · exact (p.violation?_routine room .declaration).trans (violation?_declaration_of_main h)
  · exact (p.violation?_routine room .mainFunction).trans (violation?_mainFunction h)

/-- In a block and in a program two tokens are looked at, and one alternative is run. The other one,
run from the same state or from the one in front of the lookahead, is rejected at one of the two
tokens, unless these are an identifier and a semicolon in a block. So what is rejected because of
the choice would have been rejected anyway, with that exception. -/
theorem lookahead_loses_nothing (room : Nat) (p : Parser text cap) :
    let first := (next p).1
    let second := (next (next p).2).1
    let ahead := rewind p (next (next p).2).2
    (first.kind ≠ .punctuation .closeBrace → first.kind ≠ .endOfSource →
        itemTurn (declaration room) (statement room) p =
          .ofItem ((if beginsDeclaration first.kind second.kind then declaration room
            else statement room).run ahead)) ∧
      (first.kind ≠ .endOfSource →
        programTurn (mainFunction room) (declaration room) p =
          .ofItem ((if second.kind = .keyword .mainWord then mainFunction room
            else declaration room).run ahead)) ∧
      Exclusive room first second ahead ∧ Exclusive room first second p := by
  intro first second ahead
  refine ⟨fun hbrace hend => ?_, fun hend => ?_, exclusive_next room ahead, exclusive_next room p⟩
  · exact (if_neg hbrace).trans (if_neg hend)
  · exact if_neg hend

end Recognizer
