import Recognizer.Proofs.Grammar.Expressions

/-!
# Declarations are recognized

The procedures for declarations recognize the phrases for them, in which the alternatives are
told apart by the type. A declaration in a block differs from others only in what may follow a
type that is an identifier.
-/

namespace Recognizer

open Phrase TokenTape

namespace TurnRecognition

variable {room : ℕ∞} {item : Phrase} {between follow : TokenKind → Bool} {t : TokenTape}

/-- A closing brace ends a body. -/
theorem closeBrace (h : t.kind = .punctuation .closeBrace) (hi : item.first t.kind = false) :
    TurnRecognition room item (mark .closeBrace) between follow t (.stop (.accepted t.tail)) := by
  have hc : (Terminal.punctuation .closeBrace).covers t.kind = true := covers_of_eq h rfl
  exact .last rfl (.token hc) hi

/-- The end of the source inside a body is a violation. -/
theorem missingBrace (h : t.kind = .endOfSource) (hi : item.first t.kind = false)
    (s : TokenTape) : TurnRecognition room item (mark .closeBrace) between follow t
      (.stop (.rejected ⟨t.next.1, .symbol .closeBrace⟩ s)) := by
  refine .last rfl (.here List.nil_prefix ?_ ?_) hi
  · intro k hk
    exact ⟨[], .terminal hk⟩
  · rw [h]
    rfl

end TurnRecognition

namespace Grammar

variable {room : ℕ} {follow : TokenKind → Bool} {t : TokenTape}

/-- What may follow a declarator. -/
def afterDeclarator (k : TokenKind) : Bool :=
  k == .punctuation .comma || k == .punctuation .semicolon

/-- What may follow a type. -/
def afterType (k : TokenKind) : Bool :=
  k == .identifier || k == .punctuation .semicolon

/-- What may follow a list of declarators or the body of a class. -/
def beforeSemicolon (k : TokenKind) : Bool :=
  k == .punctuation .semicolon

/-- Nothing but a semicolon leads a semicolon. -/
theorem semicolon_leads (follow : TokenKind → Bool) (k : TokenKind)
    (h : (mark .semicolon).leads follow k = true) : beforeSemicolon k = true := by
  rwa [leads_eq_first rfl] at h

/-- The members of a class and the brace that closes it. -/
def classBodyPhrase : Phrase :=
  nested (seq (many (rule .declaration)) (mark .closeBrace))

/-- What stands between a type and the end of its declaration. -/
def typedTail : Phrase :=
  seq (option declarators) (mark .semicolon)

/-- A declarator is read as the grammar has it. -/
theorem recognizes_declarator (room : ℕ) :
    Recognizes room (rule .declarator) afterDeclarator (declarator room) := by
  have hsize : Recognizes room (seq (.terminal .number) (mark .closeBracket)) afterDeclarator
      (constant.andThen (symbol .closeBracket)) :=
    recognizes_constantThen (recognizes_symbol _)
  have hvalue : Recognizes room (rule .expression) afterDeclarator (expression room) :=
    (recognizes_expression room).mono (by decide)
  have hbrackets : Recognizes room
      (option (inOrder (mark .openBracket) [.terminal .number, mark .closeBracket]))
      afterDeclarator (Procedure.ifNext (.punctuation .openBracket)
        (constant.andThen (symbol .closeBracket)) .done) := hsize.ifNext .done (by decide)
  have hrest := hvalue.ifNext (c := .operator .assign) hbrackets (by decide)
  have hall := recognizes_identifierThen hrest
  refine .rule (hall.congr fun n => ?_)
  simp only [Rule.body, option, inOrder, mark, language_seq, language_either, add_assoc]

/-- In front of anything but a semicolon there has to be a declarator. -/
theorem recognition_declarators (h : t.kind ≠ .punctuation .semicolon) :
    Recognition room declarators beforeSemicolon t ((declaratorList room).run t) := by
  have hitem := recognizes_declarator room
  have hmore : Recognizes room (many (seq (mark .comma) (rule .declarator))) beforeSemicolon
      (Procedure.repeatAfter (.punctuation .comma) (declarator room)) :=
    hitem.repeatAfter (by decide) (by decide)
  rw [declaratorList, Procedure.run_peek, if_neg h]
  exact hitem.andThen hmore (by decide) t

/-- So is a list of declarators, which may be empty in front of a semicolon. -/
theorem recognizes_declaratorList (room : ℕ) :
    Recognizes room (option declarators) beforeSemicolon (declaratorList room) := by
  intro t
  by_cases h : t.kind = .punctuation .semicolon
  · have hrun : (declaratorList room).run t = .accepted t := by
      rw [declaratorList, Procedure.run_peek, if_pos h]
      rfl
    rw [hrun]
    exact (Recognition.done t).right_of_eq h rfl
  · refine (recognition_declarators h).left ?_
    simp [leads, first, nullable, beforeSemicolon, h]

/-- In front of anything but `short` and `long` one word is expected as the type. -/
theorem run_typeHead_of_ne (hs : t.kind ≠ .keyword .shortWord) (hl : t.kind ≠ .keyword .longWord) :
    typeHead.run t = (Procedure.expect .typeName .typeOrClass).run t := by
  rw [typeHead, Procedure.run_peek, if_neg (not_or.2 ⟨hs, hl⟩)]

/-- Behind `short` and `long` the word `int` is optional. -/
theorem run_typeHead_of_eq (h : t.kind = .keyword .shortWord ∨ t.kind = .keyword .longWord) :
    typeHead.run t = (Procedure.optional (.keyword .intWord)).run t.tail := by
  have hc : Terminal.typeName.covers t.kind = true := by
    rcases h with h | h
    · exact covers_of_eq h rfl
    · exact covers_of_eq h rfl
  rw [typeHead, Procedure.run_peek, if_pos h, Procedure.run_expect_andThen_of_covers _ _ hc]

/-- The words that a built-in type begins with. -/
theorem word_of_isBasicType {k : TokenKind} (h : k.isBasicType = true) :
    k = .keyword .charWord ∨ k = .keyword .intWord ∨ k = .keyword .shortWord ∨
      k = .keyword .longWord := by
  revert k
  decide

/-- A built-in type, which may consist of two words. -/
theorem recognition_basicType (h : t.kind.isBasicType = true) :
    Recognition room basicType afterType t (typeHead.run t) := by
  have hint : Recognizes room (option (word .intWord)) afterType
      (Procedure.optional (.keyword .intWord)) := .optional (by decide)
  have htwo (h : Recognition room
      (either (word .shortWord) (word .longWord)) (fun _ => true) t (.accepted t.tail)) :
      Recognition room (seq (either (word .shortWord) (word .longWord)) (option (word .intWord)))
        afterType t ((Procedure.optional (.keyword .intWord)).run t.tail) :=
    h.bind (f := fun t => (Procedure.optional (.keyword .intWord)).run t) (fun _ _ => rfl)
      fun t' _ => hint t'
  rcases word_of_isBasicType h with hk | hk | hk | hk
  · have hc : Terminal.typeName.covers t.kind = true := covers_of_eq hk rfl
    have hword : Recognition room (word .charWord) afterType t (.accepted t.tail) :=
      .token (covers_of_eq hk rfl)
    rw [run_typeHead_of_ne (kind_ne_of_eq hk nofun) (kind_ne_of_eq hk nofun),
      Procedure.run_expect_of_covers _ hc]
    exact hword.left_of_eq hk rfl
  · have hc : Terminal.typeName.covers t.kind = true := covers_of_eq hk rfl
    have hword : Recognition room (word .intWord) afterType t (.accepted t.tail) :=
      .token (covers_of_eq hk rfl)
    rw [run_typeHead_of_ne (kind_ne_of_eq hk nofun) (kind_ne_of_eq hk nofun),
      Procedure.run_expect_of_covers _ hc]
    exact (hword.left_of_eq hk rfl).right_of_eq hk rfl
  · have hword : Recognition room (word .shortWord) (fun _ => true) t (.accepted t.tail) :=
      .token (covers_of_eq hk rfl)
    rw [run_typeHead_of_eq (.inl hk)]
    exact ((htwo (hword.left_of_eq hk rfl)).right_of_eq hk rfl).right_of_eq hk rfl
  · have hword : Recognition room (word .longWord) (fun _ => true) t (.accepted t.tail) :=
      .token (covers_of_eq hk rfl)
    rw [run_typeHead_of_eq (.inr hk)]
    exact ((htwo (hword.right_of_eq hk rfl)).right_of_eq hk rfl).right_of_eq hk rfl

/-- The body of a class, its name and the semicolon after it. -/
theorem recognizes_classWith {body : Procedure TokenTape false}
    (hb : Recognizes room classBodyPhrase beforeSemicolon body) :
    Recognizes room (rule .classDeclaration) follow
      ((classWith body).andThen (symbol .semicolon)) := by
  have hhead : Recognizes room (inOrder (word .classWord)
      [.terminal .identifier, mark .openBrace, classBodyPhrase]) beforeSemicolon
      (classWith body) := by
    have hbrace := recognizes_symbolThen .openBrace hb
    have hname := recognizes_identifierThen hbrace
    exact recognizes_wordThen .classWord hname
  have hclass : Recognizes room _ follow _ :=
    hhead.andThen_of_not_nullable (recognizes_symbol .semicolon) rfl (by decide)
  refine .rule (hclass.congr fun n => ?_)
  simp only [Rule.body, classBodyPhrase, inOrder, word, mark, language_seq, mul_assoc]

/-- What comes after a type: its declarators and the semicolon. -/
def typedRest (room : ℕ) : Procedure TokenTape true :=
  (declaratorList room).andThen (symbol .semicolon)

/-- What comes after a type is read as the grammar has it. -/
theorem recognizes_typedRest (room : ℕ) : Recognizes room typedTail follow (typedRest room) :=
  (recognizes_declaratorList room).andThen_of_not_nullable (recognizes_symbol _) rfl (by decide)

/-- In front of anything but a semicolon the declarators cannot be left out. -/
theorem recognition_typedRest (h : t.kind ≠ .punctuation .semicolon) :
    Recognition room (seq declarators (mark .semicolon)) follow t ((typedRest room).run t) :=
  (recognition_declarators h).bind (semicolon_leads follow) fun t' _ => recognizes_symbol _ t'

/-- The alternatives of a declaration; `typed` is what may follow a type that is an identifier. -/
def declarationPhrase (typed : Phrase) : Phrase :=
  oneOf (seq basicType typedTail) [seq (.terminal .identifier) typed, rule .classDeclaration]

section

variable {body : Procedure TokenTape false} {typed : Phrase}

/-- The word `class` makes a declaration that of a class. -/
theorem run_declarationWith_of_class (h : t.kind = .keyword .classWord) :
    (declarationWith room body).run t = ((classWith body).andThen (symbol .semicolon)).run t := by
  change ((Procedure.peek _).run t).bind _ = _
  rw [Procedure.run_peek, if_pos h]
  rfl

/-- Any other word makes a declaration begin with a type. -/
theorem run_declarationWith_of_ne_class (h : t.kind ≠ .keyword .classWord) :
    (declarationWith room body).run t =
      ((typeHead.andThen (declaratorList room)).andThen (symbol .semicolon)).run t := by
  change ((Procedure.peek _).run t).bind _ = _
  rw [Procedure.run_peek, if_neg h]
  rfl

/-- After an identifier or the word `int`, which are types of their own, the declarators come
next. -/
theorem run_declarationWith_of_single
    (h : t.kind = .identifier ∨ t.kind = .keyword .intWord) :
    (declarationWith room body).run t = (typedRest room).run t.tail := by
  have hrun {k : TokenKind} (hk : t.kind = k) (hc : Terminal.typeName.covers k = true)
      (hclass : k ≠ .keyword .classWord) (hs : k ≠ .keyword .shortWord)
      (hl : k ≠ .keyword .longWord) :
      (declarationWith room body).run t = (typedRest room).run t.tail := by
    rw [run_declarationWith_of_ne_class (kind_ne_of_eq hk hclass)]
    change ((typeHead.run t).bind _).bind _ = _
    rw [run_typeHead_of_ne (kind_ne_of_eq hk hs) (kind_ne_of_eq hk hl),
      Procedure.run_expect_of_covers _ (covers_of_eq hk hc)]
    rfl
  rcases h with hk | hk
  · exact hrun hk rfl nofun nofun nofun
  · exact hrun hk rfl nofun nofun nofun

/-- A token that begins no type is a violation. -/
theorem run_declarationWith_of_rejected (hc : Terminal.typeName.covers t.kind = false)
    (hk : t.kind ≠ .keyword .classWord) :
    (declarationWith room body).run t = .rejected ⟨t.next.1, .typeOrClass⟩ t.tail := by
  have hs : t.kind ≠ .keyword .shortWord := by
    intro hs
    rw [hs] at hc
    cases hc
  have hl : t.kind ≠ .keyword .longWord := by
    intro hl
    rw [hl] at hc
    cases hc
  rw [run_declarationWith_of_ne_class hk]
  change ((typeHead.run t).bind _).bind _ = _
  rw [run_typeHead_of_ne hs hl, Procedure.run_expect_of_not_covers _ hc]
  rfl

/-- Every built-in type is one by its first word. -/
theorem derives_basicType {n : ℕ∞} {k : TokenKind} (hk : k.isBasicType = true) :
    Derives n basicType [k] := by
  rcases word_of_isBasicType hk with rfl | rfl | rfl | rfl
  · exact .left _ (.terminal rfl)
  · exact .right _ (.left _ (.terminal rfl))
  · exact .right _ (.right _ (.seq (.left _ (.terminal rfl)) (.right _ .empty)))
  · exact .right _ (.right _ (.seq (.right _ (.terminal rfl)) (.right _ .empty)))

/-- A data type or the word that opens a class begins a declaration. -/
theorem exists_declarationPhrase (typed : Phrase) {k : TokenKind}
    (h : Expectation.typeOrClass.names k = true) :
    ∃ z, Derives ⊤ (declarationPhrase typed) (k :: z) := by
  rcases Bool.or_eq_true_iff.1 h with h | h
  · have htail : Derives ⊤ typedTail ([] ++ [.punctuation .semicolon]) :=
      .seq (.right _ .empty) (.terminal rfl)
    exact ⟨_, .left _ (.seq (derives_basicType h) htail)⟩
  · obtain ⟨w, hw⟩ := productive_rule .classDeclaration
    cases w with
    | nil => exact nomatch hw.nullable rfl
    | cons k' z =>
      have hk : k' = k := (eq_of_beq (hw.first rfl)).trans (eq_of_beq h).symm
      rw [← hk]
      exact ⟨z, .right _ (.right _ hw)⟩

/-- What begins a declaration does not depend on what may follow an identifier. -/
theorem leads_declarationPhrase (typed : Phrase) (k : TokenKind) :
    (declarationPhrase typed).leads follow k =
      (k.isBasicType || (k == .identifier || k == .keyword .classWord)) := by
  have hb : ∀ k, basicType.first k = k.isBasicType := by decide
  have hn : basicType.nullable = false := rfl
  simp [declarationPhrase, oneOf, leads, first, nullable, hb, hn, Rule.first, Terminal.covers]

/-- A declaration is recognized if what may follow a type that is an identifier is. -/
theorem recognition_declarationWith (hb : Recognizes room classBodyPhrase beforeSemicolon body)
    (ht : t.kind = .identifier →
      Recognition room typed follow t.tail ((typedRest room).run t.tail)) :
    Recognition room (declarationPhrase typed) follow t ((declarationWith room body).run t) := by
  by_cases hclass : t.kind = .keyword .classWord
  · rw [run_declarationWith_of_class hclass]
    exact ((recognizes_classWith hb t).right_of_eq hclass rfl).right_of_eq hclass rfl
  by_cases hbasic : t.kind.isBasicType = true
  · rw [run_declarationWith_of_ne_class hclass]
    have hlist := (recognition_basicType hbasic).bind (by decide)
      fun t' _ => recognizes_declaratorList room t'
    have hall := hlist.bind (semicolon_leads follow) fun t' _ => recognizes_symbol _ t'
    have hseq : Recognition room (seq basicType typedTail) follow t _ := hall.congr fun n => by
      simp only [typedTail, language_seq, mul_assoc]
    refine hseq.left ?_
    have hk : ∀ k : TokenKind, k.isBasicType = true →
        Terminal.identifier.covers k = false ∧ Rule.first .classDeclaration k = false := by decide
    obtain ⟨hi, hc⟩ := hk _ hbasic
    simp [oneOf, leads, first, nullable, hi, hc]
  by_cases hident : t.kind = .identifier
  · have hc : Terminal.identifier.covers t.kind = true := beq_iff_eq.2 hident
    have htyped := Recognition.afterToken hc (ht hident)
    rw [run_declarationWith_of_single (.inl hident)]
    exact (htyped.left_of_eq hident rfl).right_of_eq hident rfl
  · have hc : Terminal.typeName.covers t.kind = false := by
      simp [Terminal.covers, hbasic, hident]
    rw [run_declarationWith_of_rejected hc hclass]
    refine .here List.nil_prefix (fun k => exists_declarationPhrase typed) ?_
    simp [leads_declarationPhrase, hbasic, hident, hclass]

/-- A declaration is a class or a type, and what comes after. -/
theorem language_declaration (n : ℕ∞) :
    (declarationPhrase typedTail).language n = (rule .declaration).language n := by
  rw [language_rule]
  simp only [declarationPhrase, typedTail, Rule.body, oneOf, inOrder, language_seq,
    language_either, add_mul, add_assoc]

/-- Outside of blocks the declarators after an identifier may be left out. -/
theorem recognizes_declarationWith (hb : Recognizes room classBodyPhrase beforeSemicolon body) :
    Recognizes room (rule .declaration) follow (declarationWith room body) := by
  have hall : Recognizes room (declarationPhrase typedTail) follow (declarationWith room body) :=
    fun t => recognition_declarationWith hb fun _ => recognizes_typedRest room t.tail
  exact hall.congr language_declaration

end

/-- The members of a class up to the closing brace. -/
theorem recognizes_members {room : ℕ∞} {member : Procedure TokenTape true}
    (hm : Recognizes room (rule .declaration) (fun _ => true) member) :
    Recognizes room (seq (many (rule .declaration)) (mark .closeBrace)) follow
      (members member) := by
  have hturn (t : TokenTape) : TurnRecognition room (rule .declaration) (mark .closeBrace)
      (fun _ => true) follow t (memberTurn member t) := by
    rw [memberTurn]
    split
    · next hk =>
      change t.kind = _ at hk
      exact .closeBrace hk (by rw [hk]; rfl)
    · next hk =>
      split
      · next hk' =>
        change t.kind = _ at hk'
        exact .missingBrace hk' (by rw [hk']; rfl) _
      · rw [rewind_next]
        refine .item rfl (hm t) ?_
        rw [leads_eq_first rfl]
        exact beq_eq_false_iff_ne.2 hk
  exact .loop hturn rfl fun _ _ => rfl

/-- The members of a class and its closing brace are read as the grammar has it. -/
theorem recognizes_classBody (room : ℕ) :
    Recognizes room classBodyPhrase follow (classBody room) := by
  induction room generalizing follow with
  | zero => exact .nested_zero
  | succ room ih =>
    have hmember : Recognizes room (rule .declaration) (fun _ => true)
        (Procedure.delay fun _ => declaration (σ := TokenTape) room) :=
      recognizes_declarationWith ih
    rw [classBody_succ, Nat.cast_add_one]
    exact (recognizes_members hmember).nested

/-- A declaration is read as the grammar has it, whatever follows. -/
theorem recognizes_declaration (room : ℕ) :
    Recognizes room (rule .declaration) follow (declaration room) :=
  recognizes_declarationWith (recognizes_classBody room)

/-- In a block an identifier begins a declaration if another identifier comes next. -/
theorem recognition_blockDeclaration (h : t.kind = .identifier → t.tail.kind = .identifier) :
    Recognition room (rule .blockDeclaration) follow t ((declaration room).run t) := by
  refine .rule (recognition_declarationWith (recognizes_classBody room) fun hk => ?_)
  have hne : t.tail.kind ≠ .punctuation .semicolon := kind_ne_of_eq (h hk) nofun
  exact recognition_typedRest hne

end Grammar

end Recognizer
