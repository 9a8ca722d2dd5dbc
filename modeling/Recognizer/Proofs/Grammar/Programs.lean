import Recognizer.Proofs.Grammar.Statements

/-!
# Programs are recognized

The procedure for programs recognizes declarations and main functions, as many as there are. A
main function is chosen when the second token is the word `main`, which stands in main functions
only. So if the first token is not `int`, nothing else would have been right either.
-/

namespace Recognizer

/-- Whether the word `main` can stand in what a phrase derives. -/
def Phrase.mentionsMain : Phrase → Bool
  | empty | ending => false
  | terminal t => t.covers (.keyword .mainWord)
  | seq p q | either p q => p.mentionsMain || q.mentionsMain
  | many p | nested p => p.mentionsMain
  | rule r => r == .program || r == .mainFunction

/-- Of the rules only those for programs and main functions speak of main functions. -/
theorem Phrase.mentionsMain_body {r : Rule} (h : (rule r).mentionsMain = false) :
    r.body.mentionsMain = false := by
  cases r with
  | program => cases h
  | mainFunction => cases h
  | _ => rfl

/-- The word `main` does not stand in what a phrase derives that never mentions it. -/
theorem Derives.main_notMem {n : ℕ∞} {p : Phrase} {w : List TokenKind} (h : Derives n p w)
    (hp : p.mentionsMain = false) : .keyword .mainWord ∉ w := by
  induction h with
  | empty => exact List.not_mem_nil
  | terminal ht =>
    rw [List.mem_singleton]
    rintro rfl
    exact absurd ht (ne_true_of_eq_false hp)
  | ending => decide
  | seq _ _ ihp ihq =>
    obtain ⟨hp, hq⟩ := Bool.or_eq_false_iff.1 hp
    rw [List.mem_append]
    rintro (h | h)
    · exact ihp hp h
    · exact ihq hq h
  | left q _ ihp => exact ihp (Bool.or_eq_false_iff.1 hp).1
  | right p _ ihq => exact ihq (Bool.or_eq_false_iff.1 hp).2
  | none p => exact List.not_mem_nil
  | more _ _ ihp ihm =>
    rw [List.mem_append]
    rintro (h | h)
    · exact ihp hp h
    · exact ihm hp h
  | nested _ ihp => exact ihp hp
  | rule _ ihr => exact ihr (Phrase.mentionsMain_body hp)

namespace Grammar

open Phrase TokenTape

variable {room : ℕ} {follow : TokenKind → Bool} {t : TokenTape}

/-- What a program consists of. -/
def programItem : Phrase :=
  either (rule .declaration) (rule .mainFunction)

/-- What comes after the first word of a main function. -/
def mainTail : Phrase :=
  inOrder (word .mainWord) [mark .openParen, mark .closeParen, rule .block]

/-- What reads on after the first word of a main function. -/
def mainRest (room : ℕ) : Procedure TokenTape true :=
  (Procedure.expect (.keyword .mainWord) (.keyword .mainWord)).andThen
    ((symbol .openParen).andThen ((symbol .closeParen).andThen (block room)))

/-- What comes after the first word of a main function is read as the grammar has it. -/
theorem recognizes_mainRest (room : ℕ) : Recognizes room mainTail follow (mainRest room) := by
  have hblock : Recognizes room (rule .block) follow (block room) := recognizes_block room
  have hclose := recognizes_symbolThen .closeParen hblock
  have hopen := recognizes_symbolThen .openParen hclose
  exact recognizes_wordThen .mainWord hopen

/-- The alternatives of a program item that do not begin with the word `int`. -/
def otherProgramItem : Phrase :=
  oneOf (seq (word .charWord) typedTail)
    [seq (seq (either (word .shortWord) (word .longWord)) (option (word .intWord))) typedTail,
      seq (.terminal .identifier) typedTail, rule .classDeclaration]

/-- A program item with the word `int` at its beginning taken out. -/
theorem language_programItem (n : ℕ∞) :
    (either (seq (word .intWord) (either typedTail mainTail)) otherProgramItem).language n =
      programItem.language n := by
  simp only [programItem, otherProgramItem, mainTail, typedTail, basicType, Rule.body, oneOf,
    inOrder, language_seq, language_either, language_rule, mul_add, add_mul, mul_assoc]
  ac_rfl

/-- A main function passes its first word, which is `int`. -/
theorem run_mainFunction_of_int (h : t.kind = .keyword .intWord) :
    (mainFunction room).run t = (mainRest room).run t.tail := by
  have hc : (Terminal.keyword .intWord).covers t.kind = true := beq_iff_eq.2 h
  exact Procedure.run_expect_andThen_of_covers _ (mainRest room) hc

/-- Any other word in front of `main` is passed, and is the violation. -/
theorem run_mainFunction_of_ne_int (h : t.kind ≠ .keyword .intWord) :
    (mainFunction room).run t = .rejected ⟨t.next.1, .intBeforeMain⟩ t.tail := by
  have hc : (Terminal.keyword .intWord).covers t.kind = false := beq_eq_false_iff_ne.2 h
  exact Procedure.run_expect_andThen_of_not_covers _ (mainRest room) hc

/-- The word `main` comes second only after the word `int`: a declaration neither holds it nor may
come before it. -/
theorem int_of_main {n : ℕ∞} {C : Language TokenKind} (hC : LedBy (Rule.first .program) C)
    {k : TokenKind} {z : List TokenKind}
    (h : k :: .keyword .mainWord :: z ∈ programItem.language n * C) : k = .keyword .intWord := by
  obtain ⟨u, hu, v, hv, he⟩ := Language.mem_mul.1 h
  rw [programItem, language_either, Language.mem_add] at hu
  rcases hu with hu | hu
  · exfalso
    have hmain : .keyword .mainWord ∉ u := Derives.main_notMem hu rfl
    rcases u with _ | ⟨k', _ | ⟨k'', u⟩⟩
    · exact nomatch Derives.nullable hu rfl
    · obtain ⟨k'', z', hv', hk⟩ := hC v hv
      rw [hv'] at he
      cases he
      cases hk
    · have hk : k'' = .keyword .mainWord := (List.cons.inj (List.cons.inj he).2).1
      rw [hk] at hmain
      exact hmain (List.mem_cons_of_mem _ List.mem_cons_self)
  · cases u with
    | nil => exact nomatch Derives.nullable hu rfl
    | cons k' u =>
      have hk : Rule.first .mainFunction k' = true := Derives.first hu rfl
      have hk' : k' = k := (List.cons.inj he).1
      rw [← hk']
      exact eq_of_beq hk

/-- The words `int` and `main` begin a main function. -/
theorem recognition_item_of_main (hi : t.kind = .keyword .intWord)
    (hm : t.tail.kind = .keyword .mainWord) :
    Recognition room programItem follow t ((mainFunction room).run t) := by
  have hc : (Terminal.keyword .intWord).covers t.kind = true := covers_of_eq hi rfl
  have htail : Recognition room (either typedTail mainTail) follow t.tail
      ((mainRest room).run t.tail) := (recognizes_mainRest room t.tail).right_of_eq hm rfl
  have hitem := (Recognition.afterToken hc htail).left_of_eq (q := otherProgramItem) hi rfl
  rw [run_mainFunction_of_int hi]
  exact hitem.congr language_programItem

/-- In front of the word `main` only `int` would have been right. -/
theorem recognition_item_of_missing_int (hi : t.kind ≠ .keyword .intWord)
    (hm : t.tail.kind = .keyword .mainWord) :
    Recognition room programItem (Rule.first .program) t ((mainFunction room).run t) := by
  have hne : t.tail.kind ≠ .endOfSource := kind_ne_of_eq hm nofun
  have hbeyond : [.keyword .mainWord] <+: t.tail.tokens.map Token.kind := by
    rw [tokens_eq_cons hne, List.map_cons, ← hm]
    exact List.prefix_append [t.tail.kind] _
  rw [run_mainFunction_of_ne_int hi]
  refine .rejected (.refl t) rfl hbeyond ?_ ?_
  · intro k hk
    have hd : Expectation.typeOrClass.names k = true := by
      rw [eq_of_beq hk]
      rfl
    obtain ⟨z, hz⟩ := exists_declarationPhrase typedTail hd
    rw [← mem_language, language_declaration] at hz
    exact ⟨z, .left _ hz⟩
  · intro C hC z hz
    exact hi (int_of_main hC hz)

/-- Without the word `main` as the second token there can only be a declaration. -/
theorem recognition_item_of_not_main (hm : t.tail.kind ≠ .keyword .mainWord) :
    Recognition room programItem follow t ((declaration room).run t) := by
  by_cases hi : t.kind = .keyword .intWord
  · have hc : (Terminal.keyword .intWord).covers t.kind = true := covers_of_eq hi rfl
    have hrun : (declaration room).run t = (typedRest room).run t.tail :=
      run_declarationWith_of_single (.inr hi)
    have hfirst : ∀ k, k ≠ .keyword .mainWord → mainTail.first k = false := by decide
    have hl : mainTail.leads follow t.tail.kind = false := by
      rw [leads_eq_first rfl, hfirst _ hm]
    have htail : Recognition room (either typedTail mainTail) follow t.tail
        ((typedRest room).run t.tail) := (recognizes_typedRest room t.tail).left hl
    have hitem := (Recognition.afterToken hc htail).left_of_eq (q := otherProgramItem) hi rfl
    rw [hrun]
    exact hitem.congr language_programItem
  · refine (recognizes_declaration room t).left ?_
    rw [leads_eq_first rfl]
    exact beq_eq_false_iff_ne.2 hi

/-- The second token tells a main function from a declaration. -/
theorem recognition_programItem (t : TokenTape) :
    Recognition room programItem (Rule.first .program) t ((if t.tail.kind = .keyword .mainWord then
      mainFunction room else declaration room).run t) := by
  by_cases hm : t.tail.kind = .keyword .mainWord
  · rw [if_pos hm]
    by_cases hi : t.kind = .keyword .intWord
    · exact recognition_item_of_main hi hm
    · exact recognition_item_of_missing_int hi hm
  · rw [if_neg hm]
    exact recognition_item_of_not_main hm

/-- A program is recognized up to the end of the source, which is not part of it. -/
theorem recognizes_program (room : ℕ) :
    Recognizes room (many programItem) (fun k => k == .endOfSource) (program room) := by
  have hturn (t : TokenTape) : TurnRecognition room programItem .empty (Rule.first .program)
      (fun k => k == .endOfSource) t (programTurn (mainFunction room) (declaration room) t) := by
    rw [programTurn]
    split
    · next hk =>
      change t.kind = _ at hk
      refine .last rfl ?_ (by rw [hk]; rfl)
      rw [rewind_next]
      exact .done t
    · next hk =>
      dsimp only
      rw [rewind_next_next]
      exact .item rfl (recognition_programItem t) (beq_eq_false_iff_ne.2 hk)
  have hall : Recognizes room (seq (many programItem) .empty) (fun k => k == .endOfSource)
      (program room) := .loop hturn rfl (by decide)
  refine hall.congr fun n => ?_
  rw [language_seq, language_empty, mul_one]

end Grammar

end Recognizer
