import Recognizer.Proofs.Grammar.Phrase

/-!
# Leading tokens

Which kinds of tokens can begin a phrase, also when the phrase derives nothing and what follows
it begins. A choice that the grammar leaves open can be decided by the next token when the
alternatives are not led by the same kinds.
-/

namespace Recognizer

/-- Every kind of token. -/
def TokenKind.all : List TokenKind :=
  Keyword.all.map .keyword ++ Operator.all.map .operator ++ Punctuation.all.map .punctuation ++
    [.identifier, .number .octal, .number .decimal, .number .hexadecimal, .endOfSource, .error]

/-- The list of kinds of tokens is complete. -/
theorem TokenKind.mem_all (k : TokenKind) : k ∈ all := by
  rcases k with k | o | p | _ | r | _ | _
  · cases k <;> decide
  · cases o <;> decide
  · cases p <;> decide
  · decide
  · cases r <;> decide
  · decide
  · decide

/-- What is to hold of every kind of token can be tried on each. -/
instance decidableForallKind (P : TokenKind → Prop) [DecidablePred P] : Decidable (∀ k, P k) :=
  decidable_of_iff (∀ k ∈ TokenKind.all, P k)
    ⟨fun h k => h k k.mem_all, fun h k _ => h k⟩

/-- Every class of tokens has a member. -/
theorem Terminal.exists_covers (t : Terminal) : ∃ k, t.covers k = true := by
  cases t with
  | keyword k => exact ⟨.keyword k, beq_self_eq_true _⟩
  | operator o => exact ⟨.operator o, beq_self_eq_true _⟩
  | punctuation p => exact ⟨.punctuation p, beq_self_eq_true _⟩
  | identifier => exact ⟨.identifier, rfl⟩
  | number => exact ⟨.number .octal, rfl⟩
  | typeName => exact ⟨.identifier, rfl⟩
  | operatorOf c =>
    have h : ∃ o : Operator, o.category = c := by
      cases c with
      | assignment => exact ⟨.assign, rfl⟩
      | equality => exact ⟨.equal, rfl⟩
      | relational => exact ⟨.less, rfl⟩
      | shift => exact ⟨.shiftLeft, rfl⟩
      | additive => exact ⟨.plus, rfl⟩
      | multiplicative => exact ⟨.star, rfl⟩
      | step => exact ⟨.increment, rfl⟩
    obtain ⟨o, rfl⟩ := h
    refine ⟨.operator o, ?_⟩
    simp [covers, TokenKind.operatorIn?, TokenKind.operator?, Option.filter]
  | beforeOperand => exact ⟨.operator .plus, rfl⟩
  | afterOperand => exact ⟨.operator .increment, rfl⟩

/-- Which kinds of tokens begin a construct. -/
def Rule.first : Rule → TokenKind → Bool
  | program, k => k.isBasicType || k == .identifier || k == .keyword .classWord ||
      k == .endOfSource
  | mainFunction, k => k == .keyword .intWord
  | declaration, k | blockDeclaration, k =>
    k.isBasicType || k == .identifier || k == .keyword .classWord
  | classDeclaration, k => k == .keyword .classWord
  | declarator, k | leftValue, k => k == .identifier
  | block, k => k == .punctuation .openBrace
  | statement, k => k == .keyword .whileWord || k == .punctuation .openBrace ||
      k == .identifier || k == .keyword .returnWord || k == .punctuation .semicolon
  | index, k => k == .punctuation .openBracket
  | expression, k | operand, k => k.isBeforeOperand || k == .identifier ||
      k == .punctuation .openParen || k.isNumber
  | primary, k => k == .identifier || k == .punctuation .openParen || k.isNumber

namespace Phrase

/-- Whether a phrase may derive nothing; no construct does. -/
def nullable : Phrase → Bool
  | empty | many _ => true
  | terminal _ | ending | rule _ => false
  | seq p q => p.nullable && q.nullable
  | either p q => p.nullable || q.nullable
  | nested p => p.nullable

/-- Which kinds of tokens begin a phrase. -/
def first : Phrase → TokenKind → Bool
  | empty, _ => false
  | terminal t, k => t.covers k
  | ending, k => k == .endOfSource
  | seq p q, k => p.first k || (p.nullable && q.first k)
  | either p q, k => p.first k || q.first k
  | many p, k | nested p, k => p.first k
  | rule r, k => r.first k

/-- Which kinds of tokens begin a phrase that something led by `follow` comes after. -/
def leads (p : Phrase) (follow : TokenKind → Bool) (k : TokenKind) : Bool :=
  p.first k || (p.nullable && follow k)

/-- No construct derives nothing. -/
theorem nullable_body (r : Rule) : r.body.nullable = false := by
  cases r <;> rfl

/-- The table of what begins a construct agrees with the rules. -/
theorem first_body (r : Rule) : ∀ k, r.body.first k = true → r.first k = true := by
  cases r <;> decide

end Phrase

/-- A phrase that derives the empty word is one of those for which that is computed. -/
theorem Derives.nullable {n : ℕ∞} {p : Phrase} {w : List TokenKind} (h : Derives n p w)
    (hw : w = []) : p.nullable = true := by
  induction h with
  | empty => rfl
  | terminal _ => cases hw
  | ending => cases hw
  | seq _ _ ihp ihq =>
    obtain ⟨hu, hv⟩ := List.append_eq_nil_iff.1 hw
    simp [Phrase.nullable, ihp hu, ihq hv]
  | left q _ ihp => simp [Phrase.nullable, ihp hw]
  | right p _ ihq => simp [Phrase.nullable, ihq hw]
  | none p => rfl
  | more _ _ _ _ => rfl
  | nested _ ihp => exact ihp hw
  | rule _ ihr =>
    have hr := ihr hw
    rw [Phrase.nullable_body] at hr
    cases hr

/-- The first token of a word is among those computed for its phrase. -/
theorem Derives.first {n : ℕ∞} {p : Phrase} {w : List TokenKind} (h : Derives n p w)
    {k : TokenKind} {z : List TokenKind} (hw : w = k :: z) : p.first k = true := by
  induction h generalizing z with
  | empty => cases hw
  | terminal ht =>
    cases hw
    exact ht
  | ending =>
    cases hw
    rfl
  | @seq _ p q u v hp _ ihp ihq =>
    rcases List.append_eq_cons_iff.1 hw with ⟨hu, hv⟩ | ⟨u', hu, _⟩
    · have hn := hp.nullable hu
      simp [Phrase.first, hn, ihq hv]
    · simp [Phrase.first, ihp hu]
  | left q _ ihp => simp [Phrase.first, ihp hw]
  | right p _ ihq => simp [Phrase.first, ihq hw]
  | none p => cases hw
  | @more _ p u v _ _ ihp ihm =>
    rcases List.append_eq_cons_iff.1 hw with ⟨_, hv⟩ | ⟨u', hu, _⟩
    · exact ihm hv
    · exact ihp hu
  | nested _ ihp => exact ihp hw
  | rule _ ihr => exact Phrase.first_body _ _ (ihr hw)

/-- Every word of a language begins with a token that `follow` admits. -/
def LedBy (follow : TokenKind → Bool) (C : Language TokenKind) : Prop :=
  ∀ w ∈ C, ∃ k z, w = k :: z ∧ follow k = true

/-- More tokens may be admitted in front of a language. -/
theorem LedBy.mono {follow follow' : TokenKind → Bool} {C : Language TokenKind}
    (h : LedBy follow C) (hf : ∀ k, follow k = true → follow' k = true) : LedBy follow' C := by
  intro w hw
  obtain ⟨k, z, he, hk⟩ := h w hw
  exact ⟨k, z, he, hf k hk⟩

namespace Phrase

variable {n : ℕ∞} {follow : TokenKind → Bool} {C : Language TokenKind}

/-- What begins a phrase with a continuation. -/
theorem ledBy_mul (p : Phrase) (hC : LedBy follow C) :
    LedBy (p.leads follow) (p.language n * C) := by
  intro w hw
  obtain ⟨u, hu, v, hv, rfl⟩ := Language.mem_mul.1 hw
  cases u with
  | nil =>
    have hn : p.nullable = true := Derives.nullable hu rfl
    obtain ⟨k, z, rfl, hk⟩ := hC v hv
    exact ⟨k, z, rfl, by simp [leads, hn, hk]⟩
  | cons k u =>
    have hf : p.first k = true := Derives.first hu rfl
    exact ⟨k, u ++ v, rfl, by simp [leads, hf]⟩

/-- The first token of what a phrase and then a language make is among those computed for both. -/
theorem leads_of_mem {p : Phrase} (hC : LedBy follow C) {k : TokenKind} {z : List TokenKind}
    (h : k :: z ∈ p.language n * C) : p.leads follow k = true := by
  obtain ⟨k', z', he, hk⟩ := ledBy_mul p hC _ h
  cases he
  exact hk

/-- A phrase that derives no empty word is led by its own tokens only. -/
theorem leads_eq_first {p : Phrase} (h : p.nullable = false) (follow : TokenKind → Bool)
    (k : TokenKind) : p.leads follow k = p.first k := by
  simp [leads, h]

/-- A phrase derives some word if constructs may be nested at will. -/
def Productive (p : Phrase) : Prop :=
  ∃ w, Derives ⊤ p w

namespace Productive

variable {p q : Phrase}

/-- A class of tokens is not empty. -/
theorem terminal (t : Terminal) : Productive (.terminal t) := by
  obtain ⟨k, hk⟩ := t.exists_covers
  exact ⟨[k], .terminal hk⟩

/-- Two phrases that derive some words derive them one behind the other. -/
theorem seq (hp : Productive p) (hq : Productive q) : Productive (.seq p q) := by
  obtain ⟨u, hu⟩ := hp
  obtain ⟨v, hv⟩ := hq
  exact ⟨u ++ v, .seq hu hv⟩

/-- A choice derives what its first side derives. -/
theorem left (hp : Productive p) : Productive (.either p q) := by
  obtain ⟨w, hw⟩ := hp
  exact ⟨w, .left q hw⟩

/-- A choice derives what its second side derives. -/
theorem right (hq : Productive q) : Productive (.either p q) := by
  obtain ⟨w, hw⟩ := hq
  exact ⟨w, .right p hw⟩

/-- What is optional can be left out. -/
theorem option (p : Phrase) : Productive p.option :=
  ⟨[], .right p .empty⟩

/-- What can be repeated can be left out. -/
theorem many (p : Phrase) : Productive (.many p) :=
  ⟨[], .none p⟩

/-- A nested construct derives what is inside it if constructs may be nested at will. -/
theorem nested (hp : Productive p) : Productive (.nested p) := by
  obtain ⟨w, hw⟩ := hp
  exact ⟨w, .nested_top hw⟩

/-- A rule derives what its body derives. -/
theorem rule {r : Rule} (hr : Productive r.body) : Productive (.rule r) := by
  obtain ⟨w, hw⟩ := hr
  exact ⟨w, .rule hw⟩

/-- Operators of any levels derive an operand alone. -/
theorem binary (h : Productive (.rule .operand)) (levels : List Operator.Category) :
    Productive (Phrase.binary levels) := by
  induction levels with
  | nil => exact h
  | cons level tighter ih => exact seq ih (many _)

end Productive

open Productive in
/-- Every construct can be written down. -/
theorem productive_rule (r : Rule) : Productive (.rule r) := by
  have hleftValue : Productive (.rule .leftValue) :=
    .rule (.seq (.seq (.terminal _) (.option _)) (.many _))
  have hoperand : Productive (.rule .operand) :=
    .rule (.seq (.option _) (.seq (.rule (.left hleftValue)) (.option _)))
  have hexpression : Productive (.rule .expression) := .rule (.binary hoperand _)
  have hclass : Productive (.rule .classDeclaration) :=
    .rule (.seq (.terminal _) (.seq (.terminal _) (.seq (.terminal _)
      (.seq (.nested (.seq (.many _) (.terminal _))) (.terminal _)))))
  have hblock : Productive (.rule .block) :=
    .rule (.seq (.terminal _) (.nested (.seq (.many _) (.terminal _))))
  cases r with
  | program => exact .rule (.seq (.many _) ⟨_, .ending⟩)
  | mainFunction =>
    exact .rule (.seq (.terminal _) (.seq (.terminal _) (.seq (.terminal _)
      (.seq (.terminal _) hblock))))
  | declaration => exact .rule (.right hclass)
  | blockDeclaration => exact .rule (.right (.right hclass))
  | classDeclaration => exact hclass
  | declarator => exact .rule (.seq (.terminal _) (.option _))
  | block => exact hblock
  | statement => exact .rule (.right (.left hblock))
  | leftValue => exact hleftValue
  | index =>
    exact .rule (.seq (.terminal _) (.seq (.nested hexpression) (.terminal _)))
  | expression => exact hexpression
  | operand => exact hoperand
  | primary => exact .rule (.left hleftValue)

/-- Every phrase can be written down. -/
theorem productive (p : Phrase) : Productive p := by
  induction p with
  | empty => exact ⟨[], .empty⟩
  | terminal t => exact .terminal t
  | ending => exact ⟨_, .ending⟩
  | seq p q ihp ihq => exact .seq ihp ihq
  | either p q ihp _ => exact .left ihp
  | many p _ => exact .many p
  | nested p ih => exact .nested ih
  | rule r => exact productive_rule r

end Phrase

end Recognizer
