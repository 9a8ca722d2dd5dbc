import Recognizer.Lexical.Trivia

/-!
# Gaps

A gap is the text of several pieces of trivia, one behind the other. Whether a piece ends where it
does depends on what is behind it: a line comment runs to the end of its line, and a block comment
is closed by the first closing mark in it. Reading trivia takes such a gap apart again, whatever
stands behind it, and whatever it passes is such a gap.
-/

namespace Recognizer.Trivia

/-- A piece ends in front of `behind`: a line comment at a line feed or at the end of the text, and
a block comment at the first closing mark after its opening mark. -/
def EndsBefore : Trivia → List Char → Prop
  | lineComment body, behind => '\n' ∉ body ∧ (behind = [] ∨ behind.head? = some '\n')
  | blockComment body, _ => ¬ ['*', '/'] <:+: body
  | _, _ => True

/-- The pieces of a gap in front of `behind`, each of which ends where the next begins. -/
def Laid : List Trivia → List Char → Prop
  | [], _ => True
  | t :: ts, behind => t.EndsBefore (textOf ts ++ behind) ∧ Laid ts behind

instance : (t : Trivia) → (behind : List Char) → Decidable (t.EndsBefore behind)
  | lineComment _, _ => inferInstanceAs (Decidable (_ ∧ (_ ∨ _)))
  | blockComment _, _ => inferInstanceAs (Decidable (¬ _))
  | space, _ | tab, _ | newline, _ => .isTrue trivial

instance : (ts : List Trivia) → (behind : List Char) → Decidable (Laid ts behind)
  | [], _ => .isTrue trivial
  | t :: ts, behind =>
    have : Decidable (Laid ts behind) := instDecidableLaid ts behind
    inferInstanceAs (Decidable (t.EndsBefore (textOf ts ++ behind) ∧ Laid ts behind))

variable {t : Trivia} {ts : List Trivia} {body behind cs rest : List Char}

@[simp] theorem textOf_nil : textOf [] = [] := rfl

@[simp] theorem textOf_cons (t : Trivia) (ts : List Trivia) :
    textOf (t :: ts) = t.text ++ textOf ts :=
  List.flatMap_cons

@[simp] theorem textOf_append (ts us : List Trivia) : textOf (ts ++ us) = textOf ts ++ textOf us :=
  List.flatMap_append

/-! ### Block comments -/

/-- A text that begins with a closing mark does not begin with another character in front of one. -/
theorem not_infix_cons {c : Char} (hne : ∀ rest, c = '*' → cs = '/' :: rest → False)
    (h : ¬ ['*', '/'] <:+: cs) : ¬ ['*', '/'] <:+: c :: cs := by
  rw [List.infix_cons_iff, not_or]
  refine ⟨?_, h⟩
  rintro ⟨tail, ht⟩
  obtain ⟨rfl, rfl⟩ := List.cons.inj ht
  exact hne tail rfl rfl

/-- No closing mark stands in front of the first one. -/
theorem not_infix_of_splitAtClose? {before after : List Char}
    (h : splitAtClose? cs = some (before, after)) : ¬ ['*', '/'] <:+: before := by
  fun_induction splitAtClose? cs generalizing before after with
  | case1 => cases h
  | case2 rest =>
    cases h
    simp
  | case3 c rest hne ih =>
    obtain ⟨⟨front, back⟩, hp, h⟩ := Option.map_eq_some_iff.1 h
    cases h
    refine not_infix_cons ?_ (ih hp)
    rintro tail rfl rfl
    exact hne (tail ++ '*' :: '/' :: back) rfl (eq_of_splitAtClose? hp)

/-- A text is split at a closing mark that is the first. -/
theorem splitAtClose?_append (h : ¬ ['*', '/'] <:+: body) (rest : List Char) :
    splitAtClose? (body ++ '*' :: '/' :: rest) = some (body, rest) := by
  induction body with
  | nil => rfl
  | cons c body ih =>
    rw [List.infix_cons_iff, not_or] at h
    have hne : ∀ tail, c = '*' → body ++ '*' :: '/' :: rest = '/' :: tail → False := by
      rintro tail rfl ht
      cases body with
      | nil => cases ht
      | cons d body =>
        obtain rfl : d = '/' := (List.cons.inj ht).1
        exact h.1 ⟨body, rfl⟩
    rw [List.cons_append, splitAtClose?.eq_3 c _ hne, ih h.2]
    rfl

/-- A text cannot be split exactly if no closing mark stands in it. -/
theorem splitAtClose?_eq_none_iff : splitAtClose? cs = none ↔ ¬ ['*', '/'] <:+: cs := by
  constructor
  · intro h
    fun_induction splitAtClose? cs with
    | case1 => simp
    | case2 rest => cases h
    | case3 c rest hne ih => exact not_infix_cons hne (ih (Option.map_eq_none_iff.1 h))
  · intro h
    cases hs : splitAtClose? cs with
    | none => rfl
    | some parts =>
      refine absurd ?_ h
      rw [eq_of_splitAtClose? hs]
      exact ⟨parts.1, parts.2, by simp⟩

/-! ### Pieces and gaps -/

/-- A line without its line feed ends where the next line feed stands, or with the text. -/
theorem takeWhile_of_endsLine (hb : '\n' ∉ body) (h : rest = [] ∨ rest.head? = some '\n') :
    (body ++ rest).takeWhile (· != '\n') = body ∧ (body ++ rest).dropWhile (· != '\n') = rest := by
  have hbody : ∀ c ∈ body, (c != '\n') = true := by
    intro c hc
    rw [bne_iff_ne]
    rintro rfl
    exact hb hc
  rw [List.takeWhile_append_of_pos hbody, List.dropWhile_append_of_pos hbody]
  cases rest with
  | nil => simp
  | cons c rest =>
    obtain rfl : c = '\n' := by simpa using h
    simp

/-- A piece is read where it ends. -/
theorem read?_text_append (h : t.EndsBefore behind) :
    read? (t.text ++ behind) = some (t, behind) := by
  cases t with
  | space => rfl
  | tab => rfl
  | newline => rfl
  | lineComment body =>
    have hp := takeWhile_of_endsLine h.1 h.2
    simp only [text, List.cons_append, read?, hp]
  | blockComment body =>
    have hs := splitAtClose?_append h behind
    simp [text, read?, hs]

/-- Whatever is read as a piece ends there. -/
theorem endsBefore_of_read? (h : read? cs = some (t, rest)) : t.EndsBefore rest := by
  unfold read? at h
  split at h
  · cases h; trivial
  · cases h; trivial
  · cases h; trivial
  · next cs =>
    cases h
    refine ⟨fun hm => ?_, ?_⟩
    · have hn := List.all_eq_true.1 List.all_takeWhile _ hm
      exact absurd hn (by decide)
    · cases hd : cs.dropWhile (· != '\n') with
      | nil => exact .inl rfl
      | cons c rest =>
        have hc := List.head?_dropWhile_not (· != '\n') cs
        rw [hd] at hc
        right
        simpa using hc
  · obtain ⟨⟨front, back⟩, hp, h⟩ := Option.map_eq_some_iff.1 h
    cases h
    exact not_infix_of_splitAtClose? hp
  · cases h

/-- A character that begins no piece is not passed. -/
theorem read?_cons_eq_none {c : Char} (hc : c ∉ [' ', '\t', '\n'])
    (hs : c = '/' → cs.head? ≠ some '/' ∧ cs.head? ≠ some '*') : read? (c :: cs) = none := by
  unfold read?
  split
  · next h =>
    cases h
    exact absurd hc (by decide)
  · next h =>
    cases h
    exact absurd hc (by decide)
  · next h =>
    cases h
    exact absurd hc (by decide)
  · next h =>
    cases h
    exact absurd rfl (hs rfl).1
  · next h =>
    cases h
    exact absurd rfl (hs rfl).2
  · rfl

/-- All the trivia in front of a text are the pieces of a gap and those that the text begins with. -/
theorem readAll_textOf_append (h : Laid ts behind) :
    readAll (textOf ts ++ behind) = (ts ++ (readAll behind).1, (readAll behind).2) := by
  induction ts with
  | nil => rfl
  | cons t ts ih =>
    have hr := read?_text_append h.1
    rw [textOf_cons, List.append_assoc, readAll_eq_cons hr, ih h.2]
    rfl

/-- All the trivia at the front of a text are the pieces of a gap. -/
theorem laid_readAll (cs : List Char) : Laid (readAll cs).1 (readAll cs).2 := by
  fun_induction readAll cs with
  | case1 => trivial
  | case2 cs t rest h _ ts rest' hr ih =>
    rw [hr] at ih
    have ht := textOf_append_readAll rest
    rw [hr] at ht
    refine ⟨?_, ih⟩
    change t.EndsBefore (textOf ts ++ rest')
    rw [ht]
    exact endsBefore_of_read? h

end Recognizer.Trivia
