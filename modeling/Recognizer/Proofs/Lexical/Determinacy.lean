import Recognizer.Proofs.Lexical.Spelling

/-!
# What is classified is read

A text that is written as a kind of token is, and that does not go on behind its end, is read as a
token of that kind and as nothing else.
-/

namespace Recognizer

open Text

namespace Lexeme

/-- What begins like a word is read as a word. -/
theorem read_of_startsWord (cap : Nat) {c : Char} (cs : List Char) (h : startsWord c = true) :
    read cap (c :: cs) = word cap (c :: cs) := by
  have hne : c ≠ '/' := by
    rintro rfl
    exact absurd h (by decide)
  rw [read.eq_3 _ _ _ fun rest hc _ => hne hc, if_pos h]

/-- What begins with a digit is read as a numeral. -/
theorem read_of_isDigit (cap : Nat) {c : Char} (cs : List Char) (h : c.isDigit = true) :
    read cap (c :: cs) = number cap (c :: cs) := by
  have hne : c ≠ '/' := by
    rintro rfl
    cases h
  have hw := startsWord_of_isDigit h
  rw [read.eq_3 _ _ _ fun rest hc _ => hne hc, if_neg (ne_true_of_eq_false hw), if_pos h]

/-- Anything else that opens no comment is read as a symbol. -/
theorem read_of_symbol (cap : Nat) {c : Char} {cs : List Char} (hw : startsWord c = false)
    (hd : c.isDigit = false) (hopen : ∀ rest, c = '/' → cs = '*' :: rest → False) :
    read cap (c :: cs) = symbol c cs := by
  rw [read.eq_3 _ _ _ hopen, if_neg (ne_true_of_eq_false hw), if_neg (ne_true_of_eq_false hd)]

/-- A word that is not too long and does not go on is read as a whole. -/
theorem read_of_word {cap : Nat} {w behind : List Char} (hw : IsWord w) (hl : w.length ≤ cap)
    (he : continuesWord (behind.headD endMark) = false) :
    read cap (w ++ behind) = match Keyword.ofSpelling? (String.ofList w) with
      | some k => ⟨.keyword k, w, [], [], behind⟩
      | none => ⟨.identifier, w, [], [], behind⟩ := by
  obtain ⟨c, cs, rfl, hc, hcs⟩ := hw
  have hall : ∀ d ∈ c :: cs, continuesWord d = true :=
    List.forall_mem_cons.2 ⟨continuesWord_of_startsWord hc, hcs⟩
  have hm : munch continuesWord (cap + 1) (c :: cs ++ behind) = (c :: cs, behind) :=
    munch_append_of_forall hall (by omega) fun _ => eq_false_of_headD he
  have hcap : ¬ cap < (c :: cs).length := by omega
  rw [List.cons_append, read_of_startsWord cap _ hc, ← List.cons_append, word, hm]
  exact if_neg hcap

/-- A numeral within the cap has nothing wrong with it. -/
theorem numeral_of_le {cap : Nat} {r : Radix} {w behind : List Char} (h : w.length ≤ cap) :
    numeral cap r w [] behind = ⟨.number r, w, [], [], behind⟩ := by
  have hc : ¬ cap < w.length := by omega
  simp [numeral, hc]

/-- What does not begin with a zero is decimal. -/
theorem number_of_ne_zero (cap : Nat) {c : Char} (cs : List Char) (h : c ≠ '0') :
    number cap (c :: cs) = decimal cap (c :: cs) :=
  number.eq_3 cap _ (fun _ _ he => h (List.cons.inj he).1) fun _ he => h (List.cons.inj he).1

/-- An octal numeral is read back where it ends. -/
theorem number_of_octal {cap : Nat} {w behind : List Char} (hn : IsNumeral .octal w)
    (hl : w.length ≤ cap) (he : (TokenKind.number .octal).EndsAt w (behind.headD endMark)) :
    number cap (w ++ behind) = ⟨.number .octal, w, [], [], behind⟩ := by
  obtain ⟨ds, rfl, hds⟩ := hn
  obtain ⟨hdigit, hx⟩ := he
  rw [List.length_cons] at hl
  have hnot : ∀ c, behind.head? = some c → isOctalDigit c = false := by
    intro c hc
    rw [← Bool.not_eq_true]
    intro ho
    have hd := isDigit_of_isOctalDigit ho
    rw [eq_false_of_headD hdigit c hc] at hd
    cases hd
  have hm : munch isOctalDigit cap (ds ++ behind) = (ds, behind) :=
    munch_append_of_forall hds (by omega) fun _ => hnot
  have hnum : number cap ('0' :: (ds ++ behind)) = octal cap (ds ++ behind) := by
    cases hd : ds ++ behind with
    | nil => rfl
    | cons x cs =>
      have hne : ¬ (x = 'x' ∨ x = 'X') := by
        cases ds with
        | nil =>
          subst hd
          exact not_or.2 (hx rfl)
        | cons d ds =>
          obtain rfl : d = x := (List.cons.inj hd).1
          have ho := hds d List.mem_cons_self
          rintro (rfl | rfl) <;> cases ho
      exact if_neg hne
  have hfaults : (behind.head?.filter fun c => c == '8' || c == '9') = none := by
    rw [Option.filter_eq_none_iff]
    intro c hc h89
    have hd := eq_false_of_headD hdigit c hc
    simp only [Bool.or_eq_true, beq_iff_eq] at h89
    rcases h89 with rfl | rfl <;> cases hd
  rw [List.cons_append, hnum, octal, hm]
  dsimp only
  rw [hfaults]
  exact numeral_of_le hl

/-- A decimal numeral is read back where it ends. -/
theorem number_of_decimal {cap : Nat} {w behind : List Char} (hn : IsNumeral .decimal w)
    (hl : w.length ≤ cap) (he : (TokenKind.number .decimal).EndsAt w (behind.headD endMark)) :
    number cap (w ++ behind) = ⟨.number .decimal, w, [], [], behind⟩ := by
  obtain ⟨c, ds, rfl, h0, hc, hds⟩ := hn
  have hm : munch Char.isDigit (cap + 1) (c :: ds ++ behind) = (c :: ds, behind) :=
    munch_append_of_forall (List.forall_mem_cons.2 ⟨hc, hds⟩) (by omega)
      fun _ => eq_false_of_headD he
  rw [List.cons_append, number_of_ne_zero cap _ h0, ← List.cons_append, decimal, hm]
  exact numeral_of_le hl

/-- A hexadecimal numeral is read back where it ends. -/
theorem number_of_hexadecimal {cap : Nat} {w behind : List Char} (hn : IsNumeral .hexadecimal w)
    (hl : w.length ≤ cap) (he : (TokenKind.number .hexadecimal).EndsAt w (behind.headD endMark)) :
    number cap (w ++ behind) = ⟨.number .hexadecimal, w, [], [], behind⟩ := by
  obtain ⟨x, ds, rfl, hx, hne, hds⟩ := hn
  have hm : munch isHexDigit (cap - 1) (ds ++ behind) = (ds, behind) := by
    simp only [List.length_cons] at hl
    exact munch_append_of_forall hds (by omega) fun _ => eq_false_of_headD he
  have hany : (ds ++ behind).head?.any isHexDigit = true := by
    cases ds with
    | nil => exact absurd rfl hne
    | cons d ds => exact hds d List.mem_cons_self
  have hnum : number cap ('0' :: x :: ds ++ behind) = hexadecimal cap x (ds ++ behind) :=
    if_pos hx
  rw [hnum, hexadecimal, if_pos hany, hm]
  exact numeral_of_le hl

/-- An operator is read back where it ends. -/
theorem read_of_operator {cap : Nat} {o : Operator} {behind : List Char}
    (he : (TokenKind.operator o).EndsAt o.spelling.toList (behind.headD endMark)) :
    read cap (o.spelling.toList ++ behind) = ⟨.operator o, o.spelling.toList, [], [], behind⟩ := by
  obtain ⟨hnext, hslash⟩ := he
  rcases spelling_operator o with ⟨c, ho, hw, hd, hc⟩ | ⟨c, d, ho, hw, hd, hc⟩
  · have hsingle : single c behind = ⟨.operator o, [c], [], [], behind⟩ := by
      have hs : Operator.ofSpelling? (String.singleton c) = some o := by
        rw [Operator.ofSpelling?_eq_some_iff, ← String.toList_inj, String.toList_singleton, ho]
      rw [single, if_neg hc, hs]
    have hopen : ∀ rest, c = '/' → behind = '*' :: rest → False := by
      rintro rest rfl rfl
      exact (hslash ho).2 rfl
    rw [ho, List.singleton_append, read_of_symbol cap hw hd hopen]
    cases behind with
    | nil => exact hsingle
    | cons d rest =>
      have hpair : pair? c d = none := by
        rw [Option.eq_none_iff_forall_ne_some]
        intro o' ho'
        refine hnext (by rw [ho]; rfl) o' ?_
        rw [pair?_eq_some_iff.1 ho', ho]
        rfl
      rw [symbol, hpair]
      exact hsingle
  · have hpair : pair? c d = some o := pair?_eq_some_iff.2 ho
    rw [ho]
    change read cap (c :: d :: behind) = _
    rw [read_of_symbol cap hw hd fun _ h _ => hc h, symbol, hpair]

/-- A mark is read back whatever stands behind it. -/
theorem read_of_punctuation (cap : Nat) (p : Punctuation) (behind : List Char) :
    read cap (p.spelling.toList ++ behind) =
      ⟨.punctuation p, p.spelling.toList, [], [], behind⟩ := by
  obtain ⟨hw, hd, hb, hs, hnone⟩ := char_punctuation p
  have hsingle : single p.char behind = ⟨.punctuation p, [p.char], [], [], behind⟩ := by
    have ho : Operator.ofSpelling? (String.singleton p.char) = none := by
      rw [Option.eq_none_iff_forall_ne_some]
      intro o ho
      refine hnone o o.mem_all ?_
      rw [← Operator.ofSpelling?_eq_some_iff.1 ho, String.toList_singleton]
      rfl
    rw [single, if_neg hb, ho, Punctuation.ofChar?_char]
  rw [Punctuation.spelling, String.toList_singleton, List.singleton_append,
    read_of_symbol cap hw hd fun _ h _ => hs h]
  cases behind with
  | nil => exact hsingle
  | cons d rest =>
    have hpair : pair? p.char d = none := by
      rw [Option.eq_none_iff_forall_ne_some]
      intro o ho
      refine hnone o o.mem_all ?_
      rw [pair?_eq_some_iff.1 ho]
      rfl
    rw [symbol, hpair]
    exact hsingle

/-- A text that a kind of token classifies is read as a token of that kind. -/
theorem read_of_classified {cap : Nat} {kind : TokenKind} {w behind : List Char}
    (h : Classified cap kind w behind) (hk : kind ≠ .endOfSource) :
    read cap (w ++ behind) = ⟨kind, w, [], [], behind⟩ := by
  obtain ⟨hs, hf, he⟩ := h
  cases kind with
  | keyword k =>
    have hk : Keyword.ofSpelling? (String.ofList w) = some k := by
      rw [hs.2, String.ofList_toList, Keyword.ofSpelling?_spelling]
    rw [read_of_word hs.1 (hf rfl) he, hk]
  | identifier =>
    have hk : Keyword.ofSpelling? (String.ofList w) = none := by
      rw [Option.eq_none_iff_forall_ne_some]
      intro k hk
      refine hs.2 k ?_
      rw [← Keyword.ofSpelling?_eq_some_iff.1 hk, String.toList_ofList]
    rw [read_of_word hs.1 (hf rfl) he, hk]
  | operator o =>
    obtain rfl : w = o.spelling.toList := hs
    exact read_of_operator he
  | punctuation p =>
    obtain rfl : w = p.spelling.toList := hs
    exact read_of_punctuation cap p behind
  | number r =>
    have hn : number cap (w ++ behind) = ⟨.number r, w, [], [], behind⟩ := by
      cases r with
      | octal => exact number_of_octal hs (hf rfl) he
      | decimal => exact number_of_decimal hs (hf rfl) he
      | hexadecimal => exact number_of_hexadecimal hs (hf rfl) he
    obtain ⟨c, cs, rfl, hc⟩ := hs.exists_digit
    rw [List.cons_append, read_of_isDigit cap _ hc, ← List.cons_append, hn]
  | endOfSource => exact absurd rfl hk
  | error => exact hs.elim

end Lexeme

end Recognizer
