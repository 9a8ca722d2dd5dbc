import Recognizer.Proofs.Lexical.Spelling
import Recognizer.Proofs.Lexical.Stream

/-!
# What is read is classified

Every reader takes the longest text of its kind, or leaves an error token for one of the ways in
which a text can be malformed.
-/

namespace Recognizer

open Text Lexeme

namespace Lexeme

/-- A lexeme is written as its kind is, or it is an error token with good reason. -/
inductive Sound (cap : Nat) (l : Lexeme) : Prop where
  /-- The token is one of its kind. -/
  | classified (h : Classified cap l.kind l.text (l.discarded ++ l.rest)) : Sound cap l
  /-- The text is malformed. -/
  | malformed (hk : l.kind = .error) (h : Malformed cap l.text (l.discarded ++ l.rest)) :
    Sound cap l

/-- A word is an identifier, a reserved word or too long. -/
theorem word_sound (cap : Nat) {c : Char} (cs : List Char) (h : startsWord c = true) :
    (word cap (c :: cs)).Sound cap := by
  have hlength := length_munch_le continuesWord (cap + 1) (c :: cs)
  have hhead := head_munch_of_lt continuesWord (cap + 1) (c :: cs)
  have hword : IsWord (munch continuesWord (cap + 1) (c :: cs)).1 := by
    have hc := continuesWord_of_startsWord h
    refine ⟨c, (munch continuesWord cap cs).1, ?_, h, forall_mem_munch continuesWord cap cs⟩
    simp [munch, hc]
  unfold word
  dsimp only
  generalize munch continuesWord (cap + 1) (c :: cs) = parts at hlength hhead hword
  split
  · next hl => exact .malformed rfl (.longWord hword (by dsimp only; omega))
  · next hl =>
    have hends : continuesWord (parts.2.headD endMark) = false :=
      headD_of_head? (by decide) (hhead (by omega))
    have hfits : parts.1.length ≤ cap := by omega
    split
    · next k hk =>
      have hs := congrArg String.toList (Keyword.ofSpelling?_eq_some_iff.1 hk)
      rw [String.toList_ofList] at hs
      exact .classified ⟨⟨hword, hs⟩, fun _ => hfits, hends⟩
    · next hk =>
      refine .classified ⟨⟨hword, fun k hs => ?_⟩, fun _ => hfits, hends⟩
      change parts.1 = _ at hs
      rw [hs, String.ofList_toList, Keyword.ofSpelling?_spelling] at hk
      cases hk

/-- A numeral with the right digits is sound if it is cut where it is too long and ends where it
is not. -/
theorem numeral_sound {cap : Nat} {r : Radix} {text rest : List Char}
    (hl : text.length ≤ cap → IsNumeral r text ∧ (TokenKind.number r).EndsAt text (rest.headD endMark))
    (hm : cap < text.length → Malformed cap text rest) :
    (numeral cap r text [] rest).Sound cap := by
  by_cases hc : cap < text.length
  · refine .malformed ?_ (hm hc)
    simp [numeral, hc]
  · have hn := hl (by omega)
    have hk : (numeral cap r text [] rest).kind = .number r := by simp [numeral, hc]
    refine .classified ⟨?_, fun _ => ?_, ?_⟩
    · rw [hk]
      exact hn.1
    · change text.length ≤ cap
      omega
    · rw [hk]
      exact hn.2

/-- A hexadecimal numeral is written as such, or is malformed. A cap below two leaves no room for a
digit. -/
theorem hexadecimal_sound (cap : Nat) {x : Char} (cs : List Char) (hx : x = 'x' ∨ x = 'X') :
    (hexadecimal cap x cs).Sound cap := by
  unfold hexadecimal
  split
  · next hd =>
    have hall := forall_mem_munch isHexDigit (cap - 1) cs
    have hlength := length_munch_le isHexDigit (cap - 1) cs
    have hhead := head_munch_of_lt isHexDigit (cap - 1) cs
    cases cs with
    | nil => cases hd
    | cons d cs =>
      have hd : isHexDigit d = true := hd
      dsimp only
      by_cases hcap : cap < 2
      · have hzero : cap - 1 = 0 := by omega
        rw [hzero]
        refine numeral_sound (fun hl => ?_) fun _ => ?_
        · change 2 ≤ cap at hl
          omega
        · have hn : IsNumeral .hexadecimal (['0', x] ++ [d]) :=
            ⟨x, [d], rfl, hx, List.cons_ne_nil _ _, by simpa using hd⟩
          rcases Nat.eq_zero_or_pos cap with h0 | hpos
          · exact .longAnnouncement hx hd h0
          · refine .longNumeral hn ⟨cs, rfl⟩ ?_
            change 2 = cap + 1
            omega
      · obtain ⟨bound, hb⟩ : ∃ bound, cap - 1 = bound + 1 := ⟨cap - 2, by omega⟩
        have hne := munch_ne_nil (p := isHexDigit) bound cs hd
        rw [← hb] at hne
        generalize munch isHexDigit (cap - 1) (d :: cs) = parts at hall hlength hhead hne ⊢
        have hn : IsNumeral .hexadecimal ('0' :: x :: parts.1) := ⟨x, parts.1, rfl, hx, hne, hall⟩
        refine numeral_sound (fun hl => ⟨hn, ?_⟩) fun hl => ?_
        · simp only [List.length_cons] at hl
          exact headD_of_head? (by decide) (hhead (by omega))
        · simp only [List.length_cons] at hl
          refine .longNumeral_of_isNumeral hn ?_ parts.2
          simp only [List.length_cons]
          omega
  · next hd =>
    refine .malformed ?_ (.missingHexDigit hx ?_)
    · simp [numeral]
    · cases cs with
      | nil =>
        change isHexDigit endMark = false
        decide
      | cons d cs =>
        change isHexDigit d = false
        exact eq_false_of_ne_true hd

/-- An octal numeral is written as such, or is malformed. -/
theorem octal_sound (cap : Nat) (cs : List Char) (hx : ∀ x, cs.head? = some x → x ≠ 'x' ∧ x ≠ 'X') :
    (octal cap cs).Sound cap := by
  have hall := forall_mem_munch isOctalDigit cap cs
  have hlength := length_munch_le isOctalDigit cap cs
  have hhead := head_munch_of_lt isOctalDigit cap cs
  have hcs := munch_append isOctalDigit cap cs
  unfold octal
  dsimp only
  generalize munch isOctalDigit cap cs = parts at hall hlength hhead hcs
  have hn : IsNumeral .octal ('0' :: parts.1) := ⟨parts.1, rfl, hall⟩
  by_cases hbad : ∃ d, parts.2.head? = some d ∧ (d = '8' ∨ d = '9')
  · obtain ⟨d, hd, hd89⟩ := hbad
    refine .malformed ?_ (.badOctalDigit hn hd hd89)
    rcases hd89 with rfl | rfl <;> simp [numeral, hd]
  · have hnone : parts.2.head?.filter (fun c => c == '8' || c == '9') = none := by
      rw [Option.filter_eq_none_iff]
      intro d hd h89
      exact hbad ⟨d, hd, by simpa using h89⟩
    rw [hnone]
    refine numeral_sound (fun hl => ⟨hn, ?_, ?_⟩) fun hl => ?_
    · simp only [List.length_cons] at hl
      refine headD_of_head? (by decide) fun c hc => ?_
      have ho := hhead (by omega) c hc
      exact isDigit_eq_false ho (fun h8 => hbad ⟨c, hc, .inl h8⟩) fun h9 => hbad ⟨c, hc, .inr h9⟩
    · intro hw
      have hnil : parts.1 = [] := (List.cons.inj hw).2
      rw [hnil, List.nil_append] at hcs
      rw [← hcs] at hx
      cases hr : parts.2 with
      | nil => decide
      | cons c rest => exact hx c (by rw [hr]; rfl)
    · simp only [List.length_cons] at hl
      refine .longNumeral_of_isNumeral hn ?_ parts.2
      simp only [List.length_cons]
      omega

/-- A decimal numeral is written as such, or is too long. -/
theorem decimal_sound (cap : Nat) {c : Char} (cs : List Char) (h : c.isDigit = true) (h0 : c ≠ '0') :
    (decimal cap (c :: cs)).Sound cap := by
  have hlength := length_munch_le Char.isDigit (cap + 1) (c :: cs)
  have hhead := head_munch_of_lt Char.isDigit (cap + 1) (c :: cs)
  have hn : IsNumeral .decimal (munch Char.isDigit (cap + 1) (c :: cs)).1 := by
    refine ⟨c, (munch Char.isDigit cap cs).1, ?_, h0, h, forall_mem_munch Char.isDigit cap cs⟩
    simp [munch, h]
  unfold decimal
  dsimp only
  generalize munch Char.isDigit (cap + 1) (c :: cs) = parts at hlength hhead hn
  refine numeral_sound (fun hl => ⟨hn, headD_of_head? (by decide) (hhead (by omega))⟩) fun hl => ?_
  exact .longNumeral_of_isNumeral hn (by omega) parts.2

/-- A numeral of any base is written as such, or is malformed. -/
theorem number_sound (cap : Nat) {c : Char} (cs : List Char) (h : c.isDigit = true) :
    (number cap (c :: cs)).Sound cap := by
  unfold number
  split
  · next x cs' heq =>
    split
    · next hx => exact hexadecimal_sound cap cs' hx
    · next hx =>
      refine octal_sound cap (x :: cs') fun y hy => ?_
      cases hy
      exact not_or.1 hx
  · next hne heq =>
    refine octal_sound cap _ fun y hy => ?_
    obtain ⟨ys, hys⟩ := List.head?_eq_some_iff.1 hy
    exact (hne y ys hys).elim
  · next hne hne' =>
    refine decimal_sound cap cs h ?_
    rintro rfl
    exact hne' cs rfl

/-- A character that begins nothing else is an operator, a mark or an error. -/
theorem single_sound (cap : Nat) {c : Char} {cs : List Char} (hw : startsWord c = false)
    (hd : c.isDigit = false) (hs : c ∉ [' ', '\t', '\n'])
    (hpair : ∀ o : Operator, o.spelling.toList ≠ [c, cs.headD endMark])
    (hslash : c = '/' → cs.headD endMark ≠ '/' ∧ cs.headD endMark ≠ '*') :
    (single c cs).Sound cap := by
  unfold single
  split
  · next hc =>
    subst hc
    refine .malformed rfl (.loneExclamation fun he => hpair .notEqual ?_)
    obtain ⟨rest, rfl⟩ := List.head?_eq_some_iff.1 he
    rfl
  · next hc =>
    split
    · next o ho =>
      have hspelling : [c] = o.spelling.toList := by
        rw [← Operator.ofSpelling?_eq_some_iff.1 ho, String.toList_singleton]
      refine .classified ⟨hspelling, fun h => absurd h Bool.false_ne_true, fun _ => hpair,
        fun hc => hslash ?_⟩
      exact (List.cons.inj hc).1
    · next p _ hp =>
      have hspelling : [c] = p.spelling.toList := by
        rw [Punctuation.ofChar?_eq_some_iff.1 hp, Punctuation.spelling, String.toList_singleton]
      exact .classified ⟨hspelling, fun h => absurd h Bool.false_ne_true, trivial⟩
    · next ho hp =>
      refine .malformed rfl (.unknownCharacter hw hd hc hs (fun o he => ?_) fun p he => ?_)
      · have hspelling : String.singleton c = o.spelling := by
          rw [← String.toList_inj, he, String.toList_singleton]
        rw [hspelling, Operator.ofSpelling?_spelling] at ho
        cases ho
      · rw [Punctuation.spelling, String.toList_singleton] at he
        have hchar : p.char = c := (List.cons.inj he).1
        rw [← hchar, Punctuation.ofChar?_char] at hp
        cases hp

/-- A symbol is an operator, a mark or an error. -/
theorem symbol_sound (cap : Nat) {c : Char} {cs : List Char} (hw : startsWord c = false)
    (hd : c.isDigit = false) (ht : Trivia.read? (c :: cs) = none)
    (hopen : ∀ rest, c = '/' → cs = '*' :: rest → False) : (symbol c cs).Sound cap := by
  have hs : c ∉ [' ', '\t', '\n'] := by
    intro hm
    simp only [List.mem_cons, List.not_mem_nil, or_false] at hm
    rcases hm with rfl | rfl | rfl <;> cases ht
  unfold symbol
  split
  · refine single_sound cap hw hd hs (fun o ho => endMark_notMem_spelling o ?_) fun _ => by decide
    rw [ho]
    exact List.mem_cons_of_mem _ List.mem_cons_self
  · next d rest =>
    split
    · next o ho =>
      have hspelling := pair?_eq_some_iff.1 ho
      exact .classified ⟨hspelling.symm, nofun, nofun, nofun⟩
    · next ho =>
      refine single_sound cap hw hd hs (fun o he => ?_) ?_
      · have hpair : pair? c d = some o := pair?_eq_some_iff.2 he
        rw [hpair] at ho
        cases ho
      · rintro rfl
        refine ⟨?_, fun hd => hopen rest rfl ?_⟩
        · rintro hd
          obtain rfl : d = '/' := hd
          cases ht
        · obtain rfl : d = '*' := hd
          rfl

/-- Whatever is read from a text without trivia in front is sound. -/
theorem read_sound (cap : Nat) {cs : List Char} (h : Trivia.read? cs = none) :
    (read cap cs).Sound cap := by
  unfold read
  split
  · exact .classified ⟨rfl, nofun, trivial⟩
  · next cs =>
    refine .malformed rfl (.unclosedComment ?_)
    have hs : Trivia.splitAtClose? cs = none := Option.map_eq_none_iff.1 h
    rw [List.append_nil]
    exact Trivia.splitAtClose?_eq_none_iff.1 hs
  · next c cs hne =>
    split
    · next hw => exact word_sound cap cs hw
    · next hw =>
      split
      · next hd => exact number_sound cap cs hd
      · next hd =>
        exact symbol_sound cap (eq_false_of_ne_true hw) (eq_false_of_ne_true hd) h hne

end Lexeme

/-- Each token of a source is one of its kind, and as long as it could be, unless it is an error
token, and it is an error token exactly where the text is malformed. -/
theorem readings_are_classified (s : Source) (cap : Nat) :
    ∀ r ∈ s.readings cap,
      let w := r.token.text.toList
      let behind := s.chars.drop (r.start.offset + w.length)
      s.chars = s.chars.take r.start.offset ++ (w ++ behind) ∧
        (r.token.kind ≠ .error → Classified cap r.token.kind w behind) ∧
        (r.token.kind = .error ↔ Malformed cap w behind) := by
  intro r hr w behind
  obtain ⟨before, ahead, hc, ht, hstart, hkind, htext, -⟩ := Reading.exists_lexeme_of_mem hr
  have hw : w = (read cap ahead).text := htext
  have hcovers := read_covers cap ahead
  rw [Covers, consumed, List.append_assoc, ← hw] at hcovers
  have hoffset : r.start.offset = before.length := by
    rw [hstart, Position.advance_offset]
    exact Nat.zero_add _
  have hbefore : s.chars.take r.start.offset = before := by
    rw [hoffset, hc, List.take_left]
  have hbehind : behind = (read cap ahead).discarded ++ (read cap ahead).rest := by
    change s.chars.drop (r.start.offset + w.length) = _
    have hdrop := congrArg (List.drop w.length) hcovers
    rw [List.drop_left] at hdrop
    rw [hoffset, hc, ← List.drop_drop, List.drop_left, hdrop]
  have hsound := read_sound cap ht
  refine ⟨?_, ?_, ?_⟩
  · rw [hbefore, hbehind, hcovers, hc]
  · intro hne
    rw [hkind] at hne
    cases hsound with
    | classified h =>
      rw [hkind, hw, hbehind]
      exact h
    | malformed hk h => exact absurd hk hne
  · rw [hbehind, hkind, hw]
    constructor
    · intro hk
      cases hsound with
      | classified h =>
        rw [hk] at h
        exact h.spelled.elim
      | malformed hk h => exact h
    · intro hm
      cases hsound with
      | classified h => exact absurd h hm.not_classified
      | malformed hk h => exact hk

/-- The source `x 08`. -/
def zeroEight : Source :=
  ⟨['x', ' ', '0', '8'], by decide, by decide⟩

/-- The step that reads the zero, in front of a digit that is not octal. -/
def zeroReading : Reading :=
  ⟨⟨.error, "0", 1, 3⟩, ⟨2, 1, 3⟩, [.badOctalDigit '8'], ⟨3, 1, 4⟩, ['8']⟩

/-- A zero in front of an eight. -/
theorem zero_is_malformed : zeroReading ∈ zeroEight.readings 20 ∧ Malformed 20 ['0'] ['8'] := by
  have hr : zeroReading ∈ zeroEight.readings 20 := by
    decide +kernel
  exact ⟨hr, (readings_are_classified zeroEight 20 zeroReading hr).2.2.1 rfl⟩

end Recognizer
