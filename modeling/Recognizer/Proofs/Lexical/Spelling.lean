import Recognizer.Lexical.Lexeme
import Recognizer.Proofs.Lexical.Gap
import Recognizer.Text.Source

/-!
# How tokens are written

What the text of a token of each kind looks like and which character may not come behind it: the
text is as long as it could have been. Where no token of any kind can be read there is an error
token, and there are only so many ways to get one. Both sides are said without the readers of
words, numerals and symbols, and they exclude each other.
-/

namespace Recognizer

open Text

namespace Lexeme

/-- A letter or an underscore, and then letters, numbers and underscores. -/
def IsWord (w : List Char) : Prop :=
  ∃ c cs, w = c :: cs ∧ startsWord c = true ∧ ∀ d ∈ cs, continuesWord d = true

/-- A numeral of each base: a zero and octal digits, decimal digits without a leading zero, or a
zero, the letter `x` and at least one hexadecimal digit. -/
def IsNumeral : Radix → List Char → Prop
  | .octal, w => ∃ ds, w = '0' :: ds ∧ ∀ d ∈ ds, isOctalDigit d = true
  | .decimal, w => ∃ c ds, w = c :: ds ∧ c ≠ '0' ∧ c.isDigit = true ∧ ∀ d ∈ ds, d.isDigit = true
  | .hexadecimal, w => ∃ x ds, w = '0' :: x :: ds ∧ (x = 'x' ∨ x = 'X') ∧ ds ≠ [] ∧
      ∀ d ∈ ds, isHexDigit d = true

end Lexeme

open Lexeme

namespace TokenKind

/-- How a token of a kind is written. -/
def Spelled : TokenKind → List Char → Prop
  | keyword k, w => IsWord w ∧ w = k.spelling.toList
  | identifier, w => IsWord w ∧ ∀ k : Keyword, w ≠ k.spelling.toList
  | operator o, w => w = o.spelling.toList
  | punctuation p, w => w = p.spelling.toList
  | number r, w => IsNumeral r w
  | endOfSource, w => w = []
  | error, _ => False

/-- Whether the text of a token of this kind may only have so many characters. -/
def isLimited : TokenKind → Bool
  | keyword _ | identifier | number _ => true
  | _ => false

/-- A token of a kind that is written `w` ends in front of the character `c`: it would not have
been longer with `c`. -/
def EndsAt : TokenKind → List Char → Char → Prop
  | keyword _, _, c | identifier, _, c => continuesWord c = false
  | number .octal, w, c => c.isDigit = false ∧ (w = ['0'] → c ≠ 'x' ∧ c ≠ 'X')
  | number .decimal, _, c => c.isDigit = false
  | number .hexadecimal, _, c => isHexDigit c = false
  | operator _, w, c => (w.length = 1 → ∀ o : Operator, o.spelling.toList ≠ w ++ [c]) ∧
      (w = ['/'] → c ≠ '/' ∧ c ≠ '*')
  | _, _, _ => True

end TokenKind

/-- In front of the text `behind` the text `w` is a token of a kind. Behind the last character of
a source there is the end mark. -/
structure Classified (cap : Nat) (kind : TokenKind) (w behind : List Char) : Prop where
  /-- The token is written as its kind is. -/
  spelled : kind.Spelled w
  /-- Words and numerals are not too long. -/
  fits : kind.isLimited = true → w.length ≤ cap
  /-- The token does not go on. -/
  ends : kind.EndsAt w (behind.headD endMark)

/-- In front of the text `behind` the text `w` is malformed. -/
inductive Malformed (cap : Nat) : List Char → List Char → Prop where
  /-- The opening mark of a comment that is not closed. -/
  | unclosedComment {behind : List Char} (h : ¬ ['*', '/'] <:+: behind) :
    Malformed cap ['/', '*'] behind
  /-- A word that is too long, cut behind the first character too many. -/
  | longWord {w behind : List Char} (hw : IsWord w) (hl : w.length = cap + 1) :
    Malformed cap w behind
  /-- A numeral that is too long, cut behind the first character too many. -/
  | longNumeral {w more behind : List Char} {r : Radix} (hr : IsNumeral r (w ++ more))
    (hm : more <+: behind) (hl : w.length = cap + 1) : Malformed cap w behind
  /-- The announcement of a hexadecimal numeral, which is not cut even where nothing is allowed. -/
  | longAnnouncement {x : Char} {behind : List Char} (hx : x = 'x' ∨ x = 'X')
    (hd : isHexDigit (behind.headD endMark) = true) (hc : cap = 0) : Malformed cap ['0', x] behind
  /-- The announcement of a hexadecimal numeral without a digit behind it. -/
  | missingHexDigit {x : Char} {behind : List Char} (hx : x = 'x' ∨ x = 'X')
    (hd : isHexDigit (behind.headD endMark) = false) : Malformed cap ['0', x] behind
  /-- An octal numeral in front of the digit eight or nine. -/
  | badOctalDigit {w behind : List Char} {d : Char} (hw : IsNumeral .octal w)
    (hb : behind.head? = some d) (hd : d = '8' ∨ d = '9') : Malformed cap w behind
  /-- An exclamation mark that is no part of an operator. -/
  | loneExclamation {behind : List Char} (h : behind.head? ≠ some '=') : Malformed cap ['!'] behind
  /-- A character that begins no token and no gap. -/
  | unknownCharacter {c : Char} {behind : List Char} (hw : startsWord c = false)
    (hd : c.isDigit = false) (he : c ≠ '!') (hs : c ∉ [' ', '\t', '\n'])
    (ho : ∀ o : Operator, o.spelling.toList ≠ [c])
    (hp : ∀ p : Punctuation, p.spelling.toList ≠ [c]) : Malformed cap [c] behind

/-- A numeral that is complete where it is cut. -/
theorem Malformed.longNumeral_of_isNumeral {cap : Nat} {w : List Char} {r : Radix}
    (hr : IsNumeral r w) (hl : w.length = cap + 1) (behind : List Char) : Malformed cap w behind := by
  have hr : IsNumeral r (w ++ []) := by
    rw [List.append_nil]
    exact hr
  exact .longNumeral hr List.nil_prefix hl

/-! ### Characters -/

/-- The digits have the code points from 48 to 57. -/
theorem isDigit_iff_toNat {c : Char} : c.isDigit = true ↔ 48 ≤ c.toNat ∧ c.toNat ≤ 57 := by
  simp only [Char.isDigit, Bool.and_eq_true, decide_eq_true_eq, UInt32.le_iff_toNat_le]
  rfl

/-- No word begins with a digit. -/
theorem startsWord_of_isDigit {c : Char} (h : c.isDigit = true) : startsWord c = false := by
  have hc := isDigit_iff_toNat.1 h
  have hlt : c.val.toNat < 0x80 := by
    change c.toNat < 128
    omega
  have hletter : c.isAlpha = false := by
    rw [← Bool.not_eq_true]
    intro h
    rcases (Bool.or_eq_true _ _).mp h with hu | hl
    · have hu := UInt32.le_iff_toNat_le.mp (of_decide_eq_true hu).1
      change 65 ≤ c.toNat at hu
      omega
    · have hl := UInt32.le_iff_toNat_le.mp (of_decide_eq_true ((Bool.and_eq_true _ _).mp hl).1)
      change 97 ≤ c.toNat at hl
      omega
  have hline : (c == '_') = false := by
    rw [beq_eq_false_iff_ne]
    rintro rfl
    cases h
  rw [startsWord, isAlphabetic, if_pos hlt, hletter, hline]
  rfl

/-- The digits that are not octal are eight and nine. -/
theorem isDigit_eq_false {c : Char} (ho : isOctalDigit c = false) (h8 : c ≠ '8') (h9 : c ≠ '9') :
    c.isDigit = false := by
  rw [← Bool.not_eq_true, isDigit_iff_toNat]
  rintro ⟨hl, hu⟩
  have h8' : c.toNat ≠ 56 := fun h => h8 (Char.toNat_inj.1 h)
  have h9' : c.toNat ≠ 57 := fun h => h9 (Char.toNat_inj.1 h)
  simp only [isOctalDigit, Bool.and_eq_false_iff, decide_eq_false_iff_not, Char.le_def, UInt32.le_iff_toNat_le] at ho
  change ¬ 48 ≤ c.toNat ∨ ¬ c.toNat ≤ 55 at ho
  omega

/-- An octal digit is a digit. -/
theorem isDigit_of_isOctalDigit {c : Char} (h : isOctalDigit c = true) : c.isDigit = true := by
  rw [isDigit_iff_toNat]
  simp only [isOctalDigit, Bool.and_eq_true, decide_eq_true_eq, Char.le_def, UInt32.le_iff_toNat_le] at h
  change 48 ≤ c.toNat ∧ c.toNat ≤ 55 at h
  omega

/-- What is true of every character that comes next is true of the end mark, too. -/
theorem headD_of_head? {p : Char → Bool} {cs : List Char} (hp : p endMark = false)
    (h : ∀ c, cs.head? = some c → p c = false) : p (cs.headD endMark) = false := by
  cases cs with
  | nil => exact hp
  | cons c cs => exact h c rfl

/-- What the next character or the end mark does not do, no next character does. -/
theorem eq_false_of_headD {p : Char → Bool} {cs : List Char} (h : p (cs.headD endMark) = false) :
    ∀ c, cs.head? = some c → p c = false := by
  intro c hc
  obtain ⟨rest, rfl⟩ := List.head?_eq_some_iff.1 hc
  exact h

/-! ### Fronts -/

namespace Lexeme

/-- A numeral begins with a digit. -/
theorem IsNumeral.exists_digit {r : Radix} {w : List Char} (h : IsNumeral r w) :
    ∃ c cs, w = c :: cs ∧ c.isDigit = true := by
  cases r with
  | octal =>
    obtain ⟨ds, rfl, _⟩ := h
    exact ⟨'0', ds, rfl, rfl⟩
  | decimal =>
    obtain ⟨c, ds, rfl, _, hc, _⟩ := h
    exact ⟨c, ds, rfl, hc⟩
  | hexadecimal =>
    obtain ⟨x, ds, rfl, _⟩ := h
    exact ⟨'0', x :: ds, rfl, rfl⟩

/-- What continues no word stands in none. -/
theorem IsWord.notMem {w : List Char} {c : Char} (h : IsWord w) (hc : continuesWord c = false) :
    c ∉ w := by
  obtain ⟨d, ds, rfl, hd, hds⟩ := h
  have hall : ∀ d' ∈ d :: ds, continuesWord d' = true :=
    List.forall_mem_cons.2 ⟨continuesWord_of_startsWord hd, hds⟩
  intro hm
  rw [hall c hm] at hc
  cases hc

/-- What is no digit of any base and does not announce one stands in no numeral. -/
theorem IsNumeral.notMem {r : Radix} {w : List Char} {c : Char} (h : IsNumeral r w)
    (hc : isHexDigit c = false) (hx : c ≠ 'x' ∧ c ≠ 'X') : c ∉ w := by
  have hd : c.isDigit = false := by
    rw [isHexDigit, Bool.or_eq_false_iff, Bool.or_eq_false_iff] at hc
    exact hc.1.1
  have h0 : c ≠ '0' := by
    rintro rfl
    cases hd
  have hnot : ∀ {p : Char → Bool} {ds : List Char}, p c = false → (∀ d ∈ ds, p d = true) →
      c ∉ ds := by
    intro p ds hp hds hm
    rw [hds c hm] at hp
    cases hp
  cases r with
  | octal =>
    obtain ⟨ds, rfl, hds⟩ := h
    have hall : ∀ d ∈ ds, d.isDigit = true := fun d hm => isDigit_of_isOctalDigit (hds d hm)
    exact List.not_mem_cons_of_ne_of_not_mem h0 (hnot hd hall)
  | decimal =>
    obtain ⟨d, ds, rfl, _, hd', hds⟩ := h
    exact hnot hd (List.forall_mem_cons.2 ⟨hd', hds⟩)
  | hexadecimal =>
    obtain ⟨x, ds, rfl, hx', _, hds⟩ := h
    have hne : c ≠ x := by
      rintro rfl
      exact hx'.elim hx.1 hx.2
    exact List.not_mem_cons_of_ne_of_not_mem h0
      (List.not_mem_cons_of_ne_of_not_mem hne (hnot hc hds))

/-- The spelling of an operator is looked up by its two characters. -/
theorem pair?_eq_some_iff {c d : Char} {o : Operator} :
    pair? c d = some o ↔ o.spelling.toList = [c, d] := by
  rw [pair?, Operator.ofSpelling?_eq_some_iff, ← String.toList_inj, String.toList_ofList, eq_comm]

/-- No operator is written with a character that may not stand in a text. -/
theorem endMark_notMem_spelling (o : Operator) : endMark ∉ o.spelling.toList := by
  cases o <;> decide

/-- An operator is written with one character or two, which begin neither words nor numerals. -/
theorem spelling_operator (o : Operator) :
    (∃ c, o.spelling.toList = [c] ∧ startsWord c = false ∧ c.isDigit = false ∧ c ≠ '!') ∨
      ∃ c d, o.spelling.toList = [c, d] ∧ startsWord c = false ∧ c.isDigit = false ∧ c ≠ '/' := by
  cases o with
  | equal => exact .inr ⟨'=', '=', by decide⟩
  | notEqual => exact .inr ⟨'!', '=', by decide⟩
  | lessEqual => exact .inr ⟨'<', '=', by decide⟩
  | greaterEqual => exact .inr ⟨'>', '=', by decide⟩
  | shiftLeft => exact .inr ⟨'<', '<', by decide⟩
  | shiftRight => exact .inr ⟨'>', '>', by decide⟩
  | increment => exact .inr ⟨'+', '+', by decide⟩
  | decrement => exact .inr ⟨'-', '-', by decide⟩
  | assign => exact .inl ⟨'=', by decide⟩
  | less => exact .inl ⟨'<', by decide⟩
  | greater => exact .inl ⟨'>', by decide⟩
  | plus => exact .inl ⟨'+', by decide⟩
  | minus => exact .inl ⟨'-', by decide⟩
  | star => exact .inl ⟨'*', by decide⟩
  | slash => exact .inl ⟨'/', by decide⟩
  | percent => exact .inl ⟨'%', by decide⟩

/-- A punctuation mark begins nothing else. -/
theorem char_punctuation (p : Punctuation) : startsWord p.char = false ∧ p.char.isDigit = false ∧
    p.char ≠ '!' ∧ p.char ≠ '/' ∧ ∀ o ∈ Operator.all, o.spelling.toList.head? ≠ some p.char := by
  cases p <;> decide

/-- What begins a word or a numeral is neither a blank nor a slash. -/
theorem not_blank_of_front {c : Char} (h : startsWord c = true ∨ c.isDigit = true) :
    c ∉ [' ', '\t', '\n'] ∧ c ≠ '/' := by
  have hnot : c ∉ [' ', '\t', '\n', '/'] := by
    intro hm
    simp only [List.mem_cons, List.not_mem_nil, or_false] at hm
    rcases hm with rfl | rfl | rfl | rfl <;> exact absurd h (by decide)
  refine ⟨fun hm => hnot (List.mem_append_left ['/'] hm), ?_⟩
  rintro rfl
  exact hnot (by decide)

/-- What a token begins with begins no gap, unless it is a slash, which is then the token. -/
theorem exists_front {kind : TokenKind} {w : List Char} (hs : kind.Spelled w)
    (hk : kind ≠ .endOfSource) : ∃ c cs, w = c :: cs ∧ c ∉ [' ', '\t', '\n'] ∧
      (c = '/' → cs = [] ∧ kind = .operator .slash) := by
  cases kind with
  | keyword k | identifier =>
    obtain ⟨c, cs, rfl, hc, _⟩ := hs.1
    obtain ⟨hblank, hslash⟩ := not_blank_of_front (.inl hc)
    exact ⟨c, cs, rfl, hblank, fun he => absurd he hslash⟩
  | operator o =>
    obtain rfl : w = o.spelling.toList := hs
    cases o with
    | slash => exact ⟨'/', [], rfl, by decide, fun _ => ⟨rfl, rfl⟩⟩
    | _ => exact ⟨_, _, rfl, by decide, nofun⟩
  | punctuation p =>
    obtain rfl : w = p.spelling.toList := hs
    cases p <;> exact ⟨_, _, rfl, by decide, nofun⟩
  | number r =>
    obtain ⟨c, cs, rfl, hc⟩ := hs.exists_digit
    obtain ⟨hblank, hslash⟩ := not_blank_of_front (.inr hc)
    exact ⟨c, cs, rfl, hblank, fun he => absurd he hslash⟩
  | endOfSource => exact absurd rfl hk
  | error => exact hs.elim

end Lexeme

/-- No token is written with a line break. -/
theorem TokenKind.Spelled.notMem {kind : TokenKind} {w : List Char} {c : Char}
    (h : kind.Spelled w) (hc : c = '\n' ∨ c = '\r') : c ∉ w := by
  have hword : continuesWord c = false := by rcases hc with rfl | rfl <;> decide
  have hhex : isHexDigit c = false := by rcases hc with rfl | rfl <;> decide
  have hx : c ≠ 'x' ∧ c ≠ 'X' := by rcases hc with rfl | rfl <;> decide
  cases kind with
  | keyword k | identifier => exact h.1.notMem hword
  | operator o =>
    obtain rfl : w = o.spelling.toList := h
    rcases hc with rfl | rfl <;> cases o <;> decide
  | punctuation p =>
    obtain rfl : w = p.spelling.toList := h
    rcases hc with rfl | rfl <;> cases p <;> decide
  | number r => exact IsNumeral.notMem h hhex hx
  | endOfSource =>
    obtain rfl : w = [] := h
    exact List.not_mem_nil
  | error => exact h.elim

/-- Nor is what is malformed and left as an error token. -/
theorem Malformed.newline_notMem {cap : Nat} {w behind : List Char} (h : Malformed cap w behind) :
    '\n' ∉ w := by
  cases h with
  | unclosedComment _ => decide
  | longWord hw _ => exact hw.notMem (by decide)
  | longNumeral hr _ _ =>
    have hn := hr.notMem (c := '\n') (by decide) (by decide)
    exact fun hm => hn (List.mem_append_left _ hm)
  | longAnnouncement hx _ _ => rcases hx with rfl | rfl <;> decide
  | missingHexDigit hx _ => rcases hx with rfl | rfl <;> decide
  | badOctalDigit hw _ _ => exact hw.notMem (by decide) (by decide)
  | loneExclamation _ => decide
  | unknownCharacter _ _ _ hs _ _ =>
    intro hm
    rw [← List.mem_singleton.1 hm] at hs
    exact hs (by decide)

namespace Classified

variable {cap : Nat} {kind : TokenKind} {w behind : List Char}

/-- No gap begins where a token does. -/
theorem read?_eq_none (h : Classified cap kind w behind) (hk : kind ≠ .endOfSource) :
    Trivia.read? (w ++ behind) = none := by
  obtain ⟨c, cs, rfl, hblank, hslash⟩ := exists_front h.spelled hk
  refine Trivia.read?_cons_eq_none hblank fun hc => ?_
  obtain ⟨rfl, rfl⟩ := hslash hc
  subst hc
  have hends := h.ends.2 rfl
  cases behind with
  | nil => exact ⟨nofun, nofun⟩
  | cons d behind =>
    refine ⟨fun hd => hends.1 (Option.some.inj hd), fun hd => hends.2 (Option.some.inj hd)⟩

/-- A symbol begins neither like a word nor like a numeral. -/
theorem isLimited_of_front {c : Char} {cs : List Char} (h : Classified cap kind (c :: cs) behind)
    (hc : startsWord c = true ∨ c.isDigit = true) : kind.isLimited = true := by
  have hs := h.spelled
  cases kind with
  | operator o =>
    rcases spelling_operator o with ⟨c', ho, hw, hd, _⟩ | ⟨c', d, ho, hw, hd, _⟩ <;>
    · rw [TokenKind.Spelled, ho] at hs
      cases hs
      simp [hw, hd] at hc
  | punctuation p =>
    obtain ⟨hw, hd, _⟩ := char_punctuation p
    rw [TokenKind.Spelled, Punctuation.spelling, String.toList_singleton] at hs
    cases hs
    simp [hw, hd] at hc
  | endOfSource => cases hs
  | error => exact hs.elim
  | _ => rfl

/-- What begins like a word or a numeral is not too long. -/
theorem length_le_of_front {c : Char} {cs : List Char} (h : Classified cap kind (c :: cs) behind)
    (hc : startsWord c = true ∨ c.isDigit = true) : (c :: cs).length ≤ cap :=
  h.fits (h.isLimited_of_front hc)

/-- What begins like a numeral is one. -/
theorem exists_radix {c : Char} {cs : List Char} (h : Classified cap kind (c :: cs) behind)
    (hc : c.isDigit = true) : ∃ r, kind = .number r := by
  have hl := h.isLimited_of_front (.inr hc)
  have hw := startsWord_of_isDigit hc
  cases kind with
  | number r => exact ⟨r, rfl⟩
  | keyword k | identifier =>
    obtain ⟨c', cs', he, hc', _⟩ := h.spelled.1
    cases he
    rw [hw] at hc'
    cases hc'
  | _ => cases hl

/-- A character that begins no token is none. -/
theorem not_single {c : Char} (hw : startsWord c = false) (hd : c.isDigit = false)
    (ho : ∀ o : Operator, o.spelling.toList ≠ [c])
    (hp : ∀ p : Punctuation, p.spelling.toList ≠ [c]) : ¬ Classified cap kind [c] behind := by
  intro h
  have hs := h.spelled
  cases kind with
  | operator o => exact ho o hs.symm
  | punctuation p => exact hp p hs.symm
  | keyword k | identifier =>
    obtain ⟨c', cs, he, hc, _⟩ := hs.1
    cases he
    rw [hw] at hc
    cases hc
  | number r =>
    obtain ⟨c', cs, he, hc⟩ := hs.exists_digit
    cases he
    rw [hd] at hc
    cases hc
  | endOfSource => cases hs
  | error => exact hs

end Classified

/-- What is malformed is no token of any kind. -/
theorem Malformed.not_classified {cap : Nat} {kind : TokenKind} {w behind : List Char}
    (hm : Malformed cap w behind) : ¬ Classified cap kind w behind := by
  intro h
  cases hm with
  | unclosedComment hopen =>
    have hk : kind ≠ .endOfSource := by
      rintro rfl
      cases h.spelled
    obtain ⟨c, cs, he, _, hslash⟩ := exists_front h.spelled hk
    cases he
    cases (hslash rfl).1
  | longWord hw hl =>
    obtain ⟨c, cs, rfl, hc, _⟩ := hw
    have hfits := h.length_le_of_front (.inl hc)
    omega
  | @longNumeral w more behind r hr hp hl =>
    obtain ⟨c, cs, he, hdigit⟩ := hr.exists_digit
    cases w with
    | nil =>
      rw [List.length_nil] at hl
      omega
    | cons d ds =>
      obtain rfl : d = c := (List.cons.inj he).1
      have hfits := h.length_le_of_front (.inr hdigit)
      omega
  | longAnnouncement _ _ hc =>
    have hfits := h.length_le_of_front (.inr rfl)
    rw [hc] at hfits
    nomatch hfits
  | @missingHexDigit x behind hx hd =>
    obtain ⟨r, rfl⟩ := h.exists_radix rfl
    have hs := h.spelled
    cases r with
    | octal =>
      obtain ⟨ds, he, hds⟩ := hs
      cases he
      have ho := hds x List.mem_cons_self
      rcases hx with rfl | rfl <;> cases ho
    | decimal =>
      obtain ⟨c, ds, he, h0, _⟩ := hs
      cases he
      exact h0 rfl
    | hexadecimal =>
      obtain ⟨y, ds, he, _, hne, _⟩ := hs
      cases he
      exact hne rfl
  | @badOctalDigit w behind d hw hb hd =>
    obtain ⟨ds, rfl, hds⟩ := hw
    obtain ⟨r, rfl⟩ := h.exists_radix rfl
    have hs := h.spelled
    cases r with
    | octal =>
      have hends := eq_false_of_headD h.ends.1 d hb
      rcases hd with rfl | rfl <;> cases hends
    | decimal =>
      obtain ⟨c, ds', he, h0, _⟩ := hs
      cases he
      exact h0 rfl
    | hexadecimal =>
      obtain ⟨x, ds', he, hx, _⟩ := hs
      cases he
      have ho := hds x List.mem_cons_self
      rcases hx with rfl | rfl <;> cases ho
  | loneExclamation hne =>
    exact Classified.not_single (by decide) (by decide) (fun o => by cases o <;> decide)
      (fun p => by cases p <;> decide) h
  | unknownCharacter hw hd _ _ ho hp => exact Classified.not_single hw hd ho hp h

end Recognizer
