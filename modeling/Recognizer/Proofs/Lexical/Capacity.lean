import Recognizer.Proofs.Lexical.Backtracking
import Recognizer.Proofs.Lexical.Classification

/-!
# How long tokens may be

Words and numerals have no more characters than the cap allows, and what is cut off because of it
has at most one more. The cap is looked at in nothing else. So a text in which nothing is too long
is read in the same way under every higher cap.
-/

namespace Recognizer

/-- What is split off below the bound is split off under any higher one. -/
theorem munch_of_length_lt {p : Char → Bool} {bound bound' : Nat} {cs : List Char}
    (h : (munch p bound cs).1.length < bound) (hb : bound ≤ bound') :
    munch p bound' cs = munch p bound cs := by
  have hall := munch_append p bound cs
  have hm : munch p bound' ((munch p bound cs).1 ++ (munch p bound cs).2) = munch p bound cs :=
    munch_append_of_forall (forall_mem_munch p bound cs) (by omega)
      fun _ => head_munch_of_lt p bound cs h
  rwa [hall] at hm

namespace Lexeme

variable {cap cap' : Nat} {cs : List Char}

/-! ### Lengths -/

/-- A word is at most one character longer than the cap. -/
theorem length_word_le (cap : Nat) (cs : List Char) : (word cap cs).text.length ≤ cap + 1 := by
  have hmunch := length_munch_le Text.continuesWord (cap + 1) cs
  unfold word
  dsimp only
  split
  · exact hmunch
  · split <;> exact hmunch

/-- The two characters in front of hexadecimal digits are read whatever the cap. -/
theorem length_hexadecimal_le (cap : Nat) (x : Char) (cs : List Char) :
    (hexadecimal cap x cs).text.length ≤ max (cap + 1) 2 := by
  have hmunch := length_munch_le isHexDigit (cap - 1) cs
  unfold hexadecimal numeral
  split
  · dsimp only [List.length_cons]
    omega
  · exact Nat.le_max_right ..

/-- An octal numeral is at most one character longer than the cap. -/
theorem length_octal_le (cap : Nat) (cs : List Char) : (octal cap cs).text.length ≤ cap + 1 :=
  Nat.succ_le_succ (length_munch_le isOctalDigit cap cs)

/-- A decimal numeral is at most one character longer than the cap. -/
theorem length_decimal_le (cap : Nat) (cs : List Char) : (decimal cap cs).text.length ≤ cap + 1 :=
  length_munch_le Char.isDigit (cap + 1) cs

/-- A numeral is at most one character longer than the cap, but for a prefix alone. -/
theorem length_number_le (cap : Nat) (cs : List Char) :
    (number cap cs).text.length ≤ max (cap + 1) 2 := by
  have hone {n : Nat} (h : n ≤ cap + 1) : n ≤ max (cap + 1) 2 := Nat.le_trans h (Nat.le_max_left ..)
  unfold number
  split
  · split
    · exact length_hexadecimal_le ..
    · exact hone (length_octal_le ..)
  · exact hone (length_octal_le ..)
  · exact hone (length_decimal_le ..)

/-- A symbol of one character has no more than two. -/
theorem length_single_le (c : Char) (cs : List Char) : (single c cs).text.length ≤ 2 := by
  unfold single
  split
  · exact Nat.le_succ 1
  · split <;> exact Nat.le_succ 1

/-- A symbol has at most two characters. -/
theorem length_symbol_le (c : Char) (cs : List Char) : (symbol c cs).text.length ≤ 2 := by
  unfold symbol
  split
  · exact length_single_le ..
  · split
    · exact Nat.le_refl 2
    · exact length_single_le ..

/-- No token has more than one character above the cap, except that two characters are never too
many to be read. -/
theorem length_read_le (cap : Nat) (cs : List Char) :
    (read cap cs).text.length ≤ max (cap + 1) 2 := by
  unfold read
  split
  · exact Nat.zero_le _
  · exact Nat.le_max_right ..
  · split
    · exact Nat.le_trans (length_word_le ..) (Nat.le_max_left ..)
    · split
      · exact length_number_le ..
      · exact Nat.le_trans (length_symbol_le ..) (Nat.le_max_right ..)

/-! ### Higher caps -/

/-- A word that is not too long is read under any higher cap. -/
theorem word_of_cap_le (hc : cap ≤ cap') (h : .tooLong ∉ (word cap cs).faults) :
    word cap' cs = word cap cs := by
  have hshort : ¬ cap < (munch Text.continuesWord (cap + 1) cs).1.length := by
    intro hlong
    refine h ?_
    rw [word, if_pos hlong]
    exact List.mem_singleton.2 rfl
  have hmunch : munch Text.continuesWord (cap' + 1) cs = munch Text.continuesWord (cap + 1) cs :=
    munch_of_length_lt (by omega) (by omega)
  have hshort' : ¬ cap' < (munch Text.continuesWord (cap + 1) cs).1.length := by omega
  unfold word
  rw [hmunch]
  dsimp only
  rw [if_neg hshort, if_neg hshort']

variable {radix : Radix} {text rest : List Char} {digitFaults : List LexicalFault}

/-- A numeral is too long if it has more characters than the cap allows. -/
theorem length_le_of_numeral (h : .tooLong ∉ (numeral cap radix text digitFaults rest).faults) :
    text.length ≤ cap := by
  refine Nat.le_of_not_lt fun hlong => h ?_
  rw [numeral]
  dsimp only
  rw [if_pos hlong]
  exact List.mem_append_right _ (List.mem_singleton.2 rfl)

/-- The cap does not matter to a numeral that is short enough. -/
theorem numeral_of_cap_le (hc : cap ≤ cap') (h : text.length ≤ cap) :
    numeral cap' radix text digitFaults rest = numeral cap radix text digitFaults rest := by
  have hshort : ¬ cap < text.length := by omega
  have hshort' : ¬ cap' < text.length := by omega
  rw [numeral, numeral, if_neg hshort, if_neg hshort']

/-- A hexadecimal numeral that is not too long is read in the same way under a higher cap. -/
theorem hexadecimal_of_cap_le {x : Char} (hc : cap ≤ cap')
    (h : .tooLong ∉ (hexadecimal cap x cs).faults) :
    hexadecimal cap' x cs = hexadecimal cap x cs := by
  unfold hexadecimal at h ⊢
  by_cases hd : cs.head?.any isHexDigit = true
  · rw [if_pos hd] at h
    rw [if_pos hd, if_pos hd]
    have hlength := length_le_of_numeral h
    rw [List.length_cons, List.length_cons] at hlength
    have hmunch : munch isHexDigit (cap' - 1) cs = munch isHexDigit (cap - 1) cs :=
      munch_of_length_lt (by omega) (by omega)
    rw [hmunch]
    exact numeral_of_cap_le hc (length_le_of_numeral h)
  · rw [if_neg hd] at h
    rw [if_neg hd, if_neg hd]
    exact numeral_of_cap_le hc (length_le_of_numeral h)

/-- So is an octal numeral. -/
theorem octal_of_cap_le (hc : cap ≤ cap') (h : .tooLong ∉ (octal cap cs).faults) :
    octal cap' cs = octal cap cs := by
  unfold octal at h ⊢
  have hlength := length_le_of_numeral h
  rw [List.length_cons] at hlength
  have hmunch : munch isOctalDigit cap' cs = munch isOctalDigit cap cs :=
    munch_of_length_lt (by omega) hc
  rw [hmunch]
  exact numeral_of_cap_le hc (length_le_of_numeral h)

/-- So is a decimal numeral. -/
theorem decimal_of_cap_le (hc : cap ≤ cap') (h : .tooLong ∉ (decimal cap cs).faults) :
    decimal cap' cs = decimal cap cs := by
  unfold decimal at h ⊢
  have hlength := length_le_of_numeral h
  have hmunch : munch Char.isDigit (cap' + 1) cs = munch Char.isDigit (cap + 1) cs :=
    munch_of_length_lt (by omega) (by omega)
  rw [hmunch]
  exact numeral_of_cap_le hc hlength

/-- So is any numeral. -/
theorem number_of_cap_le (hc : cap ≤ cap') (h : .tooLong ∉ (number cap cs).faults) :
    number cap' cs = number cap cs := by
  unfold number at h ⊢
  split at h
  · next x cs =>
    by_cases hx : x = 'x' ∨ x = 'X'
    · rw [if_pos hx] at h
      rw [if_pos hx, if_pos hx]
      exact hexadecimal_of_cap_le hc h
    · rw [if_neg hx] at h
      rw [if_neg hx, if_neg hx]
      exact octal_of_cap_le hc h
  · exact octal_of_cap_le hc h
  · exact decimal_of_cap_le hc h

/-- Whatever is not too long is read under any higher cap. -/
theorem read_of_cap_le (hc : cap ≤ cap') (h : .tooLong ∉ (read cap cs).faults) :
    read cap' cs = read cap cs := by
  unfold read at h ⊢
  split at h
  · rfl
  · rfl
  · next c cs hopen =>
    by_cases hw : Text.startsWord c = true
    · rw [if_pos hw] at h
      rw [if_pos hw, if_pos hw]
      exact word_of_cap_le hc h
    · rw [if_neg hw] at h
      rw [if_neg hw, if_neg hw]
      by_cases hd : c.isDigit = true
      · rw [if_pos hd] at h
        rw [if_pos hd, if_pos hd]
        exact number_of_cap_le hc h
      · rw [if_neg hd, if_neg hd]

end Lexeme

namespace Reading

variable {cap cap' : Nat} {p : Position} {cs : List Char}

/-- A step whose token is not too long is the same under a higher cap. -/
theorem scan_of_cap_le (hc : cap ≤ cap') (h : .tooLong ∉ (scan cap p cs).faults) :
    scan cap' p cs = scan cap p cs := by
  have hread : Lexeme.read cap' (Trivia.readAll cs).2 = Lexeme.read cap (Trivia.readAll cs).2 :=
    Lexeme.read_of_cap_le hc h
  rw [scan, hread]
  rfl

/-- Where nothing is too long the same is read under any higher cap. -/
theorem all_of_cap_le (hc : cap ≤ cap') (h : ∀ r ∈ all cap p cs, .tooLong ∉ r.faults) :
    all cap' p cs = all cap p cs := by
  fun_induction all cap p cs with
  | case1 p cs r hend =>
    have hscan : scan cap' p cs = r := scan_of_cap_le hc (h r List.mem_cons_self)
    have hend' : (scan cap' p cs).token.kind = .endOfSource := by rwa [hscan]
    rw [all_of_end hend', hscan]
  | case2 p cs r hend hlt ih =>
    have hscan : scan cap' p cs = r := scan_of_cap_le hc (h r List.mem_cons_self)
    have hend' : (scan cap' p cs).token.kind ≠ .endOfSource := by rwa [hscan]
    rw [all_of_ne_end hend', hscan, ih fun r' hr => h r' (List.mem_cons_of_mem _ hr)]

/-- What is too long is said to be. -/
theorem exists_tooLong {rs : List Reading} {r : Reading} (hr : r ∈ rs)
    (h : .tooLong ∈ r.faults) :
    ∃ d ∈ rs.flatMap diagnostics, d.message = LexicalFault.tooLong.message :=
  ⟨_, List.mem_flatMap.2 ⟨r, hr, List.mem_map.2 ⟨_, h, rfl⟩⟩, rfl⟩

end Reading

/-- A token of a source is not longer than the cap allows for its kind. -/
theorem Source.length_text_le {s : Source} {cap : Nat} {t : Token} (h : t ∈ s.tokens cap) :
    (t.kind.isLimited = true → t.text.length ≤ cap) ∧ t.text.length ≤ max (cap + 1) 2 := by
  obtain ⟨r, hr, rfl⟩ := List.mem_map.1 h
  obtain ⟨-, ahead, -, ht, -, hkind, htext, -⟩ := Reading.exists_lexeme_of_mem hr
  rw [← String.length_toList, htext, hkind]
  refine ⟨fun hlimited => ?_, Lexeme.length_read_le cap ahead⟩
  cases Lexeme.read_sound cap ht with
  | classified h => exact h.fits hlimited
  | malformed hk h =>
    rw [hk] at hlimited
    cases hlimited

/-- Where nothing is allowed the announcement of hexadecimal digits still has two characters. -/
example : (Lexer.start "0xff".toList 0).drain.1.map (·.text) = ["0x", "f", "f", ""] := by
  decide +kernel

namespace Lexer

variable {text : List Char} {cap cap' : Nat}

/-- A lexer that reports nothing as too long has not met anything that is. -/
theorem tooLong_notMem_of_drain
    (h : ∀ d ∈ (start text cap).drain.2.reported, d.message ≠ LexicalFault.tooLong.message) :
    ∀ r ∈ stream text cap, .tooLong ∉ r.faults := by
  intro r hr hf
  obtain ⟨d, hd, hm⟩ := Reading.exists_tooLong hr hf
  rw [← reported_drain_start] at hd
  exact h d (Array.mem_toList_iff.1 hd) hm

/-- Where nothing is too long the token stream is the same under any higher cap. -/
theorem stream_of_cap_le (hc : cap ≤ cap') (h : ∀ r ∈ stream text cap, .tooLong ∉ r.faults) :
    stream text cap' = stream text cap :=
  Reading.all_of_cap_le hc h

/-- Where nothing is too long the same is returned and reported under any higher cap. -/
theorem drain_of_cap_le (hc : cap ≤ cap') (h : ∀ r ∈ stream text cap, .tooLong ∉ r.faults) :
    (start text cap').drain.1 = (start text cap).drain.1 ∧
      (start text cap').drain.2.reported = (start text cap).drain.2.reported := by
  have hstream := stream_of_cap_le hc h
  constructor
  · rw [drain_start, drain_start, hstream]
  · apply Array.toList_inj.1
    rw [reported_drain_start, reported_drain_start, hstream]

end Lexer

end Recognizer
