import Recognizer.Proofs.Lexical.Spelling
import Recognizer.Proofs.Lexical.Stream

/-!
# What is wrong with a lexeme

Most malformed texts are wrong in one way. A numeral can be wrong in two: what follows is no digit of
its base, and it is too long. Then the digit comes first.
-/

namespace Recognizer

namespace Lexeme

/-- Behind `w`, an octal numeral or the prefix of a hexadecimal one, the text `behind` goes on with
what is no digit of that base. -/
inductive InvalidDigit : List Char → List Char → LexicalFault → Prop where
  /-- A digit eight or nine stands behind an octal numeral. -/
  | octal {w behind : List Char} {d : Char} (hw : IsNumeral .octal w) (hb : behind.head? = some d)
    (hd : d = '8' ∨ d = '9') : InvalidDigit w behind (.badOctalDigit d)
  /-- No hexadecimal digit stands behind the prefix that announces one. -/
  | hexadecimal {x : Char} {behind : List Char} (hx : x = 'x' ∨ x = 'X')
    (hd : isHexDigit (behind.headD endMark) = false) :
    InvalidDigit ['0', x] behind (.badHexDigit behind.head?)

/-- Only what begins with a zero announces a base. -/
theorem InvalidDigit.exists_cons {w behind : List Char} {bad : LexicalFault}
    (h : InvalidDigit w behind bad) : ∃ ds, w = '0' :: ds := by
  cases h with
  | octal hw _ _ =>
    obtain ⟨ds, rfl, _⟩ := hw
    exact ⟨ds, rfl⟩
  | hexadecimal _ _ => exact ⟨_, rfl⟩

/-- The faults of a lexeme are told by its text and the rest: an invalid digit and the length are
two, and otherwise there is one at most. -/
structure Accounted (cap : Nat) (l : Lexeme) : Prop where
  /-- Both faults of a numeral, in order. -/
  twice (bad : LexicalFault) (hb : InvalidDigit l.text l.rest bad) (hl : cap < l.text.length) :
    l.faults = [bad, .tooLong]
  /-- One fault at most where there are not both. -/
  once (h : ¬ ((∃ bad, InvalidDigit l.text l.rest bad) ∧ cap < l.text.length)) :
    l.faults.length ≤ 1
  /-- A comment that is left open takes all that is left. -/
  opened (h : .unclosedComment ∈ l.faults) :
    ∃ cs, l = ⟨.error, ['/', '*'], [.unclosedComment], cs, []⟩

/-- A lexeme that does not begin with a zero and has one fault at most is accounted for. -/
theorem accounted_of_head {cap : Nat} {l : Lexeme} (hz : ∀ ds, l.text ≠ '0' :: ds)
    (hl : l.faults.length ≤ 1) (hc : .unclosedComment ∉ l.faults) : l.Accounted cap := by
  refine ⟨fun bad hb _ => ?_, fun _ => hl, fun h => absurd h hc⟩
  obtain ⟨ds, hds⟩ := hb.exists_cons
  exact absurd hds (hz ds)

/-- A word is at most too long. -/
theorem word_accounted (cap : Nat) {c : Char} (cs : List Char) (h : Text.startsWord c = true) :
    (word cap (c :: cs)).Accounted cap := by
  obtain ⟨u, hu, -⟩ := (word_covers cap (c :: cs)).exists_tail (word_discarded cap _)
    (word_solid cap cs h).2
  refine accounted_of_head (fun ds hds => ?_) ?_ ?_
  · rw [hu] at hds
    obtain ⟨rfl, -⟩ := List.cons.inj hds
    exact absurd h (by decide)
  · unfold word
    dsimp only
    split
    · exact Nat.le_refl 1
    · split <;> exact Nat.zero_le 1
  · unfold word
    dsimp only
    split
    · simp
    · split <;> simp

/-- A numeral is accounted for if its digits show what is invalid. -/
theorem numeral_accounted (cap : Nat) (r : Radix) {text rest : List Char}
    {digitFaults : List LexicalFault} (hl : digitFaults.length ≤ 1)
    (hd : ∀ bad, InvalidDigit text rest bad ↔ bad ∈ digitFaults) :
    (numeral cap r text digitFaults rest).Accounted cap := by
  have hclosed : .unclosedComment ∉ digitFaults := fun hm => nomatch (hd _).2 hm
  cases digitFaults with
  | nil =>
    refine ⟨fun bad hb _ => ?_, fun _ => ?_, fun h => absurd h ?_⟩
    · exact absurd ((hd bad).1 hb) List.not_mem_nil
    · simp only [numeral, List.nil_append]
      split <;> simp
    · simp only [numeral, List.nil_append]
      split <;> simp
  | cons fault faults =>
    obtain rfl : faults = [] := by
      rw [List.length_cons] at hl
      exact List.length_eq_zero_iff.1 (by omega)
    refine ⟨fun bad hb hc => ?_, fun hnot => ?_, fun h => absurd h ?_⟩
    · obtain rfl := List.mem_singleton.1 ((hd bad).1 hb)
      change cap < text.length at hc
      simp [numeral, hc]
    · have hc : ¬ cap < text.length := fun hc => hnot ⟨⟨fault, (hd fault).2 List.mem_cons_self⟩, hc⟩
      simp [numeral, hc]
    · simp only [numeral]
      split
      · simpa using hclosed
      · simpa using hclosed

/-- A hexadecimal numeral can lack its digits, be too long or both. -/
theorem hexadecimal_accounted (cap : Nat) {x : Char} (cs : List Char) (hx : x = 'x' ∨ x = 'X') :
    (hexadecimal cap x cs).Accounted cap := by
  have hcs := munch_append isHexDigit (cap - 1) cs
  have hoctal {ds behind : List Char} {bad : LexicalFault}
      (h : InvalidDigit ('0' :: x :: ds) behind bad) :
      ds = [] ∧ isHexDigit (behind.headD endMark) = false ∧ bad = .badHexDigit behind.head? := by
    cases h with
    | octal hw _ _ =>
      obtain ⟨ds', he, hds⟩ := hw
      obtain rfl : x :: ds = ds' := (List.cons.inj he).2
      have ho := hds x List.mem_cons_self
      rcases hx with rfl | rfl <;> cases ho
    | hexadecimal _ hd => exact ⟨rfl, hd, rfl⟩
  have hhead : isHexDigit (cs.headD endMark) = cs.head?.any isHexDigit := by
    cases cs with
    | nil => decide
    | cons c cs => rfl
  unfold hexadecimal
  split
  · next hd =>
    refine numeral_accounted cap _ (Nat.zero_le 1) fun bad => ⟨fun h => ?_, nofun⟩
    obtain ⟨hnil, hbad, -⟩ := hoctal h
    rw [hnil, List.nil_append] at hcs
    rw [hcs, hhead, hd] at hbad
    cases hbad
  · next hd =>
    refine numeral_accounted cap _ (Nat.le_refl 1) fun bad => ⟨fun h => ?_, fun h => ?_⟩
    · obtain ⟨-, -, rfl⟩ := hoctal h
      exact List.mem_cons_self
    · rw [List.mem_singleton.1 h]
      exact .hexadecimal hx (by rw [hhead]; exact eq_false_of_ne_true hd)

/-- An octal numeral can have a wrong digit, be too long or both. -/
theorem octal_accounted (cap : Nat) (cs : List Char) : (octal cap cs).Accounted cap := by
  have hall := forall_mem_munch isOctalDigit cap cs
  unfold octal
  dsimp only
  generalize munch isOctalDigit cap cs = parts at hall
  refine numeral_accounted cap _ ?_ fun bad => ?_
  · rw [List.length_map]
    exact Option.length_toList_le
  · simp only [List.mem_map, Option.mem_toList, Option.filter_eq_some_iff,
      Bool.or_eq_true, beq_iff_eq]
    constructor
    · intro h
      generalize hw : '0' :: parts.1 = w at h
      cases h with
      | octal _ hb hd => exact ⟨_, ⟨hb, hd⟩, rfl⟩
      | @hexadecimal x _ hx _ =>
        have hm : x ∈ parts.1 := by
          rw [(List.cons.inj hw).2]
          exact List.mem_cons_self
        have ho := hall x hm
        rcases hx with rfl | rfl <;> cases ho
    · rintro ⟨d, ⟨hb, hd⟩, rfl⟩
      exact .octal ⟨parts.1, rfl, hall⟩ hb hd

/-- A decimal numeral is at most too long. -/
theorem decimal_accounted (cap : Nat) {c : Char} (cs : List Char) (hc : c.isDigit = true)
    (h0 : c ≠ '0') : (decimal cap (c :: cs)).Accounted cap := by
  unfold decimal
  refine numeral_accounted cap _ (Nat.zero_le 1) fun bad => ⟨fun h => ?_, nofun⟩
  obtain ⟨ds, hds⟩ := h.exists_cons
  simp only [munch, hc, if_true] at hds
  exact absurd (List.cons.inj hds).1 h0

/-- What is wrong with a numeral is told by its text and by what is behind it. -/
theorem number_accounted (cap : Nat) {c : Char} (cs : List Char) (hc : c.isDigit = true) :
    (number cap (c :: cs)).Accounted cap := by
  unfold number
  split
  · split
    · next hx => exact hexadecimal_accounted cap _ hx
    · exact octal_accounted cap _
  · exact octal_accounted cap _
  · next hne =>
    refine decimal_accounted cap cs hc ?_
    rintro rfl
    exact hne cs rfl

/-- A symbol of one character has at most one thing wrong with it. -/
theorem single_accounted (cap : Nat) {c : Char} (cs : List Char) (h0 : c ≠ '0') :
    (single c cs).Accounted cap := by
  have hz : ∀ ds, [c] ≠ '0' :: ds := fun ds he => h0 (List.cons.inj he).1
  unfold single
  split
  · exact accounted_of_head hz (Nat.le_refl 1) (by simp)
  · split
    · exact accounted_of_head hz (Nat.zero_le 1) (by simp)
    · exact accounted_of_head hz (Nat.zero_le 1) (by simp)
    · exact accounted_of_head hz (Nat.le_refl 1) (by simp)

/-- A symbol has at most one thing wrong with it. -/
theorem symbol_accounted (cap : Nat) {c : Char} (cs : List Char) (h0 : c ≠ '0') :
    (symbol c cs).Accounted cap := by
  unfold symbol
  split
  · exact single_accounted cap _ h0
  · split
    · exact accounted_of_head (fun ds he => h0 (List.cons.inj he).1) (Nat.zero_le 1) (by simp)
    · exact single_accounted cap _ h0

/-- Whatever is read is accounted for. -/
theorem read_accounted (cap : Nat) (cs : List Char) : (read cap cs).Accounted cap := by
  unfold read
  split
  · exact accounted_of_head nofun (Nat.zero_le 1) List.not_mem_nil
  · refine ⟨fun bad hb _ => ?_, fun _ => Nat.le_refl 1, fun _ => ⟨_, rfl⟩⟩
    obtain ⟨ds, hds⟩ := hb.exists_cons
    cases hds
  · next c cs _ =>
    split
    · next hw => exact word_accounted cap cs hw
    · split
      · next hd => exact number_accounted cap cs hd
      · next hd =>
        refine symbol_accounted cap cs ?_
        rintro rfl
        exact hd rfl

end Lexeme

/-- The place where a token begins. -/
def Token.location (t : Token) : Location :=
  ⟨t.line, t.column⟩

namespace Reading

variable {cap : Nat} {p : Position} {cs : List Char}

/-- Whatever is wrong with a token is reported where the token begins. -/
theorem map_location_diagnostics (r : Reading) :
    r.diagnostics.map (·.location) =
      List.replicate r.faults.length (some r.token.location) := by
  rw [diagnostics, List.map_map, ← List.map_const']
  rfl

/-- A comment that is left open takes up the rest of the text. -/
theorem of_unclosedComment_mem (h : .unclosedComment ∈ (scan cap p cs).faults) :
    (scan cap p cs).faults = [.unclosedComment] ∧ (scan cap p cs).token.kind = .error ∧
      (scan cap p cs).token.text = "/*" ∧ (scan cap p cs).rest = [] := by
  obtain ⟨behind, hl⟩ := (Lexeme.read_accounted cap (Trivia.readAll cs).2).opened h
  refine ⟨?_, ?_, ?_, ?_⟩ <;> simp [scan, hl]

end Reading

end Recognizer
