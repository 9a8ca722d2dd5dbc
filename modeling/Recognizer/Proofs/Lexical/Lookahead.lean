import Recognizer.Proofs.Lexical.Determinacy
import Recognizer.Proofs.Lexical.Stream

/-!
# How far ahead is looked

No reader looks further than at the one character behind what it takes, and to every reader a line
feed there is as good as the end of the text. So the same is read again in front of any text that
begins in the same way.
-/

namespace Recognizer

/-- The second text begins with the character that the first one begins with, or with a line feed
where the first is at its end. -/
def BeginsAlike (cs ds : List Char) : Prop :=
  ds.head? = cs.head? ∨ cs = [] ∧ ds.head? = some '\n'

namespace BeginsAlike

variable {cs ds : List Char}

/-- A text begins like itself with something on a new line behind it. -/
theorem append_newline (cs more : List Char) : BeginsAlike cs (cs ++ '\n' :: more) := by
  cases cs with
  | nil => exact .inr ⟨rfl, rfl⟩
  | cons c cs => exact .inl rfl

/-- Behind the same text, too, texts begin alike. -/
theorem append (h : BeginsAlike cs ds) (front : List Char) :
    BeginsAlike (front ++ cs) (front ++ ds) := by
  cases front with
  | nil => exact h
  | cons c front => exact .inl rfl

/-- What is not true of a line feed is true of both first characters or of none. -/
theorem any_head? (h : BeginsAlike cs ds) {p : Char → Bool} (hp : p '\n' = false) :
    ds.head?.any p = cs.head?.any p := by
  obtain h | ⟨rfl, h⟩ := h
  · rw [h]
  · rw [h]
    exact hp

/-- What the first text does not begin with the second one does not begin with. -/
theorem forall_head? (h : BeginsAlike cs ds) {p : Char → Bool} (hp : p '\n' = false)
    (hcs : ∀ c, cs.head? = some c → p c = false) : ∀ c, ds.head? = some c → p c = false := by
  obtain h | ⟨rfl, h⟩ := h
  · rwa [h]
  · intro c hc
    rw [h] at hc
    obtain rfl : '\n' = c := Option.some.inj hc
    exact hp

/-- What a text does not begin with, none that begins like it begins with, but for a line feed. -/
theorem head?_ne (h : BeginsAlike cs ds) {c : Char} (hc : c ≠ '\n') (hcs : cs.head? ≠ some c) :
    ds.head? ≠ some c := by
  obtain h | ⟨rfl, h⟩ := h
  · rwa [h]
  · rw [h]
    exact fun he => hc (Option.some.inj he).symm

end BeginsAlike

/-- The same is split off in front of a text that begins like the rest. -/
theorem munch_of_beginsAlike {p : Char → Bool} (hp : p '\n' = false) (bound : Nat)
    {cs behind : List Char} (h : BeginsAlike (munch p bound cs).2 behind) :
    munch p bound ((munch p bound cs).1 ++ behind) = ((munch p bound cs).1, behind) :=
  munch_append_of_forall (forall_mem_munch p bound cs) (length_munch_le p bound cs)
    fun hl => h.forall_head? hp (head_munch_of_lt p bound cs hl)

namespace Trivia

/-- A gap in front of one text is a gap in front of every text that begins alike. -/
theorem Laid.of_beginsAlike {ts : List Trivia} {behind behind' : List Char} (h : Laid ts behind)
    (ha : BeginsAlike behind behind') : Laid ts behind' := by
  induction ts with
  | nil => trivial
  | cons t ts ih =>
    refine ⟨?_, ih h.2⟩
    have ht := h.1
    have hrest := ha.append (textOf ts)
    generalize textOf ts ++ behind = cs at ht hrest
    generalize textOf ts ++ behind' = ds at hrest ⊢
    cases t with
    | space | tab | newline => trivial
    | blockComment body => exact ht
    | lineComment body =>
      obtain ⟨hbody, hends⟩ := ht
      refine ⟨hbody, ?_⟩
      obtain hhead | ⟨rfl, hline⟩ := hrest
      · rw [hhead]
        refine hends.imp_left fun hnil => ?_
        rwa [hnil, List.head?_nil, List.head?_eq_none_iff] at hhead
      · exact .inr hline

/-- Where a character begins no gap, it begins none in front of a text that begins alike. -/
theorem read?_of_beginsAlike {c : Char} {cs ds : List Char} (h : read? (c :: cs) = none)
    (hopen : ∀ rest, c :: cs ≠ '/' :: '*' :: rest) (ha : BeginsAlike cs ds) :
    read? (c :: ds) = none := by
  refine read?_cons_eq_none ?_ fun hc => ⟨ha.head?_ne (by decide) ?_, ha.head?_ne (by decide) ?_⟩
  · intro hm
    simp only [List.mem_cons, List.not_mem_nil, or_false] at hm
    rcases hm with rfl | rfl | rfl <;> cases h
  · intro hd
    obtain ⟨rest, rfl⟩ := List.head?_eq_some_iff.1 hd
    subst hc
    cases h
  · intro hd
    obtain ⟨rest, rfl⟩ := List.head?_eq_some_iff.1 hd
    subst hc
    exact hopen rest rfl

/-- The gap at the front of a text is passed in front of every text that begins like the rest. -/
theorem readAll_of_beginsAlike {c : Char} {cs ahead ds : List Char} (h : (readAll cs).2 = c :: ahead)
    (hopen : ∀ rest, c :: ahead ≠ '/' :: '*' :: rest) (ha : BeginsAlike ahead ds) :
    readAll (textOf (readAll cs).1 ++ c :: ds) = ((readAll cs).1, c :: ds) := by
  have hlaid := laid_readAll cs
  have hnone := read?_readAll cs
  rw [h] at hlaid hnone
  have hlaid' : Laid (readAll cs).1 (c :: ds) := hlaid.of_beginsAlike (.inl rfl)
  rw [readAll_textOf_append hlaid', readAll_eq_nil (read?_of_beginsAlike hnone hopen ha),
    List.append_nil]

end Trivia

namespace Lexeme

/-- The second lexeme is the first one again, in front of another text. -/
structure Recurs (l l' : Lexeme) (behind : List Char) : Prop where
  /-- The kind is the same. -/
  kind_eq : l'.kind = l.kind
  /-- The text is the same. -/
  text_eq : l'.text = l.text
  /-- As many things are wrong. -/
  length_faults_eq : l'.faults.length = l.faults.length
  /-- The same things are wrong in front of the same character. -/
  faults_eq : behind.head? = l.rest.head? → l'.faults = l.faults
  /-- The same text is thrown away. -/
  discarded_eq : l'.discarded = l.discarded
  /-- The other text is left. -/
  rest_eq : l'.rest = behind

/-- What a reader finds in a text it finds in front of every text that begins like the rest. -/
def Stable (f : List Char → Lexeme) (cs : List Char) : Prop :=
  ∀ behind, BeginsAlike (f cs).rest behind → (f cs).Recurs (f ((f cs).text ++ behind)) behind

/-- A word is found again in front of every text that begins like the rest. -/
theorem word_stable (cap : Nat) (cs : List Char) : Stable (word cap) cs := by
  have hm {behind} (h : BeginsAlike (munch Text.continuesWord (cap + 1) cs).2 behind) :=
    munch_of_beginsAlike (by decide) (cap + 1) h
  unfold word Stable
  dsimp only
  generalize munch Text.continuesWord (cap + 1) cs = parts at hm
  split
  · next hl =>
    intro behind h
    rw [hm h, if_pos hl]
    exact ⟨rfl, rfl, rfl, fun _ => rfl, rfl, rfl⟩
  · next hl =>
    split
    · next k hk =>
      intro behind h
      rw [hm h, if_neg hl, hk]
      exact ⟨rfl, rfl, rfl, fun _ => rfl, rfl, rfl⟩
    · next hk =>
      intro behind h
      rw [hm h, if_neg hl, hk]
      exact ⟨rfl, rfl, rfl, fun _ => rfl, rfl, rfl⟩

/-- Whether something is wrong decides about a numeral, not what it is. -/
theorem numeral_recurs (cap : Nat) (r : Radix) (text : List Char)
    {faults faults' : List LexicalFault} {rest behind : List Char}
    (hl : faults'.length = faults.length)
    (hf : behind.head? = rest.head? → faults' = faults) :
    (numeral cap r text faults rest).Recurs (numeral cap r text faults' behind) behind := by
  have hempty (tail : List LexicalFault) :
      (faults' ++ tail).isEmpty = (faults ++ tail).isEmpty := by
    rw [Bool.eq_iff_iff, List.isEmpty_iff_length_eq_zero, List.isEmpty_iff_length_eq_zero,
      List.length_append, List.length_append, hl]
  refine ⟨?_, rfl, ?_, fun hb => ?_, rfl, rfl⟩
  · simp only [numeral, hempty]
  · simp only [numeral, List.length_append, hl]
  · simp only [numeral, hf hb]

/-- So is a hexadecimal numeral, behind its prefix. -/
theorem hexadecimal_stable (cap : Nat) {x : Char} (cs : List Char) (hx : x = 'x' ∨ x = 'X') :
    Stable (number cap) ('0' :: x :: cs) := by
  have hnumber (cs) : number cap ('0' :: x :: cs) = hexadecimal cap x cs := if_pos hx
  have hcs := munch_append isHexDigit (cap - 1) cs
  intro behind
  rw [hnumber, hexadecimal]
  split
  · next hd =>
    intro h
    have hm := munch_of_beginsAlike (p := isHexDigit) (by decide) (cap - 1) h
    have hd' := (h.append (munch isHexDigit (cap - 1) cs).1).any_head? (p := isHexDigit) (by decide)
    change _ = (_ ++ (munch isHexDigit (cap - 1) cs).2).head?.any isHexDigit at hd'
    rw [hcs, hd] at hd'
    change Recurs _ (number cap ('0' :: x :: ((munch isHexDigit (cap - 1) cs).1 ++ behind))) _
    rw [hnumber, hexadecimal, if_pos hd', hm]
    exact numeral_recurs cap _ _ rfl fun _ => rfl
  · next hd =>
    intro h
    have hd' := h.any_head? (p := isHexDigit) (by decide)
    change _ = cs.head?.any isHexDigit at hd'
    change Recurs _ (number cap ('0' :: x :: behind)) _
    rw [hnumber, hexadecimal, if_neg (by rwa [hd'])]
    exact numeral_recurs cap _ _ rfl fun hb => by rw [hb]

/-- A zero that does not announce a hexadecimal numeral begins an octal one. -/
theorem number_zero (cap : Nat) {cs : List Char} (h : cs.head? ≠ some 'x' ∧ cs.head? ≠ some 'X') :
    number cap ('0' :: cs) = octal cap cs := by
  cases cs with
  | nil => rfl
  | cons x cs =>
    have hx : ¬ (x = 'x' ∨ x = 'X') :=
      not_or.2 ⟨fun he => h.1 (congrArg some he), fun he => h.2 (congrArg some he)⟩
    exact if_neg hx

/-- So is an octal numeral, behind its zero. -/
theorem octal_stable (cap : Nat) {cs : List Char}
    (hx : cs.head? ≠ some 'x' ∧ cs.head? ≠ some 'X') : Stable (number cap) ('0' :: cs) := by
  intro behind h
  rw [number_zero cap hx] at h ⊢
  have hm := munch_of_beginsAlike (p := isOctalDigit) (by decide) cap h
  have halike := h.append (munch isOctalDigit cap cs).1
  change BeginsAlike (_ ++ (munch isOctalDigit cap cs).2) _ at halike
  rw [munch_append] at halike
  have hbad : behind.head?.filter (fun c => c == '8' || c == '9') =
      (munch isOctalDigit cap cs).2.head?.filter fun c => c == '8' || c == '9' := by
    obtain hhead | ⟨hnil, hline⟩ := h
    · rw [hhead]
      rfl
    · have hnil : (munch isOctalDigit cap cs).2 = [] := hnil
      rw [hline, hnil]
      rfl
  change (octal cap cs).Recurs (number cap ('0' :: ((munch isOctalDigit cap cs).1 ++ behind))) _
  rw [number_zero cap ⟨halike.head?_ne (by decide) hx.1, halike.head?_ne (by decide) hx.2⟩, octal,
    octal, hm]
  dsimp only
  rw [hbad]
  exact numeral_recurs cap _ _ rfl fun _ => rfl

/-- Where one reader leaves a text to another that is stable, it is stable, too. -/
theorem Stable.of_eq {f g : List Char → Lexeme} {c : Char} {cs : List Char}
    (hf : Stable f (c :: cs)) (hcovers : (f (c :: cs)).Covers (c :: cs))
    (hd : (f (c :: cs)).discarded = []) (ht : (f (c :: cs)).text ≠ [])
    (h : ∀ ds, BeginsAlike cs ds → g (c :: ds) = f (c :: ds)) : Stable g (c :: cs) := by
  intro behind
  rw [h cs (.inl rfl)]
  intro hb
  obtain ⟨u, hu, hcs⟩ := hcovers.exists_tail hd ht
  have halike := hb.append u
  rw [← hcs] at halike
  have hrecurs := hf behind hb
  rw [hu, List.cons_append] at hrecurs ⊢
  rwa [h _ halike]

/-- So is a decimal numeral. -/
theorem decimal_stable (cap : Nat) (cs : List Char) : Stable (decimal cap) cs := by
  intro behind h
  have hm := munch_of_beginsAlike (p := Char.isDigit) (by decide) (cap + 1) h
  change (decimal cap cs).Recurs (decimal cap ((munch Char.isDigit (cap + 1) cs).1 ++ behind)) _
  rw [decimal, decimal, hm]
  exact numeral_recurs cap _ _ rfl fun _ => rfl

/-- So is a numeral of any base. -/
theorem number_stable (cap : Nat) {c : Char} (cs : List Char) (hc : c.isDigit = true) :
    Stable (number cap) (c :: cs) := by
  by_cases h0 : c = '0'
  · subst h0
    by_cases hx : cs.head? = some 'x' ∨ cs.head? = some 'X'
    · rcases hx with hx | hx <;> obtain ⟨cs, rfl⟩ := List.head?_eq_some_iff.1 hx
      · exact hexadecimal_stable cap cs (.inl rfl)
      · exact hexadecimal_stable cap cs (.inr rfl)
    · exact octal_stable cap (not_or.1 hx)
  · exact (decimal_stable cap (c :: cs)).of_eq (decimal_covers cap _) rfl (munch_ne_nil cap cs hc)
      fun ds _ => number_of_ne_zero cap ds h0

/-- So is a symbol of one character. -/
theorem single_stable (c : Char) (cs : List Char) : Stable (fun cs => single c cs.tail) (c :: cs) := by
  intro behind _
  change (single c cs).Recurs (single c ((single c cs).text ++ behind).tail) behind
  unfold single
  split
  · exact ⟨rfl, rfl, rfl, fun _ => rfl, rfl, rfl⟩
  · split <;> exact ⟨rfl, rfl, rfl, fun _ => rfl, rfl, rfl⟩

/-- No operator is written with a line feed. -/
theorem pair?_newline (c : Char) : pair? c '\n' = none := by
  rw [Option.eq_none_iff_forall_ne_some]
  intro o ho
  have hspelled : (TokenKind.operator o).Spelled [c, '\n'] := (pair?_eq_some_iff.1 ho).symm
  exact hspelled.notMem (.inl rfl) (List.mem_cons_of_mem _ List.mem_cons_self)

/-- Where no operator of two characters begins, a single character is read. -/
theorem symbol_eq_single {c : Char} {cs : List Char}
    (h : ∀ d, cs.head? = some d → pair? c d = none) : symbol c cs = single c cs := by
  cases cs with
  | nil => rfl
  | cons d cs => rw [symbol, h d rfl]

/-- So is a symbol, which never was the front of a longer one. -/
theorem symbol_stable (c : Char) (cs : List Char) : Stable (fun cs => symbol c cs.tail) (c :: cs) := by
  by_cases hpair : ∃ d, cs.head? = some d ∧ pair? c d ≠ none
  · obtain ⟨d, hd, hne⟩ := hpair
    obtain ⟨cs, rfl⟩ := List.head?_eq_some_iff.1 hd
    obtain ⟨o, ho⟩ := Option.ne_none_iff_exists'.1 hne
    have hsymbol (ds) : symbol c (d :: ds) = ⟨.operator o, [c, d], [], [], ds⟩ := by
      rw [symbol, ho]
    intro behind _
    change (symbol c (d :: cs)).Recurs (symbol c ((symbol c (d :: cs)).text ++ behind).tail) _
    rw [hsymbol]
    change Recurs _ (symbol c (d :: behind)) _
    rw [hsymbol]
    exact ⟨rfl, rfl, rfl, fun _ => rfl, rfl, rfl⟩
  · have hnone : ∀ d, cs.head? = some d → pair? c d = none :=
      fun d hd => Classical.not_not.1 fun hne => hpair ⟨d, hd, hne⟩
    refine (single_stable c cs).of_eq (single_covers c cs) (single_discarded c cs)
      (single_solid c cs).2 fun ds halike => symbol_eq_single fun d hd => ?_
    obtain hhead | ⟨-, hline⟩ := halike
    · exact hnone d (hhead ▸ hd)
    · obtain rfl : '\n' = d := Option.some.inj (hline.symm.trans hd)
      exact pair?_newline c

/-- Whatever is read, an opening mark apart, is read in front of any text that begins like the
rest. -/
theorem read_stable (cap : Nat) {cs : List Char} (hne : cs ≠ [])
    (hopen : ∀ rest, cs ≠ '/' :: '*' :: rest) : Stable (read cap) cs := by
  cases cs with
  | nil => exact absurd rfl hne
  | cons c cs =>
    by_cases hw : Text.startsWord c = true
    · exact (word_stable cap (c :: cs)).of_eq (word_covers cap _) (word_discarded cap _)
        (word_solid cap cs hw).2 fun ds _ => read_of_startsWord cap ds hw
    · by_cases hd : c.isDigit = true
      · exact (number_stable cap cs hd).of_eq (number_covers cap _) (number_discarded cap _)
          (number_solid cap cs hd).2 fun ds _ => read_of_isDigit cap ds hd
      · refine (symbol_stable c cs).of_eq (symbol_covers c cs) (symbol_discarded c cs)
          (symbol_solid c cs).2 fun ds halike => ?_
        refine read_of_symbol cap (eq_false_of_ne_true hw) (eq_false_of_ne_true hd) ?_
        rintro rest rfl rfl
        refine halike.head?_ne (c := '*') (by decide) (fun hstar => ?_) rfl
        obtain ⟨rest', rfl⟩ := List.head?_eq_some_iff.1 hstar
        exact hopen rest' rfl

end Lexeme

namespace Reading

variable {cap : Nat} {p : Position} {cs behind : List Char}

/-- The second step is the first one again, in front of another text. -/
structure Recurs (r r' : Reading) (behind : List Char) : Prop where
  /-- The token is the same. -/
  token_eq : r'.token = r.token
  /-- The token begins at the same place. -/
  start_eq : r'.start = r.start
  /-- As many things are wrong. -/
  length_faults_eq : r'.faults.length = r.faults.length
  /-- The same things are wrong in front of the same character. -/
  faults_eq : behind.head? = r.rest.head? → r'.faults = r.faults
  /-- The step stops at the same place. -/
  stop_eq : r'.stop = r.stop
  /-- The other text is left. -/
  rest_eq : r'.rest = behind

/-- A step that reads a token, an opening mark apart, is the same in front of any text that begins
like the rest. -/
theorem scan_recurs (hend : (scan cap p cs).token.kind ≠ .endOfSource)
    (hopen : ∀ rest, (Trivia.readAll cs).2 ≠ '/' :: '*' :: rest)
    (h : BeginsAlike (scan cap p cs).rest behind) :
    (scan cap p cs).Recurs (scan cap p (passed cap cs ++ behind)) behind := by
  have hne : (Trivia.readAll cs).2 ≠ [] :=
    fun hnil => hend ((kind_eq_endOfSource_iff cap p cs).2 hnil)
  change BeginsAlike (Lexeme.read cap (Trivia.readAll cs).2).rest behind at h
  have hread := Lexeme.read_stable cap hne hopen behind h
  have hdiscarded : (Lexeme.read cap (Trivia.readAll cs).2).discarded = [] :=
    (Lexeme.read_discarded cap _).resolve_right fun ⟨rest, ho⟩ => hopen rest ho
  have hgap : Trivia.readAll (passed cap cs ++ behind) =
      ((Trivia.readAll cs).1, (Lexeme.read cap (Trivia.readAll cs).2).text ++ behind) := by
    obtain ⟨c, ahead, hahead⟩ := List.exists_cons_of_ne_nil hne
    have hcovers := Lexeme.read_covers cap (Trivia.readAll cs).2
    have ht := (Lexeme.read_solid cap hne).2
    rw [passed, Lexeme.consumed, hdiscarded, List.append_nil, List.append_assoc]
    rw [hahead] at hcovers hdiscarded hopen h ht ⊢
    obtain ⟨u, hu, hrest⟩ := hcovers.exists_tail hdiscarded ht
    have halike := h.append u
    rw [← hrest] at halike
    rw [hu, List.cons_append, Trivia.readAll_of_beginsAlike hahead hopen halike]
  unfold scan
  rw [hgap]
  dsimp only
  refine ⟨?_, rfl, hread.length_faults_eq, hread.faults_eq, ?_, hread.rest_eq⟩
  · rw [hread.kind_eq, hread.text_eq]
  · rw [Lexeme.consumed, Lexeme.consumed, hread.text_eq, hread.discarded_eq]

end Reading

end Recognizer
