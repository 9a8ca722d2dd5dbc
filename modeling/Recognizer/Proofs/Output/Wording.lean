import Recognizer.Proofs.Check.Coordinates
import Recognizer.Proofs.Text.Unbroken

/-!
# Messages on one line

Whatever a source holds, no text of a token and no message about it has a line break in it. A message
quotes a single character, which is escaped unless it is a digit, or the text of a token. Carriage
returns have been dropped from every source, and no token reaches over a line feed.
-/

namespace Recognizer

open Text

/-! ### Lexical messages -/

namespace LexicalFault

/-- Only a digit is quoted as it is. -/
theorem unbroken_message {fault : LexicalFault}
    (h : ∀ d, fault = .badOctalDigit d → Unbroken (String.singleton d)) :
    Unbroken fault.message := by
  have hbad : Unbroken "invalid digit '" := by decide
  have hunknown : Unbroken "token not found for char '" := by decide
  cases fault with
  | unclosedComment | tooLong | loneExclamation => decide
  | badHexDigit found => exact (hbad.append (unbroken_escape _)).append (by decide)
  | badOctalDigit found => exact (hbad.append (h found rfl)).append (by decide)
  | unknownCharacter found => exact (hunknown.append (unbroken_escape found)).append (by decide)

end LexicalFault

namespace Lexeme

/-- What is wrong with the lexeme can be told on one line. -/
def Tellable (l : Lexeme) : Prop :=
  ∀ fault ∈ l.faults, Unbroken fault.message

/-- Only the message for a wrong octal digit shows a character as it is. -/
theorem tellable_of_notDigit {l : Lexeme} (h : ∀ d, .badOctalDigit d ∉ l.faults) : l.Tellable := by
  intro fault hfault
  refine LexicalFault.unbroken_message fun d hd => absurd hfault ?_
  rw [hd]
  exact h d

/-- What is wrong with a word can be told on one line. -/
theorem word_tellable (cap : Nat) (cs : List Char) : (word cap cs).Tellable := by
  refine tellable_of_notDigit fun d => ?_
  unfold word
  dsimp only
  split
  · simp
  · split <;> exact List.not_mem_nil

/-- So can what is wrong with a numeral, if what is wrong with its digits can. -/
theorem numeral_tellable (cap : Nat) (radix : Radix) (text : List Char)
    {digitFaults : List LexicalFault} (rest : List Char)
    (h : ∀ fault ∈ digitFaults, Unbroken fault.message) :
    (numeral cap radix text digitFaults rest).Tellable := by
  intro fault hfault
  rcases List.mem_append.1 hfault with hdigit | hlength
  · exact h fault hdigit
  · split at hlength
    · rw [List.mem_singleton.1 hlength]
      decide
    · cases hlength

/-- So can what is wrong with an octal numeral, which shows a digit. -/
theorem octal_tellable (cap : Nat) (cs : List Char) : (octal cap cs).Tellable := by
  refine numeral_tellable cap .octal _ _ fun fault hfault => ?_
  obtain ⟨d, hd, rfl⟩ := List.mem_map.1 hfault
  have hdigit := (Option.filter_eq_some_iff.1 (Option.mem_toList.1 hd)).2
  simp only [Bool.or_eq_true, beq_iff_eq] at hdigit
  rcases hdigit with rfl | rfl <;> decide

/-- So can what is wrong with a numeral of any base. -/
theorem number_tellable (cap : Nat) (cs : List Char) : (number cap cs).Tellable := by
  unfold number
  split
  · split
    · unfold hexadecimal
      split
      · exact numeral_tellable _ _ _ _ nofun
      · refine numeral_tellable _ _ _ _ fun fault hfault => ?_
        rw [List.mem_singleton.1 hfault]
        exact LexicalFault.unbroken_message nofun
    · exact octal_tellable _ _
  · exact octal_tellable _ _
  · exact numeral_tellable _ _ _ _ nofun

/-- So can what is wrong with a symbol of one character. -/
theorem single_tellable (c : Char) (cs : List Char) : (single c cs).Tellable := by
  refine tellable_of_notDigit fun d => ?_
  unfold single
  split
  · simp
  · split <;> simp

/-- So can what is wrong with a symbol. -/
theorem symbol_tellable (c : Char) (cs : List Char) : (symbol c cs).Tellable := by
  unfold symbol
  split
  · exact single_tellable _ _
  · split
    · exact nofun
    · exact single_tellable _ _

/-- Whatever is read, what is wrong with it can be told on one line. -/
theorem read_tellable (cap : Nat) (cs : List Char) : (read cap cs).Tellable := by
  unfold read
  split
  · exact nofun
  · exact tellable_of_notDigit fun d => by simp
  · split
    · exact word_tellable _ _
    · split
      · exact number_tellable _ _
      · exact symbol_tellable _ _

end Lexeme

/-- Every message about a step is on one line. -/
theorem Reading.unbroken_message {s : Source} {cap : Nat} {r : Reading} (hr : r ∈ s.readings cap)
    {d : Diagnostic} (hd : d ∈ r.diagnostics) : Unbroken d.message := by
  obtain ⟨_, ahead, _, rfl⟩ := eq_scan_of_mem hr
  obtain ⟨fault, hfault, rfl⟩ := List.mem_map.1 hd
  exact Lexeme.read_tellable cap (Trivia.readAll ahead).2 fault hfault

/-! ### Tokens -/

/-- The text of a token is on one line. -/
theorem Source.unbroken_text {s : Source} {cap : Nat} {t : Token} (h : t ∈ s.tokens cap) :
    Unbroken t.text := by
  refine ⟨newline_notMem_text h, fun hr => ?_⟩
  obtain ⟨n, ⟨front, behind, hchars, -⟩, -⟩ := exists_placedAt h
  refine s.return_notMem ?_
  rw [hchars]
  exact List.mem_append_right front (List.mem_append_left behind hr)

/-- The name of a kind is on one line. -/
theorem TokenKind.unbroken_name (kind : TokenKind) : Unbroken kind.name := by
  cases kind with
  | keyword k => exact (by decide : Unbroken "keyword")
  | operator o => exact (by decide : Unbroken "operator")
  | punctuation p => exact (by decide : Unbroken "punctuation")
  | number r => cases r <;> decide
  | identifier | endOfSource | error => decide

/-- The line for a token has no line break inside if its text has none. -/
theorem Token.unbroken_render {t : Token} (h : Unbroken t.text) : Unbroken t.render := by
  have hname : Unbroken t.kind.name := t.kind.unbroken_name
  rw [render, unbroken_join]
  simp only [pieces, List.forall_mem_cons]
  exact ⟨by decide, h, by decide, hname, by decide, unbroken_toString _, by decide,
    unbroken_toString _, by decide, nofun⟩

/-! ### Verdicts -/

/-- What is expected is told on one line. -/
theorem Expectation.unbroken_message (x : Expectation) : Unbroken x.message := by
  cases x with
  | symbol p => cases p <;> decide
  | keyword k => cases k <;> decide
  | _ => decide

/-- The message for a syntax error has no line break inside if its parts have none. -/
theorem SyntaxError.unbroken_message {e : SyntaxError} (himage : Unbroken e.image)
    (hexpected : Unbroken e.expected) : Unbroken e.message := by
  unfold message
  simp only [unbroken_append, and_assoc]
  exact ⟨by decide, himage, by decide, unbroken_toString _, by decide, unbroken_toString _,
    by decide, hexpected⟩

/-- A syntax error is told on one line. -/
theorem Source.unbroken_of_rejected {s : Source} {limits : Limits} {e : SyntaxError}
    (h : (s.check limits).1 = some e) : Unbroken e.message := by
  obtain ⟨v, hfound, rfl⟩ := exists_token_of_rejected h
  exact SyntaxError.unbroken_message (unbroken_text hfound) (Expectation.unbroken_message _)

/-- The line for a diagnostic has no line break inside if its message has none. -/
theorem Diagnostic.unbroken_render {d : Diagnostic} (h : Unbroken d.message) :
    Unbroken d.render := by
  have hlabel : Unbroken d.severity.label := by cases d.severity <;> decide
  rw [render, unbroken_join, pieces, List.forall_mem_append]
  refine ⟨?_, ?_⟩
  · simp only [List.forall_mem_cons]
    exact ⟨by decide, hlabel, by decide, h, nofun⟩
  · cases d.location with
    | none => exact nofun
    | some l =>
      simp only [List.forall_mem_cons]
      exact ⟨by decide, unbroken_toString _, by decide, unbroken_toString _, by decide, nofun⟩

namespace Source

/-- What is wrong with the first tokens comes first among all that is wrong. -/
theorem diagnosticsThrough_prefix (s : Source) (cap m : Nat) :
    s.diagnosticsThrough cap m <+: s.lexicalDiagnostics cap := by
  refine ⟨((s.readings cap).drop (m + 1)).flatMap Reading.diagnostics, ?_⟩
  rw [diagnosticsThrough, ← List.flatMap_append, List.take_append_drop]
  rfl

/-- A check reports what is wrong with some of the first tokens, and its verdict. -/
theorem exists_check_snd (s : Source) (limits : Limits) :
    ∃ m, (s.check limits).2 = s.diagnosticsThrough limits.tokenLength m ++
      [verdictDiagnostic (s.check limits).1] := by
  rw [check_snd]
  cases hv : ((Grammar.program limits.nesting).run (s.tape limits.tokenLength)).violation? with
  | none =>
    obtain ⟨hclean, hsilent⟩ := reported_of_accepted hv
    refine ⟨Lexer.lastIndex s.chars limits.tokenLength, ?_⟩
    rw [hsilent, diagnosticsThrough_of_le (Nat.le_refl _), hclean]
  | some v =>
    obtain ⟨_, m, -, -, -, -, hreported⟩ := reported_of_rejected hv
    exact ⟨m, by rw [hreported]⟩

/-- Everything that a check reports is on one line. -/
theorem unbroken_of_mem_check {s : Source} {limits : Limits} {d : Diagnostic}
    (h : d ∈ (s.check limits).2) : Unbroken d.message := by
  obtain ⟨m, hreports⟩ := s.exists_check_snd limits
  rw [hreports, List.mem_append, List.mem_singleton] at h
  rcases h with hlexical | rfl
  · obtain ⟨r, hr, hd⟩ := List.mem_flatMap.1 hlexical
    exact Reading.unbroken_message (List.mem_of_mem_take hr) hd
  · cases hv : (s.check limits).1 with
    | none => decide
    | some e => exact unbroken_append.2 ⟨by decide, unbroken_of_rejected hv⟩

end Source

end Recognizer
