import Recognizer.Proofs.Lexical.Classification
import Recognizer.Proofs.Output.Taking
import Recognizer.Proofs.Output.Wording

/-!
# Reading a dump back

The text of a token may hold whatever else its line is made of: quotes, brackets, colons and blanks.
Still a line has one reading only. Behind the text come the name of a kind, which has no colon in
it, and two numbers, which have no blank, so the line is taken apart from its end. The name does
not say which word, operator or mark a token is; that is told by the text.
-/

namespace Recognizer

open Text

/-- A list is cut in one way only at the last of its separators. -/
theorem append_cons_inj {α : Type} {a b x y : List α} {c : α} (hx : c ∉ x) (hy : c ∉ y)
    (h : a ++ c :: x = b ++ c :: y) : a = b ∧ x = y := by
  rcases List.append_eq_append_iff.1 h with ⟨m, rfl, hm⟩ | ⟨m, rfl, hm⟩
  · cases m with
    | nil => exact ⟨(List.append_nil a).symm, (List.cons.inj hm).2⟩
    | cons d m =>
      rw [(List.cons.inj hm).2] at hx
      exact absurd (List.mem_append_right m List.mem_cons_self) hx
  · cases m with
    | nil => exact ⟨List.append_nil b, (List.cons.inj hm).2.symm⟩
    | cons d m =>
      rw [(List.cons.inj hm).2] at hy
      exact absurd (List.mem_append_right m List.mem_cons_self) hy

/-- There is no blank in the decimal form of a number. -/
theorem blank_notMem_toString (n : Nat) : ' ' ∉ (toString n).toList := by
  rw [Nat.toString_eq_ofList_toDigits, String.toList_ofList]
  exact notMem_toDigits (by decide) (fun _ => Nat.digitChar_ne _ (by decide)) n

/-- A number is told by its decimal form. -/
theorem eq_of_toString_eq {m n : Nat} (h : (toString m).toList = (toString n).toList) : m = n := by
  simp only [Nat.toString_eq_ofList_toDigits, String.toList_ofList] at h
  calc m = Nat.ofDigitChars 10 (Nat.toDigits 10 m) 0 := Nat.ofDigitChars_ten_toDigits.symm
    _ = n := by rw [h, Nat.ofDigitChars_ten_toDigits]

namespace TokenKind

/-- The kind of a token whose text is known, from the name of the kind. -/
def ofName? (name text : String) : Option TokenKind :=
  if name = "keyword" then (Keyword.ofSpelling? text).map keyword
  else if name = "operator" then (Operator.ofSpelling? text).map operator
  else if name = "punctuation" then (Punctuation.ofSpelling? text).map punctuation
  else
    [identifier, number .octal, number .decimal, number .hexadecimal, endOfSource, error].find?
      (·.name == name)

/-- The text of a token says which word, operator or mark it is. -/
theorem ofName?_name {kind : TokenKind} {text : String}
    (h : kind = .error ∨ kind.Spelled text.toList) : ofName? kind.name text = some kind := by
  rcases h with rfl | h
  · rfl
  cases kind with
  | keyword k =>
    obtain rfl : text = k.spelling := String.toList_inj.1 h.2
    exact congrArg (Option.map keyword) (Keyword.ofSpelling?_spelling k)
  | operator o =>
    obtain rfl : text = o.spelling := String.toList_inj.1 h
    exact congrArg (Option.map operator) (Operator.ofSpelling?_spelling o)
  | punctuation p =>
    obtain rfl : text = p.spelling := String.toList_inj.1 h
    cases p <;> rfl
  | number r => cases r <;> rfl
  | identifier | endOfSource => rfl
  | error => exact h.elim

/-- There is no colon in the name of a kind. -/
theorem colon_notMem_name (kind : TokenKind) : ':' ∉ kind.name.toList := by
  cases kind with
  | keyword k => exact (by decide : ':' ∉ "keyword".toList)
  | operator o => exact (by decide : ':' ∉ "operator".toList)
  | punctuation p => exact (by decide : ':' ∉ "punctuation".toList)
  | number r => cases r <;> decide
  | identifier | endOfSource | error => decide

end TokenKind

namespace Token

/-- A line of a dump, with the separators at which it is taken apart. -/
theorem toList_render (t : Token) :
    t.render.toList =
      ((((('\'' :: (t.text.toList ++ "' (type".toList)) ++ ':' :: ' ' :: t.kind.name.toList) ++
        ") (line:".toList) ++ ' ' :: (toString t.line).toList) ++
        ", column:".toList) ++ ' ' :: (toString t.column).toList ++ [')'] := by
  simp [render, pieces]

/-- A line of a dump has one reading only. -/
theorem eq_of_render_eq {t u : Token} (h : t.render = u.render) :
    t.text = u.text ∧ t.kind.name = u.kind.name ∧ t.line = u.line ∧ t.column = u.column := by
  have h := congrArg String.toList h
  rw [toList_render, toList_render] at h
  obtain ⟨hline, hcolumn⟩ := append_cons_inj (blank_notMem_toString _) (blank_notMem_toString _)
    (List.append_cancel_right h)
  obtain ⟨hname, hline⟩ := append_cons_inj (blank_notMem_toString _) (blank_notMem_toString _)
    (List.append_cancel_right hline)
  have hcolon : ∀ kind : TokenKind, ':' ∉ ' ' :: kind.name.toList := fun kind =>
    List.not_mem_cons_of_ne_of_not_mem (by decide) kind.colon_notMem_name
  obtain ⟨htext, hname⟩ := append_cons_inj (hcolon _) (hcolon _) (List.append_cancel_right hname)
  have htext := List.append_cancel_right (List.cons.inj htext).2
  exact ⟨String.toList_inj.1 htext, String.toList_inj.1 (List.cons.inj hname).2,
    eq_of_toString_eq hline, eq_of_toString_eq hcolumn⟩

/-- A token is written as its kind is, unless it is an error token. -/
def Regular (t : Token) : Prop :=
  t.kind = .error ∨ t.kind.Spelled t.text.toList

/-- A token is told by its line. -/
theorem Regular.eq_of_render_eq {t u : Token} (ht : t.Regular) (hu : u.Regular)
    (h : t.render = u.render) : t = u := by
  obtain ⟨htext, hname, hline, hcolumn⟩ := Token.eq_of_render_eq h
  have hkind : t.kind = u.kind := by
    have hread := TokenKind.ofName?_name ht
    rw [htext, hname, TokenKind.ofName?_name hu] at hread
    exact (Option.some.inj hread).symm
  obtain ⟨_, _, _, _⟩ := t
  obtain ⟨_, _, _, _⟩ := u
  cases hkind
  cases htext
  cases hline
  cases hcolumn
  rfl

/-- So are several tokens by their lines. -/
theorem Regular.eq_of_map_render_eq {ts us : List Token} (ht : ∀ t ∈ ts, t.Regular)
    (hu : ∀ u ∈ us, u.Regular) (h : ts.map render = us.map render) : ts = us := by
  induction ts generalizing us with
  | nil => exact (List.map_eq_nil_iff.1 h.symm).symm
  | cons t ts ih =>
    obtain ⟨u, us', rfl, hfirst, hrest⟩ := List.map_eq_cons_iff.1 h.symm
    obtain ⟨ht, hts⟩ := List.forall_mem_cons.1 ht
    obtain ⟨hu, hus⟩ := List.forall_mem_cons.1 hu
    rw [ht.eq_of_render_eq hu hfirst.symm, ih hts hus hrest.symm]

end Token

/-- Every token of a source is regular. -/
theorem Source.regular_of_mem {s : Source} {cap : Nat} {t : Token} (h : t ∈ s.tokens cap) :
    t.Regular := by
  obtain ⟨r, hr, rfl⟩ := List.mem_map.1 h
  obtain ⟨_, ahead, -, ht, -, hkind, htext, -⟩ := Reading.exists_lexeme_of_mem hr
  rw [Token.Regular, hkind, htext]
  cases Lexeme.read_sound cap ht with
  | classified h => exact .inr h.spelled
  | malformed hk h => exact .inl hk

/-! ### What is written -/

/-- The bytes of a dump of the tokens of a source, and those of the log beside it, where both go to
destinations that take everything. -/
def Dump.delivered (s : Source) (cap : Nat) : List UInt8 × List UInt8 :=
  let state := (write s cap BoundedOutput.writer.onFirst BoundedOutput.writer.onSecond ({}, {})).2
  (state.1.written.toList, state.2.written.toList)

/-- The bytes of the log of a check, where it goes to a destination that takes everything. -/
def Source.logged (s : Source) (limits : Limits) : List UInt8 :=
  (s.checkInto limits BoundedOutput.writer {}).2.written.toList

/-- The bytes of a dump are the lines for the tokens and those for what is wrong with them. -/
theorem Dump.delivered_eq (s : Source) (cap : Nat) :
    delivered s cap = ((Lexer.start s.chars cap).drain.1.flatMap Token.lineBytes,
      (Lexer.start s.chars cap).drain.2.reported.toList.flatMap Diagnostic.lineBytes) := by
  have hunbounded : BoundedOutput.Unbounded {} := ⟨rfl, rfl⟩
  obtain ⟨-, htokens, herrors⟩ :=
    write_of_takes (BoundedOutput.takes.onFirst BoundedOutput.Unbounded (·.written.toList))
      (BoundedOutput.takes.onSecond BoundedOutput.Unbounded (·.written.toList))
      (w := ({}, {})) ⟨hunbounded, hunbounded⟩ s cap
  exact Prod.ext htokens herrors

/-- The bytes of the log of a check are the lines for what it reports. -/
theorem Source.logged_eq (s : Source) (limits : Limits) :
    s.logged limits = (s.check limits).2.flatMap Diagnostic.lineBytes :=
  (s.checkInto_of_takes BoundedOutput.takes ⟨rfl, rfl⟩ limits).2

/-- The tokens of a dump, one on a line. -/
theorem Dump.hasLines_tokens (s : Source) (cap : Nat) :
    HasLines (delivered s cap).1 ((Lexer.start s.chars cap).drain.1.map Token.render) := by
  have hlines : ∀ line ∈ (s.tokens cap).map Token.render, Unbroken line := by
    intro line hline
    obtain ⟨t, ht, rfl⟩ := List.mem_map.1 hline
    exact Token.unbroken_render (Source.unbroken_text ht)
  have h := hasLines_of_unbroken hlines
  rw [List.flatMap_map] at h
  rw [delivered_eq, Lexer.drain_start]
  exact h

/-- Diagnostics in a log, one on a line. -/
theorem hasLines_diagnostics {ds : List Diagnostic} (h : ∀ d ∈ ds, Unbroken d.message) :
    HasLines (ds.flatMap Diagnostic.lineBytes) (ds.map Diagnostic.render) := by
  have hlines : ∀ line ∈ ds.map Diagnostic.render, Unbroken line := by
    intro line hline
    obtain ⟨d, hd, rfl⟩ := List.mem_map.1 hline
    exact Diagnostic.unbroken_render (h d hd)
  have h := hasLines_of_unbroken hlines
  rw [List.flatMap_map] at h
  exact h

/-- The tokens of a source are told by its dump. -/
theorem Dump.tokens_eq_of_delivered_eq {s s' : Source} {cap cap' : Nat}
    (h : (delivered s cap).1 = (delivered s' cap').1) : s.tokens cap = s'.tokens cap' := by
  have hs := hasLines_tokens s cap
  have hs' := hasLines_tokens s' cap'
  rw [← h] at hs'
  have hrender := hs.unique hs'
  rw [Lexer.drain_start, Lexer.drain_start] at hrender
  exact Token.Regular.eq_of_map_render_eq (fun _ => Source.regular_of_mem)
    (fun _ => Source.regular_of_mem) hrender

/-- Whatever a source holds, texts of tokens, lexical messages and syntax errors are told without a
line break. So a dump has one line for each token, its log one for each diagnostic, and the log of a
check one for each lexical diagnostic that is reported, and one for the verdict. Two sources with
the same dump have the same tokens. -/
theorem output_is_unambiguous (s : Source) (limits : Limits) :
    let drained := (Lexer.start s.chars limits.tokenLength).drain
    let lexical := drained.2.reported.toList
    let dump := Dump.delivered s limits.tokenLength
    (∀ t ∈ drained.1, Unbroken t.text) ∧ (∀ d ∈ lexical, Unbroken d.message) ∧
      (∀ e, (s.check limits).1 = some e → Unbroken e.message) ∧
      HasLines dump.1 (drained.1.map Token.render) ∧
      HasLines dump.2 (lexical.map Diagnostic.render) ∧
      (∃ reported, reported <+: lexical ∧
        (s.check limits).2 = reported ++ [verdictDiagnostic (s.check limits).1] ∧
        HasLines (s.logged limits) (reported.map Diagnostic.render ++
          [(verdictDiagnostic (s.check limits).1).render])) ∧
      ∀ (s' : Source) (limits' : Limits), (Dump.delivered s' limits'.tokenLength).1 = dump.1 ↔
        (Lexer.start s'.chars limits'.tokenLength).drain.1 = drained.1 := by
  intro drained lexical dump
  have htokens : drained.1 = s.tokens limits.tokenLength := Lexer.drain_start _ _
  have hlexical : lexical = s.lexicalDiagnostics limits.tokenLength :=
    Lexer.reported_drain_start _ _
  have hmessages : ∀ d ∈ lexical, Unbroken d.message := by
    rw [hlexical]
    intro d hd
    obtain ⟨r, hr, hd⟩ := List.mem_flatMap.1 hd
    exact Reading.unbroken_message hr hd
  refine ⟨?_, hmessages, fun e => Source.unbroken_of_rejected, ?_, ?_, ?_, ?_⟩
  · rw [htokens]
    exact fun t => Source.unbroken_text
  · exact Dump.hasLines_tokens s limits.tokenLength
  · have hbytes : dump.2 = lexical.flatMap Diagnostic.lineBytes :=
      congrArg Prod.snd (Dump.delivered_eq s limits.tokenLength)
    rw [hbytes]
    exact hasLines_diagnostics hmessages
  · obtain ⟨m, hreports⟩ := s.exists_check_snd limits
    refine ⟨s.diagnosticsThrough limits.tokenLength m, ?_, hreports, ?_⟩
    · rw [hlexical]
      exact s.diagnosticsThrough_prefix limits.tokenLength m
    · have hreported : ∀ d ∈ (s.check limits).2, Unbroken d.message := fun d =>
        Source.unbroken_of_mem_check
      have hlog := hasLines_diagnostics hreported
      rw [← s.logged_eq, hreports, List.map_append, List.map_singleton] at hlog
      exact hlog
  · intro s' limits'
    constructor
    · intro h
      rw [htokens, Lexer.drain_start]
      exact Dump.tokens_eq_of_delivered_eq h
    · intro h
      have hdump : dump.1 = drained.1.flatMap Token.lineBytes :=
        congrArg Prod.fst (Dump.delivered_eq s limits.tokenLength)
      rw [Dump.delivered_eq, h, hdump]

/-- A line feed where a digit should be is told without breaking a line. -/
example :
    Dump.delivered ⟨"0x\n;".toList, by decide, by decide⟩ 20 =
      (utf8 ("'0x' (type: error) (line: 1, column: 1)\n" ++
        "';' (type: punctuation) (line: 2, column: 1)\n" ++
        "'' (type: end of source) (line: 2, column: 2)\n"),
      utf8 "[error] invalid digit '\\n' in hex constant (line: 1, column: 1)\n") := by
  decide +kernel

end Recognizer
