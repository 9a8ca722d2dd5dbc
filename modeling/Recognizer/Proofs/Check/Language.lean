import Recognizer.Proofs.Check.Refinement
import Recognizer.Proofs.Grammar.Programs

/-!
# The language of accepted sources

A check accepts a source if and only if the grammar derives its tokens, and when it rejects one
it does so at the first token that no program can have there.
-/

namespace Recognizer

open TokenTape

namespace Expectation

/-- Every expectation. -/
def all : List Expectation :=
  Punctuation.all.map .symbol ++ Keyword.all.map .keyword ++
    [.assignment, .identifier, .constant, .intBeforeMain, .typeOrClass, .shallowerNesting]

/-- The list of expectations is complete. -/
theorem mem_all (x : Expectation) : x ∈ all := by
  cases x with
  | symbol p => cases p <;> decide
  | keyword k => cases k <;> decide
  | _ => decide

/-- No two expectations have one message, so a message tells which it was. -/
theorem message_nodup : (all.map message).Nodup := by
  decide +kernel

/-- The words tell what was expected. -/
theorem message_injective {x y : Expectation} (h : x.message = y.message) : x = y :=
  List.inj_on_of_nodup_map message_nodup x.mem_all y.mem_all h

/-- Every expectation but the one about nesting names some kind of token. -/
theorem exists_names {x : Expectation} (h : x ≠ .shallowerNesting) :
    ∃ k, x.names k = true := by
  cases x with
  | symbol p => exact ⟨.punctuation p, beq_self_eq_true _⟩
  | assignment => exact ⟨.operator .assign, rfl⟩
  | identifier => exact ⟨.identifier, rfl⟩
  | constant => exact ⟨.number .octal, rfl⟩
  | keyword k => exact ⟨.keyword k, beq_self_eq_true _⟩
  | intBeforeMain => exact ⟨.keyword .intWord, rfl⟩
  | typeOrClass => exact ⟨.keyword .classWord, rfl⟩
  | shallowerNesting => exact absurd rfl h

/-- A violation depends on a bound that is no tighter than that of its procedure. -/
theorem le_bound (room : ℕ∞) (x : Expectation) : room ≤ x.bound room := by
  cases x with
  | shallowerNesting => exact le_rfl
  | _ => exact le_top

/-- Only the expectation about nesting depends on the limit. -/
theorem bound_eq_top (room : ℕ∞) {x : Expectation} (h : x ≠ .shallowerNesting) :
    x.bound room = ⊤ := by
  cases x with
  | shallowerNesting => exact absurd rfl h
  | _ => rfl

/-- Only the word `int` in front of `main` is asked for because of what comes later. -/
theorem beyond_eq_nil {x : Expectation} (h : x ≠ .intBeforeMain) : x.beyond = [] := by
  cases x with
  | intBeforeMain => exact absurd rfl h
  | _ => rfl

end Expectation

namespace TokenTape

/-- The kinds of the tokens that are left. -/
def kinds (t : TokenTape) : List TokenKind :=
  t.tokens.map Token.kind

/-- The end stands last on a tape and nowhere else. -/
def Ended (t : TokenTape) : Prop :=
  ∃ u, t.kinds = u ++ [.endOfSource] ∧ .endOfSource ∉ u

variable {t t' : TokenTape} {u : List TokenKind}

/-- Tokens that are read are those of the kinds ahead. -/
theorem Reads.kinds_eq (h : Reads t u t') : t.kinds = u ++ t'.kinds := by
  obtain ⟨us, hs, rfl, _⟩ := h
  rw [kinds, hs, List.map_append]
  rfl

/-- What is read before the end leaves the end to be read. -/
theorem Reads.ended (h : Reads t u t') (ht : t.Ended) : t'.Ended := by
  obtain ⟨w, hw, hend⟩ := ht
  have hk := h.kinds_eq
  obtain ⟨_, _, _, hu⟩ := h
  rw [hw] at hk
  rcases List.eq_nil_or_concat t'.kinds with hnil | ⟨v, k, hv⟩
  · rw [hnil, List.append_nil] at hk
    rw [← hk] at hu
    exact absurd (List.mem_append_right w List.mem_cons_self) hu
  · rw [List.concat_eq_append] at hv
    rw [hv, ← List.append_assoc] at hk
    obtain ⟨hwv, hke⟩ := List.append_inj' hk rfl
    cases hke
    refine ⟨v, hv, fun hm => hend ?_⟩
    rw [hwv]
    exact List.mem_append_right u hm

/-- In front of the end there is only the end. -/
theorem Ended.kinds_of_end (h : t.Ended) (hk : t.kind = .endOfSource) :
    t.kinds = [.endOfSource] := by
  obtain ⟨u, hu, hend⟩ := h
  cases u with
  | nil => exact hu
  | cons k u =>
    cases ht : t.tokens with
    | nil =>
      rw [kinds, ht] at hu
      cases hu
    | cons token rest =>
      have hk' : t.kind = token.kind := kind_of_tokens_eq_cons ht
      rw [kinds, ht] at hu
      have hhead : token.kind = k := (List.cons.inj hu).1
      rw [← hk', hk] at hhead
      rw [← hhead] at hend
      exact absurd List.mem_cons_self hend

/-- The next token is the first that is left; what comes after it is the rest of the tape, and
nothing comes after the end. -/
theorem Ended.exists_tokens (h : t.Ended) : ∃ rest, t.tokens = t.next.1 :: rest ∧
    ∀ x : Expectation, x.beyond <+: t.tail.kinds → x.beyond <+: rest.map Token.kind := by
  by_cases hk : t.kind = .endOfSource
  · have hkinds := h.kinds_of_end hk
    have hl := congrArg List.length hkinds
    rw [kinds, List.length_map] at hl
    obtain ⟨token, ht⟩ := List.length_eq_one_iff.1 hl
    refine ⟨[], by simp only [next, ht], fun x hp => ?_⟩
    cases x with
    | intBeforeMain =>
      rw [tail_of_end hk, hkinds] at hp
      cases (List.cons_prefix_cons.1 hp).1
    | _ => exact List.nil_prefix
  · exact ⟨t.tail.tokens, tokens_eq_cons hk, fun _ hp => hp⟩

end TokenTape

/-- A word that can be continued to a program, whatever nesting that takes. -/
def Viable (w : List TokenKind) : Prop :=
  ∃ z, Derives ⊤ (.rule .program) (w ++ z)

/-- What a violation shows about the tokens `p` before the offending token and the tokens `rest`
after it: any kind that it names could have come next, but not the offending token. -/
structure Refutes (room : ℕ∞) (v : Violation) (p rest : List Token) : Prop where
  /-- The end does not come before the offending token. -/
  before : ∀ t ∈ p, t.kind ≠ .endOfSource
  /-- Whatever the violation says of the tokens behind the offending one is so. -/
  beyond : v.expected.beyond <+: rest.map Token.kind
  /-- Every kind that is named could have come next. -/
  honest : ∀ k, v.expected.names k = true → Viable (p.map Token.kind ++ [k])
  /-- No program goes on with the offending token. -/
  stuck : ∀ z, ¬ Derives (v.expected.bound room) (.rule .program)
    (p.map Token.kind ++ v.found.kind :: (v.expected.beyond ++ z))

/-- The tokens that a violation was found in are not those of a program. -/
theorem Refutes.not_derives {room : ℕ∞} {v : Violation} {p rest : List Token}
    (h : Refutes room v p rest) :
    ¬ Derives room (.rule .program) ((p ++ v.found :: rest).map Token.kind) := by
  intro hd
  obtain ⟨z, hz⟩ := h.beyond
  rw [List.map_append, List.map_cons, ← hz] at hd
  exact h.stuck z (hd.mono (v.expected.le_bound room))

/-- A program is a sequence of its items and the end of the source. -/
theorem Phrase.language_program (n : ℕ∞) : (rule .program).language n =
    (many Grammar.programItem).language n * ending.language n := by
  rw [language_rule]
  exact language_seq _ _

/-- The end of the source begins with itself. -/
theorem Phrase.ledBy_ending (n : ℕ∞) : LedBy (fun k => k == .endOfSource) (ending.language n) := by
  intro w hw
  exact ⟨.endOfSource, [], mem_language_ending.1 hw, rfl⟩

/-- What is accepted as a program is one. -/
theorem derives_of_accepted {room : ℕ} {t t' : TokenTape} (ht : t.Ended)
    (ho : (Grammar.program room).run t = .accepted t') : Derives room (.rule .program) t.kinds := by
  have h := Grammar.recognizes_program room t
  rw [ho] at h
  cases h with
  | @accepted u _ hr hd hx =>
    have hend : t'.kinds = [.endOfSource] :=
      (hr.ended ht).kinds_of_end (kind_of_program_accepted ho)
    rw [hr.kinds_eq, hend]
    exact .rule (.seq hd .ending)

/-- What is rejected as a program is rejected for a reason. -/
theorem refutes_of_rejected {room : ℕ} {t s : TokenTape} {v : Violation} (ht : t.Ended)
    (ho : (Grammar.program room).run t = .rejected v s) :
    ∃ p rest, t.tokens = p ++ v.found :: rest ∧ Refutes room v p rest := by
  have h := Grammar.recognizes_program room t
  rw [ho] at h
  cases h with
  | @rejected u t' _ _ hr hf hb hn hx =>
    obtain ⟨rest, hrest, hbeyond⟩ := (hr.ended ht).exists_tokens
    obtain ⟨us, hus, hmap, hu⟩ := hr
    rw [hf] at hrest
    refine ⟨us, rest, by rw [hus, hrest], ?_, ?_, ?_, ?_⟩
    · intro token hm he
      rw [← hmap, ← he] at hu
      exact hu (List.mem_map_of_mem hm)
    · exact hbeyond _ hb
    · intro k hk
      obtain ⟨z, hz⟩ := hn k hk
      have hall : Derives ⊤ (.rule .program) ((u ++ k :: z) ++ [.endOfSource]) :=
        .rule (.seq hz .ending)
      refine ⟨z ++ [.endOfSource], ?_⟩
      rw [hmap]
      rwa [List.append_assoc, List.cons_append, List.append_cons] at hall
    · intro z hz
      have hk : t'.kind = v.found.kind := congrArg Token.kind hf
      rw [← Phrase.mem_language, Phrase.language_program, hmap, ← hk] at hz
      exact hx _ (Phrase.ledBy_ending _) z hz

/-- The kinds on the tape of a source are those of its readings. -/
theorem kinds_tape (s : Source) (cap : ℕ) :
    (s.tape cap).kinds = (Lexer.stream s.chars cap).map (·.token.kind) :=
  List.map_map

/-- The tape of a source ends with the end of the source. -/
theorem ended_tape (s : Source) (cap : ℕ) : (s.tape cap).Ended := by
  obtain ⟨before, last, ha, hl, hb⟩ := Reading.all_eq_append_end cap .start s.chars
  change Lexer.stream s.chars cap = _ at ha
  refine ⟨before.map (·.token.kind), ?_, ?_⟩
  · rw [kinds_tape, ha, List.map_append, List.map_singleton, hl]
  · intro hm
    obtain ⟨r, hr, he⟩ := List.mem_map.1 hm
    exact hb r hr he

/-- A source is accepted if and only if the grammar derives its tokens with no more constructs
nested than the limits allow. -/
theorem check_accepts_iff_derives (s : Source) (limits : Limits) :
    (s.check limits).1 = none ↔
      Derives limits.nesting (.rule .program) ((s.tokens limits.tokenLength).map Token.kind) := by
  rw [check_fst, Option.map_eq_none_iff]
  have ht := ended_tape s limits.tokenLength
  cases ho : (Grammar.program limits.nesting).run (s.tape limits.tokenLength) with
  | accepted t' => exact iff_of_true rfl (derives_of_accepted ht ho)
  | rejected v t' =>
    obtain ⟨p, rest, hp, hr⟩ := refutes_of_rejected ht ho
    have htokens : s.tokens limits.tokenLength = p ++ v.found :: rest := hp
    rw [htokens]
    exact iff_of_false nofun hr.not_derives

/-- A rejection at the token `t` is exact if each kind of token that the expectation `x` names
could have stood in its place, but `t` itself could not. A token that is rejected because `int` is
expected in front of `main` could not have stood there with `main` behind it. -/
structure ExactRejection (p : List Token) (t : Token) (rest : List Token) (x : Expectation) :
    Prop where
  /-- The end does not come before the offending token. -/
  before : ∀ q ∈ p, q.kind ≠ .endOfSource
  /-- Some kind of token is named. -/
  named : ∃ k, x.names k = true
  /-- Every kind of token that is named could have come next. -/
  honest : ∀ k, x.names k = true → Viable (p.map Token.kind ++ [k])
  /-- A token that is not `int` could not have come next in front of `main`. -/
  beforeMain : x = .intBeforeMain → ∃ m rest', rest = m :: rest' ∧
    m.kind = .keyword .mainWord ∧ ¬ Viable (p.map Token.kind ++ [t.kind, m.kind])
  /-- Where the end is rejected there is no program. -/
  atEnd : x ≠ .intBeforeMain → t.kind = .endOfSource →
    ¬ Derives ⊤ (.rule .program) (p.map Token.kind ++ [.endOfSource])
  /-- Any other token that is rejected could not have come next. -/
  stuck : x ≠ .intBeforeMain → t.kind ≠ .endOfSource → ¬ Viable (p.map Token.kind ++ [t.kind])

/-- A violation that does not depend on nesting is an exact rejection. -/
theorem Refutes.exact {room : ℕ∞} {v : Violation} {p rest : List Token}
    (h : Refutes room v p rest) (hv : v.expected ≠ .shallowerNesting) :
    ExactRejection p v.found rest v.expected := by
  have hstuck := h.stuck
  rw [Expectation.bound_eq_top room hv] at hstuck
  refine ⟨h.before, Expectation.exists_names hv, h.honest, ?_, ?_, ?_⟩
  · intro hx
    obtain ⟨z, hz⟩ := h.beyond
    rw [hx] at hz hstuck
    cases rest with
    | nil => cases hz
    | cons m rest' =>
      have hm : m.kind = .keyword .mainWord := (List.cons.inj hz).1.symm
      refine ⟨m, rest', rfl, hm, ?_⟩
      rintro ⟨z', hz'⟩
      rw [hm, List.append_assoc] at hz'
      exact hstuck z' hz'
  · intro hx ht hd
    rw [Expectation.beyond_eq_nil hx, ht] at hstuck
    exact hstuck [] hd
  · rintro hx - ⟨z, hz⟩
    rw [Expectation.beyond_eq_nil hx] at hstuck
    rw [List.append_assoc] at hz
    exact hstuck z hz

/-- A source that is rejected for anything but its nesting is rejected at the first token that no
program can have there, and what is said to be expected there would have been right. -/
theorem rejection_is_exact (s : Source) (limits : Limits) {e : SyntaxError}
    (h : (s.check limits).1 = some e)
    (hn : e.expected ≠ Expectation.shallowerNesting.message) :
    ∃ p t rest x, s.tokens limits.tokenLength = p ++ t :: rest ∧
      e = SyntaxError.ofViolation s ⟨t, x⟩ ∧ (∀ y : Expectation, y.message = e.expected → y = x) ∧
      ExactRejection p t rest x := by
  rw [check_fst, Option.map_eq_some_iff] at h
  obtain ⟨v, hv, rfl⟩ := h
  cases ho : (Grammar.program limits.nesting).run (s.tape limits.tokenLength) with
  | accepted t' =>
    rw [ho] at hv
    cases hv
  | rejected v' t' =>
    rw [ho] at hv
    cases hv
    obtain ⟨p, rest, hp, hr⟩ := refutes_of_rejected (ended_tape s limits.tokenLength) ho
    have hx : v.expected ≠ .shallowerNesting := by
      intro hx
      exact hn (congrArg Expectation.message hx)
    exact ⟨p, v.found, rest, v.expected, hp, rfl, fun _ hy => Expectation.message_injective hy,
      hr.exact hx⟩

/-- The source `char main`. -/
def charMain : Source :=
  ⟨"char main".toList, by decide, by decide⟩

/-- The violation of `char main`. -/
def charMainViolation : Violation :=
  ⟨⟨.keyword .charWord, "char", 1, 1⟩, .intBeforeMain⟩

/-- A main function that begins with the wrong type. -/
theorem rejection_of_charMain :
    (charMain.check {}).1 = some (.ofViolation charMain charMainViolation) ∧
      ∃ p t rest x, charMain.tokens 20 = p ++ t :: rest ∧
        SyntaxError.ofViolation charMain charMainViolation = .ofViolation charMain ⟨t, x⟩ ∧
        (∀ y : Expectation, y.message = Expectation.intBeforeMain.message → y = x) ∧
        ExactRejection p t rest x := by
  have h : (charMain.check {}).1 = some (.ofViolation charMain charMainViolation) := by
    decide +kernel
  exact ⟨h, rejection_is_exact charMain {} h (by decide)⟩

end Recognizer
