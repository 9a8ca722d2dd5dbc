import Recognizer.Proofs.Grammar.Leading
import Recognizer.Proofs.Grammar.Tape

/-!
# Recognizing a phrase

What it means that the outcome of a procedure on a tape is right about a phrase. If the procedure
accepts, the phrase derives what was read and no other part of the tape. If it rejects, the phrase
derives what was read followed by whatever the violation names, but nothing that goes on as the
tape does. All of this is relative to the kinds of tokens that may follow the phrase.
-/

namespace Recognizer

open TokenSource

namespace Expectation

/-- The kinds of tokens that an expectation names. -/
def names : Expectation → TokenKind → Bool
  | symbol p, k => k == .punctuation p
  | assignment, k => k == .operator .assign
  | identifier, k => k == .identifier
  | constant, k => k.isNumber
  | keyword w, k => k == .keyword w
  | intBeforeMain, k => k == .keyword .intWord
  | typeOrClass, k => k.isBasicType || k == .keyword .classWord
  | shallowerNesting, _ => false

/-- What has to stand behind the offending token to make it one. -/
def beyond : Expectation → List TokenKind
  | intBeforeMain => [.keyword .mainWord]
  | _ => []

/-- The bound on nesting that a violation depends on; most do not depend on any. -/
def bound (room : ℕ∞) : Expectation → ℕ∞
  | shallowerNesting => room
  | _ => ⊤

end Expectation

namespace TokenTape

/-- A token of a kind that a class covers is one of the class. -/
theorem covers_of_eq {t : TokenTape} {c : Terminal} {k : TokenKind} (hk : t.kind = k)
    (hc : c.covers k = true) : c.covers t.kind = true := by
  rw [hk]
  exact hc

/-- A token of one kind is not of another. -/
theorem kind_ne_of_eq {t : TokenTape} {k k' : TokenKind} (hk : t.kind = k) (h : k ≠ k') :
    t.kind ≠ k' := by
  rw [hk]
  exact h

/-- Between two places on a tape stand tokens of the kinds `u`, none of which is the end. -/
def Reads (t : TokenTape) (u : List TokenKind) (t' : TokenTape) : Prop :=
  ∃ us : List Token, t.tokens = us ++ t'.tokens ∧ us.map Token.kind = u ∧ .endOfSource ∉ u

namespace Reads

variable {t t' t'' : TokenTape} {u v : List TokenKind}

/-- Between a place and itself there are no tokens. -/
theorem refl (t : TokenTape) : Reads t [] t :=
  ⟨[], rfl, rfl, List.not_mem_nil⟩

/-- What is read up to a place and from there on is read together. -/
theorem trans (h : Reads t u t') (h' : Reads t' v t'') : Reads t (u ++ v) t'' := by
  obtain ⟨us, hs, rfl, hu⟩ := h
  obtain ⟨vs, hs', rfl, hv⟩ := h'
  refine ⟨us ++ vs, ?_, List.map_append, ?_⟩
  · rw [hs, hs', List.append_assoc]
  · rw [List.mem_append]
    rintro (h | h)
    · exact hu h
    · exact hv h

/-- A token before the end is read by going on to the next. -/
theorem tail (h : t.kind ≠ .endOfSource) : Reads t [t.kind] t.tail := by
  refine ⟨[t.next.1], tokens_eq_cons h, rfl, ?_⟩
  rw [List.mem_singleton]
  exact fun he => h he.symm

/-- Whatever is read first has the kind of the next token. -/
theorem exists_cons (h : Reads t u t') (z : List TokenKind) :
    ∃ z', u ++ t'.kind :: z = t.kind :: z' := by
  obtain ⟨us, hs, rfl, _⟩ := h
  cases us with
  | nil =>
    have hk : t.kind = t'.kind := kind_of_tokens_eq hs
    exact ⟨z, by rw [hk]; rfl⟩
  | cons token rest =>
    have hk : t.kind = token.kind := kind_of_tokens_eq_cons hs
    exact ⟨rest.map Token.kind ++ t'.kind :: z, by rw [hk]; rfl⟩

end Reads

end TokenTape

open TokenTape

/-- An outcome at a place on a tape is right about a phrase: `room` bounds the nesting of what
is accepted, and `follow` admits the kinds of tokens that may come after the phrase. -/
inductive Recognition (room : ℕ∞) (p : Phrase) (follow : TokenKind → Bool) (t : TokenTape) :
    Outcome TokenTape → Prop where
  /-- The phrase derives what was read, and what is left is left by every other way to find the
  phrase at the beginning of the tape. -/
  | accepted {u : List TokenKind} {t' : TokenTape} (hr : Reads t u t') (hd : Derives room p u)
      (hx : ∀ C, LedBy follow C → ∀ z, u ++ t'.kind :: z ∈ p.language ⊤ * C → t'.kind :: z ∈ C) :
      Recognition room p follow t (.accepted t')
  /-- The phrase can go on with what the violation names, but not as the tape does. -/
  | rejected {u : List TokenKind} {t' s : TokenTape} {v : Violation} (hr : Reads t u t')
      (hf : t'.next.1 = v.found)
      (hb : v.expected.beyond <+: t'.tail.tokens.map Token.kind)
      (hn : ∀ k, v.expected.names k = true → ∃ z, Derives ⊤ p (u ++ k :: z))
      (hx : ∀ C, LedBy follow C → ∀ z,
        u ++ t'.kind :: (v.expected.beyond ++ z) ∉ p.language (v.expected.bound room) * C) :
      Recognition room p follow t (.rejected v s)

namespace Recognition

variable {room : ℕ∞} {p q : Phrase} {follow follow' : TokenKind → Bool} {t : TokenTape}
  {o : Outcome TokenTape}

/-- Fewer tokens may follow. -/
theorem mono (h : Recognition room p follow t o)
    (hf : ∀ k, follow' k = true → follow k = true) : Recognition room p follow' t o := by
  cases h with
  | accepted hr hd hx => exact .accepted hr hd fun C hC => hx C (hC.mono hf)
  | rejected hr hf' hb hn hx => exact .rejected hr hf' hb hn fun C hC => hx C (hC.mono hf)

/-- Only the words of a phrase matter. -/
theorem congr (h : Recognition room p follow t o) (hpq : ∀ n, p.language n = q.language n) :
    Recognition room q follow t o := by
  have hd {n : ℕ∞} {w : List TokenKind} (hw : Derives n p w) : Derives n q w := by
    rw [← Phrase.mem_language, ← hpq]
    exact hw
  cases h with
  | accepted hr hd' hx =>
    refine .accepted hr (hd hd') ?_
    rwa [← hpq]
  | rejected hr hf hb hn hx =>
    refine .rejected hr hf hb ?_ ?_
    · intro k hk
      obtain ⟨z, hz⟩ := hn k hk
      exact ⟨z, hd hz⟩
    · rwa [← hpq]

/-- Nothing is right about nothing. -/
theorem done (t : TokenTape) : Recognition room .empty follow t (.accepted t) := by
  refine .accepted (.refl t) .empty fun C _ z hz => ?_
  rwa [Phrase.language_empty, one_mul] at hz

/-- A token of a class is a phrase. -/
theorem token {c : Terminal} (h : c.covers t.kind = true) :
    Recognition room (.terminal c) follow t (.accepted t.tail) := by
  have hk : t.kind ≠ .endOfSource := Terminal.ne_endOfSource_of_covers h
  refine .accepted (.tail hk) (.terminal h) fun C _ z hz => ?_
  obtain ⟨u, hu, v, hv, he⟩ := Language.mem_mul.1 hz
  obtain ⟨k, _, rfl⟩ := Phrase.mem_language_terminal.1 hu
  have hv' : v = t.tail.kind :: z := (List.cons.inj he).2
  rwa [← hv']

/-- A violation at the next token, which cannot begin the phrase. -/
theorem here {x : Expectation} {s : TokenTape} (hb : x.beyond <+: t.tail.tokens.map Token.kind)
    (hn : ∀ k, x.names k = true → ∃ z, Derives ⊤ p (k :: z))
    (hl : p.leads follow t.kind = false) :
    Recognition room p follow t (.rejected ⟨t.next.1, x⟩ s) := by
  refine .rejected (.refl t) rfl hb hn fun C hC z hz => ?_
  have hl' := Phrase.leads_of_mem hC hz
  rw [hl] at hl'
  cases hl'

/-- After a phrase that was accepted the next one is looked for, so what may follow the first is
what the second one is led by. -/
theorem bind {f : TokenTape → Outcome TokenTape} (h : Recognition room p follow' t o)
    (hf : ∀ k, q.leads follow k = true → follow' k = true)
    (hq : ∀ t', o = .accepted t' → Recognition room q follow t' (f t')) :
    Recognition room (.seq p q) follow t (o.bind f) := by
  have hC' {C : Language TokenKind} (n : ℕ∞) (hC : LedBy follow C) :
      LedBy follow' (q.language n * C) := (q.ledBy_mul hC).mono hf
  cases h with
  | @accepted u t' hr hd hx =>
    change Recognition room _ follow t (f t')
    generalize ho : f t' = o'
    have h' := hq t' rfl
    rw [ho] at h'
    cases h' with
    | @accepted v t'' hr' hd' hx' =>
      refine .accepted (hr.trans hr') (.seq hd hd') fun C hC z hz => ?_
      rw [Phrase.language_seq, mul_assoc, List.append_assoc] at hz
      obtain ⟨z', he⟩ := hr'.exists_cons z
      rw [he] at hz
      have hz' := hx _ (hC' ⊤ hC) z' hz
      rw [← he] at hz'
      exact hx' C hC z hz'
    | @rejected v t'' s x hr' hf' hb hn hx' =>
      refine .rejected (hr.trans hr') hf' hb ?_ ?_
      · intro k hk
        obtain ⟨z, hz⟩ := hn k hk
        refine ⟨z, ?_⟩
        rw [List.append_assoc]
        exact .seq (hd.mono le_top) hz
      · intro C hC z hz
        rw [Phrase.language_seq, mul_assoc, List.append_assoc] at hz
        obtain ⟨z', he⟩ := hr'.exists_cons (x.expected.beyond ++ z)
        rw [he] at hz
        have hz' := hx _ (hC' _ hC) z' (Phrase.mem_language_mul_mono le_top hz)
        rw [← he] at hz'
        exact hx' C hC z hz'
  | @rejected u t' s x hr hf' hb hn hx =>
    refine .rejected hr hf' hb ?_ ?_
    · intro k hk
      obtain ⟨z, hz⟩ := hn k hk
      obtain ⟨w, hw⟩ := q.productive
      refine ⟨z ++ w, ?_⟩
      have hzw := Derives.seq hz hw
      rwa [List.append_assoc] at hzw
    · intro C hC z hz
      rw [Phrase.language_seq, mul_assoc] at hz
      exact hx _ (hC' _ hC) z hz

/-- After a token that was read the rest of the phrase is looked for. -/
theorem afterToken {c : Terminal} (h : c.covers t.kind = true)
    (ho : Recognition room p follow t.tail o) :
    Recognition room (.seq (.terminal c) p) follow t o := by
  have htoken : Recognition room (.terminal c) (fun _ => true) t (.accepted t.tail) := .token h
  refine htoken.bind (f := fun _ => o) (fun _ _ => rfl) fun t' ht => ?_
  cases ht
  exact ho

/-- The first of two phrases, if the second cannot begin with the next token. -/
theorem left (h : Recognition room p follow t o) (hq : q.leads follow t.kind = false) :
    Recognition room (.either p q) follow t o := by
  have hmem {n : ℕ∞} {C : Language TokenKind} (hC : LedBy follow C) {u z : List TokenKind}
      {t' : TokenTape} (hr : Reads t u t')
      (hz : u ++ t'.kind :: z ∈ (Phrase.either p q).language n * C) :
      u ++ t'.kind :: z ∈ p.language n * C := by
    rw [Phrase.language_either, add_mul, Language.mem_add] at hz
    rcases hz with hz | hz
    · exact hz
    · obtain ⟨z', he⟩ := hr.exists_cons z
      rw [he] at hz
      have hl := Phrase.leads_of_mem hC hz
      rw [hq] at hl
      cases hl
  cases h with
  | accepted hr hd hx =>
    exact .accepted hr (.left q hd) fun C hC z hz => hx C hC z (hmem hC hr hz)
  | rejected hr hf hb hn hx =>
    refine .rejected hr hf hb ?_ fun C hC z hz => hx C hC z (hmem hC hr hz)
    intro k hk
    obtain ⟨z, hz⟩ := hn k hk
    exact ⟨z, .left q hz⟩

/-- The second of two phrases, if the first cannot begin with the next token. -/
theorem right (h : Recognition room q follow t o) (hp : p.leads follow t.kind = false) :
    Recognition room (.either p q) follow t o :=
  (h.left hp).congr fun n => by
    rw [Phrase.language_either, Phrase.language_either, add_comm]

/-- The first of two phrases, if the second cannot begin with a token of the next one's kind. -/
theorem left_of_eq {k : TokenKind} (h : Recognition room p follow t o) (hk : t.kind = k)
    (hq : q.leads follow k = false) : Recognition room (.either p q) follow t o := by
  rw [← hk] at hq
  exact h.left hq

/-- The second of two phrases, if the first cannot begin with a token of the next one's kind. -/
theorem right_of_eq {k : TokenKind} (h : Recognition room q follow t o) (hk : t.kind = k)
    (hp : p.leads follow k = false) : Recognition room (.either p q) follow t o := by
  rw [← hk] at hp
  exact h.right hp

/-- What is right about the body of a rule is right about the rule. -/
theorem rule {r : Rule} (h : Recognition room r.body follow t o) :
    Recognition room (.rule r) follow t o :=
  h.congr fun _ => (Phrase.language_rule r).symm

/-- A nested construct has room for one construct less. -/
theorem nested (h : Recognition room p follow (enter t) o) :
    Recognition (room + 1) (.nested p) follow t (o.mapState leave) := by
  have hlang := Phrase.language_nested_top p
  cases h with
  | @accepted u t' hr hd hx =>
    have hk : (leave t').kind = t'.kind := kind_of_tokens_eq rfl
    refine .accepted hr (.nested hd) ?_
    rw [hlang, hk]
    exact hx
  | @rejected u t' s v hr hf hb hn hx =>
    refine .rejected hr hf hb ?_ ?_
    · intro k hk
      obtain ⟨z, hz⟩ := hn k hk
      exact ⟨z, .nested_top hz⟩
    · have hl : (Phrase.nested p).language (v.expected.bound (room + 1)) =
          p.language (v.expected.bound room) := by
        cases v.expected with
        | shallowerNesting => exact Phrase.language_nested_succ p
        | _ => exact hlang
      rw [hl]
      exact hx

/-- Where there is no room for a nested construct, none may be opened. -/
theorem nested_zero (s : TokenTape) :
    Recognition 0 (.nested p) follow t (.rejected ⟨t.next.1, .shallowerNesting⟩ s) := by
  refine .rejected (.refl t) rfl List.nil_prefix (fun k hk => nomatch hk) fun C _ z hz => ?_
  change _ ∈ (Phrase.nested p).language 0 * C at hz
  rw [Phrase.language_nested_zero, zero_mul] at hz
  exact Language.notMem_zero _ hz

end Recognition

end Recognizer
