import Recognizer.Proofs.Check.Language

/-!
# Going on behind the items of a program

An item of a program decides by its own tokens that it is over: whatever stands behind it, it is
accepted with exactly these tokens. So a program that begins with items is read as if it began
behind them.
-/

namespace Recognizer

open TokenSource TokenTape Procedure

/-- Two phrases one after the other that are not empty are two tokens at least. -/
theorem Derives.two_le_length_seq {n : ℕ∞} {p q : Phrase} {w : List TokenKind}
    (h : Derives n (.seq p q) w) (hp : p.nullable = false) (hq : q.nullable = false) :
    2 ≤ w.length := by
  have hone {p : Phrase} {u : List TokenKind} (hu : Derives n p u) (hp : p.nullable = false) :
      0 < u.length := by
    rw [List.length_pos_iff]
    intro hnil
    rw [hu.nullable hnil] at hp
    cases hp
  cases h with
  | seq hu hv =>
    have hu := hone hu hp
    have hv := hone hv hq
    rw [List.length_append]
    omega

namespace Grammar

/-- No item of a program is a single token. -/
theorem two_le_length_of_programItem {n : ℕ∞} {w : List TokenKind} (h : Derives n programItem w) :
    2 ≤ w.length := by
  cases h with
  | left _ h =>
    cases h with
    | rule h =>
      cases h with
      | left _ h => exact h.two_le_length_seq rfl rfl
      | right _ h =>
        cases h with
        | rule h => exact h.two_le_length_seq rfl rfl
  | right _ h =>
    cases h with
    | rule h => exact h.two_le_length_seq rfl rfl

end Grammar

namespace TokenTape

variable {t t' : TokenTape} {u rest : List TokenKind}

/-- The first of the kinds ahead is the kind of the next token. -/
theorem kind_of_kinds_eq_cons {k : TokenKind} (h : t.kinds = k :: u) : t.kind = k := by
  cases ht : t.tokens with
  | nil =>
    rw [kinds, ht] at h
    cases h
  | cons token tokens =>
    rw [kinds, ht] at h
    rw [kind_of_tokens_eq_cons ht]
    exact (List.cons.inj h).1

/-- Behind a token other than the end the other kinds are ahead. -/
theorem tail_kinds_of_kinds_eq_cons {k : TokenKind} (h : t.kinds = k :: u)
    (hk : k ≠ .endOfSource) : t.tail.kinds = u := by
  rw [← kind_of_kinds_eq_cons h] at hk
  rw [kinds, tokens_eq_cons hk] at h
  exact (List.cons.inj h).2

/-- The end of a tape is the end of whatever is left at last. -/
theorem Ended.exists_append (h : t.Ended) (hk : t.kinds = u ++ rest) (hr : rest ≠ []) :
    ∃ v, rest = v ++ [.endOfSource] ∧ .endOfSource ∉ u ++ v := by
  obtain ⟨w, hw, hend⟩ := h
  obtain ⟨v, last, rfl⟩ := (List.eq_nil_or_concat' rest).resolve_left hr
  rw [hk, ← List.append_assoc] at hw
  obtain ⟨rfl, hlast⟩ := List.append_inj' hw rfl
  exact ⟨v, congrArg (v ++ ·) hlast, hend⟩

/-- The kinds that are left begin with those of the next token and of what has to stand behind
it. -/
theorem Ended.kinds_eq_beyond (h : t.Ended) {x : Expectation}
    (hb : x.beyond <+: t.tail.tokens.map Token.kind) :
    ∃ z, t.kinds = t.kind :: (x.beyond ++ z) := by
  obtain ⟨rest, hrest, hbeyond⟩ := h.exists_tokens
  obtain ⟨z, hz⟩ := hbeyond x hb
  refine ⟨z, ?_⟩
  rw [hz, kinds, hrest, List.map_cons]
  rfl

end TokenTape

/-- A phrase that is recognized whatever follows it is accepted where it stands, and nothing else
is read. -/
theorem Recognition.accepted_of_derives {room : ℕ∞} {p : Phrase} {t : TokenTape}
    {o : Outcome TokenTape} {u rest : List TokenKind}
    (h : Recognition room p (fun _ => true) t o) (ht : t.Ended) (hk : t.kinds = u ++ rest)
    (hd : Derives room p u) (hr : rest ≠ []) : ∃ t', o = .accepted t' ∧ t'.kinds = rest := by
  let C : Language TokenKind := {rest}
  have hC : LedBy (fun _ => true) C := by
    intro w hw
    obtain ⟨k, z, he⟩ := List.exists_cons_of_ne_nil hr
    exact ⟨k, z, (Set.mem_singleton_iff.1 hw).trans he, rfl⟩
  have hmem {n : ℕ∞} (hn : room ≤ n) : u ++ rest ∈ p.language n * C :=
    Language.mem_mul.2 ⟨u, hd.mono hn, rest, rfl, rfl⟩
  cases h with
  | @accepted u' t' hread hd' hx =>
    obtain ⟨z, hz, -⟩ := (hread.ended ht).exists_tokens
    have hkinds : t'.kinds = t'.kind :: z.map Token.kind := by
      rw [kinds, hz, List.map_cons]
      rfl
    have hin : u' ++ t'.kind :: z.map Token.kind ∈ p.language ⊤ * C := by
      rw [← hkinds, ← hread.kinds_eq, hk]
      exact hmem le_top
    refine ⟨t', rfl, ?_⟩
    rw [hkinds]
    exact Set.mem_singleton_iff.1 (hx C hC _ hin)
  | @rejected u' t' s v hread hf hb hn hx =>
    obtain ⟨z, hz⟩ := (hread.ended ht).kinds_eq_beyond hb
    refine absurd ?_ (hx C hC z)
    rw [← hz, ← hread.kinds_eq, hk]
    exact hmem (v.expected.le_bound room)

namespace Grammar

variable {room : ℕ} {t : TokenTape} {u rest : List TokenKind}

/-- An item is read in one turn, whatever follows it; it is a main function if the word `main` is in
the second place. -/
theorem programTurn_of_item (ht : t.Ended) (hk : t.kinds = u ++ rest)
    (hd : Derives room programItem u) (hr : rest ≠ []) :
    ∃ t', programTurn (mainFunction room) (declaration room) t = .again t' ∧ t'.kinds = rest := by
  obtain ⟨v, -, hend⟩ := ht.exists_append hk hr
  obtain ⟨k, k', us, rfl⟩ : ∃ k k' us, u = k :: k' :: us := by
    match u, two_le_length_of_programItem hd with
    | k :: k' :: us, _ => exact ⟨k, k', us, rfl⟩
  have hne : k ≠ .endOfSource := fun he => hend (by rw [he]; exact List.mem_cons_self)
  have hfirst : t.kind = k := kind_of_kinds_eq_cons hk
  have hsecond : t.tail.kind = k' := kind_of_kinds_eq_cons (tail_kinds_of_kinds_eq_cons hk hne)
  have hturn : programTurn (mainFunction room) (declaration room) t =
      .ofItem ((if t.tail.kind = .keyword .mainWord then mainFunction room
        else declaration room).run t) := by
    have hne : (TokenSource.next t).1.kind ≠ .endOfSource := hfirst.trans_ne hne
    rw [programTurn, if_neg hne]
    dsimp only
    rw [rewind_next_next]
    rfl
  have hitem : Recognition room programItem (fun _ => true) t
      ((if t.tail.kind = .keyword .mainWord then mainFunction room
        else declaration room).run t) := by
    by_cases hm : t.tail.kind = .keyword .mainWord
    · have hled : LedBy (Rule.first .program) {[.keyword .intWord]} := by
        intro w hw
        exact ⟨_, [], Set.mem_singleton_iff.1 hw, rfl⟩
      have hmem : k :: .keyword .mainWord :: (us ++ [.keyword .intWord]) ∈
          programItem.language room * {[.keyword .intWord]} := by
        rw [← hsecond.symm.trans hm]
        exact Language.mem_mul.2 ⟨_, hd, _, rfl, rfl⟩
      rw [if_pos hm]
      exact recognition_item_of_main (hfirst.trans (int_of_main hled hmem)) hm
    · rw [if_neg hm]
      exact recognition_item_of_not_main hm
  obtain ⟨t', ho, hrest⟩ := hitem.accepted_of_derives ht hk hd hr
  refine ⟨t', ?_, hrest⟩
  rw [hturn, ho]
  rfl

end Grammar

namespace Simulation

variable {σ : Type} [TokenSource σ] {S : Simulation σ TokenTape} {room : ℕ} {s : σ}
  {t : TokenTape} {w rest : List TokenKind}

/-- A program that begins with items is read as if it began behind them. -/
theorem run_program_of_items (h : S.related s t) (ht : t.Ended) (hk : t.kinds = w ++ rest)
    (hr : rest ≠ []) (hd : Derives room (.many Grammar.programItem) w) :
    ∃ s' t', S.related s' t' ∧ t'.kinds = rest ∧
      (Grammar.program room).run s = (Grammar.program room).run s' := by
  generalize hn : (room : ℕ∞) = n at hd
  generalize hp : Phrase.many Grammar.programItem = p at hd
  induction hd generalizing s t with
  | none p => exact ⟨s, t, h, hk, rfl⟩
  | @more n p u v hu hv ihu ihv =>
    obtain rfl : Grammar.programItem = p := Phrase.many.inj hp
    rw [List.append_assoc] at hk
    have hne : v ++ rest ≠ [] := List.append_ne_nil_of_right_ne_nil v hr
    rw [← hn] at hu
    obtain ⟨t₁, hturn, hk₁⟩ := Grammar.programTurn_of_item ht hk hu hne
    obtain ⟨v', hv', hend⟩ := ht.exists_append hk hne
    have ht₁ : t₁.Ended := ⟨v', hk₁.trans hv', fun hm => hend (List.mem_append_right _ hm)⟩
    have hagree := turnAgree_program room h
    rw [hturn] at hagree
    generalize hs : Grammar.programTurn (Grammar.mainFunction room) (Grammar.declaration room) s =
      turn at hagree
    cases hagree with
    | @again s₁ _ h₁ =>
      obtain ⟨s', t', h', hk', hrun⟩ := ihv h₁ ht₁ hk₁ hn rfl
      refine ⟨s', t', h', hk', ?_⟩
      rw [← hrun]
      exact iterate_of_again _ hs
  | _ => cases hp

end Simulation

end Recognizer
