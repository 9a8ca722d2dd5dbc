import Recognizer.Proofs.Check.Refinement
import Recognizer.Proofs.Lexical.Concatenation
import Recognizer.Proofs.Lexical.Tiling

/-!
# A parser in a text and its shadow in the last part of it

Where the stream of a text ends with the stream of another one further down, a parser in the text
and a parser in the other one do the same, once the first has come to where the other begins. They
have passed equally many tokens from there on, since a program looks at two tokens before it
does anything else; so they report the same, too.
-/

namespace Recognizer

open TokenSource Lexer

/-- The violation, its token moved down by so many lines. -/
def Violation.shift (lines : Nat) (v : Violation) : Violation :=
  { v with found := v.found.shift lines }

/-- The stream of a text is that of a part of it further down, behind readings with which nothing
is wrong. -/
structure EndsWith (text part : List Char) (cap : Nat) (front : List Reading) (chars lines : Nat) :
    Prop where
  /-- The readings in front, and then those of the part. -/
  stream_eq : stream text cap = front ++ (stream part cap).map (Reading.shift chars lines)
  /-- Nothing is wrong in front. -/
  clean : ∀ r ∈ front, r.faults = []

variable {text part : List Char} {cap : Nat} {front : List Reading} {chars lines : Nat}

namespace EndsWith

/-- The index of the end is that in the part, with the readings in front added. -/
theorem lastIndex_eq (h : EndsWith text part cap front chars lines) :
    lastIndex text cap = front.length + lastIndex part cap := by
  have hlength := congrArg List.length h.stream_eq
  rw [List.length_append, List.length_map, length_stream, length_stream] at hlength
  omega

/-- Behind the readings in front the index moves as it does in the part. -/
theorem following_eq (h : EndsWith text part cap front chars lines) (i : Nat) :
    following text cap (front.length + i) = front.length + following part cap i := by
  have hlast := h.lastIndex_eq
  unfold following
  omega

/-- At corresponding indices the same is read. -/
theorem reading_eq (h : EndsWith text part cap front chars lines) {l : Lexer text cap}
    {m : Lexer part cap} {i k k' : Nat} (hl : l.Standing (front.length + i) k)
    (hm : m.Standing i k') : l.cursor.reading cap = (m.cursor.reading cap).shift chars lines := by
  have hread := hl.token_next
  rw [h.stream_eq, List.getElem?_append_right (by omega), Nat.add_sub_cancel_left,
    List.getElem?_map, hm.token_next] at hread
  exact (Option.some.inj hread).symm

/-- What has been passed in both texts is reported in both. -/
theorem reported_eq (h : EndsWith text part cap front chars lines) {l : Lexer text cap}
    {m : Lexer part cap} {i j k : Nat} (hl : l.Standing i (front.length + k))
    (hm : m.Standing j k) :
    l.reported.toList = m.reported.toList.map (Diagnostic.shift lines) := by
  have hfront := Reading.flatMap_diagnostics_eq_nil_iff.2 h.clean
  rw [hl.reported, hm.reported, h.stream_eq, List.take_length_add_append, List.flatMap_append, hfront,
    List.nil_append, ← List.map_take, List.flatMap_map, List.map_flatMap]
  exact congrArg (List.flatMap · _) (funext Reading.diagnostics_shift)

end EndsWith

/-- A parser and its shadow stand at corresponding indices and have passed corresponding ones. -/
structure Shadows (n : Nat) (p : Parser text cap) (q : Parser part cap) (i k : Nat) : Prop where
  /-- Where the parser stands. -/
  standing : p.lexer.Standing (n + i) (n + k)
  /-- Where its shadow stands. -/
  shadow : q.lexer.Standing i k

/-- No token of a stream stands above the first line. -/
theorem one_le_line {r : Reading} (hr : r ∈ stream text cap) : 1 ≤ r.token.line := by
  obtain ⟨passed, ahead, -, rfl⟩ := Reading.eq_scan_of_mem hr
  have hline := (Reading.standsBehind_scan cap passed ahead).1
  omega

namespace Shadows

variable {p p' : Parser text cap} {q q' : Parser part cap} {i j k m : Nat}

/-- Both read the same token, on lines that correspond. -/
theorem token_eq (h : Shadows front.length p q i k)
    (he : EndsWith text part cap front chars lines) :
    (next p).1 = (next q).1.shift lines ∧ 1 ≤ (next q).1.line := by
  have hread := he.reading_eq h.standing h.shadow
  have hmem := List.mem_of_getElem? h.shadow.token_next
  exact ⟨congrArg Reading.token hread, one_le_line hmem⟩

/-- Reading a token takes both to the following index. -/
theorem next (h : Shadows front.length p q i k)
    (he : EndsWith text part cap front chars lines) :
    Shadows front.length (next p).2 (TokenSource.next q).2 (following part cap i)
      (max k (following part cap i)) := by
  have hnext := h.standing.next
  have hmax : max (front.length + k) (front.length + following part cap i) =
      front.length + max k (following part cap i) := by omega
  rw [he.following_eq, hmax] at hnext
  exact ⟨hnext, h.shadow.next⟩

/-- Putting both back restores the index, and what has been passed stays passed. -/
theorem rewind {n : Nat} (hs : Shadows n p q i k) (hn : Shadows n p' q' j m) (hi : i ≤ m) :
    Shadows n (rewind p p') (TokenSource.rewind q q') i m :=
  ⟨hs.standing.rewind hn.standing (by omega), hs.shadow.rewind hn.shadow hi⟩

end Shadows

/-- A parser and its shadow cannot be told apart by a procedure, but for the lines. -/
def shadowSimulation (he : EndsWith text part cap front chars lines) :
    Simulation (Parser text cap) (Parser part cap) where
  related p q := ∃ i k, Shadows front.length p q i k
  failed v w p q :=
    v = w.shift lines ∧ 1 ≤ w.found.line ∧ ∃ i k, Shadows front.length p q i k
  kind_eq h := by
    obtain ⟨i, k, hs⟩ := h
    exact congrArg Token.kind (hs.token_eq he).1 |>.trans (Token.kind_shift ..)
  second_eq h := by
    obtain ⟨i, k, hs⟩ := h
    exact congrArg Token.kind ((hs.next he).token_eq he).1 |>.trans (Token.kind_shift ..)
  read h _ _ := by
    obtain ⟨i, k, hs⟩ := h
    exact ⟨_, _, hs.next he⟩
  look h := by
    obtain ⟨i, k, hs⟩ := h
    have hi := hs.shadow.index_le
    exact ⟨_, _, hs.rewind (hs.next he) (by omega)⟩
  lookTwice h := by
    obtain ⟨i, k, hs⟩ := h
    have hi := hs.shadow.index_le
    exact ⟨_, _, hs.rewind ((hs.next he).next he) (by omega)⟩
  enter h := by
    obtain ⟨i, k, hs⟩ := h
    exact ⟨i, k, hs.standing, hs.shadow⟩
  leave h := by
    obtain ⟨i, k, hs⟩ := h
    exact ⟨i, k, hs.standing, hs.shadow⟩
  failed_read h e := by
    obtain ⟨i, k, hs⟩ := h
    have ht := hs.token_eq he
    exact ⟨congrArg (Violation.mk · e) ht.1, ht.2, _, _, hs.next he⟩
  failed_look h e := by
    obtain ⟨i, k, hs⟩ := h
    have ht := hs.token_eq he
    have hi := hs.shadow.index_le
    exact ⟨congrArg (Violation.mk · e) ht.1, ht.2, _, _, hs.rewind (hs.next he) (by omega)⟩
  failed_leave h := by
    obtain ⟨hv, hl, i, k, hs⟩ := h
    exact ⟨hv, hl, i, k, hs.standing, hs.shadow⟩

/-- At the end of a program a parser and its shadow have reported the same. -/
theorem reported_of_agree {he : EndsWith text part cap front chars lines}
    {o : Outcome (Parser text cap)} {o' : Outcome (Parser part cap)}
    (h : (shadowSimulation he).Agree o o') :
    o.state.lexer.reported.toList =
      o'.state.lexer.reported.toList.map (Diagnostic.shift lines) := by
  cases h with
  | accepted h =>
    obtain ⟨i, k, hs⟩ := h
    exact he.reported_eq hs.standing hs.shadow
  | rejected h =>
    obtain ⟨-, -, i, k, hs⟩ := h
    exact he.reported_eq hs.standing hs.shadow

/-- A parser that comes to where the part begins, and has not passed more than two tokens beyond
that, goes on as a parser that begins there: the two tokens that are looked at make up for what has
been passed. -/
theorem agree_of_standing {he : EndsWith text part cap front chars lines} (room : Nat)
    {p : Parser text cap} {k : Nat} (hp : p.lexer.Standing front.length k)
    (hk : k ≤ front.length + 2) :
    (shadowSimulation he).Agree ((Grammar.program room).run p)
      ((Grammar.program room).run (Parser.start part cap)) := by
  have hq : (Parser.start part cap).lexer.Standing 0 0 := standing_start part cap
  have hlast := he.lastIndex_eq
  have hle := hp.index_le
  have hkl := hp.furthest_le
  have hf := he.following_eq 0
  have hff := he.following_eq (following part cap 0)
  have hnext := hp.next
  rw [Nat.add_zero] at hf
  rw [hf] at hnext
  have hnext' := hnext.next
  rw [hff] at hnext'
  have hkind : (next p).1.kind = .endOfSource ↔ lastIndex part cap = 0 := by
    have hend := hp.belongs.kind_eq_endOfSource_iff
    rw [← reading_eq] at hend
    refine hend.trans ⟨fun h => ?_, fun h => ?_⟩ <;> omega
  refine Simulation.TurnAgree.iterate (fun _ _ => Simulation.turnAgree_program room)
    (Simulation.turnAgree_program_of_look room ?_ ?_ (fun hend => ?_) fun hend => ?_)
  · exact congrArg (Token.kind ·.token) (he.reading_eq hp hq)
  · exact congrArg (Token.kind ·.token) (he.reading_eq hnext hq.next)
  · have hl := hkind.mp hend
    have hzero : following part cap 0 = 0 := by
      unfold following
      omega
    have hmax : max k (front.length + following part cap 0) = front.length + 0 := by omega
    have hback := hp.rewind hnext (by omega)
    have hback' := hq.rewind hq.next (by omega)
    rw [hmax] at hback
    rw [hzero] at hback'
    exact ⟨0, 0, hback, hback'⟩
  · have hne : lastIndex part cap ≠ 0 := fun hl => hend (hkind.mpr hl)
    have hmax : max (max k (front.length + following part cap 0))
        (front.length + following part cap (following part cap 0)) =
          front.length + max (max 0 (following part cap 0))
            (following part cap (following part cap 0)) := by
      unfold following
      omega
    have hback := hp.rewind hnext' (by omega)
    have hback' := hq.rewind hq.next.next (by omega)
    rw [hmax] at hback
    exact ⟨0, _, hback, hback'⟩

end Recognizer
