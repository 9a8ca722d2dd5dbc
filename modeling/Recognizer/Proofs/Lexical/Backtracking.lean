import Recognizer.Proofs.Lexical.Standing

/-!
# Backtracking

A session asks a lexer for tokens, lets it skip some, remembers places and goes back to them,
in any order. A walk does the same with an index into the token stream. The two keep in step:
every token returned is the one at the index, and what has been reported is what a fresh lexer
reports on its way to the furthest index that the walk has reached.
-/

namespace Recognizer

namespace Lexer

variable {text : List Char} {cap : Nat}

/-- What can be asked of a lexer. -/
inductive Move where
  /-- Return the next token. -/
  | next
  /-- Read past `n` tokens. -/
  | skip (n : Nat)
  /-- Remember the place of the cursor. -/
  | save
  /-- Go back to a place that was remembered; slot zero is the latest. A slot that was never
  filled changes nothing. -/
  | restore (slot : Nat)
  deriving DecidableEq, Repr

/-- A lexer that is asked for one thing after the other. -/
structure Session (text : List Char) (cap : Nat) where
  /-- The lexer. -/
  lexer : Lexer text cap
  /-- The places remembered, the latest first. -/
  saved : List Position
  /-- The tokens returned, in the order in which they were asked for. -/
  returned : List Token

namespace Session

/-- A session with a fresh lexer. -/
def start (text : List Char) (cap : Nat) : Session text cap :=
  ⟨.start text cap, [], []⟩

/-- Ask for one thing. -/
def step (s : Session text cap) : Move → Session text cap
  | .next => { s with lexer := s.lexer.next.2, returned := s.returned ++ [s.lexer.next.1] }
  | .skip n => { s with lexer := s.lexer.skip n }
  | .save => { s with saved := s.lexer.cursor.position :: s.saved }
  | .restore slot =>
    match s.saved[slot]? with
    | some p => { s with lexer := s.lexer.moveTo p }
    | none => s

/-- Ask for one thing after the other. -/
def run (s : Session text cap) (moves : List Move) : Session text cap :=
  moves.foldl step s

end Session

/-- An index that moves along a stream whose end has the index `last`. -/
structure Walk where
  /-- The index of the next token. -/
  index : Nat
  /-- The furthest index ever reached. -/
  furthest : Nat
  /-- The indices remembered, the latest first. -/
  saved : List Nat
  /-- The indices of the tokens returned. -/
  returned : List Nat
  deriving DecidableEq, Repr

namespace Walk

/-- A walk at the beginning of a stream. -/
def start : Walk := ⟨0, 0, [], []⟩

/-- Go on by one token. Reading the end stays at the end. -/
def forward (last : Nat) (w : Walk) : Walk :=
  { w with index := min (w.index + 1) last, furthest := max w.furthest (min (w.index + 1) last) }

/-- Go on by `n` tokens. -/
def skip (last : Nat) : Nat → Walk → Walk
  | 0, w => w
  | n + 1, w => skip last n (w.forward last)

/-- The index for one move. -/
def step (last : Nat) (w : Walk) : Move → Walk
  | .next => { w.forward last with returned := w.returned ++ [w.index] }
  | .skip n => skip last n w
  | .save => { w with saved := w.index :: w.saved }
  | .restore slot =>
    match w.saved[slot]? with
    | some i => { w with index := i }
    | none => w

/-- The index for one move after the other. -/
def run (last : Nat) (w : Walk) (moves : List Move) : Walk :=
  moves.foldl (step last) w

/-- Going on by several tokens changes nothing that is remembered or returned. -/
theorem skip_frame (last n : Nat) (w : Walk) :
    (skip last n w).saved = w.saved ∧ (skip last n w).returned = w.returned := by
  induction n generalizing w with
  | zero => exact ⟨rfl, rfl⟩
  | succ n ih => exact ih (w.forward last)

end Walk

/-- All tokens up to the end are those of the readings from the cursor on. -/
theorem drain_fst (l : Lexer text cap) :
    l.drain.1 = (Reading.all cap l.cursor.position l.cursor.rest).map (·.token) := by
  fun_induction drain l with
  | case1 l step h =>
    rw [Reading.all_of_end h]
    rfl
  | case2 l step h hlt tail ih =>
    rw [Reading.all_of_ne_end h, List.map_cons, ih]
    rfl

/-- A fresh lexer that is drained returns the token stream. -/
theorem drain_start (text : List Char) (cap : Nat) :
    (start text cap).drain.1 = (stream text cap).map (·.token) :=
  drain_fst (start text cap)

/-- A lexer that is drained without going back reports everything that is wrong. -/
theorem reported_drain (l : Lexer text cap) : ∀ k, l.Standing k k →
    l.drain.2.reported.toList = (stream text cap).flatMap Reading.diagnostics := by
  fun_induction drain l with
  | case1 l step hend =>
    intro k h
    have hk := h.belongs.kind_eq_endOfSource_iff.mp (by rw [← reading_eq]; exact hend)
    rw [← flatMap_diagnostics_take, ← hk]
    exact (h.next_of_end hk).reported
  | case2 l step hend hlt tail ih =>
    intro k h
    have hk : k ≠ lastIndex text cap := by
      intro hk
      have he := h.belongs.kind_eq_endOfSource_iff.mpr hk
      rw [← reading_eq] at he
      exact hend he
    have hnext := h.next_of_ne_end hk
    have hm : max k (k + 1) = k + 1 := by omega
    rw [hm] at hnext
    exact ih (k + 1) hnext

/-- A fresh lexer that is drained reports everything that is wrong with a text. -/
theorem reported_drain_start (text : List Char) (cap : Nat) :
    (start text cap).drain.2.reported.toList = (stream text cap).flatMap Reading.diagnostics :=
  reported_drain _ 0 (standing_start text cap)

/-- Reading past `n` tokens takes a lexer as far as it takes the index. -/
theorem Standing.skip {l : Lexer text cap} {w : Walk} (n : Nat)
    (h : l.Standing w.index w.furthest) :
    (Lexer.skip n l).Standing (Walk.skip (lastIndex text cap) n w).index
      (Walk.skip (lastIndex text cap) n w).furthest := by
  induction n generalizing l w with
  | zero => exact h
  | succ n ih => exact ih (w := w.forward (lastIndex text cap)) h.next

/-- The furthest index only grows on the way. -/
theorem Walk.furthest_le_skip (last n : Nat) (w : Walk) :
    w.furthest ≤ (Walk.skip last n w).furthest := by
  induction n generalizing w with
  | zero => exact Nat.le_refl _
  | succ n ih =>
    have hf : w.furthest ≤ (w.forward last).furthest := Nat.le_max_left _ _
    have hs := ih (w.forward last)
    exact Nat.le_trans hf hs

/-- A walk from the beginning that goes straight on stands as far as it has ever been. -/
theorem Walk.skip_start (last n : Nat) (w : Walk) (h : w.furthest = w.index)
    (hi : w.index + n ≤ last) :
    (Walk.skip last n w).index = w.index + n ∧ (Walk.skip last n w).furthest = w.index + n := by
  induction n generalizing w with
  | zero => exact ⟨rfl, h⟩
  | succ n ih =>
    have hidx : (w.forward last).index = w.index + 1 := by
      simp only [forward]
      omega
    have hfur : (w.forward last).furthest = (w.forward last).index := by
      simp only [forward]
      omega
    have hs := ih (w.forward last) hfur (by omega)
    rw [hidx] at hs
    simp only [Walk.skip]
    omega

/-- A fresh lexer that reads `k` tokens reports what belongs to the first `k` readings. -/
theorem reported_skip_start {k : Nat} (h : k ≤ lastIndex text cap) :
    (Lexer.skip k (start text cap)).reported.toList =
      ((stream text cap).take k).flatMap Reading.diagnostics := by
  have hs := (standing_start text cap).skip (w := .start) k
  have hw := Walk.skip_start (lastIndex text cap) k .start rfl (by simpa [Walk.start] using h)
  have hr := hs.reported
  rw [hw.2] at hr
  simpa [Walk.start] using hr

/-- A session and a walk are in step. -/
structure InStep (s : Session text cap) (w : Walk) : Prop where
  /-- The lexer stands where the walk is and has passed what the walk has passed. -/
  standing : s.lexer.Standing w.index w.furthest
  /-- Each place remembered belongs to the index remembered, which the walk has reached. -/
  saved (slot : Nat) : Option.Rel (fun p i => Belongs text cap p i ∧ i ≤ w.furthest)
    s.saved[slot]? w.saved[slot]?
  /-- Each token returned is the one at the index of that moment. -/
  returned : s.returned.map some =
    w.returned.map fun i => (stream text cap)[i]?.map (·.token)

/-- At their beginning a session and a walk are in step. -/
theorem inStep_start (text : List Char) (cap : Nat) :
    InStep (Session.start text cap) Walk.start :=
  ⟨standing_start text cap, fun _ => .none, rfl⟩

/-- Places that have been reached stay reached when the walk goes further. -/
theorem saved_mono {p : Option Position} {i : Option Nat} {k m : Nat} (hkm : k ≤ m)
    (h : Option.Rel (fun p i => Belongs text cap p i ∧ i ≤ k) p i) :
    Option.Rel (fun p i => Belongs text cap p i ∧ i ≤ m) p i := by
  cases h with
  | none => exact .none
  | some h => exact .some ⟨h.1, Nat.le_trans h.2 hkm⟩

/-- One move keeps a session and a walk in step. -/
theorem InStep.step {s : Session text cap} {w : Walk} (h : InStep s w) (move : Move) :
    InStep (s.step move) (w.step (lastIndex text cap) move) := by
  cases move with
  | next =>
    refine ⟨h.standing.next, ?_, ?_⟩
    · intro slot
      exact saved_mono (Nat.le_max_left _ _) (h.saved slot)
    · have ht := h.standing.token_next
      simp only [Session.step, Walk.step, List.map_append, h.returned, List.map_cons,
        List.map_nil, ht, Option.map_some]
      rfl
  | skip n =>
    have hf := Walk.skip_frame (lastIndex text cap) n w
    have hs := h.standing.skip n
    refine ⟨hs, ?_, ?_⟩
    · intro slot
      change Option.Rel _ s.saved[slot]? (Walk.skip (lastIndex text cap) n w).saved[slot]?
      rw [hf.1]
      exact saved_mono (Walk.furthest_le_skip _ n w) (h.saved slot)
    · change s.returned.map some = (Walk.skip (lastIndex text cap) n w).returned.map _
      rw [hf.2]
      exact h.returned
  | save =>
    refine ⟨h.standing, ?_, h.returned⟩
    intro slot
    cases slot with
    | zero => exact .some ⟨h.standing.belongs, h.standing.index_le⟩
    | succ slot => exact h.saved slot
  | restore slot =>
    have hslot := h.saved slot
    simp only [Session.step, Walk.step]
    generalize hp : s.saved[slot]? = p at hslot
    generalize hi : w.saved[slot]? = i at hslot
    cases hslot with
    | none => exact h
    | some hb => exact ⟨h.standing.moveTo hb.1 hb.2, h.saved, h.returned⟩

/-- Any moves keep a session and a walk in step. -/
theorem InStep.run {s : Session text cap} {w : Walk} (h : InStep s w) (moves : List Move) :
    InStep (s.run moves) (w.run (lastIndex text cap) moves) := by
  induction moves generalizing s w with
  | nil => exact h
  | cons move moves ih => exact ih (h.step move)

/-- Whatever is asked of a lexer, each token returned is the one of the linear stream at the
current index, and what is reported, in order, is what a fresh lexer reports while it reads up
to the furthest index that was reached. -/
theorem session_follows_walk (s : Source) (cap : Nat) (moves : List Move) :
    let linear := (start s.chars cap).drain.1
    let session := (Session.start s.chars cap).run moves
    let walk := Walk.start.run (linear.length - 1) moves
    session.returned.map some = walk.returned.map (linear[·]?) ∧
      session.lexer.reported = (Lexer.skip walk.furthest (start s.chars cap)).reported := by
  intro linear session walk
  have hlinear : linear = (stream s.chars cap).map (·.token) := drain_start s.chars cap
  have hlast : linear.length - 1 = lastIndex s.chars cap := by
    rw [hlinear, List.length_map]
    rfl
  have hrun : InStep session walk := by
    have h := (inStep_start s.chars cap).run moves
    rw [← hlast] at h
    exact h
  constructor
  · rw [hrun.returned, hlinear]
    simp only [List.getElem?_map]
  · apply Array.toList_inj.mp
    rw [hrun.standing.reported, reported_skip_start hrun.standing.furthest_le]

end Lexer

end Recognizer
