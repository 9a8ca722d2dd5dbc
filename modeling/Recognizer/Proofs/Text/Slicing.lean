import Recognizer.Proofs.Text.Lines

/-!
# Cutting and searching by bytes

Where a place in a text is given by a number of bytes, the text can be cut there only between two
of its characters. The searches below tell places in bytes, and the lines of a text are taken with
their line feeds; whatever they find is a place where the text can be cut.
-/

namespace Recognizer

/-- Cut a text behind so many bytes. There is no cut inside a character or behind the end. -/
def cutAt? : Nat → List Char → Option (List Char × List Char)
  | 0, cs => some ([], cs)
  | _ + 1, [] => none
  | n + 1, c :: cs =>
    if c.utf8Size ≤ n + 1 then
      (cutAt? (n + 1 - c.utf8Size) cs).map fun parts => (c :: parts.1, parts.2)
    else none

/-- Number of bytes in front of the first `c`. -/
def firstByte? (c : Char) : List Char → Option Nat
  | [] => none
  | d :: cs => if d = c then some 0 else (firstByte? c cs).map (d.utf8Size + ·)

/-- Number of bytes in front of the last `c`. -/
def lastByte? (c : Char) : List Char → Option Nat
  | [] => none
  | d :: cs =>
    match lastByte? c cs with
    | some n => some (d.utf8Size + n)
    | none => if d = c then some 0 else none

/-- The lines of a text, each with the line feed that ends it. Only a last line may have none, and
behind a last line feed there is no line. -/
def linesWithEnds : List Char → List (List Char)
  | [] => []
  | c :: cs =>
    if c = '\n' then [c] :: linesWithEnds cs
    else
      match linesWithEnds cs with
      | [] => [[c]]
      | line :: lines => (c :: line) :: lines

theorem byteLength_cons (c : Char) (cs : List Char) :
    byteLength (c :: cs) = c.utf8Size + byteLength cs := rfl

/-- A text is cut in two pieces, the first of which has the given number of bytes. -/
theorem cutAt?_eq_some_iff {n : Nat} {cs front back : List Char} :
    cutAt? n cs = some (front, back) ↔ cs = front ++ back ∧ byteLength front = n := by
  induction front generalizing n cs with
  | nil =>
    cases n with
    | zero => simp [cutAt?, byteLength]
    | succ n =>
      have hnot : byteLength [] ≠ n + 1 := nofun
      cases cs with
      | nil => simp [cutAt?, hnot]
      | cons c cs => simp [cutAt?, hnot]
  | cons d front ih =>
    have hpos := d.utf8Size_pos
    rw [byteLength_cons]
    cases n with
    | zero =>
      rw [cutAt?, Option.some.injEq, Prod.mk.injEq]
      refine ⟨nofun, ?_⟩
      rintro ⟨-, hn⟩
      omega
    | succ n =>
      cases cs with
      | nil => simp [cutAt?]
      | cons c cs =>
        rw [cutAt?]
        split
        · next hc =>
          rw [Option.map_eq_some_iff, List.cons_append, List.cons.injEq]
          constructor
          · rintro ⟨⟨front', back'⟩, hcut, he⟩
            cases he
            obtain ⟨hcs, hn⟩ := ih.1 hcut
            exact ⟨⟨rfl, hcs⟩, by omega⟩
          · rintro ⟨⟨rfl, hcs⟩, hn⟩
            exact ⟨(front, back), ih.2 ⟨hcs, by omega⟩, rfl⟩
        · next hc =>
          rw [List.cons_append, List.cons.injEq]
          refine ⟨nofun, ?_⟩
          rintro ⟨⟨rfl, -⟩, hn⟩
          omega

/-- A text is cut behind the bytes of its front. -/
theorem cutAt?_append (front back : List Char) :
    cutAt? (byteLength front) (front ++ back) = some (front, back) :=
  cutAt?_eq_some_iff.2 ⟨rfl, rfl⟩

/-- A character that is not there has no first byte. -/
theorem firstByte?_of_notMem {c : Char} {cs : List Char} (h : c ∉ cs) : firstByte? c cs = none := by
  induction cs with
  | nil => rfl
  | cons d cs ih =>
    obtain ⟨hd, hcs⟩ := List.ne_and_not_mem_of_not_mem_cons h
    rw [firstByte?, if_neg hd.symm, ih hcs, Option.map_none]

/-- What is found first is the character with none of its kind in front of it. -/
theorem firstByte?_append {c : Char} {before : List Char} (h : c ∉ before) (behind : List Char) :
    firstByte? c (before ++ c :: behind) = some (byteLength before) := by
  induction before with
  | nil => rw [List.nil_append, firstByte?, if_pos rfl]; rfl
  | cons d before ih =>
    obtain ⟨hd, hbefore⟩ := List.ne_and_not_mem_of_not_mem_cons h
    rw [List.cons_append, firstByte?, if_neg hd.symm, ih hbefore, Option.map_some, byteLength_cons]

/-- A character that is not there has no last byte. -/
theorem lastByte?_of_notMem {c : Char} {cs : List Char} (h : c ∉ cs) : lastByte? c cs = none := by
  induction cs with
  | nil => rfl
  | cons d cs ih =>
    obtain ⟨hd, hcs⟩ := List.ne_and_not_mem_of_not_mem_cons h
    rw [lastByte?, ih hcs]
    exact if_neg hd.symm

/-- What is found last is the character with none of its kind behind it. -/
theorem lastByte?_append {c : Char} (before : List Char) {behind : List Char} (h : c ∉ behind) :
    lastByte? c (before ++ c :: behind) = some (byteLength before) := by
  induction before with
  | nil =>
    rw [List.nil_append, lastByte?, lastByte?_of_notMem h]
    exact if_pos rfl
  | cons d before ih => rw [List.cons_append, lastByte?, ih, byteLength_cons]

/-- The first `n` lines with their line feeds are the characters in front of the line behind them. -/
theorem flatten_take_linesWithEnds (n : Nat) (cs : List Char) :
    ((linesWithEnds cs).take n).flatten = cs.take (lineStart n cs) := by
  induction cs generalizing n with
  | nil => simp [linesWithEnds]
  | cons c cs ih =>
    cases n with
    | zero => simp
    | succ n =>
      rw [linesWithEnds, lineStart, Nat.add_comm 1, List.take_succ_cons]
      split
      · next hc => rw [List.take_succ_cons, List.flatten_cons, ih, hc]; rfl
      · next hc =>
        have hrest := ih (n + 1)
        split
        · next hnil => simpa [hnil] using hrest
        · next line lines hcons =>
          rw [hcons, List.take_succ_cons, List.flatten_cons] at hrest
          rw [List.take_succ_cons, List.flatten_cons, List.cons_append, hrest]

/-- Number of UTF-8 bytes of several pieces of text, counted piece by piece. -/
def totalBytes (pieces : List (List Char)) : Nat :=
  pieces.foldr (fun piece bytes => byteLength piece + bytes) 0

/-- Counting the bytes piece by piece makes no difference. -/
theorem totalBytes_eq (pieces : List (List Char)) :
    totalBytes pieces = byteLength pieces.flatten := by
  induction pieces with
  | nil => rfl
  | cons piece pieces ih =>
    rw [totalBytes, List.foldr_cons, ← totalBytes, ih, List.flatten_cons, byteLength_append]

end Recognizer
