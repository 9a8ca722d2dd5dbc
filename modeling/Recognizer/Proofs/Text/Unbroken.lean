import Recognizer.Text.Escape
import Recognizer.Text.Utf8

/-!
# Texts without line breaks

A text that holds neither a line feed nor a carriage return is one line wherever it is shown.
Lines that are written one behind the other, each with a line feed, can be told apart again, and
so can the bytes of texts: what is written as lines was written in one way only.
-/

namespace Recognizer.Text

/-- Nothing in the text ends a line. -/
def Unbroken (s : String) : Prop :=
  '\n' ∉ s.toList ∧ '\r' ∉ s.toList

instance (s : String) : Decidable (Unbroken s) :=
  inferInstanceAs (Decidable (_ ∧ _))

/-- Two texts are unbroken together exactly if each is. -/
theorem unbroken_append {s t : String} : Unbroken (s ++ t) ↔ Unbroken s ∧ Unbroken t := by
  simp only [Unbroken, String.toList_append, List.mem_append, not_or]
  exact and_and_and_comm

theorem Unbroken.append {s t : String} (hs : Unbroken s) (ht : Unbroken t) : Unbroken (s ++ t) :=
  unbroken_append.2 ⟨hs, ht⟩

/-- Several texts are unbroken together exactly if each is. -/
theorem unbroken_join {pieces : List String} :
    Unbroken (String.join pieces) ↔ ∀ piece ∈ pieces, Unbroken piece := by
  simp only [Unbroken, String.toList_join, List.mem_flatMap]
  grind

/-- A character that ends no line is unbroken. -/
theorem unbroken_singleton {c : Char} (hn : c ≠ '\n') (hr : c ≠ '\r') :
    Unbroken (String.singleton c) := by
  simp [Unbroken, hn.symm, hr.symm]

/-- A number is written with digits. -/
theorem notMem_toDigits {b : Nat} {c : Char} (hb : 1 < b) (hc : ∀ n : Nat, n.digitChar ≠ c) (n : Nat) :
    c ∉ Nat.toDigits b n := by
  induction n using Nat.strongRecOn with
  | ind n ih =>
    rw [Nat.toDigits_eq_if hb]
    split
    · rw [List.mem_singleton]
      exact (hc n).symm
    · next hn =>
      have hlt : n / b < n := Nat.div_lt_self (by omega) hb
      rw [List.mem_append, List.mem_singleton]
      exact not_or.2 ⟨ih (n / b) hlt, (hc (n % b)).symm⟩

/-- Digits are unbroken. -/
theorem unbroken_toDigits {b : Nat} (hb : 1 < b) (n : Nat) :
    Unbroken (String.ofList (Nat.toDigits b n)) := by
  rw [Unbroken, String.toList_ofList]
  exact ⟨notMem_toDigits hb (fun _ => Nat.digitChar_ne _ (by decide)) n,
    notMem_toDigits hb (fun _ => Nat.digitChar_ne _ (by decide)) n⟩

/-- The decimal form of a number is unbroken. -/
theorem unbroken_toString (n : Nat) : Unbroken (toString n) := by
  rw [Nat.toString_eq_ofList_toDigits]
  exact unbroken_toDigits (by decide) n

/-- A character that is shown by its code point is unbroken. -/
theorem unbroken_codePointEscape (c : Char) : Unbroken (codePointEscape c) := by
  have hfront : Unbroken "\\u\x7b" := by decide
  exact (hfront.append (unbroken_toDigits (by decide) _)).append (by decide)

/-- Whatever the character is, it is shown on one line: a line break is not shown as it is. -/
theorem unbroken_escape (c : Char) : Unbroken (escape c) := by
  by_cases hn : c = '\n'
  · subst hn
    decide
  by_cases hr : c = '\r'
  · subst hr
    decide
  unfold escape
  repeat' split
  all_goals first
    | decide
    | exact unbroken_codePointEscape c
    | exact unbroken_singleton hn hr

/-! ### Lines one behind the other -/

/-- Several lines, each with the line feed that ends it. -/
def ofLines (lines : List String) : String :=
  String.join (lines.map (· ++ "\n"))

/-- The characters of several lines. -/
theorem toList_ofLines (lines : List String) :
    (ofLines lines).toList = lines.flatMap fun line => line.toList ++ ['\n'] := by
  simp only [ofLines, String.toList_join, List.flatMap_map, String.toList_append]
  rfl

/-- The bytes of several lines. -/
theorem utf8_ofLines (lines : List String) :
    utf8 (ofLines lines) = lines.flatMap fun line => utf8 (line ++ "\n") := by
  induction lines with
  | nil => exact utf8_empty
  | cons line lines ih =>
    rw [List.flatMap_cons, ← ih, ← utf8_append, ofLines, List.map_cons, String.join_cons]
    rfl

/-- Behind the last line there is nothing. -/
theorem splitOn_ofLines {lines : List String} (h : ∀ line ∈ lines, Unbroken line) :
    (ofLines lines).toList.splitOn '\n' = lines.map String.toList ++ [[]] := by
  rw [toList_ofLines]
  induction lines with
  | nil => rfl
  | cons line lines ih =>
    obtain ⟨hline, hlines⟩ := List.forall_mem_cons.1 h
    rw [List.flatMap_cons, List.append_assoc, List.singleton_append,
      List.splitOn_append_cons_self_of_not_mem hline.1, ih hlines]
    rfl

/-- Different texts have different bytes. -/
theorem utf8_injective : Function.Injective utf8 := by
  intro s t h
  have hbytes : ∀ u : String, (utf8 u).toByteArray = u.toByteArray := by
    intro u
    exact String.utf8Encode_toList
  rw [← String.toByteArray_inj, ← hbytes, ← hbytes, h]

/-- The bytes are those of the lines, one behind the other, none of them broken: cut at each line
feed they give these lines, and nothing is left behind the last one. -/
def HasLines (bytes : List UInt8) (lines : List String) : Prop :=
  ∃ text : String, bytes = utf8 text ∧
    text.toList.splitOn '\n' = lines.map String.toList ++ [[]] ∧ '\r' ∉ text.toList

/-- Unbroken lines are found again in their bytes. -/
theorem hasLines_of_unbroken {lines : List String} (h : ∀ line ∈ lines, Unbroken line) :
    HasLines (lines.flatMap fun line => utf8 (line ++ "\n")) lines := by
  refine ⟨ofLines lines, (utf8_ofLines lines).symm, splitOn_ofLines h, ?_⟩
  rw [toList_ofLines, List.mem_flatMap]
  rintro ⟨line, hline, hr⟩
  rw [List.mem_append, List.mem_singleton] at hr
  exact hr.elim (h line hline).2 (by decide)

/-- Bytes are those of one list of lines at most. -/
theorem HasLines.unique {bytes : List UInt8} {lines lines' : List String}
    (h : HasLines bytes lines) (h' : HasLines bytes lines') : lines = lines' := by
  obtain ⟨text, rfl, hsplit, -⟩ := h
  obtain ⟨text', htext, hsplit', -⟩ := h'
  obtain rfl := utf8_injective htext
  have hmap := List.append_cancel_right (hsplit.symm.trans hsplit')
  exact (List.map_inj_right fun _ _ => String.toList_inj.1).1 hmap

end Recognizer.Text
