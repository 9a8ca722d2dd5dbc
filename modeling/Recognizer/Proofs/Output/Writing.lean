import Recognizer.Output.DiagnosticLog

/-!
# Writing to destinations of limited size

A destination of limited size takes so many bytes altogether and no more, in whatever portions.
Whoever writes to it, in pieces and lines, has written the front of what was offered, and has
failed exactly if that is not all of it.
-/

namespace Recognizer

/-- The pieces of a line and its end are the line with its end. -/
theorem join_line (pieces : List String) :
    String.join (pieces ++ ["\n"]) = String.join pieces ++ "\n" := by
  rw [String.join_append]
  rfl

/-- A destination that takes exactly the first `capacity` bytes that it is offered, in portions of
its own choice, and fails whenever it is offered more. Passing data on may fail at any time. -/
structure LimitedWriter (ω : Type) extends Writer ω where
  /-- Number of bytes that are taken altogether. -/
  capacity : Nat
  /-- The destination before anything is written. -/
  start : ω
  /-- The bytes taken so far. -/
  taken : ω → List UInt8
  /-- The states that the destination gets into. -/
  Reached : ω → Prop
  /-- Writing begins there. -/
  reached_start : Reached start
  /-- Nothing has been taken at first. -/
  taken_start : taken start = []
  /-- While there is room, some bytes are taken, from the front. -/
  write_of_room {w : ω} {bytes : List UInt8} (hw : Reached w) (hb : bytes ≠ [])
    (hroom : (taken w).length < capacity) :
    ∃ n, (write w bytes).1 = .ok (n + 1) ∧ n < bytes.length ∧ (taken w).length + n < capacity ∧
      Reached (write w bytes).2 ∧ taken (write w bytes).2 = taken w ++ bytes.take (n + 1)
  /-- Then none are. -/
  write_of_full {w : ω} {bytes : List UInt8} (hw : Reached w) (hb : bytes ≠ [])
    (hfull : capacity ≤ (taken w).length) :
    (∃ e, (write w bytes).1 = .error e) ∧ Reached (write w bytes).2 ∧
      taken (write w bytes).2 = taken w
  /-- Passing data on takes nothing. -/
  flush_keeps {w : ω} (hw : Reached w) : Reached (flush w).2 ∧ taken (flush w).2 = taken w

namespace LimitedWriter

variable {ω : Type} {out : LimitedWriter ω} {all bytes : List UInt8} {w : ω}

/-- A failure that the destination shows when it is full. -/
def Refuses (out : LimitedWriter ω) (e : OutputError) : Prop :=
  ∃ w bytes, out.Reached w ∧ bytes ≠ [] ∧ out.capacity ≤ (out.taken w).length ∧
    (out.write w bytes).1 = .error e

/-- The bytes `all` have been offered: those that there is room for are taken, and whether that is
all of them is seen from the failure. -/
structure Offered (out : LimitedWriter ω) (all : List UInt8) (failure : Option OutputError)
    (w : ω) : Prop where
  /-- The destination was offered nothing else. -/
  reached : out.Reached w
  /-- The front of what was offered has been taken. -/
  taken_eq : out.taken w = all.take out.capacity
  /-- It has failed exactly if that is not all. -/
  failure_iff : failure = none ↔ all.length ≤ out.capacity
  /-- It has failed because it was full. -/
  refuses (e : OutputError) (h : failure = some e) : out.Refuses e

/-- At first nothing has been offered, and nothing has failed. -/
theorem offered_start (out : LimitedWriter ω) : out.Offered [] none out.start :=
  ⟨out.reached_start, by rw [out.taken_start, List.take_nil], by simp, nofun⟩

namespace Offered

/-- As long as it has not failed, everything has been taken. -/
theorem taken_eq_all (h : out.Offered all none w) : out.taken w = all := by
  rw [h.taken_eq, List.take_of_length_le (h.failure_iff.1 rfl)]

/-- A destination that has failed can be offered more in vain. -/
theorem more {e : OutputError} (h : out.Offered all (some e) w) (bytes : List UInt8) :
    out.Offered (all ++ bytes) (some e) w := by
  have hfull : out.capacity < all.length := by
    have hnot := mt h.failure_iff.2 (Option.some_ne_none e)
    omega
  refine ⟨h.reached, ?_, ?_, h.refuses⟩
  · rw [h.taken_eq, List.take_append_of_le_length (Nat.le_of_lt hfull)]
  · rw [List.length_append]
    exact ⟨nofun, fun hle => by omega⟩

/-- Passing data on changes nothing. -/
theorem flush {failure : Option OutputError} (h : out.Offered all failure w) :
    out.Offered all failure (out.flush w).2 := by
  obtain ⟨hreached, htaken⟩ := out.flush_keeps h.reached
  exact ⟨hreached, htaken.trans h.taken_eq, h.failure_iff, h.refuses⟩

/-- One write of a destination with room takes the front of the bytes. -/
theorem write_of_ok {n : Nat} {w' : ω} (h : out.Offered all none w) (hb : bytes ≠ [])
    (hwrite : out.write w bytes = (.ok n, w')) :
    ∃ m, n = m + 1 ∧ out.Offered (all ++ bytes.take n) none w' := by
  have htaken := h.taken_eq_all
  rcases Nat.lt_or_ge (out.taken w).length out.capacity with hroom | hfull
  · obtain ⟨m, hm, hlength, hcapacity, hreached, htake⟩ := out.write_of_room h.reached hb hroom
    rw [hwrite] at hm hreached htake
    obtain rfl := Except.ok.inj hm
    rw [htaken] at hcapacity htake
    have hle : (all ++ bytes.take (m + 1)).length ≤ out.capacity := by
      rw [List.length_append, List.length_take]
      omega
    refine ⟨m, rfl, hreached, ?_, by simpa using hle, nofun⟩
    rw [htake, List.take_of_length_le hle]
  · obtain ⟨⟨e, he⟩, -⟩ := out.write_of_full h.reached hb hfull
    rw [hwrite] at he
    cases he

/-- A write fails only if there is no room. -/
theorem write_of_error {e : OutputError} {w' : ω} (h : out.Offered all none w) (hb : bytes ≠ [])
    (hwrite : out.write w bytes = (.error e, w')) : out.Offered (all ++ bytes) (some e) w' := by
  have htaken := h.taken_eq_all
  have hle := h.failure_iff.1 rfl
  rcases Nat.lt_or_ge (out.taken w).length out.capacity with hroom | hfull
  · obtain ⟨m, hm, -⟩ := out.write_of_room h.reached hb hroom
    rw [hwrite] at hm
    cases hm
  · obtain ⟨-, hreached, htake⟩ := out.write_of_full h.reached hb hfull
    have hrefuses : out.Refuses e := ⟨w, bytes, h.reached, hb, hfull, by rw [hwrite]⟩
    rw [hwrite] at hreached htake
    rw [htaken] at hfull
    refine ⟨hreached, ?_, ?_, fun e' he' => ?_⟩
    · rw [htake, h.taken_eq, List.take_append_of_le_length hfull]
    · have hpos := List.length_pos_iff.2 hb
      rw [List.length_append]
      exact ⟨nofun, fun _ => by omega⟩
    · obtain rfl := Option.some.inj he'
      exact hrefuses

/-- Whatever the portions are, all of the bytes are offered. -/
theorem writeAll (h : out.Offered all none w) (bytes : List UInt8) :
    out.Offered (all ++ bytes) (out.toWriter.writeAll w bytes).1
      (out.toWriter.writeAll w bytes).2 := by
  fun_induction Writer.writeAll out.toWriter w bytes generalizing all with
  | case1 w =>
    rw [List.append_nil]
    exact h
  | case2 w bytes hb e w' hwrite => exact h.write_of_error hb hwrite
  | case3 w bytes hb w' hwrite =>
    obtain ⟨m, hm, -⟩ := h.write_of_ok hb hwrite
    cases hm
  | case4 w bytes hb n w' hwrite hlt ih =>
    obtain ⟨-, -, hnext⟩ := h.write_of_ok hb hwrite
    have hrest := ih hnext
    rw [List.append_assoc, List.take_append_drop] at hrest
    exact hrest

/-- All pieces of a text are offered. -/
theorem writePieces (h : out.Offered all none w) (pieces : List String) :
    out.Offered (all ++ Text.utf8 (String.join pieces)) (out.toWriter.writePieces w pieces).1
      (out.toWriter.writePieces w pieces).2 := by
  fun_induction Writer.writePieces out.toWriter w pieces generalizing all with
  | case1 w => simpa using h
  | case2 w piece pieces e w' hwrite =>
    have hpiece := h.writeAll (Text.utf8 piece)
    rw [hwrite] at hpiece
    rw [String.join_cons, Text.utf8_append, ← List.append_assoc]
    exact hpiece.more _
  | case3 w piece pieces w' hwrite ih =>
    have hpiece := h.writeAll (Text.utf8 piece)
    rw [hwrite] at hpiece
    rw [String.join_cons, Text.utf8_append, ← List.append_assoc]
    exact ih hpiece

/-- A line is offered with its end. -/
theorem writeLine (h : out.Offered all none w) (pieces : List String) :
    out.Offered (all ++ Text.utf8 (String.join pieces ++ "\n"))
      (out.toWriter.writeLine w pieces).1 (out.toWriter.writeLine w pieces).2 := by
  rw [← join_line]
  exact h.writePieces (pieces ++ ["\n"])

end Offered

end LimitedWriter

namespace BoundedOutput

/-- Where a bounded output has room left, that much of the bytes is taken. -/
theorem accepted_of_capacity {w : BoundedOutput} {capacity : Nat}
    (h : w.capacity = some capacity) (offered : Nat) :
    w.accepted offered = min offered (capacity - w.written.toList.length) := by
  rw [accepted, h]
  rfl

/-- A bounded output is a destination of limited size. -/
def limited (capacity : Nat) (failsToFlush : Bool) : LimitedWriter BoundedOutput where
  toWriter := writer
  capacity := capacity
  start := ⟨some capacity, failsToFlush, #[]⟩
  taken w := w.written.toList
  Reached w := w.capacity = some capacity
  reached_start := rfl
  taken_start := rfl
  write_of_room {w bytes} hw hb hroom := by
    have hpos := List.length_pos_iff.2 hb
    have haccepted := accepted_of_capacity hw bytes.length
    obtain ⟨n, hn⟩ : ∃ n, w.accepted bytes.length = n + 1 := ⟨w.accepted bytes.length - 1, by omega⟩
    refine ⟨n, ?_, by omega, by omega, ?_, ?_⟩
    all_goals simp [writer, hn, hw]
  write_of_full {w bytes} hw hb hfull := by
    have hzero : w.accepted bytes.length = 0 := by
      rw [accepted_of_capacity hw]
      omega
    simp [writer, hzero, hb, hw]
  flush_keeps hw := ⟨hw, rfl⟩

end BoundedOutput

/-! ### One of several destinations -/

namespace Writer

variable {α ω : Type}

/-- Writing to `out'` in the states made by `f` is writing to `out`. -/
def Embeds (out : Writer α) (out' : Writer ω) (f : α → ω) : Prop :=
  ∀ w bytes, out'.write (f w) bytes = ((out.write w bytes).1, f (out.write w bytes).2)

/-- A destination beside another one is written to as if it were alone. -/
theorem embeds_onFirst {β : Type} (out : Writer α) (b : β) :
    out.Embeds out.onFirst fun a => (a, b) :=
  fun _ _ => rfl

/-- So is the other one. -/
theorem embeds_onSecond {β : Type} (out : Writer α) (b : β) :
    out.Embeds out.onSecond fun a => (b, a) :=
  fun _ _ => rfl

namespace Embeds

variable {out : Writer α} {out' : Writer ω} {f : α → ω}

/-- Writing all of some bytes is the same where a destination is embedded. -/
theorem writeAll (h : out.Embeds out' f) (w : α) (bytes : List UInt8) :
    out'.writeAll (f w) bytes = ((out.writeAll w bytes).1, f (out.writeAll w bytes).2) := by
  fun_induction Writer.writeAll out w bytes with
  | case1 w => rw [Writer.writeAll, dif_pos rfl]
  | case2 w bytes hb e w' hwrite =>
    have hw := h w bytes
    rw [hwrite] at hw
    rw [Writer.writeAll, dif_neg hb, hw]
  | case3 w bytes hb w' hwrite =>
    have hw := h w bytes
    rw [hwrite] at hw
    rw [Writer.writeAll, dif_neg hb, hw]
  | case4 w bytes hb n w' hwrite hlt ih =>
    have hw := h w bytes
    rw [hwrite] at hw
    rw [Writer.writeAll, dif_neg hb, hw]
    exact ih

/-- So is writing several pieces. -/
theorem writePieces (h : out.Embeds out' f) (w : α) (pieces : List String) :
    out'.writePieces (f w) pieces =
      ((out.writePieces w pieces).1, f (out.writePieces w pieces).2) := by
  fun_induction Writer.writePieces out w pieces with
  | case1 w => rfl
  | case2 w piece pieces e w' hwrite => rw [Writer.writePieces, h.writeAll, hwrite]
  | case3 w piece pieces w' hwrite ih =>
    rw [Writer.writePieces, h.writeAll, hwrite]
    exact ih

/-- So is writing a line. -/
theorem writeLine (h : out.Embeds out' f) (w : α) (pieces : List String) :
    out'.writeLine (f w) pieces = ((out.writeLine w pieces).1, f (out.writeLine w pieces).2) :=
  h.writePieces w (pieces ++ ["\n"])

end Embeds

end Writer

end Recognizer
