import Recognizer.Proofs.Output.Delivery

/-!
# Destinations that take everything

A destination may take whatever it is offered, and pass it on without failing. What is written to
it is there in full and in order, and another destination with the same states keeps what it has.
Findings are then delivered in full.
-/

namespace Recognizer

namespace Writer

variable {ω α β : Type} {Reached : ω → Prop} {content other : ω → List UInt8}

/-- From `w` to `w'` exactly `bytes` have been added to the content of a destination, and nothing
to that of another. -/
structure Took (Reached : ω → Prop) (content other : ω → List UInt8) (w w' : ω)
    (bytes : List UInt8) : Prop where
  /-- The destination still takes everything. -/
  reached : Reached w'
  /-- The bytes are behind what was there before. -/
  content_eq : content w' = content w ++ bytes
  /-- Nothing has been written elsewhere. -/
  other_eq : other w' = other w

/-- A destination that takes everything in the states that it gets into. -/
structure Takes (out : Writer ω) (Reached : ω → Prop) (content other : ω → List UInt8) : Prop where
  /-- One write takes all that it is offered. -/
  write {w : ω} (hw : Reached w) (bytes : List UInt8) :
    (out.write w bytes).1 = .ok bytes.length ∧
      Took Reached content other w (out.write w bytes).2 bytes
  /-- Passing data on succeeds and adds nothing. -/
  flush {w : ω} (hw : Reached w) :
    (out.flush w).1 = none ∧ Took Reached content other w (out.flush w).2 []

namespace Took

variable {w w' w'' : ω} {bytes more : List UInt8}

/-- Without a step nothing is taken. -/
theorem refl (hw : Reached w) : Took Reached content other w w [] :=
  ⟨hw, (List.append_nil _).symm, rfl⟩

/-- What is taken in two steps is taken one behind the other. -/
theorem trans (h : Took Reached content other w w' bytes)
    (h' : Took Reached content other w' w'' more) :
    Took Reached content other w w'' (bytes ++ more) := by
  refine ⟨h'.reached, ?_, h'.other_eq.trans h.other_eq⟩
  rw [h'.content_eq, h.content_eq, List.append_assoc]

end Took

namespace Takes

variable {out : Writer ω}

/-- A destination that takes everything takes all bytes of a write. -/
theorem writeAll (h : out.Takes Reached content other) {w : ω} (hw : Reached w)
    (bytes : List UInt8) :
    (out.writeAll w bytes).1 = none ∧
      Took Reached content other w (out.writeAll w bytes).2 bytes := by
  by_cases hb : bytes = []
  · subst hb
    rw [Writer.writeAll, dif_pos rfl]
    exact ⟨rfl, .refl hw⟩
  · obtain ⟨hwritten, htook⟩ := h.write hw bytes
    obtain ⟨n, hn⟩ : ∃ n, bytes.length = n + 1 :=
      Nat.exists_eq_add_one.2 (List.length_pos_iff.2 hb)
    have hrest : bytes.drop (n + 1) = [] := List.drop_eq_nil_of_le (Nat.le_of_eq hn)
    generalize hresult : out.write w bytes = result at hwritten htook
    obtain ⟨taken, w'⟩ := result
    obtain rfl : taken = .ok (n + 1) := by rw [← hn]; exact hwritten
    rw [Writer.writeAll, dif_neg hb, hresult]
    dsimp only
    rw [hrest, Writer.writeAll, dif_pos rfl]
    exact ⟨rfl, htook⟩

/-- It takes all pieces of a line. -/
theorem writePieces (h : out.Takes Reached content other) {w : ω} (hw : Reached w)
    (pieces : List String) :
    (out.writePieces w pieces).1 = none ∧
      Took Reached content other w (out.writePieces w pieces).2
        (Text.utf8 (String.join pieces)) := by
  induction pieces generalizing w with
  | nil => exact ⟨rfl, by simpa [Writer.writePieces] using Took.refl hw⟩
  | cons piece pieces ih =>
    obtain ⟨hnone, hpiece⟩ := h.writeAll hw (Text.utf8 piece)
    obtain ⟨hnone', hrest⟩ := ih hpiece.reached
    generalize hresult : out.writeAll w (Text.utf8 piece) = result at hnone hpiece hnone' hrest
    obtain ⟨_, w'⟩ := result
    obtain rfl := hnone
    rw [Writer.writePieces, hresult, String.join_cons, Text.utf8_append]
    exact ⟨hnone', hpiece.trans hrest⟩

/-- It takes the line and the line feed. -/
theorem writeLine (h : out.Takes Reached content other) {w : ω} (hw : Reached w)
    (pieces : List String) :
    (out.writeLine w pieces).1 = none ∧
      Took Reached content other w (out.writeLine w pieces).2
        (Text.utf8 (String.join pieces ++ "\n")) := by
  rw [← join_line]
  exact h.writePieces hw (pieces ++ ["\n"])

/-- A log adds a line. -/
theorem report (h : out.Takes Reached content other) (log : DiagnosticLog ω)
    (hlog : log.failure = none) (hw : Reached log.state) (d : Diagnostic) :
    (log.report out d).failure = none ∧
      Took Reached content other log.state (log.report out d).state d.lineBytes := by
  obtain ⟨w, failure, count⟩ := log
  obtain rfl : failure = none := hlog
  exact h.writeLine hw d.pieces

/-- It takes the lines for all diagnostics of a log. -/
theorem reportAll (h : out.Takes Reached content other) (log : DiagnosticLog ω)
    (hlog : log.failure = none) (hw : Reached log.state) (ds : List Diagnostic) :
    (log.reportAll out ds).failure = none ∧
      Took Reached content other log.state (log.reportAll out ds).state
        (ds.flatMap Diagnostic.lineBytes) := by
  induction ds generalizing log with
  | nil => exact ⟨hlog, .refl hw⟩
  | cons d ds ih =>
    obtain ⟨hline, htook⟩ := h.report log hlog hw d
    obtain ⟨hlines, hrest⟩ := ih (log.report out d) hline htook.reached
    rw [List.flatMap_cons]
    exact ⟨hlines, htook.trans hrest⟩

/-- Finishing a log adds nothing. -/
theorem finish (h : out.Takes Reached content other) (log : DiagnosticLog ω)
    (hlog : log.failure = none) (hw : Reached log.state) :
    (log.finish out).1 = none ∧
      Took Reached content other log.state (log.finish out).2 [] := by
  obtain ⟨w, failure, count⟩ := log
  obtain rfl : failure = none := hlog
  exact h.flush hw

/-- The first of two destinations takes everything if it would alone. -/
theorem onFirst {out : Writer α} {Reached : α → Prop} {content other : α → List UInt8}
    (h : out.Takes Reached content other) (Kept : β → Prop) (kept : β → List UInt8) :
    out.onFirst.Takes (fun w => Reached w.1 ∧ Kept w.2) (fun w => content w.1)
      fun w => kept w.2 where
  write hw bytes := by
    obtain ⟨hwritten, htook⟩ := h.write hw.1 bytes
    exact ⟨hwritten, ⟨htook.reached, hw.2⟩, htook.content_eq, rfl⟩
  flush hw := by
    obtain ⟨hpassed, htook⟩ := h.flush hw.1
    exact ⟨hpassed, ⟨htook.reached, hw.2⟩, htook.content_eq, rfl⟩

/-- So does the second. -/
theorem onSecond {out : Writer β} {Reached : β → Prop} {content other : β → List UInt8}
    (h : out.Takes Reached content other) (Kept : α → Prop) (kept : α → List UInt8) :
    out.onSecond.Takes (fun w => Kept w.1 ∧ Reached w.2) (fun w => content w.2)
      fun w => kept w.1 where
  write hw bytes := by
    obtain ⟨hwritten, htook⟩ := h.write hw.2 bytes
    exact ⟨hwritten, ⟨hw.1, htook.reached⟩, htook.content_eq, rfl⟩
  flush hw := by
    obtain ⟨hpassed, htook⟩ := h.flush hw.2
    exact ⟨hpassed, ⟨hw.1, htook.reached⟩, htook.content_eq, rfl⟩

end Takes

end Writer

open Writer

/-- A bounded output takes everything if it has no bound. -/
def BoundedOutput.Unbounded (w : BoundedOutput) : Prop :=
  w.capacity = none ∧ w.failsToFlush = false

/-- A bounded output without a bound takes everything. -/
theorem BoundedOutput.takes :
    writer.Takes Unbounded (fun w => w.written.toList) fun _ => [] where
  write {w} hw bytes := by
    have haccepted : w.accepted bytes.length = bytes.length := by
      rw [accepted, hw.1]
    have hroom : ¬ (w.accepted bytes.length = 0 ∧ bytes ≠ []) := by
      rw [haccepted, List.length_eq_zero_iff]
      exact fun h => h.2 h.1
    simp only [writer, if_neg hroom]
    refine ⟨by rw [haccepted], hw, ?_, rfl⟩
    rw [haccepted, List.take_length]
    simp
  flush {w} hw := by
    refine ⟨?_, .refl hw⟩
    change (if w.failsToFlush then some OutputError.flushFailed else none) = none
    rw [hw.2]
    rfl

variable {ω : Type} {Reached : ω → Prop}

namespace Dump

variable {tokens errors : Writer ω} {dumped logged : ω → List UInt8}

/-- The lines for some readings are behind what the destinations had in the state `w`. -/
structure Complete (Reached : ω → Prop) (dumped logged : ω → List UInt8) (w : ω)
    (steps : List Lexer.Step) (result : Option OutputError × DiagnosticLog ω) : Prop where
  /-- No line for a token failed. -/
  tokens_written : result.1 = none
  /-- No line for a diagnostic failed. -/
  errors_written : result.2.failure = none
  /-- The destinations still take everything. -/
  reached : Reached result.2.state
  /-- The lines for the tokens. -/
  dumped_eq : dumped result.2.state = dumped w ++ tokenBytes steps
  /-- The lines for the diagnostics. -/
  logged_eq : logged result.2.state = logged w ++ errorBytes steps

/-- The lines for the tokens of some readings, and for what is wrong with them, are all taken. -/
theorem complete_lines (ht : tokens.Takes Reached dumped logged)
    (he : errors.Takes Reached logged dumped) (log : DiagnosticLog ω) (hlog : log.failure = none)
    (hw : Reached log.state) (rs : List Reading) :
    Complete Reached dumped logged log.state (rs.map Reading.shown)
      (lines tokens errors log rs) := by
  induction rs generalizing log with
  | nil => exact ⟨rfl, hlog, hw, (List.append_nil _).symm, (List.append_nil _).symm⟩
  | cons r rs ih =>
    obtain ⟨hnone, hreports⟩ := he.reportAll log hlog hw r.diagnostics
    rw [lines]
    generalize log.reportAll errors r.diagnostics = log' at hnone hreports ⊢
    obtain ⟨hline, htoken⟩ := ht.writeLine hreports.reached r.token.pieces
    generalize tokens.writeLine log'.state r.token.pieces = written at hline htoken ⊢
    obtain ⟨_, w⟩ := written
    obtain rfl := hline
    have hrest := ih { log' with state := w } hnone htoken.reached
    refine ⟨hrest.tokens_written, hrest.errors_written, hrest.reached, ?_, ?_⟩
    · rw [List.map_cons, tokenBytes_cons, ← List.append_assoc, ← hreports.other_eq]
      exact hrest.dumped_eq.trans (congrArg (· ++ _) htoken.content_eq)
    · rw [List.map_cons, errorBytes_cons, ← List.append_assoc]
      have hlogged := htoken.other_eq.trans hreports.content_eq
      exact hrest.logged_eq.trans (congrArg (· ++ _) hlogged)

/-- When all lines have been written, what remains is passing the data on. -/
theorem write_of_complete (ht : tokens.Takes Reached dumped logged)
    (he : errors.Takes Reached logged dumped) {s : Source} {cap : Nat} {w : ω}
    {steps : List Lexer.Step}
    (h : Complete Reached dumped logged w steps
      (lines tokens errors (.start w) (s.readings cap))) :
    (write s cap tokens errors w).1 = none ∧
      dumped (write s cap tokens errors w).2 = dumped w ++ tokenBytes steps ∧
      logged (write s cap tokens errors w).2 = logged w ++ errorBytes steps := by
  rw [write]
  simp only [misplaced_eq_nil, List.map_nil, DiagnosticLog.reportAll, List.foldl_nil]
  generalize lines tokens errors (.start w) (s.readings cap) = result at h
  obtain ⟨_, log⟩ := result
  obtain ⟨rfl, hfailure, hreached, hdumped, hlogged⟩ := h
  dsimp only at hfailure hreached hdumped hlogged ⊢
  rw [← hdumped, ← hlogged]
  obtain ⟨hpassed, htook⟩ := ht.flush hreached
  generalize tokens.flush log.state = passed at hpassed htook
  obtain ⟨_, state⟩ := passed
  obtain rfl := hpassed
  obtain ⟨hfinished, htook'⟩ := he.finish { log with state } hfailure htook.reached
  dsimp only
  generalize DiagnosticLog.finish errors { log with state } = finished at hfinished htook'
  obtain ⟨_, state'⟩ := finished
  obtain rfl := hfinished
  refine ⟨rfl, ?_, ?_⟩
  · exact htook'.other_eq.trans (htook.content_eq.trans (List.append_nil _))
  · exact htook'.content_eq.trans ((List.append_nil _).trans htook.other_eq)

/-- A dump to destinations that take everything succeeds and leaves the lines for all tokens in one,
and those for all that is wrong with them in the other. -/
theorem write_of_takes (ht : tokens.Takes Reached dumped logged)
    (he : errors.Takes Reached logged dumped) {w : ω} (hw : Reached w) (s : Source) (cap : Nat) :
    let drained := (Lexer.start s.chars cap).drain
    (write s cap tokens errors w).1 = none ∧
      dumped (write s cap tokens errors w).2 =
        dumped w ++ drained.1.flatMap Token.lineBytes ∧
      logged (write s cap tokens errors w).2 =
        logged w ++ drained.2.reported.toList.flatMap Diagnostic.lineBytes := by
  intro drained
  have hlines := complete_lines ht he (.start w) rfl hw (s.readings cap)
  have hrun : (Lexer.start s.chars cap).trace = (s.readings cap).map Reading.shown :=
    Lexer.trace_start s.chars cap
  rw [← tokenBytes_trace, ← errorBytes_trace, hrun]
  exact write_of_complete ht he hlines

end Dump

/-- A check with a log that takes everything tells its verdict and leaves the lines for everything
that is reported. -/
theorem Source.checkInto_of_takes {out : Writer ω} {content other : ω → List UInt8}
    (h : out.Takes Reached content other) {w : ω} (hw : Reached w) (s : Source)
    (limits : Limits) :
    (s.checkInto limits out w).1 = .ok (s.check limits).1 ∧
      content (s.checkInto limits out w).2 =
        content w ++ (s.check limits).2.flatMap Diagnostic.lineBytes := by
  obtain ⟨hnone, hlines⟩ := h.reportAll (.start w) rfl hw (s.check limits).2
  obtain ⟨hfinished, htook⟩ := h.finish _ hnone hlines.reached
  rw [checkInto]
  generalize DiagnosticLog.finish out _ = finished at hfinished htook
  obtain ⟨_, state⟩ := finished
  obtain rfl := hfinished
  refine ⟨rfl, ?_⟩
  exact htook.content_eq.trans ((List.append_nil _).trans hlines.content_eq)

end Recognizer
