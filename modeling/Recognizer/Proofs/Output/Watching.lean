import Recognizer.Proofs.Output.Delivery

/-!
# Logs and destinations of any kind

A destination may take as much or as little of what it is offered as it likes, fail at any time and
recover later. A log offers it one line after the other, and in each what has not been taken, until
a write fails for the first time; from then on it asks for nothing. So what has been taken is always
a front part of the lines, torn at most in the last one, and never two torn lines joined. A watched
destination keeps a record of all that it is asked to do, from which this is read off. A write that
is interrupted and taken up again is one request here.
-/

namespace Recognizer

/-- What a destination is asked to do, and what comes of it. -/
inductive Request where
  /-- It is offered some bytes: how many of them it takes, or why none. -/
  | write (offered : List UInt8) (result : Except OutputError Nat)
  /-- It is to pass its data on: why that fails, if it does. -/
  | flush (failure : Option OutputError)

namespace Request

/-- The bytes that are taken. -/
def taken : Request → List UInt8
  | write offered (.ok n) => offered.take n
  | write _ (.error _) => []
  | flush _ => []

/-- A write that takes some bytes. -/
def Succeeded (x : Request) : Prop :=
  ∃ offered n, x = write offered (.ok (n + 1))

/-- A write that takes none, because of `e`. Taking none without a reason is a failure as well. -/
def Failed (x : Request) (e : OutputError) : Prop :=
  ∃ offered, x = write offered (.error e) ∨ x = write offered (.ok 0) ∧ e = .nothingTaken

/-- A write that fails takes nothing. -/
theorem Failed.taken_eq {x : Request} {e : OutputError} (h : x.Failed e) : x.taken = [] := by
  obtain ⟨offered, rfl | ⟨rfl, -⟩⟩ := h
  · rfl
  · exact List.take_zero (l := offered)

/-- What is recorded while some bytes are written, and the failure that this ends in. -/
inductive Attempt : List Request → List UInt8 → Option OutputError → Prop where
  /-- Every write succeeds, and all of the bytes are taken. -/
  | inFull {made : List Request} {bytes : List UInt8} (hmade : ∀ x ∈ made, x.Succeeded)
    (htaken : made.flatMap taken = bytes) : Attempt made bytes none
  /-- The last write is the first to fail, and the bytes are not taken to their end. -/
  | torn {made : List Request} {x : Request} {bytes rest : List UInt8} {e : OutputError}
    (hmade : ∀ x ∈ made, x.Succeeded) (hx : x.Failed e)
    (htaken : made.flatMap taken ++ rest = bytes) (hrest : rest ≠ []) :
    Attempt (made ++ [x]) bytes (some e)

namespace Attempt

variable {made made' : List Request} {bytes bytes' : List UInt8} {failure : Option OutputError}
  {e : OutputError}

/-- Bytes that are written without failing, and others behind them. -/
theorem append (h : Attempt made bytes none) (h' : Attempt made' bytes' failure) :
    Attempt (made ++ made') (bytes ++ bytes') failure := by
  cases h with
  | inFull hmade htaken =>
    cases h' with
    | inFull hmade' htaken' =>
      refine .inFull (List.forall_mem_append.2 ⟨hmade, hmade'⟩) ?_
      rw [List.flatMap_append, htaken, htaken']
    | torn hmade' hx htaken' hrest =>
      rw [← List.append_assoc]
      refine .torn (List.forall_mem_append.2 ⟨hmade, hmade'⟩) hx ?_ hrest
      rw [List.flatMap_append, List.append_assoc, htaken, htaken']

/-- Bytes behind those that could not be written are not written either. -/
theorem of_failed (h : Attempt made bytes (some e)) (more : List UInt8) :
    Attempt made (bytes ++ more) (some e) := by
  cases h with
  | torn hmade hx htaken hrest =>
    refine .torn hmade hx ?_ (List.append_ne_nil_of_left_ne_nil hrest more)
    rw [← List.append_assoc, htaken]

end Attempt

end Request

open Request

variable {ω : Type}

namespace Writer

/-- A destination beside a record of all that it is asked to do. -/
def watched (out : Writer ω) : Writer (ω × List Request) where
  write w bytes :=
    let result := out.write w.1 bytes
    (result.1, result.2, w.2 ++ [.write bytes result.1])
  flush w :=
    let result := out.flush w.1
    (result.1, result.2, w.2 ++ [.flush result.1])

variable (out : Writer ω)

/-- A failing write ends the attempt. -/
theorem attempt_of_failed {x : Request} {bytes : List UInt8} {e : OutputError} (hx : x.Failed e)
    (hb : bytes ≠ []) : Attempt [x] bytes (some e) :=
  @Attempt.torn [] x bytes bytes e (List.forall_mem_nil _) hx rfl hb

/-- Writing all of some bytes is an attempt at them, and being watched changes nothing in it. -/
theorem writeAll_watched (w : ω) (record : List Request) (bytes : List UInt8) :
    ∃ made, out.watched.writeAll (w, record) bytes =
        ((out.writeAll w bytes).1, (out.writeAll w bytes).2, record ++ made) ∧
      Attempt made bytes (out.writeAll w bytes).1 := by
  fun_induction Writer.writeAll out w bytes generalizing record with
  | case1 w =>
    refine ⟨[], ?_, .inFull (List.forall_mem_nil _) rfl⟩
    rw [Writer.writeAll, dif_pos rfl, List.append_nil]
  | case2 w bytes hb e w' hwrite =>
    refine ⟨[.write bytes (.error e)], ?_, attempt_of_failed ⟨bytes, .inl rfl⟩ hb⟩
    rw [Writer.writeAll, dif_neg hb]
    simp only [watched, hwrite]
  | case3 w bytes hb w' hwrite =>
    refine ⟨[.write bytes (.ok 0)], ?_, attempt_of_failed ⟨bytes, .inr ⟨rfl, rfl⟩⟩ hb⟩
    rw [Writer.writeAll, dif_neg hb]
    simp only [watched, hwrite]
  | case4 w bytes hb n w' hwrite hlt ih =>
    obtain ⟨made, hrest, hattempt⟩ := ih (record ++ [.write bytes (.ok (n + 1))])
    have hfirst : Attempt [.write bytes (.ok (n + 1))] (bytes.take (n + 1)) none := by
      refine .inFull ?_ (List.flatMap_singleton _ _)
      intro x hx
      exact ⟨bytes, n, List.mem_singleton.1 hx⟩
    refine ⟨.write bytes (.ok (n + 1)) :: made, ?_, ?_⟩
    · rw [Writer.writeAll, dif_neg hb, List.append_cons, ← hrest]
      simp only [watched, hwrite]
    · have hall := hfirst.append hattempt
      rw [List.take_append_drop] at hall
      exact hall

/-- Writing several pieces is an attempt at all of them. -/
theorem writePieces_watched (w : ω) (record : List Request) (pieces : List String) :
    ∃ made, out.watched.writePieces (w, record) pieces =
        ((out.writePieces w pieces).1, (out.writePieces w pieces).2, record ++ made) ∧
      Attempt made (Text.utf8 (String.join pieces)) (out.writePieces w pieces).1 := by
  fun_induction Writer.writePieces out w pieces generalizing record with
  | case1 w =>
    refine ⟨[], ?_, .inFull (List.forall_mem_nil _) (by simp)⟩
    rw [Writer.writePieces, List.append_nil]
  | case2 w piece pieces e w' hwrite =>
    obtain ⟨made, hpiece, hattempt⟩ := out.writeAll_watched w record (Text.utf8 piece)
    rw [hwrite] at hpiece hattempt
    refine ⟨made, ?_, ?_⟩
    · rw [Writer.writePieces, hpiece]
    · rw [String.join_cons, Text.utf8_append]
      exact hattempt.of_failed _
  | case3 w piece pieces w' hwrite ih =>
    obtain ⟨made, hpiece, hattempt⟩ := out.writeAll_watched w record (Text.utf8 piece)
    rw [hwrite] at hpiece hattempt
    obtain ⟨made', hrest, hattempt'⟩ := ih (record ++ made)
    refine ⟨made ++ made', ?_, ?_⟩
    · rw [Writer.writePieces, hpiece, ← List.append_assoc]
      exact hrest
    · rw [String.join_cons, Text.utf8_append]
      exact hattempt.append hattempt'

/-- Writing a line is an attempt at it with its line feed. -/
theorem writeLine_watched (w : ω) (record : List Request) (pieces : List String) :
    ∃ made, out.watched.writeLine (w, record) pieces =
        ((out.writeLine w pieces).1, (out.writeLine w pieces).2, record ++ made) ∧
      Attempt made (Text.utf8 (String.join pieces ++ "\n")) (out.writeLine w pieces).1 := by
  rw [← join_line]
  exact out.writePieces_watched w record (pieces ++ ["\n"])

end Writer

namespace DiagnosticLog

/-- A log whose destination is watched, with the record so far. -/
def beside (log : DiagnosticLog ω) (record : List Request) : DiagnosticLog (ω × List Request) :=
  { state := (log.state, record), failure := log.failure, errorCount := log.errorCount }

section Report

variable (out : Writer ω) {log : DiagnosticLog ω} {e : OutputError}

/-- A log that has failed leaves its destination alone and keeps the failure. -/
theorem report_of_failed (h : log.failure = some e) (d : Diagnostic) :
    (log.report out d).state = log.state ∧ (log.report out d).failure = some e := by
  obtain ⟨w, failure, count⟩ := log
  obtain rfl : failure = some e := h
  exact ⟨rfl, rfl⟩

/-- It does so however many diagnostics come after. -/
theorem reportAll_of_failed (h : log.failure = some e) (ds : List Diagnostic) :
    (log.reportAll out ds).state = log.state ∧ (log.reportAll out ds).failure = some e := by
  induction ds generalizing log with
  | nil => exact ⟨rfl, h⟩
  | cons d ds ih =>
    obtain ⟨hstate, hfailure⟩ := report_of_failed out h d
    obtain ⟨hstate', hfailure'⟩ := ih hfailure
    exact ⟨hstate'.trans hstate, hfailure'⟩

/-- A log that has failed asks for nothing. -/
theorem report_beside_of_failed (h : log.failure = some e) (record : List Request)
    (d : Diagnostic) :
    (log.beside record).report out.watched d = (log.report out d).beside record := by
  obtain ⟨w, failure, count⟩ := log
  obtain rfl : failure = some e := h
  rfl

/-- A log that has not attempts to write a line. -/
theorem report_beside (h : log.failure = none) (record : List Request) (d : Diagnostic) :
    ∃ made, (log.beside record).report out.watched d =
        (log.report out d).beside (record ++ made) ∧
      Attempt made d.lineBytes (log.report out d).failure := by
  obtain ⟨w, failure, count⟩ := log
  obtain rfl : failure = none := h
  obtain ⟨made, hline, hattempt⟩ := out.writeLine_watched w record d.pieces
  refine ⟨made, ?_, hattempt⟩
  simp only [beside, report, hline]

/-- An error is counted, and nothing else is. -/
theorem errorCount_report (log : DiagnosticLog ω) (d : Diagnostic) :
    (log.report out d).errorCount = log.errorCount + if d.isError then 1 else 0 := by
  obtain ⟨w, failure, count⟩ := log
  cases failure <;> cases h : d.isError <;> simp [report, h]

end Report

section Reports

variable (out : Writer ω) (w : ω)

/-- The log of some diagnostics. -/
def ofReports (ds : List Diagnostic) : DiagnosticLog ω :=
  (start w).reportAll out ds

/-- The record of what is asked of a destination while some diagnostics are logged. -/
def requests (ds : List Diagnostic) : List Request :=
  (ofReports out.watched (w, []) ds).state.2

/-- The diagnostics that come later are logged behind the first. -/
theorem ofReports_append (ds later : List Diagnostic) :
    ofReports out w (ds ++ later) = (ofReports out w ds).reportAll out later :=
  List.foldl_append

/-- One more diagnostic is reported to the log of those before. -/
theorem ofReports_concat (ds : List Diagnostic) (d : Diagnostic) :
    ofReports out w (ds ++ [d]) = (ofReports out w ds).report out d :=
  ofReports_append out w ds [d]

/-- Errors are counted whatever becomes of their lines. -/
theorem errorCount_ofReports (ds : List Diagnostic) :
    (ofReports out w ds).errorCount = ds.countP Diagnostic.isError := by
  induction ds using List.reverseRecOn with
  | nil => rfl
  | append_singleton ds d ih =>
    rw [ofReports_concat, errorCount_report, ih, List.countP_append, List.countP_singleton]

/-- Watching changes nothing. -/
theorem ofReports_watched (ds : List Diagnostic) :
    ofReports out.watched (w, []) ds = (ofReports out w ds).beside (requests out w ds) := by
  induction ds using List.reverseRecOn with
  | nil => rfl
  | append_singleton ds d ih =>
    rw [requests, ofReports_concat, ofReports_concat, ih]
    generalize ofReports out w ds = log
    cases h : log.failure with
    | some e => rw [report_beside_of_failed out h]; rfl
    | none =>
      obtain ⟨made, hreport, -⟩ := report_beside out h (requests out w ds) d
      rw [hreport]
      rfl

/-- No write has failed, and all lines have been taken. -/
structure InFull (ds : List Diagnostic) : Prop where
  /-- The log knows of no failure. -/
  failure_eq : (ofReports out w ds).failure = none
  /-- Nothing has been asked for but writes, and all of them have succeeded. -/
  succeeded : ∀ x ∈ requests out w ds, x.Succeeded
  /-- The lines have been taken in order. -/
  taken_eq : (requests out w ds).flatMap taken = ds.flatMap Diagnostic.lineBytes

/-- A write has failed because of `e`, and nothing has been asked for since. -/
structure Torn (ds : List Diagnostic) (e : OutputError) : Prop where
  /-- The log keeps the failure. -/
  failure_eq : (ofReports out w ds).failure = some e
  /-- The failing write is the last request, and all others have been writes that succeeded. -/
  exists_failed : ∃ made x, requests out w ds = made ++ [x] ∧ (∀ y ∈ made, y.Succeeded) ∧ x.Failed e
  /-- The lines have been taken in order up to some place within that for `d`, which was being
  written. -/
  exists_line : ∃ before d behind part rest, ds = before ++ d :: behind ∧
    (ofReports out w before).failure = none ∧ d.lineBytes = part ++ rest ∧ rest ≠ [] ∧
    (requests out w ds).flatMap taken = before.flatMap Diagnostic.lineBytes ++ part

variable {out w} {ds : List Diagnostic} {e : OutputError}

/-- After a failure nothing is asked for. -/
theorem requests_append_of_failed (h : (ofReports out w ds).failure = some e)
    (later : List Diagnostic) : requests out w (ds ++ later) = requests out w ds := by
  have hwatched : (ofReports out.watched (w, []) ds).failure = some e := by
    rw [ofReports_watched]
    exact h
  rw [requests, ofReports_append, (reportAll_of_failed out.watched hwatched later).1]
  rfl

/-- While nothing has failed, one more diagnostic makes for one more attempt. -/
theorem requests_concat (h : (ofReports out w ds).failure = none) (d : Diagnostic) :
    ∃ made, requests out w (ds ++ [d]) = requests out w ds ++ made ∧
      Attempt made d.lineBytes (ofReports out w (ds ++ [d])).failure := by
  obtain ⟨made, hreport, hattempt⟩ := report_beside out h (requests out w ds) d
  refine ⟨made, ?_, ?_⟩
  · rw [requests, ofReports_concat, ofReports_watched, hreport]
    rfl
  · rw [ofReports_concat]
    exact hattempt

/-- Before the first diagnostic nothing has been asked for. -/
theorem inFull_nil (out : Writer ω) (w : ω) : InFull out w [] :=
  ⟨rfl, List.forall_mem_nil _, rfl⟩

/-- One more line is taken in full, or torn. -/
theorem InFull.report (h : InFull out w ds) (d : Diagnostic) :
    InFull out w (ds ++ [d]) ∨ ∃ e, Torn out w (ds ++ [d]) e := by
  obtain ⟨made, hrequests, hattempt⟩ := requests_concat h.failure_eq d
  have htaken : ∀ more : List Request, (requests out w ds ++ more).flatMap taken =
      ds.flatMap Diagnostic.lineBytes ++ more.flatMap taken := by
    intro more
    rw [List.flatMap_append, h.taken_eq]
  generalize hfailure : (ofReports out w (ds ++ [d])).failure = failure at hattempt
  cases hattempt with
  | inFull hmade hline =>
    refine .inl ⟨hfailure, ?_, ?_⟩
    · rw [hrequests]
      exact List.forall_mem_append.2 ⟨h.succeeded, hmade⟩
    · rw [hrequests, htaken, hline, List.flatMap_append, List.flatMap_singleton]
  | @torn made x _ rest e hmade hx hline hrest =>
    refine .inr ⟨e, hfailure, ⟨requests out w ds ++ made, x, ?_, ?_, hx⟩,
      ⟨ds, d, [], made.flatMap taken, rest, rfl, h.failure_eq, hline.symm, hrest, ?_⟩⟩
    · rw [hrequests, List.append_assoc]
    · exact List.forall_mem_append.2 ⟨h.succeeded, hmade⟩
    · rw [hrequests, htaken, List.flatMap_append, List.flatMap_singleton, hx.taken_eq,
        List.append_nil]

/-- A torn line stays the last. -/
theorem Torn.reports (h : Torn out w ds e) (later : List Diagnostic) :
    Torn out w (ds ++ later) e := by
  have hrequests := requests_append_of_failed h.failure_eq later
  obtain ⟨before, d, behind, part, rest, hds, hnone, hline, hrest, htaken⟩ := h.exists_line
  refine ⟨?_, ?_, before, d, behind ++ later, part, rest, ?_, hnone, hline, hrest, ?_⟩
  · rw [ofReports_append]
    exact (reportAll_of_failed out h.failure_eq later).2
  · rw [hrequests]
    exact h.exists_failed
  · rw [hds, List.append_assoc, List.cons_append]
  · rw [hrequests, htaken]

/-- All lines have been taken in full, or one is torn. -/
theorem inFull_or_torn (out : Writer ω) (w : ω) (ds : List Diagnostic) :
    InFull out w ds ∨ ∃ e, Torn out w ds e := by
  induction ds using List.reverseRecOn with
  | nil => exact .inl (inFull_nil out w)
  | append_singleton ds d ih =>
    rcases ih with h | ⟨e, h⟩
    · exact h.report d
    · exact .inr ⟨e, h.reports [d]⟩

/-- A log without a failure passes the data on once. -/
theorem finish_of_none (out : Writer ω) {log : DiagnosticLog ω} (h : log.failure = none)
    (record : List Request) :
    log.finish out = out.flush log.state ∧
      (log.beside record).finish out.watched =
        ((out.flush log.state).1, (out.flush log.state).2,
          record ++ [.flush (out.flush log.state).1]) := by
  obtain ⟨w, failure, count⟩ := log
  obtain rfl : failure = none := h
  exact ⟨rfl, rfl⟩

/-- A log with a failure tells it and leaves the destination alone. -/
theorem finish_of_failed (out : Writer ω) {log : DiagnosticLog ω} (h : log.failure = some e)
    (record : List Request) :
    log.finish out = (some e, log.state) ∧
      (log.beside record).finish out.watched = (some e, log.state, record) := by
  obtain ⟨w, failure, count⟩ := log
  obtain rfl : failure = some e := h
  exact ⟨rfl, rfl⟩

end Reports

/-- Whatever a destination does, its log counts all errors that it is given. Either no write fails:
then the lines of all diagnostics have been taken in order, and finishing the log passes the data on
once and tells how that ends. Or some write is the first to fail: then it is the last request ever
made, the lines have been taken up to some place within the one that was being written, and
finishing the log tells that failure and asks for nothing. -/
theorem log_for_any_destination (out : Writer ω) (w : ω) (ds : List Diagnostic) :
    let log := ofReports out w ds
    let watched := ofReports out.watched (w, []) ds
    let finished := watched.finish out.watched
    (watched.state.1 = log.state ∧ watched.failure = log.failure ∧
      watched.errorCount = log.errorCount) ∧
    (finished.1 = (log.finish out).1 ∧ finished.2.1 = (log.finish out).2) ∧
    log.errorCount = (ds.filter fun d => d.severity = .error).length ∧
    ((InFull out w ds ∧ log.finish out = out.flush log.state ∧
        finished.2.2 = requests out w ds ++ [.flush (out.flush log.state).1]) ∨
      ∃ e, Torn out w ds e ∧ log.finish out = (some e, log.state) ∧
        finished.2.2 = requests out w ds ∧
        ∀ later, requests out w (ds ++ later) = requests out w ds ∧
          (ofReports out w (ds ++ later)).failure = some e) := by
  intro log watched finished
  have hwatched : watched = log.beside (requests out w ds) := ofReports_watched out w ds
  have hfinished : finished = (log.beside (requests out w ds)).finish out.watched :=
    congrArg (DiagnosticLog.finish out.watched) hwatched
  have hcount : log.errorCount = (ds.filter fun d => d.severity = .error).length := by
    rw [← List.countP_eq_length_filter]
    exact errorCount_ofReports out w ds
  rw [hfinished, hwatched]
  refine ⟨⟨rfl, rfl, rfl⟩, ?_⟩
  rcases inFull_or_torn out w ds with h | ⟨e, h⟩
  · obtain ⟨hlog, hrecord⟩ := finish_of_none out h.failure_eq (requests out w ds)
    rw [hrecord, hlog]
    exact ⟨⟨rfl, rfl⟩, hcount, .inl ⟨h, rfl, rfl⟩⟩
  · obtain ⟨hlog, hrecord⟩ := finish_of_failed out h.failure_eq (requests out w ds)
    rw [hrecord, hlog]
    refine ⟨⟨rfl, rfl⟩, hcount, .inr ⟨e, h, rfl, rfl, fun later => ⟨?_, ?_⟩⟩⟩
    · exact requests_append_of_failed h.failure_eq later
    · exact (h.reports later).failure_eq

/-- A destination that takes three bytes at most and fails only at its third write: the rest of the
first line and the second line are never offered. -/
example :
    let out : Writer Nat :=
      ⟨fun n bytes => (if n = 2 then .error .closed else .ok (min 3 bytes.length), n + 1),
        fun n => (none, n)⟩
    let reports := [Diagnostic.unlocatedError "torn", Diagnostic.info "kept back"]
    ((requests out 0 reports).flatMap taken, (ofReports out 0 reports).finish out) =
      (Text.utf8 "[err", some .closed, 3) := by
  decide +kernel

end DiagnosticLog

end Recognizer
