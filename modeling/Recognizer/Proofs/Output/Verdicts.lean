import Recognizer.Proofs.Check.Sinks
import Recognizer.Proofs.Output.Delivery

/-!
# Verdicts and failing logs

A log is one of the sinks that a check can report to at once. While it is written it may fail, and
the check goes on all the same. In the end the failure takes the place of the verdict, and nothing
else does.
-/

namespace Recognizer

namespace LimitedWriter.Offered

variable {ω : Type} {out : LimitedWriter ω} {all : List UInt8} {log : DiagnosticLog ω}

/-- Finishing a log tells that its destination was full, or else what passing the data on tells. -/
theorem finish (h : out.Offered all log.failure log.state) :
    out.taken (log.finish out.toWriter).2 = all.take out.capacity ∧
      ((out.capacity < all.length ∧
        ∃ e, out.Refuses e ∧ (log.finish out.toWriter).1 = some e) ∨
      (all.length ≤ out.capacity ∧
        (log.finish out.toWriter).1 = (out.flush log.state).1)) := by
  obtain ⟨state, failure, count⟩ := log
  cases failure with
  | some e =>
    have hnot := mt h.failure_iff.2 (Option.some_ne_none e)
    exact ⟨h.taken_eq, .inl ⟨Nat.lt_of_not_le hnot, e, h.refuses e rfl, rfl⟩⟩
  | none => exact ⟨h.flush.taken_eq, .inr ⟨h.failure_iff.1 rfl, rfl⟩⟩

end LimitedWriter.Offered

namespace Source

variable {ω : Type}

/-- Check a source and write each diagnostic to a log as soon as it is found. -/
def checkLiveInto (s : Source) (limits : Limits) (out : Writer ω) (w : ω) :
    Except DeliveryError (Option SyntaxError) × ω :=
  let result := s.checkLive limits (DiagnosticLog.report out) (.start w)
  match result.2.finish out with
  | (some e, state) => (.error (.output e), state)
  | (none, state) => (.ok result.1, state)

/-- A log is the same whether it is written during the check or after it. -/
theorem checkLiveInto_eq (s : Source) (limits : Limits) (out : Writer ω) (w : ω) :
    s.checkLiveInto limits out w = s.checkInto limits out w := by
  rw [checkLiveInto, checkLive_eq]
  rfl

/-- The log of a check, with everything written that is reported. -/
def liveLog (s : Source) (limits : Limits) (out : Writer ω) (w : ω) : DiagnosticLog ω :=
  (s.checkLive limits (DiagnosticLog.report out) (.start w)).2

/-- What finishing the log comes to is what the check comes to. -/
theorem checkInto_eq_finish (s : Source) (limits : Limits) (out : Writer ω) (w : ω) :
    s.checkInto limits out w =
      match (s.liveLog limits out w).finish out with
      | (some e, state) => (.error (.output e), state)
      | (none, state) => (.ok (s.check limits).1, state) := by
  rw [← checkLiveInto_eq, checkLiveInto, liveLog, checkLive_eq]

/-- The lines for everything that a check reports have been offered when the log is finished. -/
theorem offered_liveLog (s : Source) (limits : Limits) (out : LimitedWriter ω) :
    out.Offered ((s.check limits).2.flatMap Diagnostic.lineBytes)
      (s.liveLog limits out.toWriter out.start).failure
      (s.liveLog limits out.toWriter out.start).state := by
  have hself : out.toWriter.Embeds out.toWriter id := fun _ _ => rfl
  have hstart : (DiagnosticLog.start out.start).state = id out.start := rfl
  obtain ⟨w, hstate, hlog⟩ := out.offered_start.reportAll hself hstart (s.check limits).2
  obtain rfl : _ = w := hstate
  rw [liveLog, checkLive_eq]
  exact hlog

/-- A check does not depend on where it reports to. To a log of limited size it writes the lines
for all that it reports, as far as they fit; the verdict is told exactly if all of them fit and
can be passed on, whatever the verdict is. -/
theorem verdict_for_any_sink (s : Source) (limits : Limits) :
    (∀ {ω : Type} (sink : ω → Diagnostic → ω) (w : ω),
      s.checkLive limits sink w = ((s.check limits).1, (s.check limits).2.foldl sink w)) ∧
    (∀ {ω : Type} (out : Writer ω) (w : ω),
      s.checkLiveInto limits out w = s.checkInto limits out w) ∧
    ∀ {ω : Type} (out : LimitedWriter ω),
      let lines := (s.check limits).2.flatMap Diagnostic.lineBytes
      let result := s.checkInto limits out.toWriter out.start
      let passed := (out.flush (s.liveLog limits out.toWriter out.start).state).1
      out.taken result.2 = lines.take out.capacity ∧
        ((out.capacity < lines.length ∧
          ∃ e, out.Refuses e ∧ result.1 = .error (.output e)) ∨
        (lines.length ≤ out.capacity ∧
          ((∃ e, passed = some e ∧ result.1 = .error (.output e)) ∨
            (passed = none ∧ result.1 = .ok (s.check limits).1)))) ∧
        ∀ e, result.1 = .error e → (CommandError.delivery e).exitCode = 1 := by
  refine ⟨s.checkLive_eq limits, s.checkLiveInto_eq limits, ?_⟩
  intro ω out lines result passed
  have hoffered : out.Offered lines _ _ := s.offered_liveLog limits out
  have hresult : result = _ := s.checkInto_eq_finish limits out.toWriter out.start
  obtain ⟨htaken, hfinish⟩ := hoffered.finish
  generalize (s.liveLog limits out.toWriter out.start).finish out.toWriter = finished
    at hresult htaken hfinish
  obtain ⟨failure, state⟩ := finished
  cases failure with
  | some e =>
    rw [hresult]
    refine ⟨htaken, ?_, fun _ _ => rfl⟩
    rcases hfinish with ⟨hlt, e', hrefuses, he'⟩ | ⟨hle, hpassed⟩
    · exact .inl ⟨hlt, e', hrefuses, by rw [Option.some.inj he']⟩
    · exact .inr ⟨hle, .inl ⟨e, hpassed.symm, rfl⟩⟩
  | none =>
    rw [hresult]
    refine ⟨htaken, ?_, fun _ _ => rfl⟩
    rcases hfinish with ⟨hlt, e', hrefuses, he'⟩ | ⟨hle, hpassed⟩
    · cases he'
    · exact .inr ⟨hle, .inr ⟨hpassed.symm, rfl⟩⟩

/-- A log with room for four bytes: an accepted source, and a failure in place of its verdict. -/
example :
    let result := checkInto ⟨"int a;".toList, by decide, by decide⟩ {}
      (BoundedOutput.limited 4 false).toWriter (BoundedOutput.limited 4 false).start
    result.1 = .error (.output .closed) ∧ result.2.written.toList = Text.utf8 "[log" := by
  decide +kernel

end Source

end Recognizer
