import Recognizer.CommandLine.Run
import Recognizer.Proofs.Lexical.Tiling
import Recognizer.Proofs.Lexical.Trace
import Recognizer.Proofs.Output.Writing

/-!
# Dumps to destinations of limited size

A dump has two destinations. The first token whose line does not fit ends it, and what has been
reported up to that token is then in the log, as far as it fits there. If all tokens fit, the
log gets everything, and its failure is told only after that of passing on the tokens. No token
is ever found out of its place.
-/

namespace Recognizer

/-- The line for a token, in bytes. -/
def Token.lineBytes (t : Token) : List UInt8 :=
  Text.utf8 (t.render ++ "\n")

/-- The line for a diagnostic, in bytes. -/
def Diagnostic.lineBytes (d : Diagnostic) : List UInt8 :=
  Text.utf8 (d.render ++ "\n")

namespace LimitedWriter.Offered

variable {α ω : Type} {out : LimitedWriter α} {out' : Writer ω} {f : α → ω} {all : List UInt8}
  {log : DiagnosticLog ω} {w : α}

/-- A log offers a line to its destination, which may be one of several. -/
theorem report (hf : out.toWriter.Embeds out' f) (hstate : log.state = f w)
    (h : out.Offered all log.failure w) (d : Diagnostic) :
    ∃ w', (log.report out' d).state = f w' ∧
      out.Offered (all ++ d.lineBytes) (log.report out' d).failure w' := by
  obtain ⟨_, failure, count⟩ := log
  obtain rfl := hstate
  cases failure with
  | some e => exact ⟨w, rfl, h.more _⟩
  | none =>
    have hline := hf.writeLine w d.pieces
    unfold DiagnosticLog.report
    dsimp only
    rw [hline]
    exact ⟨_, rfl, h.writeLine d.pieces⟩

/-- The lines for some diagnostics are offered one behind the other. -/
theorem reportAll (hf : out.toWriter.Embeds out' f) (hstate : log.state = f w)
    (h : out.Offered all log.failure w) (ds : List Diagnostic) :
    ∃ w', (log.reportAll out' ds).state = f w' ∧
      out.Offered (all ++ ds.flatMap Diagnostic.lineBytes) (log.reportAll out' ds).failure w' := by
  induction ds generalizing log w all with
  | nil =>
    rw [List.flatMap_nil, List.append_nil]
    exact ⟨w, hstate, h⟩
  | cons d ds ih =>
    obtain ⟨w', hstate', hd⟩ := h.report hf hstate d
    rw [List.flatMap_cons, ← List.append_assoc]
    exact ih hstate' hd

end LimitedWriter.Offered

namespace Dump

open LimitedWriter Lexer

/-- The lines for the tokens of some steps. -/
def tokenBytes (steps : List Step) : List UInt8 :=
  steps.flatMap fun x => x.token.lineBytes

/-- The lines for what is reported in some steps. -/
def errorBytes (steps : List Step) : List UInt8 :=
  steps.flatMap fun x => x.reported.flatMap Diagnostic.lineBytes

theorem tokenBytes_cons (x : Step) (steps : List Step) :
    tokenBytes (x :: steps) = x.token.lineBytes ++ tokenBytes steps :=
  List.flatMap_cons

theorem tokenBytes_append (front behind : List Step) :
    tokenBytes (front ++ behind) = tokenBytes front ++ tokenBytes behind :=
  List.flatMap_append

theorem errorBytes_cons (x : Step) (steps : List Step) :
    errorBytes (x :: steps) = x.reported.flatMap Diagnostic.lineBytes ++ errorBytes steps :=
  List.flatMap_cons

variable {α β : Type} {tokens : LimitedWriter α} {errors : LimitedWriter β}

/-- What is at the destinations when the lines for some steps have been offered behind `t` and
`e`: all of them, or those up to the first token that does not fit. -/
inductive Written (tokens : LimitedWriter α) (errors : LimitedWriter β) (t e : List UInt8)
    (steps : List Step) : Option OutputError × DiagnosticLog (α × β) → Prop where
  /-- The lines for all tokens fit. -/
  | all {log : DiagnosticLog (α × β)}
    (ht : tokens.Offered (t ++ tokenBytes steps) none log.state.1)
    (he : errors.Offered (e ++ errorBytes steps) log.failure log.state.2) :
    Written tokens errors t e steps (none, log)
  /-- The line for the token of the step `x` is the first that does not. -/
  | upTo {front behind : List Step} {x : Step} {failure : OutputError}
    {log : DiagnosticLog (α × β)} (hsteps : steps = front ++ x :: behind)
    (hfront : (t ++ tokenBytes front).length ≤ tokens.capacity)
    (ht : tokens.Offered (t ++ tokenBytes (front ++ [x])) (some failure) log.state.1)
    (he : errors.Offered (e ++ errorBytes (front ++ [x])) log.failure log.state.2) :
    Written tokens errors t e steps (some failure, log)

/-- What is written behind the lines of one more step. -/
theorem Written.cons {t e : List UInt8} {steps : List Step} {x : Step}
    {result : Option OutputError × DiagnosticLog (α × β)}
    (h : Written tokens errors (t ++ x.token.lineBytes)
      (e ++ x.reported.flatMap Diagnostic.lineBytes) steps result) :
    Written tokens errors t e (x :: steps) result := by
  cases h with
  | all ht he =>
    rw [List.append_assoc, ← tokenBytes_cons] at ht
    rw [List.append_assoc, ← errorBytes_cons] at he
    exact .all ht he
  | upTo hsteps hfront ht he =>
    rw [List.append_assoc, ← tokenBytes_cons] at hfront ht
    rw [List.append_assoc, ← errorBytes_cons] at he
    exact .upTo (congrArg (x :: ·) hsteps) hfront ht he

/-- The lines for some readings are written behind what has been offered before. -/
theorem written_lines {rs : List Reading} {log : DiagnosticLog (α × β)} {t e : List UInt8}
    (ht : tokens.Offered t none log.state.1) (he : errors.Offered e log.failure log.state.2) :
    Written tokens errors t e (rs.map Reading.shown)
      (lines tokens.onFirst errors.onSecond log rs) := by
  induction rs generalizing log t e with
  | nil =>
    rw [← List.append_nil t] at ht
    rw [← List.append_nil e] at he
    exact .all ht he
  | cons r rs ih =>
    obtain ⟨b, hstate, hlog⟩ :=
      he.reportAll (Writer.embeds_onSecond errors.toWriter log.state.1) rfl r.diagnostics
    rw [List.map_cons, lines]
    generalize log.reportAll errors.onSecond r.diagnostics = log' at hlog hstate ⊢
    obtain ⟨_, failure, count⟩ := log'
    obtain rfl := hstate
    have hline := ht.writeLine r.token.pieces
    rw [(Writer.embeds_onFirst tokens.toWriter b).writeLine log.state.1 r.token.pieces]
    generalize tokens.toWriter.writeLine log.state.1 r.token.pieces = written at hline ⊢
    obtain ⟨_ | failure', a'⟩ := written
    · exact .cons (ih hline hlog)
    · have hsteps : r.shown :: rs.map Reading.shown = [] ++ r.shown :: rs.map Reading.shown := rfl
      refine .upTo hsteps ?_ ?_ ?_
      · rw [tokenBytes, List.flatMap_nil, List.append_nil]
        exact ht.failure_iff.1 rfl
      · rw [List.nil_append, tokenBytes, List.flatMap_singleton]
        exact hline
      · rw [List.nil_append, errorBytes, List.flatMap_singleton]
        exact hlog

/-- No token is out of its place. -/
theorem misplaced_eq_nil (s : Source) (cap : Nat) : misplaced s cap = [] := by
  rw [misplaced, List.filter_eq_nil_iff]
  intro t ht
  simp [Source.holds_of_mem ht]

/-- The exit code of a command whose findings were delivered, or not. -/
def exitCode : Option DeliveryError → Nat
  | none => 0
  | some e => (CommandError.delivery e).exitCode

/-- The lines for the tokens of a run are those for all tokens. -/
theorem tokenBytes_trace (text : List Char) (cap : Nat) :
    tokenBytes (start text cap).trace = (start text cap).drain.1.flatMap Token.lineBytes := by
  rw [← map_token_trace, List.flatMap_map]
  rfl

/-- The lines for what a run reports are those for all that is reported. -/
theorem errorBytes_trace (text : List Char) (cap : Nat) :
    errorBytes (start text cap).trace =
      (start text cap).drain.2.reported.toList.flatMap Diagnostic.lineBytes := by
  rw [← flatMap_reported_trace, List.flatMap_assoc]
  rfl

/-- When all lines have been written, what is left to fail is passing on the tokens, the log as it
was written, and passing on the log. -/
theorem write_of_all {s : Source} {cap : Nat} {a : α} {b : β} {failure : Option OutputError}
    {count : Nat} (h : lines tokens.onFirst errors.onSecond (.start (tokens.start, errors.start))
      (s.readings cap) = (none, ⟨(a, b), failure, count⟩)) :
    ∃ b', write s cap tokens.onFirst errors.onSecond (tokens.start, errors.start) =
        ((((tokens.flush a).1.or failure).or (errors.flush b).1).map .output,
          (tokens.flush a).2, b') ∧
      (b' = b ∨ b' = (errors.flush b).2) := by
  generalize hpass : tokens.flush a = tokensPassed
  generalize hpassLog : errors.flush b = logPassed
  obtain ⟨passed, a'⟩ := tokensPassed
  obtain ⟨passedLog, b'⟩ := logPassed
  have hfirst : (Writer.onFirst tokens.toWriter).flush (a, b) = (passed, a', b) := by
    simp only [Writer.onFirst, hpass]
  have hsecond : (Writer.onSecond errors.toWriter).flush (a', b) = (passedLog, a', b') := by
    simp only [Writer.onSecond, hpassLog]
  simp only [write, h, misplaced_eq_nil, List.map_nil, DiagnosticLog.reportAll, List.foldl_nil,
    hfirst]
  cases passed with
  | some e => exact ⟨b, rfl, .inl rfl⟩
  | none =>
    cases failure with
    | some e => exact ⟨b, rfl, .inl rfl⟩
    | none =>
      simp only [DiagnosticLog.finish, hsecond]
      refine ⟨b', ?_, .inr rfl⟩
      cases passedLog with
      | some e => rfl
      | none => rfl

/-- A dump is the lines for all tokens and the log beside them, and fails only as the destinations
do: where a token does not fit, at once, with the log up to that token; and otherwise with the
first failure of passing on the tokens, writing the log and passing on the log. -/
theorem write_limited (s : Source) (cap : Nat) (tokens : LimitedWriter α)
    (errors : LimitedWriter β) :
    let run := (start s.chars cap).trace
    let allTokens := (start s.chars cap).drain.1.flatMap Token.lineBytes
    let allErrors := (start s.chars cap).drain.2.reported.toList.flatMap Diagnostic.lineBytes
    let dump := write s cap tokens.onFirst errors.onSecond (tokens.start, errors.start)
    misplaced s cap = [] ∧
      ((tokens.capacity < allTokens.length ∧
        ∃ front x behind, run = front ++ x :: behind ∧
          (tokenBytes front).length ≤ tokens.capacity ∧
          tokens.capacity < (tokenBytes (front ++ [x])).length ∧
          tokens.taken dump.2.1 = allTokens.take tokens.capacity ∧
          errors.taken dump.2.2 = (errorBytes (front ++ [x])).take errors.capacity ∧
          ∃ e, tokens.Refuses e ∧ dump.1 = some (.output e) ∧ exitCode dump.1 = 1) ∨
      (allTokens.length ≤ tokens.capacity ∧
        tokens.taken dump.2.1 = allTokens ∧
        errors.taken dump.2.2 = allErrors.take errors.capacity ∧
        ∃ a failure b, tokens.Offered allTokens none a ∧ errors.Offered allErrors failure b ∧
          let first := ((tokens.flush a).1.or failure).or (errors.flush b).1
          dump.1 = first.map .output ∧ exitCode dump.1 = if first.isSome then 1 else 0)) := by
  intro run allTokens allErrors dump
  have htokens : tokenBytes run = allTokens := tokenBytes_trace s.chars cap
  have herrors : errorBytes run = allErrors := errorBytes_trace s.chars cap
  have hwritten : Written tokens errors [] [] run (lines tokens.onFirst errors.onSecond
      (.start (tokens.start, errors.start)) (s.readings cap)) := by
    have hrun : run = (s.readings cap).map Reading.shown := trace_start s.chars cap
    rw [hrun]
    exact written_lines tokens.offered_start errors.offered_start
  refine ⟨misplaced_eq_nil s cap, ?_⟩
  generalize hlines : lines tokens.onFirst errors.onSecond (.start (tokens.start, errors.start))
    (s.readings cap) = result at hwritten
  cases hwritten with
  | @upTo front behind x failure log hsteps hfront ht he =>
    left
    have hdump : dump = (some (.output failure), log.state) := by
      simp only [dump, write, hlines]
    have hlt : tokens.capacity < (tokenBytes (front ++ [x])).length := by
      have hnot := mt ht.failure_iff.2 (Option.some_ne_none failure)
      exact Nat.lt_of_not_le hnot
    have hall : allTokens = tokenBytes (front ++ [x]) ++ tokenBytes behind := by
      rw [← htokens, hsteps, ← tokenBytes_append, List.append_assoc]
      rfl
    refine ⟨?_, front, x, behind, hsteps, hfront, hlt, ?_, ?_, failure, ht.refuses _ rfl, ?_, ?_⟩
    · rw [hall, List.length_append]
      omega
    · rw [hdump, hall, List.take_append_of_le_length (Nat.le_of_lt hlt)]
      exact ht.taken_eq
    · rw [hdump]
      exact he.taken_eq
    · rw [hdump]
    · rw [hdump]
      rfl
  | @all log ht he =>
    right
    obtain ⟨⟨a, b⟩, failure, count⟩ := log
    rw [List.nil_append, htokens] at ht
    rw [List.nil_append, herrors] at he
    obtain ⟨b', hdump, hb'⟩ := write_of_all hlines
    have hdump : dump = _ := hdump
    refine ⟨ht.failure_iff.1 rfl, ?_, ?_, a, failure, b, ht, he, ?_, ?_⟩
    · rw [hdump]
      exact ht.flush.taken_eq_all
    · rw [hdump]
      rcases hb' with rfl | rfl
      · exact he.taken_eq
      · exact he.flush.taken_eq
    · rw [hdump]
    · rw [hdump]
      cases ((tokens.flush a).1.or failure).or (errors.flush b).1 with
      | none => rfl
      | some e => rfl

/-- With room for the first token's line and half of the next one, and for three bytes of the log,
the dump of `a 0x` ends at its second token. -/
example :
    let dump := write ⟨"a 0x".toList, by decide, by decide⟩ 4
      (BoundedOutput.limited 60 false).onFirst (BoundedOutput.limited 3 true).onSecond
      ((BoundedOutput.limited 60 false).start, (BoundedOutput.limited 3 true).start)
    dump.1 = some (.output .closed) ∧ dump.2.1.written.size = 60 ∧
      dump.2.2.written.toList = Text.utf8 "[er" := by
  decide +kernel

end Dump

end Recognizer
