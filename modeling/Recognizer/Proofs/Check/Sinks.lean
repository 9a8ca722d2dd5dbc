import Recognizer.Proofs.Check.Refinement

/-!
# Reporting at once

A parser can hand over what it reports at once to a sink, whatever a report does there, while it
reads on and goes back in the text. No procedure gets to see the sink. So the verdict is the same
for every sink, and what the sink is given is the same sequence of diagnostics.
-/

namespace Recognizer

open TokenSource

variable {ω : Type} {sink : ω → Diagnostic → ω} {text : List Char} {cap : Nat}

/-- A parser that hands each diagnostic over at once. A report changes the state of the sink. -/
structure LiveParser {ω : Type} (sink : ω → Diagnostic → ω) (text : List Char) (cap : Nat) where
  /-- Where the next step begins. -/
  cursor : Cursor text
  /-- The furthest offset a step has ever ended at. -/
  mark : Nat
  /-- Number of constructs that are open. -/
  depth : Nat
  /-- The state of the sink. -/
  state : ω

namespace LiveParser

/-- A parser at the beginning of a text with a sink in the given state. -/
def start (sink : ω → Diagnostic → ω) (w : ω) (text : List Char) (cap : Nat) :
    LiveParser sink text cap :=
  ⟨.ofPosition text .start, 0, 0, w⟩

/-- Read the next token. If it begins at the mark or behind it, what is wrong with it is reported. -/
def next (p : LiveParser sink text cap) : Token × LiveParser sink text cap :=
  let r := p.cursor.reading cap
  (r.token,
    { p with
      cursor := p.cursor.next cap
      mark := max p.mark r.stop.offset
      state := if r.start.offset < p.mark then p.state else r.diagnostics.foldl sink p.state })

instance : TokenSource (LiveParser sink text cap) where
  next := next
  rewind saved now := { now with cursor := saved.cursor }
  enter p := { p with depth := p.depth + 1 }
  leave p := { p with depth := p.depth - 1 }
  remaining p := p.cursor.rest.length
  remaining_next_le p := Reading.length_rest_le cap p.cursor.position p.cursor.rest
  remaining_next_lt h := Reading.length_rest_lt h
  remaining_rewind _ _ := rfl
  remaining_enter _ := rfl
  remaining_leave _ := rfl

end LiveParser

namespace Parser

/-- The same parser, with everything that it has reported handed over to a sink. -/
def live (sink : ω → Diagnostic → ω) (w : ω) (p : Parser text cap) : LiveParser sink text cap :=
  ⟨p.lexer.cursor, p.lexer.mark, p.depth, p.lexer.reported.toList.foldl sink w⟩

/-- Handing over at once comes to the same as handing over later. -/
theorem next_live (w : ω) (p : Parser text cap) :
    next (p.live sink w) = ((next p).1, (next p).2.live sink w) := by
  have hstate : (p.lexer.reported ++ p.lexer.fresh).toList.foldl sink w =
      if (p.lexer.cursor.reading cap).start.offset < p.lexer.mark then
        p.lexer.reported.toList.foldl sink w
      else (p.lexer.cursor.reading cap).diagnostics.foldl sink
        (p.lexer.reported.toList.foldl sink w) := by
    rw [Array.toList_appendList, List.foldl_append, Lexer.fresh]
    split
    · rfl
    · rfl
  exact congrArg (fun state => ((p.lexer.cursor.reading cap).token, LiveParser.mk
    (p.lexer.cursor.next cap) (max p.lexer.mark (p.lexer.cursor.reading cap).stop.offset) p.depth
    state)) hstate.symm

/-- No procedure can tell whether reports are kept or handed over. -/
def liveSimulation (sink : ω → Diagnostic → ω) (w : ω) (text : List Char) (cap : Nat) :
    Simulation (Parser text cap) (LiveParser sink text cap) where
  related p q := q = p.live sink w
  failed v v' p q := v' = v ∧ q = p.live sink w
  kind_eq := by
    rintro p _ rfl
    rw [next_live]
  second_eq := by
    rintro p _ rfl
    rw [next_live, next_live]
  read := by
    rintro p _ rfl _ _
    rw [next_live]
  look := by
    rintro p _ rfl
    rw [next_live]
    rfl
  lookTwice := by
    rintro p _ rfl
    rw [next_live, next_live]
    rfl
  enter := by
    rintro p _ rfl
    rfl
  leave := by
    rintro p _ rfl
    rfl
  failed_read := by
    rintro p _ rfl e
    rw [next_live]
    exact ⟨rfl, rfl⟩
  failed_look := by
    rintro p _ rfl e
    rw [next_live]
    exact ⟨rfl, rfl⟩
  failed_leave := by
    rintro v _ p _ ⟨rfl, rfl⟩
    exact ⟨rfl, rfl⟩

/-- Both read the same program and stop at the same place. -/
theorem program_live (sink : ω → Diagnostic → ω) (w : ω) (p : Parser text cap) (limit : Nat) :
    ((Grammar.program (limit - p.depth)).run (p.live sink w)).violation? =
        (p.program limit).violation? ∧
      ((Grammar.program (limit - p.depth)).run (p.live sink w)).state =
        (p.program limit).state.live sink w := by
  have h : (liveSimulation sink w text cap).Agree (p.program limit)
      ((Grammar.program (limit - p.depth)).run (p.live sink w)) :=
    (liveSimulation sink w text cap).respects_program _ _ _ rfl
  generalize p.program limit = o at h ⊢
  generalize (Grammar.program (limit - p.depth)).run (p.live sink w) = o' at h ⊢
  cases h with
  | accepted h => exact ⟨rfl, h⟩
  | rejected h =>
    obtain ⟨rfl, h⟩ := h
    exact ⟨rfl, h⟩

end Parser

namespace Source

/-- Check a whole source and hand every diagnostic over to a sink as soon as it is found, the
verdict last: the syntax error, if there is one, and the state that the sink is left in. -/
def checkLive (s : Source) (limits : Limits) (sink : ω → Diagnostic → ω) (w : ω) :
    Option SyntaxError × ω :=
  let outcome :=
    (Grammar.program limits.nesting).run (LiveParser.start sink w s.chars limits.tokenLength)
  let verdict := outcome.violation?.map (SyntaxError.ofViolation s)
  (verdict, sink outcome.state.state (verdictDiagnostic verdict))

/-- Whatever the sink is, the verdict is that of the check, and the sink is given what the check
reports, one after the other. -/
theorem checkLive_eq (s : Source) (limits : Limits) (sink : ω → Diagnostic → ω) (w : ω) :
    s.checkLive limits sink w = ((s.check limits).1, (s.check limits).2.foldl sink w) := by
  obtain ⟨hverdict, hstate⟩ :=
    Parser.program_live sink w (Parser.start s.chars limits.tokenLength) limits.nesting
  have hstart : (Parser.start s.chars limits.tokenLength).live sink w =
      LiveParser.start sink w s.chars limits.tokenLength := rfl
  rw [hstart] at hverdict hstate
  have hfirst : (s.checkLive limits sink w).1 = (s.check limits).1 :=
    congrArg (Option.map (SyntaxError.ofViolation s)) hverdict
  refine Prod.ext hfirst ?_
  rw [check_snd, List.foldl_append, List.foldl_cons, List.foldl_nil, ← hfirst]
  exact congrArg (fun p : LiveParser sink s.chars limits.tokenLength =>
    sink p.state (verdictDiagnostic (s.checkLive limits sink w).1)) hstate

end Source

end Recognizer
