import Recognizer.Output.Writer

/-!
# Spools

A dump goes to two destinations, which may be one and the same file. What is written to each is
gathered and sent on in larger pieces, so the order in which the pieces of both are sent decides
what such a file holds in the end. A spool gathers for both and keeps that order.
-/

namespace Recognizer

/-- The destinations of a dump. -/
inductive Channel where
  /-- Where the tokens go. -/
  | tokens
  /-- Where the diagnostics go. -/
  | errors
  deriving DecidableEq, Repr

/-- What was written to the destinations of a dump. -/
structure Spool where
  /-- The bytes gathered for the tokens' destination. -/
  tokens : Array UInt8 := #[]
  /-- The bytes gathered for the diagnostics' destination. -/
  errors : Array UInt8 := #[]
  /-- The pieces sent on, in order. -/
  sent : Array (Channel × List UInt8) := #[]

namespace Spool

/-- Number of bytes that are gathered for one destination at most. -/
def capacity : Nat := 8192

/-- Add bytes to those gathered: the pieces to send on, and what is gathered then. Bytes that do
not fit send on what was gathered before; bytes that never fit are sent on themselves. -/
def gather (held : Array UInt8) (bytes : List UInt8) : List (List UInt8) × Array UInt8 :=
  let fits := held.size + bytes.length ≤ capacity
  let before := if fits then [] else [held.toList]
  let held := if fits then held else #[]
  if bytes.length < capacity then (before, held ++ bytes) else (before ++ [bytes], held)

/-- Gathering loses nothing and keeps the order: what is sent on, followed by what is held then, is
what was held followed by what was added. -/
theorem flatten_gather (held : Array UInt8) (bytes : List UInt8) :
    (gather held bytes).1.flatten ++ (gather held bytes).2.toList = held.toList ++ bytes := by
  unfold gather
  by_cases hs : bytes.length < capacity
  · by_cases hf : held.size + bytes.length ≤ capacity <;> simp [hs, hf]
  · by_cases hf : held.size + bytes.length ≤ capacity
    · have hh : held = #[] := Array.eq_empty_of_size_eq_zero (by omega)
      simp [hs, hh]
    · simp [hs, hf]

/-- Write to one of the destinations. -/
def add (s : Spool) (c : Channel) (bytes : List UInt8) : Spool :=
  match c with
  | .tokens =>
    let (pieces, tokens) := gather s.tokens bytes
    { s with tokens, sent := s.sent ++ pieces.map (c, ·) }
  | .errors =>
    let (pieces, errors) := gather s.errors bytes
    { s with errors, sent := s.sent ++ pieces.map (c, ·) }

/-- Send on what is gathered for one of the destinations. -/
def pass (s : Spool) (c : Channel) : Spool :=
  match c with
  | .tokens => { s with tokens := #[], sent := s.sent.push (c, s.tokens.toList) }
  | .errors => { s with errors := #[], sent := s.sent.push (c, s.errors.toList) }

/-- Writing to one of the destinations. A spool takes everything. -/
def writer (c : Channel) : Writer Spool where
  write s bytes := (.ok bytes.length, s.add c bytes)
  flush s := (none, s.pass c)

end Spool

end Recognizer
