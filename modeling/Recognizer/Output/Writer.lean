import Recognizer.Text.Utf8

/-!
# Writers

A writer is a destination of bytes, given by what can be done to some states; several writers
may share one state. One write takes some front part of the data, or fails; writing all of the
data goes on with what was not taken. A bounded output takes a fixed number of bytes altogether
and then no more.
-/

namespace Recognizer

/-- Why a destination did not do what it was asked to. -/
inductive OutputError where
  /-- The destination takes no more data. -/
  | closed
  /-- Buffered data could not be passed on. -/
  | flushFailed
  /-- The destination took none of the data it was offered. -/
  | nothingTaken
  /-- Any other reason, in the words of the destination. -/
  | other (reason : String)
  deriving DecidableEq, Repr

/-- The words for a failure. -/
def OutputError.message : OutputError → String
  | closed => "closed"
  | flushFailed => "flush failed"
  | nothingTaken => "failed to write whole buffer"
  | other reason => reason

/-- A destination of bytes whose states, and perhaps those of other destinations, are `ω`. -/
structure Writer (ω : Type) where
  /-- Offer some bytes: how many of them were taken, from the front, or why none were. -/
  write : ω → List UInt8 → Except OutputError Nat × ω
  /-- Pass buffered data on: why that failed, if it did. -/
  flush : ω → Option OutputError × ω

namespace Writer

variable {ω α β : Type}

/-- Write all of the bytes, in as many writes as it takes; the first failure ends it. -/
def writeAll (out : Writer ω) (w : ω) (bytes : List UInt8) : Option OutputError × ω :=
  if h : bytes = [] then (none, w)
  else
    match out.write w bytes with
    | (.error e, w) => (some e, w)
    | (.ok 0, w) => (some .nothingTaken, w)
    | (.ok (taken + 1), w) =>
      have : (bytes.drop (taken + 1)).length < bytes.length := by
        have := List.length_pos_iff.2 h
        rw [List.length_drop]
        omega
      out.writeAll w (bytes.drop (taken + 1))
  termination_by bytes.length

/-- Write several pieces of text, one after the other; the first failure ends it. -/
def writePieces (out : Writer ω) (w : ω) : List String → Option OutputError × ω
  | [] => (none, w)
  | piece :: pieces =>
    match out.writeAll w (Text.utf8 piece) with
    | (some e, w) => (some e, w)
    | (none, w) => out.writePieces w pieces

/-- Write several pieces of text and end the line. -/
def writeLine (out : Writer ω) (w : ω) (pieces : List String) : Option OutputError × ω :=
  out.writePieces w (pieces ++ ["\n"])

/-- A destination as the first of two that have nothing in common. -/
def onFirst (out : Writer α) : Writer (α × β) where
  write w bytes :=
    let result := out.write w.1 bytes
    (result.1, result.2, w.2)
  flush w :=
    let result := out.flush w.1
    (result.1, result.2, w.2)

/-- A destination as the second of two that have nothing in common. -/
def onSecond (out : Writer β) : Writer (α × β) where
  write w bytes :=
    let result := out.write w.2 bytes
    (result.1, w.1, result.2)
  flush w :=
    let result := out.flush w.2
    (result.1, w.1, result.2)

end Writer

/-- A destination with room for a number of bytes, or for any number. -/
structure BoundedOutput where
  /-- Number of bytes that are taken altogether; `none` means all. -/
  capacity : Option Nat := none
  /-- Whether passing data on fails. -/
  failsToFlush : Bool := false
  /-- The bytes taken so far. -/
  written : Array UInt8 := #[]
  deriving Repr

namespace BoundedOutput

/-- Number of the offered bytes that there is room for. -/
def accepted (w : BoundedOutput) (offered : Nat) : Nat :=
  match w.capacity with
  | none => offered
  | some capacity => min offered (capacity - w.written.size)

/-- Writing to a bounded output: what there is room for is taken. -/
def writer : Writer BoundedOutput where
  write w bytes :=
    let n := w.accepted bytes.length
    if n = 0 ∧ bytes ≠ [] then (.error .closed, w)
    else (.ok n, { w with written := w.written ++ bytes.take n })
  flush w := (if w.failsToFlush then some .flushFailed else none, w)

end BoundedOutput

end Recognizer
