import Recognizer.Limits
import Recognizer.Text.Position

/-!
# Source texts

A source is a text made ready for reading: carriage returns are dropped, so that every
line ends in a line feed alone, and NUL, which marks the end, does not occur in it. Two end
marks count towards its length and can be read past its last character.

Places in a source are given by offset, by line and column, or by a span of UTF-8 bytes;
`lineStart` is what ties the three together.
-/

namespace Recognizer

/-- The character that marks the end of a source. -/
def endMark : Char := '\x00'

/-- Why a text was refused as a source. -/
inductive SourceError where
  /-- The source would have `length` characters, end marks included. -/
  | tooLong (length limit : Nat)
  /-- The text holds the end mark, first at this line and column. -/
  | embeddedEndMark (line column : Nat)
  deriving DecidableEq, Repr

/-- The message for a refused text. -/
def SourceError.message : SourceError → String
  | tooLong length limit =>
    "source text is too long: " ++ toString length ++ " characters, the limit is " ++
      toString limit
  | embeddedEndMark line column =>
    "source text contains the reserved end-of-source character at " ++ toString line ++ ":" ++
      toString column

/-- A piece of a source in UTF-8 bytes. -/
structure Span where
  /-- Number of bytes before the piece. -/
  offset : Nat
  /-- Number of bytes in the piece. -/
  length : Nat
  deriving DecidableEq, Repr, Inhabited

/-- A text that is ready for reading. -/
structure Source where
  /-- The characters of the text. -/
  chars : List Char
  /-- The end mark does not occur in the text. -/
  endMark_notMem : endMark ∉ chars
  /-- Carriage returns have been dropped. -/
  return_notMem : '\r' ∉ chars

/-- Number of UTF-8 bytes of a piece of text. -/
def byteLength (cs : List Char) : Nat :=
  (cs.map Char.utf8Size).foldr (· + ·) 0

/-- Number of characters in the first `n` lines, each with its line feed. -/
def lineStart : Nat → List Char → Nat
  | 0, _ => 0
  | _ + 1, [] => 0
  | n + 1, c :: cs => 1 + lineStart (if c = '\n' then n else n + 1) cs

namespace Source

/-- The characters of a text without its carriage returns. -/
def withoutReturns (raw : String) : List Char :=
  raw.toList.filter (· != '\r')

/-- No carriage return is left. -/
theorem return_notMem_withoutReturns (raw : String) : '\r' ∉ withoutReturns raw := by
  simp [withoutReturns]

/-- Make a text ready for reading. The length is checked before the end mark. -/
def prepare (raw : String) (limits : Limits) : Except SourceError Source :=
  let chars := withoutReturns raw
  if limits.sourceLength < chars.length + 2 then
    .error (.tooLong (chars.length + 2) limits.sourceLength)
  else if h : endMark ∈ chars then
    let place := Position.start.advance (chars.takeWhile (· != endMark))
    .error (.embeddedEndMark place.line place.column)
  else
    .ok ⟨chars, h, return_notMem_withoutReturns raw⟩

/-- A source is determined by its characters. -/
@[ext] theorem ext {s t : Source} (h : s.chars = t.chars) : s = t := by
  obtain ⟨cs, _, _⟩ := s
  obtain ⟨ds, _, _⟩ := t
  dsimp only at h
  subst h
  rfl

/-- A text is accepted exactly if it is not too long and free of the end mark, and then it is read
without its carriage returns. -/
theorem prepare_eq_ok_iff {raw : String} {limits : Limits} {s : Source} :
    prepare raw limits = .ok s ↔
      s.chars.length + 2 ≤ limits.sourceLength ∧ s.chars = withoutReturns raw := by
  constructor
  · intro h
    unfold prepare at h
    dsimp only at h
    split at h
    · cases h
    · next hl =>
      split at h
      · cases h
      · cases h
        exact ⟨Nat.not_lt.1 hl, rfl⟩
  · rintro ⟨hl, hc⟩
    have hmark := s.endMark_notMem
    rw [hc] at hl hmark
    unfold prepare
    dsimp only
    rw [if_neg (Nat.not_lt.2 hl), dif_neg hmark]
    exact congrArg Except.ok (Source.ext hc.symm)

/-- The text itself. -/
def text (s : Source) : String :=
  String.ofList s.chars

/-- Number of characters, the two end marks included. -/
def length (s : Source) : Nat :=
  s.chars.length + 2

/-- Whether there is nothing but the end marks. -/
def isEmpty (s : Source) : Bool :=
  s.chars.isEmpty

/-- The character at an offset; from the end on it is the end mark. -/
def charAt (s : Source) (offset : Nat) : Char :=
  s.chars.getD offset endMark

/-- The characters from `first` up to but not including `last`, end marks included. Offsets
that do not delimit a piece give the empty text. -/
def slice (s : Source) (first last : Nat) : String :=
  if first ≤ last ∧ last ≤ s.length then
    String.ofList (((s.chars ++ [endMark, endMark]).drop first).take (last - first))
  else ""

/-- The text of a line without its line feed; lines count from one. -/
def lineText (s : Source) (line : Nat) : Option String :=
  if line = 0 ∨ s.chars.count '\n' < line - 1 then none
  else some (String.ofList ((s.chars.drop (lineStart (line - 1) s.chars)).takeWhile (· != '\n')))

/-- The bytes of `count` characters from a line and column on, both from one. What lies
beyond the text is cut off, and a column beyond its line goes on into the lines after it. -/
def span (s : Source) (line column count : Nat) : Span :=
  let before := lineStart (line - 1) s.chars + (column - 1)
  ⟨byteLength (s.chars.take before), byteLength ((s.chars.drop before).take count)⟩

end Source

end Recognizer
