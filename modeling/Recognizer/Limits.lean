/-!
# Limits

The bounds a run works under: how long a source may be, how long a word or numeral may
be, and how many constructs may be open inside one another.
-/

namespace Recognizer

/-- The bounds of one run. -/
structure Limits where
  /-- Largest accepted length of a source, its two end marks included. -/
  sourceLength : Nat := 10000
  /-- Largest number of characters in a word or numeral. -/
  tokenLength : Nat := 20
  /-- Largest number of constructs open inside one another. -/
  nesting : Nat := 256
  deriving DecidableEq, Repr, Inhabited

end Recognizer
