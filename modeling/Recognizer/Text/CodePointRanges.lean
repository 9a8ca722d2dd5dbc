/-!
# Ranges of code points

A property of characters is stored as its inclusive ranges of code points in
ascending order. So membership can stop at the first range that lies beyond the
code point.
-/

namespace Recognizer.Text

/-- Whether a code point lies in one of the ascending inclusive ranges. -/
def inRanges : List (Nat × Nat) → Nat → Bool
  | [], _ => false
  | (first, last) :: ranges, n =>
    if n < first then false
    else if n ≤ last then true
    else inRanges ranges n

end Recognizer.Text
