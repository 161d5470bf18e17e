/-
  This file defines membership in a set of characters that is
  given as a list of ranges of code points.

  Key definitions include:
    * `inRanges`
-/

namespace TracePlayer

/-
  Whether the code point of a character lies in one of the
  ranges, ends included.
-/
def inRanges
    (ranges : List (Nat × Nat))
    (c : Char) : Bool :=
  ranges.any fun range =>
    range.1 ≤ c.toNat && c.toNat ≤ range.2

end TracePlayer
