/-!
# Ranges of code points

A property of characters that has no short description is kept as a table: the
ranges of code points that have it, in ascending order, each with both its ends.
-/

namespace Lexis

/-- Ranges of code points, each given by its first and last one. -/
abbrev CodeRanges := Array (Nat × Nat)

/-- Whether a character lies in one of the ranges. -/
def CodeRanges.has (ranges : CodeRanges) (c : Char) : Bool :=
  ranges.any fun range => range.1 ≤ c.toNat && c.toNat ≤ range.2

end Lexis
