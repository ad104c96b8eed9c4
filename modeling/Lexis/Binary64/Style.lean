import Lexis.Binary64.Shortest

/-!
# Styles of writing numbers

Every output writes shortest digits and differs in a few decisions: which of
two equally near decimals is taken, for which numbers the point is moved into
place rather than an exponent written, and what marks a whole number or a
positive exponent.  A `Style` holds these decisions for one output.
-/

namespace Lexis

/-- How one output writes numbers. -/
structure Style where
  /-- The least and the greatest power of ten of the leading digit that is
  written without an exponent; without bounds, every one is. -/
  positional : Option (Int × Int)
  /-- Which of two equally near decimals is written. -/
  tie : Binary64.Tie
  /-- What a whole number ends in. -/
  wholeMark : List Char
  /-- What stands before an exponent that is not negative. -/
  plusMark : List Char

namespace Style

/-- **Plain**: never an exponent, and nothing after a whole number. -/
def plain : Style := ⟨none, .up, [], []⟩

/-- **Interchange**, the style of a JSON number: positional from `1e-5` up to
`1e16`, and a whole number keeps its point. -/
def interchange : Style := ⟨some (-5, 15), .toEven, ['.', '0'], ['+']⟩

/-- **Exact**, the style of a record's text: positional from `1e-4` up to
`1e16`, and a whole number keeps its point. -/
def exact : Style := ⟨some (-4, 15), .up, ['.', '0'], []⟩

/-- A decimal in a style. -/
def write (s : Style) (d : Decimal) : List Char :=
  match s.positional with
  | none => d.positional s.wholeMark
  | some (least, greatest) =>
    if least ≤ d.leading ∧ d.leading ≤ greatest then d.positional s.wholeMark
    else d.scientific s.plusMark

end Style

namespace Binary64

/-- A number in a style.  The sign of zero is written, and what is no number
has none. -/
def write (s : Style) (x : Binary64) : List Char :=
  if x.isNaN then "NaN".toList
  else
    let sign := if x.negative then ['-'] else []
    sign ++ if x.isInfinite then "inf".toList else s.write (shortest s.tie x.magnitude)

end Binary64

end Lexis
