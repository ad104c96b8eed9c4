import Lexis.Binary64
import Lexis.Decimal

/-!
# Rounding to binary64

`Binary64.nearest n d` is the magnitude closest to the fraction `n / d`.  The
fraction is compared with the midpoint between two neighbouring magnitudes by
cross multiplication, so nothing is lost before the one decision that rounds.
A tie goes to the even magnitude, which is the one with the even significand,
because the last bit of both is the same.

The magnitude after the last finite one has the value that it would have if the
format went on, so a fraction that rounds past the end of the format ends at
infinity by the same comparison; `min` brings back the ones that lie further
out.
-/

namespace Lexis

namespace Binary64

/-- The largest magnitude whose value is at most `q` units.  Up to the first
shift magnitudes count the units; after that each shift adds one exponent. -/
def floorMagnitude (q : Nat) : Nat :=
  let shift := q.log2 - 52
  shift * Nat.pow 2 52 + q / Nat.pow 2 shift

/-- The magnitude nearest to `n / d`, a tie going to the even one. -/
def nearest (n d : Nat) : Nat :=
  let below := floorMagnitude (n * Nat.pow 2 1074 / d)
  let value := 2 * (n * Nat.pow 2 1074)
  let middle := (units below + units (below + 1)) * d
  let closest :=
    if value < middle then below
    else if middle < value then below + 1
    else if below % 2 = 0 then below else below + 1
  min closest infinite

theorem nearest_lt (n d : Nat) : nearest n d < Nat.pow 2 63 :=
  Nat.lt_of_le_of_lt (Nat.min_le_right _ _) infinite_lt

/-- The positive number nearest to `n / d`. -/
def ofRatio (n d : Nat) : Binary64 := ⟨false, nearest n d, nearest_lt n d⟩

/-- The positive number nearest to a decimal. -/
def ofDecimal (d : Decimal) : Binary64 :=
  ofRatio (d.significand * Nat.pow 10 d.exponent.toNat) (Nat.pow 10 (-d.exponent).toNat)

/-! ### Arithmetic -/

/-- The rounded product of two positive finite numbers. -/
def mul (x y : Binary64) : Binary64 :=
  ofRatio (units x.magnitude * units y.magnitude) (Nat.pow 2 2148)

/-- The rounded quotient of two positive finite numbers. -/
def div (x y : Binary64) : Binary64 :=
  ofRatio (units x.magnitude) (units y.magnitude)

end Binary64

end Lexis
