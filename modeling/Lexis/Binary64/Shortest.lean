import Lexis.Binary64
import Lexis.Decimal

/-!
# Shortest decimals

A number is written with the fewest digits that still read back as the same
number, and of several such decimals with the nearest.  Two can be equally near
(between 893404160511003.2 and 893404160511003.3 lies a number exactly in the
middle); which of them is taken is a `Tie` rule that the caller chooses.

All decimals with a given last place form a grid.  **The coarsest grid that has
a point in the interval of values that round to the number decides**: a point
of a coarser grid has fewer digits, and the point that is taken on it is one of
the two neighbours of the exact value.  The search walks from coarse grids to
fine ones and ends because every finite number is itself a point of the grid of
`10 ^ -1074`; the grids are numbered from that one up, so that the walk is
structural.

Everything is counted in halves of `10 ^ -1074`, in which the exact value, its
neighbours and the midpoints between them are natural numbers.
-/

namespace Lexis

namespace Binary64

/-- Which of two equally near decimals is taken. -/
inductive Tie where
  /-- The one with the even last digit. -/
  | toEven
  /-- The larger one. -/
  | up
deriving DecidableEq

/-- The values that round to one number, in halves of `10 ^ -1074`. -/
structure Interval where
  /-- The lower end. -/
  lower : Nat
  /-- The upper end. -/
  upper : Nat
  /-- The number itself. -/
  value : Nat
  /-- Whether the ends round to the number too. -/
  closed : Bool

namespace Interval

/-- Whether a value rounds to the number. -/
def covers (i : Interval) (v : Nat) : Bool :=
  if i.closed then i.lower ≤ v ∧ v ≤ i.upper else i.lower < v ∧ v < i.upper

/-- The interval of a finite magnitude: from the midpoint below it to the
midpoint above it, with the ends if ties go to it. -/
def ofMagnitude (m : Nat) : Interval where
  lower := (units (m - 1) + units m) * Nat.pow 5 1074
  upper := (units m + units (m + 1)) * Nat.pow 5 1074
  value := 2 * units m * Nat.pow 5 1074
  closed := m % 2 = 0

/-- The multiple of a grid's unit that lies nearest to the value. -/
def nearestMultiple (tie : Tie) (i : Interval) (unit : Nat) : Nat :=
  let below := i.value / unit
  let twice := 2 * i.value
  let middle := (2 * below + 1) * unit
  if twice < middle then below
  else if middle < twice then below + 1
  else match tie with
    | .toEven => if below % 2 = 0 then below else below + 1
    | .up => below + 1

/-- The point of the grid of the given number that stands for the value: the
nearer of the value's two neighbours if the interval covers it, else the other
one if the interval covers that. -/
def gridPoint? (tie : Tie) (i : Interval) (grid : Nat) : Option Nat :=
  let unit := 2 * Nat.pow 10 grid
  let below := i.value / unit
  let nearer := i.nearestMultiple tie unit
  let farther := if nearer = below then below + 1 else below
  if i.covers (nearer * unit) then some nearer
  else if i.covers (farther * unit) then some farther
  else none

/-- The decimal on the coarsest grid, among those up to the given one, that has
a point in the interval. -/
def decimal (tie : Tie) (i : Interval) : Nat → Decimal
  | 0 => ⟨i.value / 2, -1074⟩
  | grid + 1 =>
    match i.gridPoint? tie (grid + 1) with
    | some n => ⟨n, (grid + 1 : Nat) - 1074⟩
    | none => i.decimal tie grid

end Interval

/-- The decimal with the fewest digits that reads back as a finite magnitude.
The walk starts just above the last grid that can have a positive point in the
interval: `2 ^ 93` is less than `10 ^ 28`, so 93 binary digits make no more than
28 decimal ones. -/
def shortest (tie : Tie) (magnitude : Nat) : Decimal :=
  if magnitude = 0 then ⟨0, 0⟩
  else
    let i := Interval.ofMagnitude magnitude
    i.decimal tie (28 * i.upper.log2 / 93 + 1)

end Binary64

end Lexis
