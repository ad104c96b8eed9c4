/-!
# Binary64 numbers

The numbers of a lexer are the 64-bit binary floating-point numbers.  A number
is kept as its sign and its **magnitude**, the low 63 bits of its word.  Read
as a natural number the magnitude orders the numbers without sign: zero is
zero, the subnormal and normal numbers follow each other without a gap,
infinity comes after the last of them, and all that lies above infinity is not
a number.

`Binary64.units` gives the value of a finite magnitude, counted in units of
`2 ^ -1074`, the smallest positive number.  It is all that rounding and
writing need to know about the format, and it is a natural number, so both
are exact.
-/

namespace Lexis

/-- A 64-bit binary floating-point number. -/
structure Binary64 where
  negative : Bool
  /-- Exponent and fraction, read as one number. -/
  magnitude : Nat
  magnitude_lt : magnitude < Nat.pow 2 63 := by decide
deriving DecidableEq

namespace Binary64

/-! ### Magnitudes -/

/-- The magnitude of infinity: the largest exponent with no fraction. -/
def infinite : Nat := 0x7FF * Nat.pow 2 52

theorem infinite_lt : infinite < Nat.pow 2 63 := by decide

/-- The value of a finite magnitude, in units of `2 ^ -1074`.  A subnormal
number is its fraction; a normal one has the leading bit that its fraction
leaves out, and its exponent shifts it. -/
def units (magnitude : Nat) : Nat :=
  let exponent := magnitude / Nat.pow 2 52
  let fraction := magnitude % Nat.pow 2 52
  if exponent = 0 then fraction else (Nat.pow 2 52 + fraction) * Nat.pow 2 (exponent - 1)

@[simp] theorem units_zero : units 0 = 0 := rfl

/-! ### Kinds -/

/-- Whether this is no number at all. -/
def isNaN (x : Binary64) : Bool := infinite < x.magnitude

/-- Whether this is one of the two infinities. -/
def isInfinite (x : Binary64) : Bool := x.magnitude = infinite

/-- Whether this is a number with a value. -/
def isFinite (x : Binary64) : Bool := x.magnitude < infinite

/-- Whether this is one of the two zeros. -/
def isZero (x : Binary64) : Bool := x.magnitude = 0

/-- Positive zero. -/
def zero : Binary64 := ⟨false, 0, by decide⟩

instance : Inhabited Binary64 := ⟨zero⟩

/-- The number with the other sign. -/
def neg (x : Binary64) : Binary64 := { x with negative := !x.negative }

/-- Equality of numbers: the zeros are equal, and what is no number is equal to
nothing, itself included. -/
def equals (x y : Binary64) : Bool :=
  !x.isNaN && !y.isNaN && (decide (x = y) || x.isZero && y.isZero)

/-! ### Words -/

/-- The number with a given word. -/
def ofWord (word : UInt64) : Binary64 :=
  ⟨Nat.pow 2 63 ≤ word.toNat, word.toNat % Nat.pow 2 63, Nat.mod_lt _ (by decide)⟩

/-- The word of a number: the sign above the magnitude. -/
def toWord (x : Binary64) : UInt64 :=
  UInt64.ofNat (if x.negative then Nat.pow 2 63 + x.magnitude else x.magnitude)

theorem ofWord_toWord (x : Binary64) : ofWord x.toWord = x := by
  obtain ⟨negative, magnitude, h⟩ := x
  cases negative <;> simp [ofWord, toWord] at h ⊢ <;> omega

end Binary64

end Lexis
