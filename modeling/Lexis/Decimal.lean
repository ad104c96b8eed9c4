/-!
# Decimals

A decimal is a natural number scaled by a power of ten.  It is what a numeral
denotes exactly, before any rounding, and what a number is written from.

* **Reading** (`Decimal.ofNumeral?`) takes digits with at most one point among
  them and at least one digit in all; the digits may stand on either side of
  the point alone.
* **Writing** is either positional, with every zero up to the point, or
  scientific, with the point after the leading digit and the exponent beside it.
-/

namespace Lexis

/-- The number `significand * 10 ^ exponent`. -/
structure Decimal where
  significand : Nat
  exponent : Int
deriving DecidableEq, Inhabited

namespace Decimal

/-! ### Digits -/

/-- The value of a digit. -/
def digitValue (c : Char) : Nat := c.toNat - '0'.toNat

/-- The number that a list of digits denotes, most significant digit first. -/
def ofDigits (digits : List Char) : Nat := digits.foldl (fun n c => 10 * n + digitValue c) 0

@[simp] theorem ofDigits_nil : ofDigits [] = 0 := rfl

theorem ofDigits_concat (digits : List Char) (c : Char) :
    ofDigits (digits ++ [c]) = 10 * ofDigits digits + digitValue c := by
  simp [ofDigits]

/-- The digits of the significand, most significant first. -/
def digits (d : Decimal) : List Char := Nat.toDigits 10 d.significand

/-- The power of ten of the leading digit. -/
def leading (d : Decimal) : Int := d.exponent + d.digits.length - 1

/-! ### Reading -/

/-- What a numeral denotes: digits, with at most one point before, between or
after them.  A text without a digit or with any other character is no numeral. -/
def ofNumeral? (text : List Char) : Option Decimal :=
  let whole := text.takeWhile Char.isDigit
  match text.dropWhile Char.isDigit with
  | [] => if whole.isEmpty then none else some ⟨ofDigits whole, 0⟩
  | point :: fraction =>
    if point = '.' ∧ fraction.all Char.isDigit ∧ !(whole ++ fraction).isEmpty then
      some ⟨ofDigits (whole ++ fraction), -fraction.length⟩
    else none

/-! ### Writing -/

/-- `n` zeros. -/
def zeros (n : Nat) : List Char := List.replicate n '0'

/-- The number without an exponent.  A whole number ends in `wholeMark`. -/
def positional (d : Decimal) (wholeMark : List Char) : List Char :=
  let places := (-d.exponent).toNat
  let whole := d.digits.length - places
  if 0 ≤ d.exponent then d.digits ++ zeros d.exponent.toNat ++ wholeMark
  else if 0 < whole then d.digits.take whole ++ '.' :: d.digits.drop whole
  else '0' :: '.' :: (zeros (places - d.digits.length) ++ d.digits)

/-- The number as a leading digit, the other digits after a point, and an
exponent, in front of which `plusMark` stands unless it is negative. -/
def scientific (d : Decimal) (plusMark : List Char) : List Char :=
  let fraction := d.digits.drop 1
  let point := if fraction.isEmpty then [] else ['.']
  let sign := if d.leading < 0 then ['-'] else plusMark
  d.digits.take 1 ++ point ++ fraction ++ 'e' :: (sign ++ Nat.toDigits 10 d.leading.natAbs)

end Decimal

end Lexis
