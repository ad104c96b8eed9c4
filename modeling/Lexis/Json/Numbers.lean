import Lexis.Binary64.Rounding
import Lexis.Binary64.Style
import Lexis.Json.Input

/-!
# Reading JSON numbers

A number whose value is wanted is read as an integer if it is written as one and
fits in 64 bits, and as a binary64 number otherwise.

**The reading is fast rather than exact.**  Digits are gathered into a 64-bit
significand; digits that no longer fit are dropped, and the exponent makes up
for their places.  The significand is rounded once, and once more when it is
multiplied or divided by the power of ten.  `Json.skipNumber` passes over a
number without asking whether it is in range.
-/

namespace Lexis

namespace Json

/-- The value of a number. -/
inductive Number where
  | integer (value : Int)
  | float (value : Binary64)
deriving DecidableEq

/-! ### Significands -/

/-- Appends digits to a significand for as long as it stays below `2 ^ 64`.
Gives the digits that no longer fit, too. -/
def gather (significand : Nat) : List Char → Nat × List Char
  | [] => (significand, [])
  | c :: digits =>
    let longer := 10 * significand + Decimal.digitValue c
    if longer < Nat.pow 2 64 then gather longer digits else (significand, c :: digits)

/-- The power of ten, rounded. -/
def powerOfTen (exponent : Nat) : Binary64 := .ofDecimal ⟨1, exponent⟩

/-- The largest power of ten in range is `10 ^ 308`. -/
def widestPower : Nat := 308

/-- Divides by a power of ten, in steps of powers that are in range.  Once zero
is reached the steps that are left change nothing. -/
def scaleDown (x : Binary64) (places : Nat) : Binary64 :=
  if _wide : widestPower < places then
    if x.isZero then x else scaleDown (x.div (powerOfTen widestPower)) (places - widestPower)
  else x.div (powerOfTen places)
termination_by places
decreasing_by exact Nat.sub_lt (Nat.zero_lt_of_lt _wide) (by decide)

/-- A significand times a power of ten, if it is in range. -/
def scale (significand : Nat) (exponent : Int) : Option Binary64 :=
  let x := Binary64.ofRatio significand 1
  if exponent < 0 then some (scaleDown x (-exponent).toNat)
  else if widestPower < exponent then if x.isZero then some x else none
  else
    let y := x.mul (powerOfTen exponent.toNat)
    if y.isFinite then some y else none

/-! ### Reading -/

/-- The digits at the start of an input. -/
def digits (i : Input) : List Char := i.rest.takeWhile Char.isDigit

/-- A number with its sign, from significand and exponent. -/
def finish (negative : Bool) (significand : Nat) (exponent : Int) (i : Input) :
    Except Error (Number × Input) :=
  match scale significand exponent with
  | some x => .ok (.float (if negative then x.neg else x), i)
  | none => .error (i.errorSeen .numberOutOfRange)

/-- The largest exponent that is counted. -/
def exponentLimit : Nat := Nat.pow 2 31 - 1

/-- The number of digits up to and with the one that takes an exponent over the
limit. -/
def overflowLength? (digits : List Char) : Option Nat :=
  (List.range (digits.length + 1)).find? fun n => exponentLimit < Decimal.ofDigits (digits.take n)

/-- Reads an exponent after its letter. -/
def readExponent (negative : Bool) (significand : Nat) (exponent : Int) (i : Input) :
    Except Error (Number × Input) :=
  let down := i.peek = some '-'
  let i := if down || i.peek = some '+' then i.next else i
  match i.peek with
  | none => .error (i.errorSeen .endInValue)
  | some c =>
    if c.isDigit then
      let written := digits i
      let after := i.skip written.length
      match overflowLength? written with
      | some n =>
        if !down && significand ≠ 0 then .error ((i.skip n).errorSeen .numberOutOfRange)
        else .ok (.float (if negative then Binary64.zero.neg else .zero), after)
      | none =>
        let power : Int := Decimal.ofDigits written
        finish negative significand (if down then exponent - power else exponent + power) after
    else .error (i.errorNext .invalidNumber)

/-- Reads what may follow a significand and the exponent it has so far. -/
def readTail (negative : Bool) (significand : Nat) (exponent : Int) (i : Input) :
    Except Error (Number × Input) :=
  if i.peek = some 'e' || i.peek = some 'E' then readExponent negative significand exponent i.next
  else finish negative significand exponent i

/-- Reads the digits after a point.  Digits that do not fit are dropped without
a change of the exponent. -/
def readFraction (negative : Bool) (significand : Nat) (exponent : Int) (i : Input) :
    Except Error (Number × Input) :=
  let written := digits i
  let after := i.skip written.length
  if written.isEmpty then
    .error (if i.peek.isNone then i.errorSeen .endInValue else i.errorNext .invalidNumber)
  else
    let (longer, dropped) := gather significand written
    readTail negative longer (exponent - (written.length - dropped.length : Nat)) after

/-- Reads what follows the digits in front of a point.  Without a point or an
exponent they are an integer, if none was dropped and they are not zero with a
minus sign or too far below zero. -/
def readAfterWhole (negative : Bool) (significand dropped : Nat) (i : Input) :
    Except Error (Number × Input) :=
  if i.peek = some '.' then readFraction negative significand dropped i.next
  else if i.peek = some 'e' || i.peek = some 'E' || dropped ≠ 0 then
    readTail negative significand dropped i
  else if !negative then .ok (.integer significand, i)
  else if significand = 0 || Nat.pow 2 63 < significand then finish negative significand 0 i
  else .ok (.integer (-significand), i)

/-- Reads a number. -/
def readNumber (i : Input) : Except Error (Number × Input) :=
  let negative := i.peek = some '-'
  let i := if negative then i.next else i
  match i.peek with
  | none => .error (i.errorSeen .endInValue)
  | some c =>
    if c = '0' then
      if i.next.peek.any Char.isDigit then .error (i.next.errorNext .invalidNumber)
      else readAfterWhole negative 0 0 i.next
    else if c.isDigit then
      let written := digits i
      let (significand, dropped) := gather 0 written
      readAfterWhole negative significand dropped.length (i.skip written.length)
    else .error (i.errorNext .invalidNumber)

/-! ### Skipping -/

/-- Passes over an exponent, if there is one. -/
def skipExponent (i : Input) : Except Error Input :=
  if i.peek = some 'e' || i.peek = some 'E' then
    let i := i.next
    let i := if i.peek = some '+' || i.peek = some '-' then i.next else i
    if (digits i).isEmpty then .error (i.errorNext .invalidNumber)
    else .ok (i.skip (digits i).length)
  else .ok i

/-- Passes over what may follow the digits in front of a point. -/
def skipFraction (i : Input) : Except Error Input :=
  if i.peek = some '.' then
    let i := i.next
    if (digits i).isEmpty then .error (i.errorNext .invalidNumber)
    else skipExponent (i.skip (digits i).length)
  else skipExponent i

/-- Passes over a number after its sign. -/
def skipUnsigned (i : Input) : Except Error Input :=
  if i.peek = some '0' then
    if i.next.peek.any Char.isDigit then .error (i.next.errorNext .invalidNumber)
    else skipFraction i.next
  else if (digits i).isEmpty then .error (i.errorNext .invalidNumber)
  else skipFraction (i.skip (digits i).length)

/-- Passes over a number. -/
def skipNumber (i : Input) : Except Error Input :=
  skipUnsigned (if i.peek = some '-' then i.next else i)

theorem length_skipExponent {i j : Input} (h : skipExponent i = .ok j) :
    j.rest.length ≤ i.rest.length := by
  unfold skipExponent at h
  dsimp only at h
  repeat' split at h
  all_goals simp only [reduceCtorEq, Except.ok.injEq] at h
  all_goals subst h
  all_goals simp only [Input.rest_skip, Input.rest_next, List.length_drop, Nat.le_refl]
  all_goals omega

theorem length_skipFraction {i j : Input} (h : skipFraction i = .ok j) :
    j.rest.length ≤ i.rest.length := by
  unfold skipFraction at h
  dsimp only at h
  split at h
  · split at h
    · simp at h
    · have := length_skipExponent h
      simp at this
      omega
  · exact length_skipExponent h

theorem length_skipUnsigned {i j : Input} (h : skipUnsigned i = .ok j) :
    j.rest.length < i.rest.length := by
  unfold skipUnsigned at h
  split at h
  · next zero =>
    have : i.rest ≠ [] := by rintro empty; simp [Input.peek, empty] at zero
    have := List.length_pos_iff.mpr this
    split at h
    · simp at h
    · have := length_skipFraction h
      simp at this
      omega
  · split at h
    · simp at h
    · next some_digits =>
      have after := length_skipFraction h
      have nonempty : (digits i).length ≠ 0 := by simpa using some_digits
      have enough : (digits i).length ≤ i.rest.length := (List.takeWhile_prefix _).length_le
      simp only [Input.rest_skip, List.length_drop] at after
      omega

theorem length_skipNumber {i j : Input} (h : skipNumber i = .ok j) :
    j.rest.length < i.rest.length := by
  have := length_skipUnsigned h
  split at this
  · simp at this
    omega
  · exact this

end Json

end Lexis
