import Lexis.Proofs.Json.Grammar
import Lexis.Proofs.Numerals

/-!
# Numbers in JSON

Every finite number is written as a JSON number that denotes it, the sign of zero
included (`Binary64.interchange`).

What a JSON number denotes is told by `Json.binary64?`: digits and exponent make a
decimal, exactly, which is rounded once and gets the sign.  The statement has the two
halves of the one about plain numerals, and two additions:

* **The digits in front of the point have no zero before them** unless they are one
  zero (`Decimal.whole_digits_take`), since the significand of a number other than zero is
  not zero.
* **A point and a zero behind a whole number change the decimal but not its value**
  (`Binary64.nearest_of_scaled`).
-/

namespace Lexis

namespace Json

/-! ### What a number denotes -/

/-- The power of ten that an exponent stands for, after its letter. -/
def exponentValue : List Char → Int
  | '-' :: digits => -Decimal.ofDigits digits
  | '+' :: digits => Decimal.ofDigits digits
  | digits => Decimal.ofDigits digits

/-- The decimal that a number without a sign stands for: a numeral, and an exponent
if a letter follows it. -/
def decimal? (text : List Char) : Option Decimal :=
  (Decimal.ofNumeral? (text.takeWhile isNumeralChar)).map fun d =>
    match text.dropWhile isNumeralChar with
    | [] => d
    | _ :: exponent => ⟨d.significand, d.exponent + exponentValue exponent⟩

/-- **The binary64 number that a number denotes**: its decimal, rounded, with its
sign. -/
def binary64? : List Char → Option Binary64
  | '-' :: text => (decimal? text).map fun d => (Binary64.ofDecimal d).neg
  | text => (decimal? text).map Binary64.ofDecimal

theorem binary64?_unsigned {text : List Char} (unsigned : text.head? ≠ some '-') :
    binary64? text = (decimal? text).map Binary64.ofDecimal := by
  unfold binary64?
  split
  · simp at unsigned
  · rfl

/-! ### Mantissas -/

/-- The text is a number without sign and exponent, and denotes the decimal. -/
inductive Mantissa : List Char → Decimal → Prop
  | whole {digits : List Char} (isWhole : Whole digits) :
      Mantissa digits ⟨Decimal.ofDigits digits, 0⟩
  | pointed {digits fraction : List Char} (isWhole : Whole digits) (nonempty : fraction ≠ [])
      (fractionDigits : ∀ x ∈ fraction, x.isDigit = true) :
      Mantissa (digits ++ '.' :: fraction)
        ⟨Decimal.ofDigits (digits ++ fraction), -fraction.length⟩

theorem Whole.isDigit {digits : List Char} (isWhole : Whole digits) :
    ∀ x ∈ digits, x.isDigit = true := by
  cases isWhole with
  | zero => exact List.forall_mem_singleton.mpr (by decide)
  | digits _ areDigits => exact areDigits

theorem Whole.ne_nil {digits : List Char} (isWhole : Whole digits) : digits ≠ [] := by
  cases isWhole <;> simp

namespace Mantissa

variable {text : List Char} {d : Decimal}

theorem numeric {sign exponent : List Char} (h : Mantissa text d) (signed : sign = [] ∨ sign = ['-'])
    (isExponent : Exponent exponent) : Numeric (sign ++ (text ++ exponent)) := by
  cases h with
  | whole isWhole => exact .intro signed isWhole .absent isExponent
  | pointed isWhole nonempty fractionDigits =>
    have isNumber := Numeric.intro signed isWhole (.present nonempty fractionDigits) isExponent
    simpa using isNumber

theorem numeral (h : Mantissa text d) : Numeral text d := by
  cases h with
  | whole isWhole => exact Decimal.numeral_of_digits isWhole.ne_nil isWhole.isDigit
  | pointed isWhole _ fractionDigits =>
    exact Decimal.numeral_of_point isWhole.ne_nil isWhole.isDigit fractionDigits rfl
      (Int.neg_neg _).symm

/-- A mantissa starts with a digit, so a minus sign in front of it is a sign. -/
theorem head?_ne (h : Mantissa text d) (behind : List Char) : (text ++ behind).head? ≠ some '-' := by
  have whole {digits : List Char} (isWhole : Whole digits) (behind : List Char) :
      (digits ++ behind).head? ≠ some '-' := by
    obtain ⟨c, digits, rfl⟩ := List.exists_cons_of_ne_nil isWhole.ne_nil
    rintro ⟨⟩
    exact absurd (isWhole.isDigit '-' List.mem_cons_self) (by decide)
  cases h with
  | whole isWhole => exact whole isWhole behind
  | pointed isWhole =>
    rw [List.append_assoc]
    exact whole isWhole _

theorem decimal? (h : Mantissa text d) : Json.decimal? text = some d := by
  have run := takeWhile_run h.numeral.isNumeralChar_of_mem (ends_nil _)
  have left := dropWhile_run h.numeral.isNumeralChar_of_mem (ends_nil _)
  rw [List.append_nil] at run left
  simp [Json.decimal?, run, left, h.numeral.ofNumeral?]

theorem decimal?_exponent (h : Mantissa text d) (exponent : List Char) :
    Json.decimal? (text ++ 'e' :: exponent) =
      some ⟨d.significand, d.exponent + exponentValue exponent⟩ := by
  have ends : Ends isNumeralChar ('e' :: exponent) := ends_cons (by decide) _
  have run := takeWhile_run h.numeral.isNumeralChar_of_mem ends
  have left := dropWhile_run h.numeral.isNumeralChar_of_mem ends
  simp [Json.decimal?, run, left, h.numeral.ofNumeral?]

end Mantissa

/-! ### Digits without a zero in front -/

/-- The digits of a number other than zero start with no zero. -/
theorem head?_toDigits {n : Nat} (nonzero : n ≠ 0) : (Nat.toDigits 10 n).head? ≠ some '0' := by
  induction n using Nat.strongRecOn with
  | ind n ih =>
    rw [Nat.toDigits_eq_if (by decide)]
    split
    · next small =>
      have single : ∀ n < 10, n ≠ 0 → [Nat.digitChar n].head? ≠ some '0' := by decide
      exact single n small nonzero
    · next large =>
      have front := ih (n / 10) (by omega) (by omega)
      obtain ⟨c, digits, split⟩ := List.exists_cons_of_ne_nil (Nat.toDigits_ne_nil (n := n / 10))
      rw [split] at front ⊢
      exact front

theorem whole_of_head? {digits : List Char} (nonempty : digits ≠ [])
    (areDigits : ∀ x ∈ digits, x.isDigit = true) (noZero : digits.head? ≠ some '0') :
    Whole digits := by
  obtain ⟨c, digits, rfl⟩ := List.exists_cons_of_ne_nil nonempty
  exact .digits (by simpa using noZero) areDigits

end Json

namespace Binary64

/-- Rounding sees the value of a fraction and not how it is written. -/
theorem nearest_of_scaled {n n' d d' k : Nat} (positive : 0 < k) (numerator : n' = n * k)
    (denominator : d' = d * k) : nearest n' d' = nearest n d := by
  subst numerator denominator
  unfold nearest
  dsimp only
  generalize Nat.pow 2 1074 = p
  have floor : n * k * p / (d * k) = n * p / d := by
    rw [Nat.mul_right_comm, Nat.mul_div_mul_right _ _ positive]
  rw [floor]
  generalize floorMagnitude (n * p / d) = below
  have value : 2 * (n * k * p) = 2 * (n * p) * k := by ring
  have middle : (units below + units (below + 1)) * (d * k) =
      (units below + units (below + 1)) * d * k := (Nat.mul_assoc ..).symm
  rw [value, middle]
  simp only [Nat.mul_lt_mul_right positive]

theorem ofDecimal_of_scaled {d d' : Decimal} {k : Nat} (positive : 0 < k)
    (numerator : d'.significand * Nat.pow 10 d'.exponent.toNat =
      d.significand * Nat.pow 10 d.exponent.toNat * k)
    (denominator : Nat.pow 10 (-d'.exponent).toNat = Nat.pow 10 (-d.exponent).toNat * k) :
    ofDecimal d' = ofDecimal d := by
  apply ext_magnitude
  · rfl
  · rw [magnitude_ofDecimal, magnitude_ofDecimal]
    exact nearest_of_scaled positive numerator denominator

end Binary64

namespace Decimal

open Json

variable {d : Decimal}

/-! ### Positional numbers -/

/-- Digits of a number other than zero may stand in front of a point, with others
behind them. -/
theorem whole_digits_append (nonzero : d.significand ≠ 0) {more : List Char}
    (areDigits : ∀ x ∈ more, x.isDigit = true) : Whole (d.digits ++ more) := by
  have nonempty : d.digits ≠ [] := Nat.toDigits_ne_nil
  refine whole_of_head? (by simp [nonempty]) ?_ ?_
  · exact List.forall_mem_append.mpr ⟨d.isDigit_of_mem_digits, areDigits⟩
  · rw [List.head?_append, Option.or_of_isSome (by simpa using nonempty)]
    exact head?_toDigits nonzero

theorem whole_digits_take (nonzero : d.significand ≠ 0) {n : Nat} (positive : 0 < n) :
    Whole (d.digits.take n) := by
  have nonempty : d.digits ≠ [] := Nat.toDigits_ne_nil
  refine whole_of_head? ?_ ?_ ?_
  · simp [nonempty]
    omega
  · intro x mem
    exact d.isDigit_of_mem_digits x (List.mem_of_mem_take mem)
  · rw [List.head?_take, if_neg (by omega)]
    exact head?_toDigits nonzero

/-- A point and digits behind it make up the places of a decimal. -/
theorem mantissa_of_point {whole fraction : List Char} (isWhole : Whole whole)
    (nonempty : fraction ≠ []) (fractionDigits : ∀ x ∈ fraction, x.isDigit = true)
    (value : ofDigits (whole ++ fraction) = d.significand)
    (places : (fraction.length : Int) = -d.exponent) : Mantissa (whole ++ '.' :: fraction) d := by
  have mantissa := Mantissa.pointed isWhole nonempty fractionDigits
  rwa [value, places, Int.neg_neg] at mantissa

/-- A whole number ends in a point and a zero, which makes it another decimal of the
same value. -/
theorem mantissa_whole (zero : d.significand = 0 → d.exponent = 0) (whole : 0 ≤ d.exponent) :
    ∃ d' : Decimal, Mantissa (d.digits ++ zeros d.exponent.toNat ++ ['.', '0']) d' ∧
      Binary64.ofDecimal d' = Binary64.ofDecimal d := by
  have isWhole : Whole (d.digits ++ zeros d.exponent.toNat) := by
    by_cases nonzero : d.significand = 0
    · rw [digits, nonzero, zero nonzero]
      exact .zero
    · exact whole_digits_append nonzero (isDigit_of_mem_zeros _)
  refine ⟨_, .pointed isWhole (List.cons_ne_nil '0' [])
    (List.forall_mem_singleton.mpr (by decide)), ?_⟩
  refine Binary64.ofDecimal_of_scaled (k := 10) (by decide) ?_ ?_
  · have digit : ['0'] = zeros 1 := rfl
    rw [digit, ofDigits_append_zeros, ofDigits_append_zeros, ofDigits_digits]
    exact Nat.mul_one _
  · have noPlaces : (-d.exponent).toNat = 0 := by omega
    rw [noPlaces]
    rfl

/-- **A number without an exponent is a mantissa** of its value. -/
theorem mantissa_positional (zero : d.significand = 0 → d.exponent = 0) :
    ∃ d' : Decimal, Mantissa (d.positional ['.', '0']) d' ∧
      Binary64.ofDecimal d' = Binary64.ofDecimal d := by
  unfold positional
  dsimp only
  by_cases whole : 0 ≤ d.exponent
  · rw [if_pos whole]
    exact mantissa_whole zero whole
  · rw [if_neg whole]
    have nonzero : d.significand ≠ 0 := by
      intro none
      have := zero none
      omega
    obtain ⟨p, places⟩ : ∃ p, (-d.exponent).toNat = p := ⟨_, rfl⟩
    have nonempty : d.digits ≠ [] := Nat.toDigits_ne_nil
    have positive := List.length_pos_iff.mpr nonempty
    rw [places]
    by_cases front : 0 < d.digits.length - p
    · rw [if_pos front]
      refine ⟨d, mantissa_of_point (whole_digits_take nonzero front) ?_ ?_ ?_ ?_, rfl⟩
      · rw [← List.length_pos_iff, List.length_drop]
        omega
      · intro x mem
        exact d.isDigit_of_mem_digits x (List.mem_of_mem_drop mem)
      · rw [List.take_append_drop, ofDigits_digits]
      · rw [List.length_drop]
        omega
    · rw [if_neg front]
      have leading : ['0'] = zeros 1 := rfl
      refine ⟨d, mantissa_of_point .zero (by simp [nonempty]) ?_ ?_ ?_, rfl⟩
      · exact List.forall_mem_append.mpr ⟨isDigit_of_mem_zeros _, d.isDigit_of_mem_digits⟩
      · rw [leading, ofDigits_zeros_append, ofDigits_zeros_append, ofDigits_digits]
      · rw [List.length_append, zeros, List.length_replicate]
        omega

/-! ### Scientific numbers -/

/-- The leading digit and the others behind a point, if there are any, are a mantissa
whose value is as many powers of ten too small as the leading digit stands for. -/
theorem mantissa_scientific (d : Decimal) :
    Mantissa (d.digits.take 1 ++ (if (d.digits.drop 1).isEmpty then [] else ['.']) ++
      d.digits.drop 1) ⟨d.significand, d.exponent - d.leading⟩ := by
  obtain ⟨c, fraction, split⟩ := List.exists_cons_of_ne_nil
    (Nat.toDigits_ne_nil (n := d.significand) (b := 10))
  have areDigits := d.isDigit_of_mem_digits
  have value := d.ofDigits_digits
  rw [leading]
  rw [digits, split] at *
  have first : Whole [c] := by
    by_cases zero : c = '0'
    · rw [zero]
      exact .zero
    · refine .digits zero ?_
      intro x mem
      obtain rfl := List.mem_singleton.mp mem
      exact areDigits x List.mem_cons_self
  cases fraction with
  | nil =>
    have mantissa := Mantissa.whole first
    simpa [value] using mantissa
  | cons c' fraction =>
    have mantissa := Mantissa.pointed first (List.cons_ne_nil c' fraction) fun x mem =>
      areDigits x (List.mem_cons_of_mem c mem)
    have places : (-(c' :: fraction).length : Int) =
        d.exponent - (d.exponent + (c :: c' :: fraction).length - 1) := by
      simp only [List.length_cons]
      omega
    rw [places] at mantissa
    simpa [value] using mantissa

/-- The digits of an exponent with the sign in front, which a JSON number always has. -/
theorem exponentValue_sign (e : Int) :
    exponentValue ((if e < 0 then ['-'] else ['+']) ++ Nat.toDigits 10 e.natAbs) = e := by
  have value : ofDigits (Nat.toDigits 10 e.natAbs) = e.natAbs := Nat.ofDigitChars_ten_toDigits
  split
  · show -(ofDigits (Nat.toDigits 10 e.natAbs) : Int) = e
    omega
  · show (ofDigits (Nat.toDigits 10 e.natAbs) : Int) = e
    omega

theorem exponent_sign (e : Int) :
    Exponent ('e' :: ((if e < 0 then ['-'] else ['+']) ++ Nat.toDigits 10 e.natAbs)) := by
  refine .present (.inl rfl) ?_ Nat.toDigits_ne_nil ?_
  · split <;> simp
  · intro x mem
    exact Nat.isDigit_of_mem_toDigits (by decide) (by decide) mem

end Decimal

/-! ### Written numbers -/

namespace Json

/-- The text is a JSON number without a sign, and denotes the value of `d`. -/
structure Interchanges (text : List Char) (d : Decimal) : Prop where
  numeric : ∀ sign, sign = [] ∨ sign = ['-'] → Numeric (sign ++ text)
  value : ∃ d', decimal? text = some d' ∧ Binary64.ofDecimal d' = Binary64.ofDecimal d
  unsigned : text.head? ≠ some '-'

open Decimal

theorem interchanges_positional {d : Decimal} (zero : d.significand = 0 → d.exponent = 0) :
    Interchanges (d.positional ['.', '0']) d := by
  obtain ⟨d', mantissa, same⟩ := mantissa_positional zero
  refine ⟨?_, ⟨d', mantissa.decimal?, same⟩, ?_⟩
  · intro sign signed
    simpa using mantissa.numeric signed .absent
  · simpa using mantissa.head?_ne []

theorem interchanges_scientific (d : Decimal) : Interchanges (d.scientific ['+']) d := by
  have mantissa := mantissa_scientific d
  have exact : (⟨d.significand, d.exponent - d.leading + d.leading⟩ : Decimal) = d := by
    rw [Int.sub_add_cancel]
  have value := mantissa.decimal?_exponent
    ((if d.leading < 0 then ['-'] else ['+']) ++ Nat.toDigits 10 d.leading.natAbs)
  rw [exponentValue_sign, exact] at value
  refine ⟨?_, ⟨d, ?_, rfl⟩, ?_⟩
  · intro sign signed
    have isNumber := mantissa.numeric signed (exponent_sign d.leading)
    simpa [scientific] using isNumber
  · simpa [scientific] using value
  · have start := mantissa.head?_ne
      ('e' :: ((if d.leading < 0 then ['-'] else ['+']) ++ Nat.toDigits 10 d.leading.natAbs))
    simpa [scientific] using start

theorem interchanges_write {d : Decimal} (zero : d.significand = 0 → d.exponent = 0) :
    Interchanges (Style.interchange.write d) d := by
  show Interchanges (if -5 ≤ d.leading ∧ d.leading ≤ 15 then d.positional ['.', '0']
    else d.scientific ['+']) d
  split
  · exact interchanges_positional zero
  · exact interchanges_scientific d

end Json

namespace Binary64

/-- Only zero has no significant digit, and it is written without an exponent. -/
theorem exponent_shortest_of_zero (tie : Tie) {m : Nat} (finite : m < infinite)
    (zero : (shortest tie m).significand = 0) : (shortest tie m).exponent = 0 := by
  have same := magnitude_ofDecimal_shortest tie finite
  rw [magnitude_ofDecimal, zero, Nat.zero_mul] at same
  have none := nearest_zero (d := Nat.pow 10 (-(shortest tie m).exponent).toNat)
    (Nat.pow_pos (by decide))
  obtain rfl : m = 0 := same.symm.trans none
  rfl

/-- **A finite number is written as a JSON number that denotes it**, the sign of zero
included. -/
theorem interchange {x : Binary64} (finite : x.isFinite = true) :
    Json.Numeric (x.write .interchange) ∧ Json.binary64? (x.write .interchange) = some x := by
  have small : x.magnitude < infinite := by simpa [isFinite] using finite
  have isNumber : x.isNaN = false := by simp [isNaN, Nat.le_of_lt small]
  have bounded : x.isInfinite = false := by simp [isInfinite, Nat.ne_of_lt small]
  have written : x.write .interchange = (if x.negative then ['-'] else []) ++
      Style.interchange.write (shortest .toEven x.magnitude) := by
    simp [write, isNumber, bounded, Style.interchange]
  obtain ⟨numeric, ⟨d, value, same⟩, unsigned⟩ := Json.interchanges_write
    (exponent_shortest_of_zero .toEven small)
  have magnitude : (ofDecimal d).magnitude = x.magnitude := by
    rw [same]
    exact magnitude_ofDecimal_shortest .toEven small
  rw [written]
  cases sign : x.negative with
  | true =>
    refine ⟨numeric ['-'] (.inr rfl), ?_⟩
    rw [if_pos rfl]
    simp only [List.cons_append, List.nil_append, Json.binary64?, value, Option.map_some,
      Option.some.injEq]
    apply ext_magnitude
    · exact sign.symm
    · exact magnitude
  | false =>
    refine ⟨numeric [] (.inl rfl), ?_⟩
    rw [if_neg Bool.false_ne_true, List.nil_append, Json.binary64?_unsigned unsigned, value,
      Option.map_some, Option.some.injEq]
    apply ext_magnitude
    · exact sign.symm
    · exact magnitude

end Binary64

end Lexis
