import Lexis.Binary64.Style
import Lexis.Proofs.Magnitudes
import Lexis.Proofs.Pieces
import Mathlib.Tactic.Ring

/-!
# Numbers as numerals

A finite number without a sign, written plainly, is a numeral that reads back as
the same number (`numeral_write`).  The statement has two halves:

* **The digits are enough** (`Binary64.magnitude_ofDecimal_shortest`).  The decimal
  that is written was chosen because the interval of the number covers it, and what
  the interval covers rounds to the number (`Interval.between_of_covers`).  It does
  not matter which of the covered decimals is chosen.
* **The text is a numeral** (`Decimal.numeral_positional`): digits, the first of
  them in front of the point, if there is one.  It may denote the decimal with zeros
  spelled out.
-/

namespace Lexis

/-! ### Numerals -/

/-- The text is a numeral that starts with a digit, and denotes the decimal. -/
inductive Numeral : List Char → Decimal → Prop
  | whole {c : Char} {digits : List Char} (areDigits : ∀ x ∈ c :: digits, isDigit x = true) :
      Numeral (c :: digits) ⟨Decimal.ofDigits (c :: digits), 0⟩
  | pointed {c : Char} {digits fraction : List Char}
      (areDigits : ∀ x ∈ c :: digits, isDigit x = true)
      (fractionDigits : ∀ x ∈ fraction, isDigit x = true) :
      Numeral (c :: (digits ++ '.' :: fraction))
        ⟨Decimal.ofDigits (c :: (digits ++ fraction)), -fraction.length⟩

namespace Numeral

variable {text : List Char} {d : Decimal}

/-- A numeral denotes one decimal. -/
theorem ofNumeral? (h : Numeral text d) : Decimal.ofNumeral? text = some d := by
  cases h with
  | whole areDigits => exact Decimal.ofNumeral?_whole areDigits (List.cons_ne_nil _ _)
  | pointed areDigits fractionDigits =>
    exact Decimal.ofNumeral?_pointed areDigits fractionDigits (List.cons_ne_nil _ _)

theorem isNumeralChar_of_mem (h : Numeral text d) : ∀ x ∈ text, isNumeralChar x = true := by
  have digit {x : Char} (h : isDigit x = true) : isNumeralChar x = true := by
    simp [isNumeralChar, h]
  cases h with
  | whole areDigits =>
    intro x mem
    exact digit (areDigits x mem)
  | pointed areDigits fractionDigits =>
    intro x mem
    rw [← List.cons_append] at mem
    rcases List.mem_append.mp mem with mem | mem
    · exact digit (areDigits x mem)
    · rcases List.mem_cons.mp mem with rfl | mem
      · decide
      · exact digit (fractionDigits x mem)

/-- There is at most one point in a numeral. -/
theorem count_dot_le (h : Numeral text d) : text.count '.' ≤ 1 := by
  have none {digits : List Char} (areDigits : ∀ x ∈ digits, isDigit x = true) :
      digits.count '.' = 0 :=
    List.count_eq_zero.mpr fun mem => absurd (areDigits '.' mem) (by decide)
  cases h with
  | whole areDigits =>
    rw [none areDigits]
    decide
  | pointed areDigits fractionDigits =>
    rw [← List.cons_append, List.count_append, none areDigits, List.count_cons_self,
      none fractionDigits]

end Numeral

namespace Decimal

theorem ofDigits_eq (digits : List Char) : ofDigits digits = Nat.ofDigitChars 10 digits 0 := rfl

@[simp] theorem ofDigits_digits (d : Decimal) : ofDigits d.digits = d.significand :=
  Nat.ofDigitChars_ten_toDigits

theorem isDigit_of_mem_digits (d : Decimal) : ∀ x ∈ d.digits, isDigit x = true := by
  intro x mem
  exact Nat.isDigit_of_mem_toDigits (by decide) (by decide) mem

theorem isDigit_of_mem_zeros (n : Nat) : ∀ x ∈ zeros n, isDigit x = true := by
  intro x mem
  rw [(List.mem_replicate.mp mem).2]
  decide

/-- Zeros behind the digits scale the number. -/
theorem ofDigits_append_zeros (digits : List Char) (n : Nat) :
    ofDigits (digits ++ zeros n) = ofDigits digits * Nat.pow 10 n := by
  rw [ofDigits_eq, Nat.ofDigitChars_append, zeros, Nat.ofDigitChars_replicate_zero, Nat.mul_comm]
  rfl

/-- Zeros in front of the digits count for nothing. -/
theorem ofDigits_zeros_append (n : Nat) (digits : List Char) :
    ofDigits (zeros n ++ digits) = ofDigits digits := by
  rw [ofDigits_eq, Nat.ofDigitChars_append, zeros, Nat.ofDigitChars_replicate_zero, Nat.mul_zero]
  rfl

theorem numeral_of_digits {digits : List Char} (nonempty : digits ≠ [])
    (areDigits : ∀ x ∈ digits, isDigit x = true) : Numeral digits ⟨ofDigits digits, 0⟩ := by
  obtain ⟨c, digits, rfl⟩ := List.exists_cons_of_ne_nil nonempty
  exact .whole areDigits

/-- Digits with a point denote a decimal that has their value and as many places. -/
theorem numeral_of_point {d : Decimal} {digits fraction : List Char} (nonempty : digits ≠ [])
    (areDigits : ∀ x ∈ digits, isDigit x = true) (fractionDigits : ∀ x ∈ fraction, isDigit x = true)
    (value : ofDigits (digits ++ fraction) = d.significand)
    (places : (fraction.length : Int) = -d.exponent) : Numeral (digits ++ '.' :: fraction) d := by
  obtain ⟨c, digits, rfl⟩ := List.exists_cons_of_ne_nil nonempty
  have numeral := Numeral.pointed areDigits fractionDigits
  rw [List.cons_append] at value
  rwa [value, places, Int.neg_neg] at numeral

/-- Zeros behind the digits of a whole number are part of the numeral, so what it
denotes is another decimal of the same value. -/
theorem numeral_zeros_behind {d : Decimal} (whole : 0 ≤ d.exponent) :
    ∃ d' : Decimal, Numeral (d.digits ++ zeros d.exponent.toNat) d' ∧
      Binary64.ofDecimal d' = Binary64.ofDecimal d := by
  have nonempty : d.digits ≠ [] := Nat.toDigits_ne_nil
  refine ⟨_, numeral_of_digits (by simp [nonempty]) ?_, ?_⟩
  · exact List.forall_mem_append.mpr ⟨d.isDigit_of_mem_digits, isDigit_of_mem_zeros _⟩
  · have noPlaces : (-d.exponent).toNat = 0 := by omega
    unfold Binary64.ofDecimal
    rw [ofDigits_append_zeros, ofDigits_digits, noPlaces]
    simp

/-- The point stands between digits. -/
theorem numeral_point_between {d : Decimal} {p : Nat} (places : (p : Int) = -d.exponent)
    (between : p < d.digits.length) :
    Numeral (d.digits.take (d.digits.length - p) ++
      '.' :: d.digits.drop (d.digits.length - p)) d := by
  refine numeral_of_point ?_ ?_ ?_ ?_ ?_
  · rw [← List.length_pos_iff, List.length_take]
    omega
  · intro x mem
    exact d.isDigit_of_mem_digits x (List.mem_of_mem_take mem)
  · intro x mem
    exact d.isDigit_of_mem_digits x (List.mem_of_mem_drop mem)
  · rw [List.take_append_drop, ofDigits_digits]
  · rw [List.length_drop]
    omega

/-- The point and zeros stand in front of the digits. -/
theorem numeral_point_before {d : Decimal} {p : Nat} (places : (p : Int) = -d.exponent)
    (before : d.digits.length ≤ p) :
    Numeral ('0' :: '.' :: (zeros (p - d.digits.length) ++ d.digits)) d := by
  have zero : ['0'] = zeros 1 := rfl
  refine numeral_of_point (List.cons_ne_nil '0' []) ?_ ?_ ?_ ?_
  · rw [zero]
    exact isDigit_of_mem_zeros 1
  · exact List.forall_mem_append.mpr ⟨isDigit_of_mem_zeros _, d.isDigit_of_mem_digits⟩
  · rw [zero, ofDigits_zeros_append, ofDigits_zeros_append, ofDigits_digits]
  · rw [List.length_append, zeros, List.length_replicate]
    omega

/-- **A decimal without an exponent is a numeral**, and it denotes the decimal up
to the zeros that are spelled out. -/
theorem numeral_positional (d : Decimal) :
    ∃ d' : Decimal, Numeral (d.positional []) d' ∧
      Binary64.ofDecimal d' = Binary64.ofDecimal d := by
  unfold positional
  dsimp only
  by_cases whole : 0 ≤ d.exponent
  · rw [if_pos whole, List.append_nil]
    exact numeral_zeros_behind whole
  · rw [if_neg whole]
    have places : ((-d.exponent).toNat : Int) = -d.exponent := by omega
    by_cases front : 0 < d.digits.length - (-d.exponent).toNat
    · rw [if_pos front]
      exact ⟨d, numeral_point_between places (by omega), rfl⟩
    · rw [if_neg front]
      exact ⟨d, numeral_point_before places (by omega), rfl⟩

end Decimal

/-! ### Shortest decimals -/

namespace Binary64

/-- A point of the grid of `10 ^ (k - p)`, once as a fraction with the denominator
`10 ^ b` and counted in units of `2 ^ -p`, and once as a multiple of the grid's
unit. -/
theorem scaled_grid {n k a b p : Nat} (grid : a + p = k + b) :
    2 * (n * Nat.pow 10 a * Nat.pow 2 p) * Nat.pow 5 p = n * (2 * Nat.pow 10 k) * Nat.pow 10 b := by
  simp only [Nat.pow_eq]
  have tens : 2 ^ p * 5 ^ p = 10 ^ p := (Nat.mul_pow 2 5 p).symm
  calc 2 * (n * 10 ^ a * 2 ^ p) * 5 ^ p
      = 2 * n * (10 ^ a * (2 ^ p * 5 ^ p)) := by ring
    _ = 2 * n * 10 ^ (k + b) := by rw [tens, ← Nat.pow_add, grid]
    _ = n * (2 * 10 ^ k) * 10 ^ b := by rw [Nat.pow_add]; ring

namespace Interval

theorem value_ofMagnitude (m : Nat) : (ofMagnitude m).value = 2 * units m * Nat.pow 5 1074 := rfl

theorem covers_iff {m w : Nat} :
    (ofMagnitude m).covers w = true ↔
      ((units (m - 1) + units m) * Nat.pow 5 1074 ≤ w ∧
        w ≤ (units m + units (m + 1)) * Nat.pow 5 1074) ∧
      (m % 2 = 1 → (units (m - 1) + units m) * Nat.pow 5 1074 < w ∧
        w < (units m + units (m + 1)) * Nat.pow 5 1074) := by
  unfold covers ofMagnitude
  dsimp only
  generalize (units (m - 1) + units m) * Nat.pow 5 1074 = lower
  generalize (units m + units (m + 1)) * Nat.pow 5 1074 = upper
  rcases Nat.mod_two_eq_zero_or_one m with even | odd
  · simp [even]
  · simp [odd]
    omega

/-- Of two fractions with one value, either may be compared with a whole number. -/
theorem mul_le_iff_of_scaled {x v w d f : Nat} (positive : 0 < d) (unit : 0 < f)
    (scaled : v * f = w * d) : x * f ≤ w ↔ x * d ≤ v :=
  calc x * f ≤ w
    _ ↔ x * f * d ≤ w * d := (Nat.mul_le_mul_right_iff positive).symm
    _ ↔ x * d * f ≤ v * f := by rw [scaled, Nat.mul_right_comm]
    _ ↔ x * d ≤ v := Nat.mul_le_mul_right_iff unit

theorem le_mul_iff_of_scaled {x v w d f : Nat} (positive : 0 < d) (unit : 0 < f)
    (scaled : v * f = w * d) : w ≤ x * f ↔ v ≤ x * d :=
  calc w ≤ x * f
    _ ↔ w * d ≤ x * f * d := (Nat.mul_le_mul_right_iff positive).symm
    _ ↔ v * f ≤ x * d * f := by rw [scaled, Nat.mul_right_comm]
    _ ↔ v ≤ x * d := Nat.mul_le_mul_right_iff unit

theorem fives_pos (p : Nat) : 0 < Nat.pow 5 p := Nat.pow_pos (by decide)

/-- **A grid point that the interval covers rounds to its number.** -/
theorem between_of_covers {m n k a b : Nat}
    (covered : (ofMagnitude m).covers (n * (2 * Nat.pow 10 k)) = true) (grid : a + 1074 = k + b) :
    Between m (n * Nat.pow 10 a * Nat.pow 2 1074) (Nat.pow 10 b) := by
  obtain ⟨⟨lower, upper⟩, strict⟩ := covers_iff.mp covered
  generalize (1074 : Nat) = p at lower upper strict grid ⊢
  have positive : 0 < Nat.pow 10 b := Nat.pow_pos (by decide)
  have scaled := scaled_grid (n := n) grid
  have above {x} := mul_le_iff_of_scaled (x := x) positive (fives_pos p) scaled
  have below {x} := le_mul_iff_of_scaled (x := x) positive (fives_pos p) scaled
  refine ⟨above.mp lower, below.mp upper, ?_⟩
  intro odd
  obtain ⟨lower, upper⟩ := strict odd
  exact ⟨(lt_iff_lt_of_le_iff_le below).mp lower, (lt_iff_lt_of_le_iff_le above).mp upper⟩

theorem covers_of_gridPoint? {tie : Tie} {i : Interval} {grid n : Nat}
    (found : i.gridPoint? tie grid = some n) : i.covers (n * (2 * Nat.pow 10 grid)) = true := by
  unfold gridPoint? at found
  dsimp only at found
  generalize i.nearestMultiple tie (2 * Nat.pow 10 grid) = nearer at found
  generalize (if nearer = _ then _ else _) = farther at found
  by_cases near : i.covers (nearer * (2 * Nat.pow 10 grid)) = true
  · rw [if_pos near] at found
    exact Option.some.inj found ▸ near
  · rw [if_neg near] at found
    by_cases far : i.covers (farther * (2 * Nat.pow 10 grid)) = true
    · rw [if_pos far] at found
      exact Option.some.inj found ▸ far
    · rw [if_neg far] at found
      cases found

/-- The decimal that the walk ends at is a point of a grid, and the interval covers
it.  The finest grid needs no search, since it holds the value itself. -/
theorem decimal_covers {tie : Tie} {i : Interval} (even : i.value % 2 = 0)
    (inside : i.covers i.value = true) (grid : Nat) :
    ∃ n k : Nat, i.decimal tie grid = ⟨n, k - 1074⟩ ∧ i.covers (n * (2 * Nat.pow 10 k)) = true := by
  induction grid with
  | zero =>
    refine ⟨i.value / 2, 0, rfl, ?_⟩
    have whole : i.value / 2 * (2 * Nat.pow 10 0) = i.value := by
      show i.value / 2 * (2 * 1) = i.value
      omega
    rwa [whole]
  | succ grid ih =>
    unfold decimal
    split
    · next n found => exact ⟨n, grid + 1, rfl, covers_of_gridPoint? found⟩
    · exact ih

/-- An interval covers its own number. -/
theorem covers_value {m : Nat} (nonzero : m ≠ 0) :
    (ofMagnitude m).covers (ofMagnitude m).value = true := by
  have below : units (m - 1) < units m := units_strictMono (by omega)
  have above : units m < units (m + 1) := units_strictMono (Nat.lt_succ_self m)
  rw [covers_iff, value_ofMagnitude]
  generalize (1074 : Nat) = p
  have lower : (units (m - 1) + units m) * Nat.pow 5 p < 2 * units m * Nat.pow 5 p :=
    Nat.mul_lt_mul_of_pos_right (by omega) (fives_pos p)
  have upper : 2 * units m * Nat.pow 5 p < (units m + units (m + 1)) * Nat.pow 5 p :=
    Nat.mul_lt_mul_of_pos_right (by omega) (fives_pos p)
  exact ⟨⟨Nat.le_of_lt lower, Nat.le_of_lt upper⟩, fun _ => ⟨lower, upper⟩⟩

end Interval

/-- Zero is nearest to itself. -/
theorem nearest_zero {d : Nat} (positive : 0 < d) : nearest 0 d = 0 := by
  apply nearest_eq_of_between positive (by decide)
  generalize (1074 : Nat) = p
  exact ⟨by simp, by simp, by simp⟩

theorem magnitude_ofDecimal (d : Decimal) : (ofDecimal d).magnitude =
    nearest (d.significand * Nat.pow 10 d.exponent.toNat) (Nat.pow 10 (-d.exponent).toNat) :=
  rfl

/-- **The digits are enough**: the shortest decimal of a magnitude rounds to it. -/
theorem magnitude_ofDecimal_shortest (tie : Tie) {m : Nat} (finite : m < infinite) :
    (ofDecimal (shortest tie m)).magnitude = m := by
  unfold shortest
  dsimp only
  by_cases zero : m = 0
  · subst zero
    rw [if_pos rfl, magnitude_ofDecimal, Nat.zero_mul]
    exact nearest_zero (Nat.pow_pos (by decide))
  · rw [if_neg zero]
    have even : (Interval.ofMagnitude m).value % 2 = 0 := by
      rw [Interval.value_ofMagnitude, Nat.mul_assoc, Nat.mul_mod_right]
    generalize 28 * (Interval.ofMagnitude m).upper.log2 / 93 + 1 = grid
    obtain ⟨n, k, decimal, covered⟩ :=
      Interval.decimal_covers even (Interval.covers_value zero) grid
    rw [decimal, magnitude_ofDecimal]
    have grid_eq : ((k : Int) - 1074).toNat + 1074 = k + (-((k : Int) - 1074)).toNat := by omega
    exact nearest_eq_of_between (Nat.pow_pos (by decide)) finite
      (Interval.between_of_covers covered grid_eq)

end Binary64

/-- **A finite number without a sign is written as a numeral that reads back.** -/
theorem numeral_write {x : Binary64} (finite : x.isFinite = true) (positive : x.negative = false) :
    ∃ d : Decimal, Numeral (x.write .plain) d ∧ Binary64.ofDecimal d = x := by
  have small : x.magnitude < Binary64.infinite := by simpa [Binary64.isFinite] using finite
  have isNumber : x.isNaN = false := by simp [Binary64.isNaN, Nat.le_of_lt small]
  have bounded : x.isInfinite = false := by simp [Binary64.isInfinite, Nat.ne_of_lt small]
  have written : x.write .plain = (Binary64.shortest .up x.magnitude).positional [] := by
    simp [Binary64.write, isNumber, bounded, positive, Style.write, Style.plain]
  obtain ⟨d, numeral, same⟩ := (Binary64.shortest .up x.magnitude).numeral_positional
  refine ⟨d, written ▸ numeral, same.trans ?_⟩
  have magnitude := Binary64.magnitude_ofDecimal_shortest .up small
  obtain ⟨negative, m, bound⟩ := x
  cases positive
  simp only [Binary64.ofDecimal, Binary64.ofRatio] at magnitude ⊢
  simp only [magnitude]

end Lexis
