import Lexis.Proofs.Magnitudes
import Mathlib.Algebra.Order.Field.Rat
import Mathlib.Algebra.Order.Group.Abs
import Mathlib.Tactic.FieldSimp
import Mathlib.Tactic.Linarith
import Mathlib.Tactic.NormNum
import Mathlib.Tactic.Positivity
import Mathlib.Tactic.Ring

/-!
# Correct rounding

What a fraction is rounded to can be said without rounding it.  Each finite number has
an exact value, a rational number (`Binary64.toRat`), and `Binary64.RoundsTo r x` says
which number `r` belongs to: the finite number closest to it, with an even significand
if another one is as close, and infinity if `r` lies at least half a step beyond the
largest finite number.

* **At most one number is meant** (`RoundsTo.unique`), since between two even
  significands there is an odd one.
* **Rounding finds it** (`roundsTo_ofRatio`).  It settles on a magnitude whose midpoints
  with its neighbours lie on either side of the fraction (`exists_between`), and so do
  its midpoints with all other magnitudes, because values grow with magnitudes
  (`Between.below`, `Between.above`).

A number with a sign is never closer than the same number without one
(`dist_level_le`), so signs need no search of their own.
-/

namespace Lexis

namespace Binary64

/-! ### Exact values -/

/-- The exponent field of a number. -/
def exponent (x : Binary64) : Nat := x.magnitude / 2 ^ 52

/-- The significand of a finite number: its fraction, behind the leading bit that only
zeros and subnormal numbers lack. -/
def significand (x : Binary64) : Nat :=
  if x.exponent = 0 then x.magnitude % 2 ^ 52 else 2 ^ 52 + x.magnitude % 2 ^ 52

/-- The exact value of a finite number.  Subnormal numbers have the scale of the
smallest normal ones. -/
def toRat (x : Binary64) : ℚ :=
  (if x.negative then -1 else 1) * x.significand * 2 ^ (((max x.exponent 1 : ℕ) : ℤ) - 1075)

/-- The value of a magnitude, as if the format went on behind its last number. -/
def level (m : Nat) : ℚ := units m / 2 ^ 1074

theorem level_strictMono : StrictMono level := by
  intro m k less
  have grows : (units m : ℚ) < units k := Nat.cast_lt.mpr (units_strictMono less)
  exact div_lt_div_of_pos_right grows (by positivity)

@[simp] theorem level_zero : level 0 = 0 := by
  simp [level]

theorem level_nonneg (m : Nat) : 0 ≤ level m := by
  rw [← level_zero]
  exact level_strictMono.monotone (Nat.zero_le m)

theorem units_eq_significand (x : Binary64) :
    units x.magnitude = x.significand * 2 ^ (max x.exponent 1 - 1) := by
  unfold significand exponent
  rcases subnormal_or_normal x.magnitude with subnormal | ⟨e, f, fraction, normal⟩
  · have noExponent : x.magnitude / 2 ^ 52 = 0 := by omega
    rw [units_of_lt subnormal, noExponent, if_pos rfl, Nat.mod_eq_of_lt subnormal]
    simp
  · have exponent : x.magnitude / 2 ^ 52 = e + 1 := by omega
    have remainder : x.magnitude % 2 ^ 52 = f := by omega
    rw [exponent, remainder, if_neg (by omega), normal, units_normal e fraction]
    simp

theorem even_significand_iff (x : Binary64) : Even x.significand ↔ x.magnitude % 2 = 0 := by
  rw [Nat.even_iff]
  unfold significand
  split <;> omega

/-- **The value of a number** is that of its magnitude, with its sign. -/
theorem toRat_eq (x : Binary64) :
    x.toRat = if x.negative then -level x.magnitude else level x.magnitude := by
  obtain ⟨k, field⟩ : ∃ k, max x.exponent 1 = k + 1 := ⟨max x.exponent 1 - 1, by omega⟩
  have scale : ((k + 1 : ℕ) : ℤ) - 1075 = k - (1074 : ℕ) := by omega
  have value : (x.significand : ℚ) * 2 ^ (((k + 1 : ℕ) : ℤ) - 1075) = level x.magnitude := by
    rw [scale, zpow_sub₀ two_ne_zero, zpow_natCast, zpow_natCast, level, units_eq_significand,
      field, Nat.add_sub_cancel, Nat.cast_mul, Nat.cast_pow, Nat.cast_ofNat, mul_div_assoc]
  unfold toRat
  rw [field, mul_assoc, value]
  split <;> simp

theorem toRat_of_unsigned {x : Binary64} (unsigned : x.negative = false) :
    x.toRat = level x.magnitude := by
  simp [toRat_eq, unsigned]

theorem abs_toRat (x : Binary64) : |x.toRat| = level x.magnitude := by
  rw [toRat_eq]
  split
  · rw [abs_neg, abs_of_nonneg (level_nonneg _)]
  · exact abs_of_nonneg (level_nonneg _)

/-! ### What a fraction belongs to -/

/-- Half a step beyond the largest finite number.  What lies there or further out is
too large. -/
def overflow : ℚ := 2 ^ 1024 - 2 ^ 970

/-- `x` is the finite number closest to `r`, and it has no sign.  If a number of another
value is as close, the significand of `x` is even. -/
structure Closest (r : ℚ) (x : Binary64) : Prop where
  finite : x.isFinite = true
  unsigned : x.negative = false
  closest : ∀ y : Binary64, y.isFinite = true → |x.toRat - r| ≤ |y.toRat - r|
  even : ∀ y : Binary64, y.isFinite = true → y.toRat ≠ x.toRat →
    |y.toRat - r| = |x.toRat - r| → Even x.significand

/-- `x` is `r`, correctly rounded: the closest finite number, or infinity if `r` is too
large. -/
def RoundsTo (r : ℚ) (x : Binary64) : Prop :=
  if r < overflow then Closest r x else x = infinity

/-! ### At most one number -/

variable {r : ℚ} {x y : Binary64}

theorem isFinite_iff : x.isFinite = true ↔ x.magnitude < infinite := by
  simp [isFinite]

/-- Of two closest numbers neither is greater: the midpoint would have an odd number
closer to it. -/
theorem Closest.not_lt (h : Closest r x) (h' : Closest r y) : ¬ x.magnitude < y.magnitude := by
  intro less
  have finite := isFinite_iff.mp h'.finite
  have valueX := toRat_of_unsigned h.unsigned
  have valueY := toRat_of_unsigned h'.unsigned
  have grows : x.toRat < y.toRat := by
    rw [valueX, valueY]
    exact level_strictMono less
  have equally : |y.toRat - r| = |x.toRat - r| :=
    le_antisymm (h'.closest x h.finite) (h.closest y h'.finite)
  have evenX := (even_significand_iff x).mp (h.even y h'.finite grows.ne' equally)
  have evenY := (even_significand_iff y).mp (h'.even x h.finite grows.ne equally.symm)
  have middle : 2 * r = x.toRat + y.toRat := by
    rcases abs_eq_abs.mp equally with same | opposite <;> linarith
  -- The magnitude behind that of `x` is odd, so it is still in front of that of `y`.
  let z : Binary64 := ⟨false, x.magnitude + 1, by have := y.magnitude_lt; omega⟩
  have aboveX : x.toRat < z.toRat := by
    rw [valueX, toRat_of_unsigned rfl]
    exact level_strictMono (Nat.lt_succ_self _)
  have belowY : z.toRat < y.toRat := by
    rw [valueY, toRat_of_unsigned rfl]
    exact level_strictMono (show x.magnitude + 1 < y.magnitude by omega)
  have inside : x.magnitude + 1 < infinite := by omega
  have notCloser := h.closest z (isFinite_iff.mpr inside)
  rw [abs_of_nonpos (show x.toRat - r ≤ 0 by linarith)] at notCloser
  have closer : |z.toRat - r| < -(x.toRat - r) := abs_lt.mpr ⟨by linarith, by linarith⟩
  exact absurd notCloser (not_le.mpr closer)

/-- **At most one number is meant.** -/
theorem RoundsTo.unique (h : RoundsTo r x) (h' : RoundsTo r y) : x = y := by
  unfold RoundsTo at h h'
  split at h
  · next small =>
    rw [if_pos small] at h'
    apply ext_magnitude
    · exact h.unsigned.trans h'.unsigned.symm
    · exact Nat.le_antisymm (Nat.le_of_not_lt (h'.not_lt h)) (Nat.le_of_not_lt (h.not_lt h'))
  · next large =>
    rw [if_neg large] at h'
    rw [h, h']

/-! ### Midpoints -/

/-- The fraction `v / d` belongs to one of the ends of the step that it lies in, as the
midpoint of the step says. -/
theorem between_of_step {b v d : Nat} (positive : 0 < d) (reached : units b * d ≤ v)
    (passed : v < units (b + 1) * d) :
    Between (if 2 * v < (units b + units (b + 1)) * d then b
      else if (units b + units (b + 1)) * d < 2 * v then b + 1
      else if b % 2 = 0 then b else b + 1) v d := by
  have before : units (b - 1) * d ≤ units b * d :=
    Nat.mul_le_mul_right d (units_strictMono.monotone (Nat.sub_le b 1))
  have beforeOdd : b % 2 = 1 → units (b - 1) * d < units b * d := fun odd =>
    Nat.mul_lt_mul_of_pos_right (units_strictMono (by omega)) positive
  have behind : units (b + 1) * d < units (b + 1 + 1) * d :=
    Nat.mul_lt_mul_of_pos_right (units_strictMono (Nat.lt_succ_self _)) positive
  have lower : (units (b - 1) + units b) * d ≤ 2 * v := by
    rw [Nat.add_mul]
    omega
  have upper : 2 * v < (units (b + 1) + units (b + 1 + 1)) * d := by
    rw [Nat.add_mul]
    omega
  by_cases low : 2 * v < (units b + units (b + 1)) * d
  · rw [if_pos low]
    refine ⟨lower, Nat.le_of_lt low, fun odd => ⟨?_, low⟩⟩
    have := beforeOdd odd
    rw [Nat.add_mul]
    omega
  · rw [if_neg low]
    by_cases high : (units b + units (b + 1)) * d < 2 * v
    · rw [if_pos high]
      exact ⟨Nat.le_of_lt high, Nat.le_of_lt upper, fun _ => ⟨high, upper⟩⟩
    · -- At a midpoint the parity of the magnitude decides.
      rw [if_neg high]
      have middle : 2 * v = (units b + units (b + 1)) * d := by omega
      by_cases even : b % 2 = 0
      · rw [if_pos even]
        exact ⟨lower, Nat.le_of_eq middle, fun odd => by omega⟩
      · rw [if_neg even]
        exact ⟨Nat.le_of_eq middle.symm, Nat.le_of_lt upper, fun odd => by omega⟩

/-- **Rounding settles on a magnitude** that the fraction belongs to, or on infinity if
that magnitude is beyond the format. -/
theorem exists_between (n : Nat) {d : Nat} (positive : 0 < d) :
    ∃ m, Between m (n * Nat.pow 2 1074) d ∧ nearest n d = min m infinite := by
  have step := units_floorMagnitude (n * Nat.pow 2 1074 / d)
  have between := between_of_step positive ((Nat.le_div_iff_mul_le positive).mp step.1)
    ((Nat.div_lt_iff_lt_mul positive).mp step.2)
  exact ⟨_, between, rfl⟩

variable {j k m n d : Nat}

theorem midpoint_le_iff (positive : 0 < d) : level j + level k ≤ 2 * (n / d) ↔
    (units j + units k) * d ≤ 2 * (n * Nat.pow 2 1074) := by
  have denominator : (0 : ℚ) < d := Nat.cast_pos.mpr positive
  unfold level
  generalize (1074 : ℕ) = p
  rw [← add_div, ← mul_div_assoc, div_le_div_iff₀ (by positivity) denominator, Nat.pow_eq,
    ← Nat.mul_assoc]
  norm_cast

theorem le_midpoint_iff (positive : 0 < d) : 2 * (n / d) ≤ level j + level k ↔
    2 * (n * Nat.pow 2 1074) ≤ (units j + units k) * d := by
  have denominator : (0 : ℚ) < d := Nat.cast_pos.mpr positive
  unfold level
  generalize (1074 : ℕ) = p
  rw [← add_div, ← mul_div_assoc, div_le_div_iff₀ denominator (by positivity), Nat.pow_eq,
    ← Nat.mul_assoc]
  norm_cast

/-- **The midpoints with smaller magnitudes** lie below the fraction. -/
theorem Between.below (h : Between m (n * Nat.pow 2 1074) d) (positive : 0 < d) (less : k < m) :
    level k + level m ≤ 2 * (n / d) ∧ (m % 2 = 1 → level k + level m < 2 * (n / d)) := by
  have neighbour : level k ≤ level (m - 1) := level_strictMono.monotone (by omega)
  refine ⟨?_, fun odd => ?_⟩
  · have lower := (midpoint_le_iff positive).mpr h.lower
    linarith
  · have lower := (lt_iff_lt_of_le_iff_le (le_midpoint_iff positive)).mpr (h.even odd).1
    linarith

/-- **The midpoints with greater magnitudes** lie above the fraction. -/
theorem Between.above (h : Between m (n * Nat.pow 2 1074) d) (positive : 0 < d) (less : m < k) :
    2 * (n / d) ≤ level m + level k ∧ (m % 2 = 1 → 2 * (n / d) < level m + level k) := by
  have neighbour : level (m + 1) ≤ level k := level_strictMono.monotone less
  refine ⟨?_, fun odd => ?_⟩
  · have upper := (le_midpoint_iff positive).mpr h.upper
    linarith
  · have upper := (lt_iff_lt_of_le_iff_le (midpoint_le_iff positive)).mpr (h.even odd).2
    linarith

/-- No magnitude is closer than the one that the fraction belongs to. -/
theorem Between.closest (h : Between m (n * Nat.pow 2 1074) d) (positive : 0 < d) (k : Nat) :
    |level m - n / d| ≤ |level k - n / d| := by
  rcases lt_trichotomy k m with less | rfl | greater
  · have grows := level_strictMono less
    have lower := (h.below positive less).1
    rw [abs_of_nonpos (show level k - n / d ≤ 0 by linarith)]
    exact abs_le.mpr ⟨by linarith, by linarith⟩
  · exact le_rfl
  · have grows := level_strictMono greater
    have upper := (h.above positive greater).1
    rw [abs_of_nonneg (show 0 ≤ level k - n / d by linarith)]
    exact abs_le.mpr ⟨by linarith, by linarith⟩

/-- If another magnitude is as close, the fraction is a midpoint. -/
theorem Between.even_of_tie (h : Between m (n * Nat.pow 2 1074) d) (positive : 0 < d)
    (other : k ≠ m) (tie : |level k - n / d| = |level m - n / d|) : m % 2 = 0 := by
  by_contra odd
  have middle : level k + level m = 2 * (n / d) := by
    rcases abs_eq_abs.mp tie with same | opposite
    · exact absurd (level_strictMono.injective (by linarith)) other
    · linarith
  rcases Nat.lt_or_gt_of_ne other with less | greater
  · have := (h.below positive less).2 (by omega)
    linarith
  · have := (h.above positive greater).2 (by omega)
    linarith

/-! ### Overflow -/

theorem level_normal (e : Nat) {f : Nat} (fraction : f < 2 ^ 52) :
    level ((e + 1074 + 1) * 2 ^ 52 + f) = (2 ^ 52 + f) * 2 ^ e := by
  have scaled : (2 : ℚ) ^ 1074 ≠ 0 := by positivity
  rw [level, units_normal _ fraction, Nat.pow_add, ← Nat.mul_assoc]
  simp only [Nat.cast_mul, Nat.cast_add, Nat.cast_pow, Nat.cast_ofNat]
  rw [mul_div_cancel_right₀ _ scaled]

/-- The last midpoint of the format. -/
theorem overflow_eq : level (infinite - 1) + level infinite = 2 * overflow := by
  have last : infinite - 1 = (971 + 1074 + 1) * 2 ^ 52 + (2 ^ 52 - 1) := by decide
  have next : infinite = (972 + 1074 + 1) * 2 ^ 52 + 0 := by decide
  have powers : (2 : ℚ) ^ 1024 = 2 ^ 54 * 2 ^ 970 := by rw [← pow_add]
  rw [last, level_normal 971 (by decide)]
  rw [next, level_normal 972 (by decide), overflow, powers, pow_succ _ 971, pow_succ _ 970]
  generalize (2 : ℚ) ^ 970 = a
  norm_num
  ring

/-- A fraction is too large exactly if what it belongs to is beyond the format. -/
theorem Between.lt_overflow_iff (h : Between m (n * Nat.pow 2 1074) d) (positive : 0 < d) :
    (n / d : ℚ) < overflow ↔ m < infinite := by
  have last := overflow_eq
  constructor
  · intro small
    by_contra beyond
    have reached : infinite ≤ m := Nat.le_of_not_lt beyond
    have passed : infinite - 1 < m := Nat.lt_of_lt_of_le (by decide) reached
    have lower := (h.below positive passed).1
    have order : level infinite ≤ level m := level_strictMono.monotone reached
    linarith
  · intro finite
    obtain ⟨upper, strict⟩ := h.above positive finite
    rcases Nat.lt_or_eq_of_le (Nat.le_sub_one_of_lt finite) with less | rfl
    · have order := level_strictMono less
      linarith
    · have := strict (by decide)
      linarith

/-! ### Rounding -/

/-- A number is not closer to a fraction for its sign. -/
theorem dist_level_le (nonneg : 0 ≤ r) (y : Binary64) :
    |level y.magnitude - r| ≤ |y.toRat - r| := by
  have := abs_abs_sub_abs_le_abs_sub y.toRat r
  rwa [abs_toRat, abs_of_nonneg nonneg] at this

/-- If a number is as close to a fraction as the number of its magnitude without a sign,
it has the value of that, or else zero would be closer. -/
theorem toRat_eq_level_of_tie (zero : |level y.magnitude - r| ≤ |level 0 - r|)
    (tie : |y.toRat - r| = |level y.magnitude - r|) : y.toRat = level y.magnitude := by
  rcases abs_eq_abs.mp tie with same | opposite
  · linarith
  · rw [toRat_eq] at opposite ⊢
    split at opposite
    · next negative =>
      have noFraction : r = 0 := by linarith
      rw [noFraction, level_zero, sub_zero, sub_zero, abs_zero] at zero
      have noLevel := abs_eq_zero.mp (le_antisymm zero (abs_nonneg _))
      rw [if_pos negative, noLevel, neg_zero]
    · next positive => rw [if_neg positive]

theorem closest_of_between (h : Between m (n * Nat.pow 2 1074) d) (positive : 0 < d)
    (unsigned : x.negative = false) (magnitude : x.magnitude = m) (finite : m < infinite) :
    Closest (n / d) x := by
  have nonneg : (0 : ℚ) ≤ n / d := by positivity
  have value : x.toRat = level m := by rw [toRat_of_unsigned unsigned, magnitude]
  refine ⟨isFinite_iff.mpr (magnitude ▸ finite), unsigned, ?_, ?_⟩
  · intro y _
    rw [value]
    exact (h.closest positive y.magnitude).trans (dist_level_le nonneg y)
  · intro y _ other tie
    rw [value] at other tie
    have unsignedTie : |level y.magnitude - n / d| = |level m - n / d| :=
      le_antisymm ((dist_level_le nonneg y).trans_eq tie) (h.closest positive y.magnitude)
    have another : y.magnitude ≠ m := by
      rintro rfl
      exact other (toRat_eq_level_of_tie (h.closest positive 0) tie)
    rw [even_significand_iff, magnitude]
    exact h.even_of_tie positive another unsignedTie

/-- **Rounding is correct.** -/
theorem roundsTo_ofRatio (n : Nat) {d : Nat} (positive : 0 < d) :
    RoundsTo (n / d) (ofRatio n d) := by
  obtain ⟨m, between, rounded⟩ := exists_between n positive
  unfold RoundsTo
  by_cases finite : m < infinite
  · rw [if_pos ((between.lt_overflow_iff positive).mpr finite)]
    refine closest_of_between between positive rfl ?_ finite
    exact rounded.trans (Nat.min_eq_left (Nat.le_of_lt finite))
  · rw [if_neg (mt (between.lt_overflow_iff positive).mp finite)]
    apply ext_magnitude
    · rfl
    · exact rounded.trans (Nat.min_eq_right (Nat.le_of_not_lt finite))

end Binary64

/-! ### Decimals -/

/-- The exact value of a decimal. -/
def Decimal.toRat (d : Decimal) : ℚ := d.significand * 10 ^ d.exponent

/-- **Decimals are rounded correctly.** -/
theorem Binary64.roundsTo_ofDecimal (d : Decimal) : RoundsTo d.toRat (ofDecimal d) := by
  have positive : 0 < Nat.pow 10 (-d.exponent).toNat := Nat.pow_pos (by decide)
  have rounds := roundsTo_ofRatio (d.significand * Nat.pow 10 d.exponent.toNat) positive
  have value : ((d.significand * Nat.pow 10 d.exponent.toNat : ℕ) : ℚ) /
      (Nat.pow 10 (-d.exponent).toNat : ℕ) = d.toRat := by
    unfold Decimal.toRat
    obtain ⟨k, whole | places⟩ := Int.eq_nat_or_neg d.exponent
    · simp [whole]
    · simp [places, div_eq_mul_inv]
  rw [value] at rounds
  exact rounds

end Lexis
