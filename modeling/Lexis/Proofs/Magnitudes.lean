import Lexis.Binary64.Rounding
import Mathlib.Algebra.Ring.Nat
import Mathlib.Order.Monotone.Basic

/-!
# Magnitudes and rounding

The magnitudes of binary64 numbers are numbered in the order of their values, and
`Binary64.units` says which value each of them has.  Two facts about it carry
everything else:

* **Neighbours differ by a power of two** (`units_succ`), so the values grow
  strictly with the magnitudes (`units_strictMono`).
* **Each number of units lies in one step** (`units_floorMagnitude`), which goes
  from the value of its floor up to that of the next magnitude.

Rounding then finds the magnitude that a fraction belongs to
(`nearest_eq_of_between`): the one whose midpoints with its two neighbours lie on
either side of the fraction.  A fraction at a midpoint belongs to the even one.
-/

namespace Lexis

namespace Binary64

/-! ### Values -/

theorem ext_magnitude {x y : Binary64} (sign : x.negative = y.negative)
    (magnitude : x.magnitude = y.magnitude) : x = y := by
  cases x
  cases y
  simp_all

/-- Positive infinity. -/
def infinity : Binary64 := ⟨false, infinite, infinite_lt⟩

theorem units_of_lt {m : Nat} (subnormal : m < 2 ^ 52) : units m = m := by
  unfold units
  simp only [Nat.pow_eq]
  rw [if_pos (by omega), Nat.mod_eq_of_lt subnormal]

theorem units_normal (e : Nat) {f : Nat} (fraction : f < 2 ^ 52) :
    units ((e + 1) * 2 ^ 52 + f) = (2 ^ 52 + f) * 2 ^ e := by
  have exponent : ((e + 1) * 2 ^ 52 + f) / 2 ^ 52 = e + 1 := by omega
  have remainder : ((e + 1) * 2 ^ 52 + f) % 2 ^ 52 = f := by omega
  unfold units
  simp only [Nat.pow_eq, exponent, remainder]
  rw [if_neg (by omega), Nat.add_sub_cancel]

/-- A magnitude is a subnormal one, or has an exponent and a fraction. -/
theorem subnormal_or_normal (m : Nat) :
    m < 2 ^ 52 ∨ ∃ e f, f < 2 ^ 52 ∧ m = (e + 1) * 2 ^ 52 + f := by
  by_cases subnormal : m < 2 ^ 52
  · exact Or.inl subnormal
  · exact Or.inr ⟨m / 2 ^ 52 - 1, m % 2 ^ 52, by omega, by omega⟩

/-- **Neighbours differ by a power of two.** -/
theorem units_succ (m : Nat) : units (m + 1) = units m + 2 ^ (m / 2 ^ 52 - 1) := by
  rcases subnormal_or_normal m with subnormal | ⟨e, f, fraction, rfl⟩
  · have exponent : m / 2 ^ 52 - 1 = 0 := by omega
    rw [units_of_lt subnormal, exponent]
    by_cases last : m + 1 = 2 ^ 52
    · have next := units_normal 0 (f := 0) (by omega)
      rw [last]
      simpa [← last] using next
    · rw [units_of_lt (by omega), Nat.pow_zero]
  · have exponent : ((e + 1) * 2 ^ 52 + f) / 2 ^ 52 - 1 = e := by omega
    rw [units_normal e fraction, exponent]
    by_cases last : f + 1 = 2 ^ 52
    · -- The fraction starts over, and the exponent makes up for it.
      have next := units_normal (e + 1) (f := 0) (by omega)
      have carried : (e + 1) * 2 ^ 52 + f + 1 = (e + 1 + 1) * 2 ^ 52 + 0 := by omega
      rw [carried, next, Nat.pow_succ]
      have : f = 2 ^ 52 - 1 := by omega
      subst this
      omega
    · rw [Nat.add_assoc _ f 1, units_normal e (by omega), ← Nat.add_assoc, Nat.succ_mul]

/-- **Values grow with magnitudes.** -/
theorem units_strictMono : StrictMono units := by
  apply strictMono_nat_of_lt_succ
  intro m
  rw [units_succ]
  exact Nat.lt_add_of_pos_right (Nat.two_pow_pos _)

/-! ### Floors -/

/-- A number of at most 53 bits, shifted, is the value of a magnitude; shifted
ones have all 53 bits. -/
theorem units_shifted {s t : Nat} (bits : t < 2 ^ 53) (leading : s = 0 ∨ 2 ^ 52 ≤ t) :
    units (s * 2 ^ 52 + t) = t * 2 ^ s ∧ units (s * 2 ^ 52 + t + 1) = (t + 1) * 2 ^ s := by
  by_cases normal : 2 ^ 52 ≤ t
  · obtain ⟨f, rfl⟩ := Nat.exists_eq_add_of_le normal
    have split : s * 2 ^ 52 + (2 ^ 52 + f) = (s + 1) * 2 ^ 52 + f := by omega
    have exponent : ((s + 1) * 2 ^ 52 + f) / 2 ^ 52 - 1 = s := by omega
    rw [units_succ, split, units_normal s (by omega), exponent, Nat.succ_mul]
    exact ⟨rfl, rfl⟩
  · obtain rfl : s = 0 := by omega
    have exponent : t / 2 ^ 52 - 1 = 0 := by omega
    rw [units_succ, Nat.zero_mul, Nat.zero_add, units_of_lt (by omega), exponent]
    simp

theorem floorMagnitude_bits (q : Nat) :
    q / 2 ^ (q.log2 - 52) < 2 ^ 53 ∧ (q.log2 - 52 = 0 ∨ 2 ^ 52 ≤ q / 2 ^ (q.log2 - 52)) := by
  have upper : q < 2 ^ (q.log2 + 1) := Nat.lt_log2_self
  by_cases small : q.log2 ≤ 52
  · have unshifted : q.log2 - 52 = 0 := by omega
    rw [unshifted, Nat.pow_zero, Nat.div_one]
    refine ⟨Nat.lt_of_lt_of_le upper (Nat.pow_le_pow_right (by decide) (by omega)), Or.inl rfl⟩
  · obtain ⟨s, bits⟩ : ∃ s, q.log2 = 52 + s := Nat.exists_eq_add_of_le (by omega)
    have nonzero : q ≠ 0 := by
      rintro rfl
      simp at small
    have lower : 2 ^ q.log2 ≤ q := Nat.log2_self_le nonzero
    have shift : q.log2 - 52 = s := by omega
    rw [shift, Nat.div_lt_iff_lt_mul (Nat.two_pow_pos s), Nat.le_div_iff_mul_le (Nat.two_pow_pos s),
      ← Nat.pow_add, ← Nat.pow_add]
    rw [bits] at lower upper
    refine ⟨?_, Or.inr lower⟩
    rwa [show 53 + s = 52 + s + 1 by omega]

/-- **The floor of a number of units**: the number lies in the step that starts
there. -/
theorem units_floorMagnitude (q : Nat) :
    units (floorMagnitude q) ≤ q ∧ q < units (floorMagnitude q + 1) := by
  obtain ⟨bits, leading⟩ := floorMagnitude_bits q
  obtain ⟨here, next⟩ := units_shifted bits leading
  have positive := Nat.two_pow_pos (q.log2 - 52)
  unfold floorMagnitude
  simp only [Nat.pow_eq]
  rw [here, next]
  exact ⟨Nat.div_mul_le_self _ _, Nat.lt_mul_of_div_lt (Nat.lt_succ_self _) positive⟩

/-! ### Rounding -/

/-- `m` is the magnitude that the fraction `v / d`, in units, belongs to: the
fraction lies between the midpoints of `m` with its neighbours, or at one of them
if `m` is even. -/
structure Between (m v d : Nat) : Prop where
  lower : (units (m - 1) + units m) * d ≤ 2 * v
  upper : 2 * v ≤ (units m + units (m + 1)) * d
  even : m % 2 = 1 → (units (m - 1) + units m) * d < 2 * v ∧
    2 * v < (units m + units (m + 1)) * d

/-- A fraction that belongs to `m` has `m` or the magnitude before it as its
floor. -/
theorem Between.floor {m v d : Nat} (h : Between m v d) (positive : 0 < d) :
    floorMagnitude (v / d) = m ∨ floorMagnitude (v / d) + 1 = m := by
  obtain ⟨below, above⟩ := units_floorMagnitude (v / d)
  generalize floorMagnitude (v / d) = b at below above
  have reached : units b * d ≤ v := (Nat.le_div_iff_mul_le positive).mp below
  have passed : v < units (b + 1) * d := (Nat.div_lt_iff_lt_mul positive).mp above
  have notAbove : b ≤ m := by
    by_contra later
    have order : units (m + 1) ≤ units b := units_strictMono.monotone (by omega)
    have step : units m < units (m + 1) := units_strictMono (Nat.lt_succ_self m)
    have twice : 2 * units b * d ≤ (units m + units (m + 1)) * d :=
      calc 2 * units b * d
          = 2 * (units b * d) := Nat.mul_assoc ..
        _ ≤ 2 * v := Nat.mul_le_mul_left 2 reached
        _ ≤ (units m + units (m + 1)) * d := h.upper
    have := Nat.le_of_mul_le_mul_right twice positive
    omega
  have notBelow : m ≤ b + 1 := by
    by_contra earlier
    have order : units (b + 1) ≤ units (m - 1) := units_strictMono.monotone (by omega)
    have step : units (m - 1) < units m := units_strictMono (by omega)
    have twice : (units (m - 1) + units m) * d < 2 * units (b + 1) * d :=
      calc (units (m - 1) + units m) * d
          ≤ 2 * v := h.lower
        _ < 2 * (units (b + 1) * d) := Nat.mul_lt_mul_of_pos_left passed (by decide)
        _ = 2 * units (b + 1) * d := (Nat.mul_assoc ..).symm
    have := Nat.lt_of_mul_lt_mul_right twice
    omega
  omega

/-- **Rounding finds the magnitude that a fraction belongs to.** -/
theorem nearest_eq_of_between {m n d : Nat} (positive : 0 < d) (finite : m < infinite)
    (h : Between m (n * Nat.pow 2 1074) d) : nearest n d = m := by
  have floor := h.floor positive
  have lower := h.lower
  have upper := h.upper
  have even := h.even
  unfold nearest
  dsimp only
  generalize n * Nat.pow 2 1074 = v at floor lower upper even ⊢
  generalize floorMagnitude (v / d) = b at floor ⊢
  suffices closest : (if 2 * v < (units b + units (b + 1)) * d then b
      else if (units b + units (b + 1)) * d < 2 * v then b + 1
      else if b % 2 = 0 then b else b + 1) = m by
    rw [closest]
    exact Nat.min_eq_left (Nat.le_of_lt finite)
  rcases floor with rfl | rfl
  · -- The fraction is not beyond the midpoint above `m`.
    by_cases strict : 2 * v < (units b + units (b + 1)) * d
    · rw [if_pos strict]
    · have parity : b % 2 = 0 := by
        by_contra odd
        exact strict (even (by omega)).2
      rw [if_neg strict, if_neg (by omega), if_pos parity]
  · -- The fraction is not below the midpoint below `m`.
    rw [Nat.add_sub_cancel] at lower even
    by_cases strict : (units b + units (b + 1)) * d < 2 * v
    · rw [if_neg (by omega), if_pos strict]
    · have parity : b % 2 = 1 := by
        by_contra isEven
        exact strict (even (by omega)).1
      rw [if_neg (by omega), if_neg strict, if_neg (by omega)]

end Binary64

end Lexis
