import Mathlib.Algebra.Order.Field.Basic
import Mathlib.Algebra.Order.Field.Rat
import Mathlib.Tactic.LinearCombination
import Mathlib.Tactic.Positivity
import RemoteDriver.Number.Double

/-!
# The numbers that doubles are

A finite double is a rational number, `Double.value`: a whole number of fifty-three bits times a
power of two, with a sign.  The whole number that is read off the quotient of a double is there
exactly if this number is whole, and is the same (`toInt?_eq_some_iff`); nothing is rounded on the
way.
-/

namespace RemoteDriver.Double

/-- On which side of zero a double lies. -/
def sign (d : Double) : Int := if d.negative then -1 else 1

/-- The number that a finite double is. -/
def value (d : Double) : ℚ := d.sign * (d.significand * 2 ^ d.scale)

/-- The denominator of a double is not zero. -/
theorem ratio_snd_pos (d : Double) : 0 < d.ratio.2 := by
  unfold ratio
  split
  · exact Nat.one_pos
  · exact Nat.two_pow_pos _

/-- The quotient of a double is its magnitude. -/
theorem value_eq_ratio (d : Double) : d.value = d.sign * (d.ratio.1 / d.ratio.2) := by
  unfold value ratio
  congr 1
  by_cases whole : 0 ≤ d.scale
  · obtain ⟨k, hk⟩ := Int.eq_ofNat_of_zero_le whole
    rw [if_pos whole, hk]
    simp [Number.twoTo]
  · obtain ⟨k, hk⟩ := Int.eq_ofNat_of_zero_le (show 0 ≤ -d.scale by omega)
    rw [if_neg whole, hk, show d.scale = -(k : ℤ) by omega, zpow_neg]
    simp [Number.twoTo, div_eq_mul_inv]

/-- A quotient is a whole number exactly where the division leaves nothing. -/
theorem div_eq_intCast_iff (num : Nat) {den : Nat} (pos : 0 < den) (n : Int) :
    (num / den : ℚ) = n ↔ num % den = 0 ∧ ((num / den : Nat) : Int) = n := by
  have ne : (den : ℚ) ≠ 0 := by positivity
  rw [div_eq_iff ne]
  constructor
  · intro same
    have same : (num : ℤ) = n * den := by exact_mod_cast same
    have divides : den ∣ num := Int.natCast_dvd_natCast.mp ⟨n, by rw [same, Int.mul_comm]⟩
    refine ⟨Nat.mod_eq_zero_of_dvd divides, ?_⟩
    rw [Int.natCast_div, same, Int.mul_ediv_cancel _ (by omega)]
  · rintro ⟨rest, rfl⟩
    have divides : num / den * den = num := Nat.div_mul_cancel (Nat.dvd_of_mod_eq_zero rest)
    exact_mod_cast divides.symm

/-- A double is read as a whole number exactly if it is that number. -/
theorem toInt?_eq_some_iff (d : Double) (n : Int) :
    d.toInt? = some n ↔ d.isFinite = true ∧ d.value = n := by
  have quotient := div_eq_intCast_iff d.ratio.1 d.ratio_snd_pos
  rw [value_eq_ratio]
  unfold toInt? sign
  by_cases finite : d.isFinite = true
  · rw [if_pos finite]
    rcases d.negative with _ | _
    · simp [finite, quotient]
    · have quotient := quotient (-n)
      simp only [Int.cast_neg] at quotient
      simp [finite, neg_eq_iff_eq_neg, quotient]
  · rw [if_neg finite]
    simp [finite]

end RemoteDriver.Double
