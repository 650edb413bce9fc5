import Mathlib.Order.Monotone.Basic
import RemoteNotes.Number.Double

/-!
# The order of floating-point numbers

Numbers are compared by their magnitudes. That is the order of their values
(`magnitude_le_iff`), so that a bound on a number is a bound on its value.
-/

namespace RemoteNotes.Number

theorem twoTo_add (m n : Nat) : twoTo (m + n) = twoTo m * twoTo n := Nat.pow_add 2 m n

theorem twoTo_pos (n : Nat) : 0 < twoTo n := Nat.pow_pos (by decide)

namespace Double

/-- The value of a magnitude, counted in the smallest number above zero. -/
def units (magnitude : Nat) : Nat :=
  (if magnitude < twoTo 52 then magnitude else twoTo 52 + magnitude % twoTo 52) *
    twoTo (max 1 (magnitude / twoTo 52) - 1)

theorem units_of_small {m : Nat} (h : m < twoTo 52) : units m = m := by
  simp [units, h, Nat.div_eq_of_lt h, twoTo_zero]

theorem units_of_normal {m e : Nat} (h : m / twoTo 52 = e + 1) :
    units m = (twoTo 52 + m % twoTo 52) * twoTo e := by
  have hlarge : ¬m < twoTo 52 := fun hm => by simp [Nat.div_eq_of_lt hm] at h
  simp [units, hlarge, h]

/-- The next magnitude has the next fraction, or the next exponent and the least fraction. -/
theorem succ_cases (m : Nat) :
    ((m + 1) / twoTo 52 = m / twoTo 52 ∧ (m + 1) % twoTo 52 = m % twoTo 52 + 1) ∨
      (m % twoTo 52 + 1 = twoTo 52 ∧ (m + 1) / twoTo 52 = m / twoTo 52 + 1 ∧
        (m + 1) % twoTo 52 = 0) := by
  have hlit : twoTo 52 = 4503599627370496 := by decide
  rw [hlit]
  omega

theorem units_lt_succ (m : Nat) : units m < units (m + 1) := by
  rcases hexponent : m / twoTo 52 with _ | e
  · have hm : m < twoTo 52 := Nat.lt_of_div_eq_zero (twoTo_pos 52) hexponent
    rw [units_of_small hm]
    rcases succ_cases m with ⟨hdiv, -⟩ | ⟨hlast, hdiv, hmod⟩
    · rw [units_of_small (Nat.lt_of_div_eq_zero (twoTo_pos 52) (hdiv.trans hexponent))]
      exact Nat.lt_succ_self m
    · rw [hexponent] at hdiv
      rw [units_of_normal hdiv, hmod, twoTo_zero, Nat.mul_one]
      exact hm
  · rw [units_of_normal hexponent]
    rcases succ_cases m with ⟨hdiv, hmod⟩ | ⟨hlast, hdiv, hmod⟩
    · rw [units_of_normal (hdiv.trans hexponent), hmod]
      exact Nat.mul_lt_mul_of_pos_right (by omega) (twoTo_pos e)
    · rw [hexponent] at hdiv
      rw [units_of_normal hdiv, hmod, twoTo_succ e, Nat.mul_comm (twoTo e) 2, ← Nat.mul_assoc]
      exact Nat.mul_lt_mul_of_pos_right (by omega) (twoTo_pos e)

theorem units_strictMono : StrictMono units := strictMono_nat_of_lt_succ units_lt_succ

theorem ratio_pos (x : Double) : 0 < x.ratio.2 := by
  unfold ratio
  split
  · exact Nat.one_pos
  · exact twoTo_pos _

theorem ratio_units (x : Double) : x.ratio.1 * twoTo 1074 = units x.magnitude * x.ratio.2 := by
  have hunits : units x.magnitude = x.significand * twoTo (x.exponent - 1) := rfl
  unfold ratio
  split
  · next h =>
    have hexponent : x.exponent - 1 = (x.exponent - 1075) + 1074 := by omega
    rw [hunits, hexponent, twoTo_add, Nat.mul_one, Nat.mul_assoc]
  · next h =>
    have hone : 1 ≤ x.exponent := Nat.le_max_left ..
    have hexponent : 1074 = (x.exponent - 1) + (1075 - x.exponent) := by omega
    rw [hunits, Nat.mul_assoc, ← twoTo_add, ← hexponent]

/-- Of two finite numbers the one with the greater magnitude has the greater value. -/
theorem magnitude_le_iff (x y : Double) :
    x.magnitude ≤ y.magnitude ↔ x.ratio.1 * y.ratio.2 ≤ y.ratio.1 * x.ratio.2 := by
  have hx := ratio_units x
  have hy := ratio_units y
  have hden : 0 < x.ratio.2 * y.ratio.2 := Nat.mul_pos (ratio_pos x) (ratio_pos y)
  calc x.magnitude ≤ y.magnitude
      ↔ units x.magnitude ≤ units y.magnitude := units_strictMono.le_iff_le.symm
    _ ↔ units x.magnitude * (x.ratio.2 * y.ratio.2) ≤
        units y.magnitude * (x.ratio.2 * y.ratio.2) := (Nat.mul_le_mul_right_iff hden).symm
    _ ↔ x.ratio.1 * y.ratio.2 * twoTo 1074 ≤ y.ratio.1 * x.ratio.2 * twoTo 1074 := by
        rw [← Nat.mul_assoc, ← hx, Nat.mul_comm x.ratio.2, ← Nat.mul_assoc, ← hy,
          Nat.mul_right_comm x.ratio.1, Nat.mul_right_comm y.ratio.1]
    _ ↔ x.ratio.1 * y.ratio.2 ≤ y.ratio.1 * x.ratio.2 := Nat.mul_le_mul_right_iff (twoTo_pos 1074)

end Double

end RemoteNotes.Number
