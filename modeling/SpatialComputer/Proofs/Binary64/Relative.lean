import Mathlib.Data.Int.Log
import SpatialComputer.Proofs.Binary64.Exact

/-!
# Relative errors

Rounding changes a number by at most one part in 2⁵³, unless the number is so small that the representable ones around it are equally spaced. Down there sums and differences of doubles, and their products with whole numbers, are not rounded at all, because they lie on the grid of the smallest double; so the relative bound holds of these without exception. Of other numbers it holds up to half a step of that grid.
-/

namespace SpatialComputer.Binary64

/-- The part of a number that rounding may change it by. -/
def unitError : ℚ := 1 / 2 ^ 53

theorem unitError_pos : 0 < unitError := by norm_num [unitError]

/-- The least positive double. -/
def gridStep : ℚ := 2 ^ (-1074 : ℤ)

theorem gridStep_pos : 0 < gridStep := by
  rw [gridStep]
  positivity

theorem gridStep_le : gridStep ≤ 1 / 2 ^ 60 := by
  rw [gridStep, one_div, ← zpow_natCast, ← zpow_neg]
  exact zpow_le_zpow_right₀ one_le_two (by norm_num)

/-- Whether a number is a whole number of steps of the grid that all doubles lie on. -/
def OnGrid (v : ℚ) : Prop := ∃ n : ℤ, v = n * gridStep

namespace OnGrid

variable {v w : ℚ}

theorem of_representable (h : Representable v) : OnGrid v := h.exists_multiple (.inl rfl)

theorem toRat (x : Float) : OnGrid (toRat x) := .of_representable (representable_toRat x)

theorem add (hv : OnGrid v) (hw : OnGrid w) : OnGrid (v + w) := by
  obtain ⟨m, rfl⟩ := hv
  obtain ⟨n, rfl⟩ := hw
  exact ⟨m + n, by push_cast; ring⟩

theorem neg (hv : OnGrid v) : OnGrid (-v) := by
  obtain ⟨m, rfl⟩ := hv
  exact ⟨-m, by push_cast; ring⟩

theorem sub (hv : OnGrid v) (hw : OnGrid w) : OnGrid (v - w) := by
  rw [sub_eq_add_neg]
  exact hv.add hw.neg

theorem mul_int (hv : OnGrid v) (k : ℤ) : OnGrid (v * k) := by
  obtain ⟨m, rfl⟩ := hv
  exact ⟨m * k, by push_cast; ring⟩

theorem gridStep_le_abs (hv : OnGrid v) (hne : v ≠ 0) : gridStep ≤ |v| := by
  obtain ⟨n, rfl⟩ := hv
  have hn : n ≠ 0 := by
    rintro rfl
    simp at hne
  have hone : (1 : ℚ) ≤ |(n : ℚ)| := by exact_mod_cast Int.one_le_abs hn
  rw [abs_mul, abs_of_pos gridStep_pos]
  exact le_mul_of_one_le_left gridStep_pos.le hone

end OnGrid

namespace IsNearest

variable {v r : ℚ}

/-- A number of normal size is changed by one part in 2⁵³ at most. -/
theorem abs_sub_le_relative (h : IsNearest v r) (hv : 2 ^ (-1022 : ℤ) ≤ |v|) :
    |r - v| ≤ unitError * |v| := by
  have hpos : 0 < |v| := lt_of_lt_of_le (by positivity) hv
  have hlow : (2 : ℚ) ^ Int.log 2 |v| ≤ |v| := Int.zpow_log_le_self one_lt_two hpos
  have hhigh : |v| < 2 ^ (Int.log 2 |v| + 1) := Int.lt_zpow_succ_log_self one_lt_two |v|
  have hlog : -1022 ≤ Int.log 2 |v| := (Int.zpow_le_iff_le_log one_lt_two hpos).mp (by exact_mod_cast hv)
  have hsplit : (2 : ℚ) ^ Int.log 2 |v| = 2 ^ 52 * 2 ^ (Int.log 2 |v| - 52) := by
    rw [zpow_sub₀ two_ne_zero]
    norm_num
    ring
  have hsize : |v| ≤ 2 ^ 53 * 2 ^ (Int.log 2 |v| - 52) := by
    rw [zpow_add_one₀ two_ne_zero, hsplit] at hhigh
    linarith
  have hhalf := h.abs_sub_le_half (e := Int.log 2 |v| - 52) (by omega) hsize
  rw [hsplit] at hlow
  refine hhalf.trans ?_
  rw [unitError]
  linarith

/-- A number on the grid is changed by one part in 2⁵³ at most, however small it is. -/
theorem abs_sub_le_of_onGrid (h : IsNearest v r) (hv : OnGrid v) : |r - v| ≤ unitError * |v| := by
  rcases le_or_gt (2 ^ (-1022 : ℤ)) |v| with hlarge | hsmall
  · exact h.abs_sub_le_relative hlarge
  · -- On the grid and of at most 52 bits, so representable.
    obtain ⟨n, rfl⟩ := hv
    have hn : |n| ≤ 2 ^ 53 := by
      rw [abs_mul, abs_of_pos gridStep_pos, gridStep] at hsmall
      have hstep : (2 : ℚ) ^ (-1022 : ℤ) = 2 ^ 52 * 2 ^ (-1074 : ℤ) := by
        rw [← zpow_natCast, ← zpow_add₀ two_ne_zero]
        norm_num
      rw [hstep] at hsmall
      have hlt : |(n : ℚ)| < 2 ^ 52 := lt_of_mul_lt_mul_right hsmall (by positivity)
      have hlt : |n| < 2 ^ 52 := by exact_mod_cast hlt
      omega
    rw [h.eq_self (.of_abs_le hn le_rfl), sub_self, abs_zero]
    exact mul_nonneg unitError_pos.le (abs_nonneg _)

/-- Any number is changed by one part in 2⁵³ and half a step of the grid at most. -/
theorem abs_sub_le_mixed (h : IsNearest v r) : |r - v| ≤ unitError * |v| + gridStep / 2 := by
  rcases le_or_gt (2 ^ (-1022 : ℤ)) |v| with hlarge | hsmall
  · exact (h.abs_sub_le_relative hlarge).trans (le_add_of_nonneg_right (half_pos gridStep_pos).le)
  · have hsize : |v| ≤ 2 ^ 53 * 2 ^ (-1074 : ℤ) := by
      refine hsmall.le.trans ?_
      rw [← zpow_natCast, ← zpow_add₀ two_ne_zero]
      exact zpow_le_zpow_right₀ one_le_two (by norm_num)
    exact (h.abs_sub_le_half le_rfl hsize).trans
      (le_add_of_nonneg_left (mul_nonneg unitError_pos.le (abs_nonneg _)))

/-- Rounding moves a quotient of whole numbers below 2⁵³ by less than one part of the divisor, so rounding up afterwards still leaves no rest. -/
theorem le_mul_ceil {n p : Nat} {q : ℚ} (h : IsNearest (n / p) q) (hp : 0 < p) (hpn : p ≤ n)
    (hn : n < 2 ^ 53) : (n : ℤ) ≤ p * ⌈q⌉ := by
  have hp' : (0 : ℚ) < p := by exact_mod_cast hp
  have hn' : (n : ℚ) < 2 ^ 53 := by exact_mod_cast hn
  have hv : 1 ≤ (n : ℚ) / p := by
    rw [one_le_div hp']
    exact_mod_cast hpn
  have hclose : |q - n / p| ≤ unitError * (n / p) := by
    have hclose := h.abs_sub_le_relative
    rw [abs_of_pos (by linarith : 0 < (n : ℚ) / p)] at hclose
    exact hclose ((zpow_le_one_of_nonpos₀ one_le_two (by norm_num)).trans hv)
  have hpart : p * (unitError * (n / p)) < 1 := by
    rw [unitError]
    field_simp
    linarith
  have hlow : (n : ℚ) / p - unitError * (n / p) ≤ ⌈q⌉ := by
    linarith [(abs_le.mp hclose).1, Int.le_ceil q]
  have hceil : (n : ℚ) - 1 < p * ⌈q⌉ := by
    calc (n : ℚ) - 1 < p * (n / p - unitError * (n / p)) := by
          rw [mul_sub, mul_div_cancel₀ _ hp'.ne']
          linarith
      _ ≤ p * ⌈q⌉ := by gcongr
  have hceil : (n : ℤ) - 1 < p * ⌈q⌉ := by exact_mod_cast hceil
  omega

end IsNearest

end SpatialComputer.Binary64
