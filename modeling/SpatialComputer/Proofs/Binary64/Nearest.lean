import Mathlib.Algebra.Order.Field.Power
import Mathlib.Algebra.Order.Round
import Mathlib.Data.Rat.Floor
import Mathlib.Tactic.FieldSimp
import Mathlib.Tactic.GCongr
import Mathlib.Tactic.Linarith
import Mathlib.Tactic.Positivity
import Mathlib.Tactic.Ring

/-!
# Nearest representable numbers

Rounding is a matter of rational numbers. A number is representable if it is a whole number of at most 53 bits times a power of two, and a number is rounded to a representable one that is nearest to it. All that later bounds need follows from this alone: a representable number is kept, what lies below a representable number is not rounded above it, and the error is at most half of the distance between neighbours. Powers of two have no upper end here; whether a rounded number overflows is asked afterwards.
-/

namespace SpatialComputer.Binary64

/-- Whether a number is a whole number of at most 53 bits times a power of two that a double reaches down to. -/
def Representable (q : ℚ) : Prop :=
  ∃ m e : ℤ, |m| < 2 ^ 53 ∧ -1074 ≤ e ∧ q = m * 2 ^ e

namespace Representable

theorem zero : Representable 0 := ⟨0, 0, by simp⟩

theorem neg {q : ℚ} (h : Representable q) : Representable (-q) := by
  obtain ⟨m, e, hm, he, rfl⟩ := h
  exact ⟨-m, e, by rwa [abs_neg], he, by push_cast; ring⟩

/-- A mantissa that has been rounded up to a power of two is one bit longer but still representable. -/
theorem of_abs_le {m e : ℤ} (hm : |m| ≤ 2 ^ 53) (he : -1074 ≤ e) : Representable (m * 2 ^ e) := by
  rcases hm.lt_or_eq with hlt | heq
  · exact ⟨m, e, hlt, he, rfl⟩
  · have hpower : (2 : ℚ) ^ (e + 1) = 2 * 2 ^ e := by
      rw [zpow_add₀ two_ne_zero, zpow_one, mul_comm]
    rcases abs_choice m with hchoice | hchoice
    · refine ⟨2 ^ 52, e + 1, by norm_num, by omega, ?_⟩
      rw [← hchoice, heq, hpower]
      push_cast
      ring
    · have hm : m = -2 ^ 53 := by omega
      refine ⟨-2 ^ 52, e + 1, by norm_num, by omega, ?_⟩
      rw [hm, hpower]
      push_cast
      ring

theorem of_int {n : ℤ} (hn : |n| ≤ 2 ^ 53) : Representable n := by
  have h := of_abs_le hn (by norm_num : (-1074 : ℤ) ≤ 0)
  rwa [zpow_zero, mul_one] at h

theorem two_zpow {e : ℤ} (he : -1074 ≤ e) : Representable (2 ^ e) := by
  have h := of_abs_le (by norm_num : |(1 : ℤ)| ≤ 2 ^ 53) he
  rwa [Int.cast_one, one_mul] at h

/-- Above the numbers of 52 bits, the representable numbers are multiples of the power of two at hand. -/
theorem exists_multiple {q : ℚ} (h : Representable q) {e : ℤ}
    (hq : e = -1074 ∨ 2 ^ 52 * 2 ^ e ≤ |q|) : ∃ n : ℤ, q = n * 2 ^ e := by
  obtain ⟨m, e', hm, he', rfl⟩ := h
  have hle : e ≤ e' := by
    rcases hq with rfl | hq
    · exact he'
    · have hlt : (2 : ℚ) ^ (52 + e) < 2 ^ (53 + e') := by
        have hm' : |(m : ℚ)| < 2 ^ 53 := by exact_mod_cast hm
        rw [abs_mul, abs_of_pos (by positivity : (0 : ℚ) < 2 ^ e')] at hq
        calc (2 : ℚ) ^ (52 + e) = 2 ^ 52 * 2 ^ e := by rw [zpow_add₀ two_ne_zero]; norm_num
          _ ≤ |(m : ℚ)| * 2 ^ e' := hq
          _ < 2 ^ 53 * 2 ^ e' := by gcongr
          _ = 2 ^ (53 + e') := by rw [zpow_add₀ two_ne_zero]; norm_num
      have := (zpow_lt_zpow_iff_right₀ (by norm_num : (1 : ℚ) < 2)).mp hlt
      omega
  refine ⟨m * 2 ^ (e' - e).toNat, ?_⟩
  have hsplit : (2 : ℚ) ^ e' = 2 ^ (e' - e).toNat * 2 ^ e := by
    rw [← zpow_natCast, ← zpow_add₀ two_ne_zero]
    congr 1
    omega
  rw [hsplit]
  push_cast
  ring

end Representable

/-- Whether `r` is a representable number nearest to `v`. -/
structure IsNearest (v r : ℚ) : Prop where
  representable : Representable r
  abs_sub_le : ∀ q, Representable q → |r - v| ≤ |q - v|

namespace IsNearest

variable {v w r s q : ℚ}

theorem neg (h : IsNearest v r) : IsNearest (-v) (-r) := by
  refine ⟨h.representable.neg, fun q hq => ?_⟩
  have hle := h.abs_sub_le (-q) hq.neg
  rw [show -r - -v = -(r - v) by ring, show q - -v = -(-q - v) by ring, abs_neg, abs_neg]
  exact hle

theorem eq_self (h : IsNearest v r) (hv : Representable v) : r = v := by
  have hle := h.abs_sub_le v hv
  rw [sub_self, abs_zero] at hle
  exact sub_eq_zero.mp (abs_nonpos_iff.mp hle)

theorem le_of_le (h : IsNearest v r) (hq : Representable q) (hv : v ≤ q) : r ≤ q := by
  by_contra hlt
  have hle := h.abs_sub_le q hq
  rw [abs_of_pos (by linarith), abs_of_nonneg (by linarith)] at hle
  linarith

theorem le_of_ge (h : IsNearest v r) (hq : Representable q) (hv : q ≤ v) : q ≤ r := by
  have hle := h.neg.le_of_le hq.neg (neg_le_neg hv)
  linarith

theorem abs_le_of_abs_le (h : IsNearest v r) (hq : Representable q) (hv : |v| ≤ q) : |r| ≤ q := by
  obtain ⟨hlow, hhigh⟩ := abs_le.mp hv
  exact abs_le.mpr ⟨h.le_of_ge hq.neg hlow, h.le_of_le hq hhigh⟩

theorem mono (h : IsNearest v r) (h' : IsNearest w s) (hvw : v < w) : r ≤ s := by
  by_contra hlt
  rw [not_le] at hlt
  -- Both numbers would have to be nearer to the other end of the gap between them.
  have hv := h.abs_sub_le s h'.representable
  have hw := h'.abs_sub_le r h.representable
  rcases le_total v s with hvs | hvs
  · rw [abs_of_nonneg (by linarith), abs_of_nonneg (by linarith)] at hv
    linarith
  · rcases le_total r w with hrw | hrw
    · rw [abs_of_nonpos (by linarith), abs_of_nonpos (by linarith)] at hw
      linarith
    · rw [abs_of_nonneg (by linarith), abs_of_nonpos (by linarith)] at hv
      rw [abs_of_nonpos (by linarith), abs_of_nonneg (by linarith)] at hw
      linarith

/-- The error is at most half of a unit in the last place of numbers that are at least as large. -/
theorem abs_sub_le_half (h : IsNearest v r) {e : ℤ} (he : -1074 ≤ e) (hv : |v| ≤ 2 ^ 53 * 2 ^ e) :
    |r - v| ≤ 2 ^ e / 2 := by
  have hunit : (0 : ℚ) < 2 ^ e := by positivity
  have hmantissa : |round (v / 2 ^ e)| ≤ 2 ^ 53 := by
    have hquotient : |v / 2 ^ e| ≤ 2 ^ 53 := by
      rw [abs_div, abs_of_pos hunit, div_le_iff₀ hunit]
      exact hv
    have hround := abs_sub_round (v / 2 ^ e)
    have hlt : |(round (v / 2 ^ e) : ℚ)| < 2 ^ 53 + 1 := by
      have htriangle := abs_sub_abs_le_abs_sub (round (v / 2 ^ e) : ℚ) (v / 2 ^ e)
      rw [abs_sub_comm] at hround
      linarith
    have hlt : |round (v / 2 ^ e)| < 2 ^ 53 + 1 := by exact_mod_cast hlt
    omega
  refine (h.abs_sub_le _ (.of_abs_le hmantissa he)).trans ?_
  have herror : (round (v / 2 ^ e) : ℚ) * 2 ^ e - v = (round (v / 2 ^ e) - v / 2 ^ e) * 2 ^ e := by
    field_simp
  rw [herror, abs_mul, abs_of_pos hunit, abs_sub_comm]
  have hround := abs_sub_round (v / 2 ^ e)
  nlinarith

end IsNearest

private theorem abs_sub_le_of_half {x : ℚ} {n : ℤ} (hn : |n - x| ≤ 1 / 2) (k : ℤ) :
    |n - x| ≤ |k - x| := by
  by_cases hk : k = n
  · rw [hk]
  · have hgap : (1 : ℚ) ≤ |(k - n : ℚ)| := by
      have hgap : 1 ≤ |k - n| := Int.one_le_abs (sub_ne_zero.mpr hk)
      exact_mod_cast hgap
    have htriangle := abs_sub_le (k : ℚ) x n
    rw [abs_sub_comm x] at htriangle
    linarith

/-- Rounding the mantissa to the nearest integer rounds to a nearest representable number. -/
theorem isNearest_of_mantissa {v : ℚ} {n e : ℤ} (he : -1074 ≤ e)
    (hlow : (0 ≤ v ∧ e = -1074) ∨ 2 ^ 52 * 2 ^ e ≤ v) (hhigh : v < 2 ^ 53 * 2 ^ e)
    (hn : |n - v / 2 ^ e| ≤ 1 / 2) : IsNearest v (n * 2 ^ e) := by
  have hunit : (0 : ℚ) < 2 ^ e := by positivity
  have hv : 0 ≤ v := by
    rcases hlow with ⟨hv, -⟩ | hlow
    · exact hv
    · exact le_trans (by positivity) hlow
  have hscale : ∀ k : ℤ, |k * 2 ^ e - v| = |k - v / 2 ^ e| * 2 ^ e := by
    intro k
    rw [← abs_of_pos hunit, ← abs_mul, abs_of_pos hunit]
    congr 1
    field_simp
  -- Among the multiples of the unit the rounded one is nearest; it remains to rule out finer numbers.
  have hmultiple : ∀ k : ℤ, |n * 2 ^ e - v| ≤ |k * 2 ^ e - v| := by
    intro k
    rw [hscale, hscale]
    exact mul_le_mul_of_nonneg_right (abs_sub_le_of_half hn k) hunit.le
  constructor
  · refine .of_abs_le ?_ he
    have hquotient : v / 2 ^ e < 2 ^ 53 := by rwa [div_lt_iff₀ hunit]
    have hquotient' : 0 ≤ v / 2 ^ e := by positivity
    obtain ⟨hl, hr⟩ := abs_le.mp hn
    have hl : (-1 : ℚ) < n := by linarith
    have hr : (n : ℚ) < 2 ^ 53 + 1 := by linarith
    have hl : -1 < n := by exact_mod_cast hl
    have hr : n < 2 ^ 53 + 1 := by exact_mod_cast hr
    rw [abs_le]
    omega
  · intro q hq
    by_cases hlarge : e = -1074 ∨ 2 ^ 52 * 2 ^ e ≤ |q|
    · obtain ⟨k, rfl⟩ := hq.exists_multiple hlarge
      exact hmultiple k
    · -- Below the numbers of 53 bits there are others, but the least of them is nearer to `v`.
      rw [not_or, not_le] at hlarge
      have hv' : 2 ^ 52 * 2 ^ e ≤ v := hlow.resolve_left fun h => hlarge.1 h.2
      have hleast := hmultiple (2 ^ 52)
      push_cast at hleast
      refine hleast.trans ?_
      have hq := (abs_lt.mp hlarge.2).2
      rw [abs_of_nonpos (by linarith), abs_of_nonpos (by linarith)]
      linarith

/-- A number of units in the last place is rounded to a nearest number of units, which is as long as a mantissa but may carry into one more bit. -/
theorem isNearest_of_units {x : ℚ} {n : Nat} {e : ℤ} (he : -1074 ≤ e) (hx : 0 ≤ x)
    (hhigh : x < 2 ^ 53) (hlow : e = -1074 ∨ 2 ^ 52 ≤ x) (hn : |(n : ℚ) - x| ≤ 1 / 2) :
    IsNearest (x * 2 ^ e) (n * 2 ^ e) ∧ n ≤ 2 ^ 53 ∧ (2 ^ 52 ≤ n ∨ e = -1074) := by
  have hunit : (0 : ℚ) < 2 ^ e := by positivity
  obtain ⟨hbelow, habove⟩ := abs_le.mp hn
  refine ⟨?_, ?_, ?_⟩
  · rw [← Int.cast_natCast (R := ℚ)]
    refine isNearest_of_mantissa he ?_ (by gcongr) ?_
    · rcases hlow with hleast | hlow
      · exact Or.inl ⟨by positivity, hleast⟩
      · exact Or.inr (by gcongr)
    · rwa [mul_div_cancel_right₀ _ hunit.ne', Int.cast_natCast]
  · have hlt : (n : ℚ) < 2 ^ 53 + 1 := by linarith
    have hlt : n < 2 ^ 53 + 1 := by exact_mod_cast hlt
    omega
  · rcases hlow with hleast | hlow
    · exact Or.inr hleast
    · have hlt : (2 : ℚ) ^ 52 < n + 1 := by linarith
      have hlt : 2 ^ 52 < n + 1 := by exact_mod_cast hlt
      omega

end SpatialComputer.Binary64
