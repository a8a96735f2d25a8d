import SpatialComputer.Binary64.Sine
import SpatialComputer.Proofs.Binary64.Order
import SpatialComputer.Proofs.Binary64.Ratio

/-!
# Bounded doubles

Bounds on the magnitude of what a computation on doubles gives. Numbers up to four lie so close together that every operation on them is exact up to `smallError`, so a bound is carried through a sum, a product or a fused operation by adding this error. Bounds on constants and on computed tables are decided on their parts.
-/

namespace SpatialComputer.Binary64

theorem two_pow_le_largest {n : Nat} (hn : n ≤ 1023) : (2 : ℚ) ^ n ≤ largest := by
  have hle : (2 : ℚ) ^ n ≤ 2 ^ 52 * 2 ^ 971 := by
    rw [← pow_add]
    exact pow_le_pow_right₀ one_le_two hn
  refine hle.trans ?_
  simp only [largest]
  gcongr
  norm_num

/-- Whether a double is finite and at most as large as a bound. -/
structure Bounded (bound : ℚ) (x : Float) : Prop where
  isFinite : x.isFinite = true
  abs_le : |toRat x| ≤ bound

/-- The distance that rounding may move a number that is at most four. -/
def smallError : ℚ := 1 / 2 ^ 52

theorem Rounded.close {v : ℚ} {x : Float} (h : Rounded v x) (hv : |v| ≤ 4) :
    x.isFinite = true ∧ |toRat x - v| ≤ smallError := by
  have hfour : (4 : ℚ) ≤ largest := by
    have hle := two_pow_le_largest (n := 2) (by norm_num)
    norm_num at hle
    exact hle
  have hfinite := h.isFinite_of_le (hv.trans hfour)
  refine ⟨hfinite, ?_⟩
  have hhalf := (h.nearest hfinite).abs_sub_le_half (e := -51) (by norm_num) (hv.trans (by norm_num))
  refine hhalf.trans ?_
  norm_num [smallError]

namespace Bounded

variable {a b c bound : ℚ} {x y z : Float}

theorem nonneg (hx : Bounded a x) : 0 ≤ a := (abs_nonneg _).trans hx.abs_le

theorem mono (hx : Bounded a x) (hle : a ≤ b) : Bounded b x :=
  ⟨hx.isFinite, hx.abs_le.trans hle⟩

theorem self (hx : x.isFinite = true) (hnonneg : 0 ≤ toRat x) : Bounded (toRat x) x :=
  ⟨hx, (abs_of_nonneg hnonneg).le⟩

theorem of_rounded {v : ℚ} (h : Rounded v x) (hv : |v| ≤ a) (hbound : a + smallError ≤ bound)
    (hsmall : bound ≤ 4) : Bounded bound x := by
  have hle : |v| ≤ 4 := by
    have : 0 < smallError := by norm_num [smallError]
    linarith
  obtain ⟨hfinite, hclose⟩ := h.close hle
  refine ⟨hfinite, ?_⟩
  have htriangle := abs_sub_abs_le_abs_sub (toRat x) v
  linarith

/-- A representable bound on the exact result is a bound on the rounded one. -/
theorem of_representable {v : ℚ} (h : Rounded v x) (hv : |v| ≤ bound) (hbound : Representable bound)
    (hle : bound ≤ largest) : Bounded bound x :=
  ⟨h.isFinite_of_le (hv.trans hle), h.abs_toRat_le hbound hv⟩

theorem neg (hx : Bounded a x) : Bounded a (-x) := by
  obtain ⟨hfinite, hrat⟩ := isFinite_neg hx.isFinite
  refine ⟨hfinite, ?_⟩
  rw [hrat, abs_neg]
  exact hx.abs_le

theorem add (hx : Bounded a x) (hy : Bounded b y) (hbound : a + b + smallError ≤ bound)
    (hsmall : bound ≤ 4) : Bounded bound (x + y) := by
  refine of_rounded (rounded_add hx.isFinite hy.isFinite) ?_ hbound hsmall
  exact (abs_add_le _ _).trans (add_le_add hx.abs_le hy.abs_le)

theorem abs_mul_le (hx : Bounded a x) (hy : Bounded b y) : |toRat x * toRat y| ≤ a * b := by
  rw [abs_mul]
  exact mul_le_mul hx.abs_le hy.abs_le (abs_nonneg _) hx.nonneg

theorem mul (hx : Bounded a x) (hy : Bounded b y) (hbound : a * b + smallError ≤ bound)
    (hsmall : bound ≤ 4) : Bounded bound (x * y) :=
  of_rounded (rounded_mul hx.isFinite hy.isFinite) (hx.abs_mul_le hy) hbound hsmall

/-- Scaling down by a number of magnitude at most one keeps a bound that is the number of a double. -/
theorem mul_of_one (hx : Bounded (toRat z) x) (hy : Bounded 1 y) : Bounded (toRat z) (x * y) := by
  refine .of_representable (rounded_mul hx.isFinite hy.isFinite) ?_ (representable_toRat z)
    (toRat_le_largest z)
  have h := hx.abs_mul_le hy
  rwa [mul_one] at h

private theorem abs_mul_add_le (hx : Bounded a x) (hy : Bounded b y) (hz : Bounded c z) :
    |toRat x * toRat y + toRat z| ≤ a * b + c :=
  (abs_add_le _ _).trans (add_le_add (hx.abs_mul_le hy) hz.abs_le)

theorem fusedMulAdd (hx : Bounded a x) (hy : Bounded b y) (hz : Bounded c z)
    (hbound : a * b + c + smallError ≤ bound) (hsmall : bound ≤ 4) :
    Bounded bound (fusedMulAdd x y z) :=
  of_rounded (rounded_fusedMulAdd hx.isFinite hy.isFinite hz.isFinite) (abs_mul_add_le hx hy hz)
    hbound hsmall

theorem fusedMulAdd_close (hx : Bounded a x) (hy : Bounded b y) (hz : Bounded c z)
    (hsmall : a * b + c ≤ 4) :
    |toRat (Binary64.fusedMulAdd x y z) - (toRat x * toRat y + toRat z)| ≤ smallError :=
  ((rounded_fusedMulAdd hx.isFinite hy.isFinite hz.isFinite).close
    ((abs_mul_add_le hx hy hz).trans hsmall)).2

end Bounded

/-! ### Constants -/

theorem toRat_of_value {x : Float} {negative : Bool} {mantissa : Nat} {exponent : Int}
    (h : value x = .finite negative mantissa exponent) :
    x.isFinite = true ∧ toRat x = factor negative * mantissa * 2 ^ exponent := by
  refine ⟨isFinite_iff.mpr ⟨_, _, _, h⟩, ?_⟩
  rw [toRat, h, Value.toRat, signed_eq]

/-- Whether the magnitude of a double is at most `num / den`, decided on its parts. -/
def atMost (x : Float) (num den : Nat) : Bool :=
  match value x with
  | .finite _ mantissa exponent =>
    decide (exponent ≤ 0) && decide (mantissa * den ≤ num * Nat.pow 2 (-exponent).toNat)
  | _ => false

theorem Bounded.of_atMost {x : Float} {bound : ℚ} (num den : Nat) (hden : 0 < den)
    (h : atMost x num den = true) (hbound : (num / den : ℚ) ≤ bound) : Bounded bound x := by
  refine Bounded.mono ?_ hbound
  unfold atMost at h
  cases hx : value x with
  | nan | infinite => simp [hx] at h
  | finite negative mantissa exponent =>
    rw [hx, Bool.and_eq_true, decide_eq_true_iff, decide_eq_true_iff] at h
    obtain ⟨hexponent, hle⟩ := h
    refine ⟨isFinite_iff.mpr ⟨_, _, _, hx⟩, ?_⟩
    obtain ⟨n, rfl⟩ : ∃ n : Nat, exponent = -n := ⟨(-exponent).toNat, by omega⟩
    rw [neg_neg, Int.toNat_natCast, Nat.pow_eq] at hle
    have hle : (mantissa : ℚ) * den ≤ num * 2 ^ n := by exact_mod_cast hle
    have hden : (0 : ℚ) < den := by exact_mod_cast hden
    rw [toRat, hx, Value.toRat, abs_mul, ← Int.cast_abs, abs_signed, zpow_neg, zpow_natCast,
      abs_of_pos (by positivity), Int.cast_natCast, ← div_eq_mul_inv, div_le_div_iff₀ (by positivity) hden]
    exact hle

/-! ### Magnitudes -/

@[simp] theorem toRat_zero : toRat 0 = 0 := by
  have hvalue : value 0 = .finite false 0 (-1074) := by decide
  simp [toRat, hvalue, Value.toRat, signed]

theorem isFinite_zero : (0 : Float).isFinite = true := by decide

theorem isFinite_one : (1 : Float).isFinite = true := by decide

@[simp] theorem toRat_one : toRat 1 = 1 := by
  have hvalue : value 1 = .finite false (2 ^ 52) (-52) := by decide
  rw [(toRat_of_value hvalue).2]
  norm_num

theorem magnitude_spec {x : Float} (hx : x.isFinite = true) :
    (magnitude x).isFinite = true ∧ toRat (magnitude x) = |toRat x| := by
  have hneg := lt_iff hx isFinite_zero
  rw [toRat_zero] at hneg
  unfold magnitude
  split
  · rename_i hlt
    obtain ⟨hfinite, hrat⟩ := isFinite_neg hx
    exact ⟨hfinite, by rw [hrat, abs_of_neg (hneg.mp hlt)]⟩
  · rename_i hle
    exact ⟨hx, (abs_of_nonneg (not_lt.mp fun hlt => hle (hneg.mpr hlt))).symm⟩

theorem maxNum_spec {x y : Float} (hx : x.isFinite = true) (hy : y.isFinite = true) :
    (maxNum x y).isFinite = true ∧ toRat (maxNum x y) = max (toRat x) (toRat y) := by
  have hnumber : ¬x.isNaN = true := by
    obtain ⟨negative, mantissa, exponent, hvalue⟩ := isFinite_iff.mp hx
    rw [isNaN_iff, hvalue]
    exact Value.noConfusion
  rw [maxNum, if_neg hnumber]
  split
  · rename_i hlt
    exact ⟨hy, (max_eq_right ((lt_iff hx hy).mp hlt).le).symm⟩
  · rename_i hle
    exact ⟨hx, (max_eq_left (not_lt.mp fun hlt => hle ((lt_iff hx hy).mpr hlt))).symm⟩

/-! ### Rounding to a place -/

theorem representable_one : Representable 1 := by
  have h := Representable.two_zpow (e := 0) (by norm_num)
  rwa [zpow_zero] at h

theorem one_le_largest : 1 ≤ largest := by
  have h := two_pow_le_largest (n := 0) (by norm_num)
  rwa [pow_zero] at h

/-- Adding a large number leaves no room for what lies below a place, and taking it away again is exact. -/
theorem round_by_shift {v : ℚ} {sum shift : Float} {e : ℤ} (he : -1074 ≤ e) (he' : e ≤ 0)
    (hshift : value shift = .finite false (3 * 2 ^ 51) e) (hsum : Rounded (v + toRat shift) sum)
    (hlow : 0 ≤ v) (hhigh : v ≤ 2 ^ 51 * 2 ^ e) :
    (sum - shift).isFinite = true ∧ |toRat (sum - shift) - v| ≤ 2 ^ e / 2 ∧
      ∃ n : ℤ, toRat (sum - shift) = n * 2 ^ e := by
  obtain ⟨hshiftFinite, hshiftValue⟩ := toRat_of_value hshift
  have hshiftRat : toRat shift = 3 * 2 ^ 51 * 2 ^ e := by
    rw [hshiftValue, factor_false]
    push_cast
    ring
  rw [hshiftRat] at hsum
  have hunit : (0 : ℚ) < 2 ^ e := by positivity
  have hunit' : (2 : ℚ) ^ e ≤ 1 := zpow_le_one_of_nonpos₀ one_le_two he'
  have hsumSize : |v + 3 * 2 ^ 51 * 2 ^ e| ≤ 2 ^ 53 * 2 ^ e := by
    rw [abs_of_nonneg (by positivity)]
    linarith
  have hlargest : (2 : ℚ) ^ 53 * 2 ^ e ≤ largest :=
    (mul_le_of_le_one_right (by positivity) hunit').trans (two_pow_le_largest (by norm_num))
  have hsumFinite := hsum.isFinite_of_le (hsumSize.trans hlargest)
  -- The sum lies where doubles are multiples of `2 ^ e`: it is rounded to one of them, and the
  -- shift is taken off exactly.
  have hclose := (hsum.nearest hsumFinite).abs_sub_le_half he hsumSize
  obtain ⟨hcloseLow, hcloseHigh⟩ := abs_le.mp hclose
  have hsumLarge : 2 ^ 52 * 2 ^ e ≤ |toRat sum| := le_trans (by linarith) (le_abs_self _)
  obtain ⟨n, hn⟩ := (representable_toRat sum).exists_multiple (.inr hsumLarge)
  have hexact : toRat sum - toRat shift = (n - 3 * 2 ^ 51 : ℤ) * 2 ^ e := by
    rw [hn, hshiftRat]
    push_cast
    ring
  have hsize : |toRat sum - toRat shift| ≤ 2 ^ 53 * 2 ^ e := by
    rw [hshiftRat, abs_le]
    constructor <;> linarith
  have hmultiple : |n - 3 * 2 ^ 51| ≤ 2 ^ 53 := by
    have h : |((n - 3 * 2 ^ 51 : ℤ) : ℚ)| ≤ 2 ^ 53 := by
      rw [hexact, abs_mul, abs_of_pos hunit] at hsize
      exact le_of_mul_le_mul_right hsize hunit
    exact_mod_cast h
  have hrepresentable : Representable (toRat sum - toRat shift) := by
    rw [hexact]
    exact .of_abs_le hmultiple he
  obtain ⟨hfinite, hrat⟩ := (rounded_sub hsumFinite hshiftFinite).exact_of_representable
    hrepresentable (hsize.trans hlargest)
  refine ⟨hfinite, ?_, _, hrat.trans hexact⟩
  rw [hrat, hshiftRat, abs_le]
  constructor <;> linarith

end SpatialComputer.Binary64
