import SpatialComputer.Proofs.Binary64.Bounds
import SpatialComputer.Proofs.Binary64.Relative

/-!
# Square roots

The root of a double is computed as the root of a whole number that is long enough for the mantissa of the result. Squared, it gives the number back up to a small part of it; there is no exception for small numbers, because roots are never small.
-/

namespace SpatialComputer.Binary64

open Float.Model Float.Model.UnpackedFloat

/-- The part of a number that the square of its root may be off by. -/
def rootError : ℚ := 1 / 2 ^ 49

private theorem exists_fraction (accuracy : Accuracy) : ∃ f : ℚ, Fraction accuracy f := by
  cases accuracy with
  | exact => exact ⟨0, rfl⟩
  | inexact place =>
    cases place with
    | lt => exact ⟨1 / 4, by norm_num [Fraction]⟩
    | eq => exact ⟨1 / 2, rfl⟩
    | gt => exact ⟨3 / 4, by norm_num [Fraction]⟩

private theorem sqrtCore_spec {mantissa : Nat} {exponent : Int} (hpos : 0 < mantissa)
    (hexponent : -1074 ≤ exponent) {root : Nat} {place : Int} {accuracy : Accuracy}
    (h : sqrtCore Format.binary64 mantissa exponent = (root, place, accuracy)) :
    2 ^ 52 ≤ root ∧ -590 ≤ place ∧ (root * 2 ^ place : ℚ) ^ 2 ≤ mantissa * 2 ^ exponent ∧
      (mantissa * 2 ^ exponent : ℚ) < ((root + 1) * 2 ^ place) ^ 2 := by
  rw [sqrtCore] at h
  set target := min (exponent.ediv 2)
    (Format.binary64.targetExponent ((totalExponent mantissa exponent + 1).ediv 2)) with htarget
  set count := (exponent - 2 * target).toNat with hcount
  obtain ⟨rfl, rfl, -⟩ : (mantissa <<< count).sqrt = root ∧ target = place ∧ _ = accuracy := by
    simpa only [Prod.mk.injEq] using h
  have hplaces : target = min (exponent / 2) (max ((mantissa.log2 + 1 + exponent + 1) / 2 - 53) (-1074)) := by
    rw [htarget, Format.targetExponent, totalExponent]
    rfl
  -- The number is scaled by an even power of two, far enough for a root of 53 bits.
  have hlong : 2 ^ 104 ≤ mantissa <<< count := by
    rw [Nat.shiftLeft_eq]
    calc 2 ^ 104 ≤ 2 ^ (mantissa.log2 + count) := Nat.pow_le_pow_right (by omega) (by omega)
      _ = 2 ^ mantissa.log2 * 2 ^ count := by rw [pow_add]
      _ ≤ mantissa * 2 ^ count := Nat.mul_le_mul_right _ (Nat.log2_self_le hpos.ne')
  have hexact : (mantissa * 2 ^ exponent : ℚ) = (mantissa <<< count : ℕ) * (2 ^ target) ^ 2 := by
    have hsplit : (2 : ℚ) ^ exponent = 2 ^ count * (2 ^ target) ^ 2 := by
      rw [← zpow_natCast, ← zpow_natCast, ← zpow_mul, ← zpow_add₀ two_ne_zero]
      congr 1
      push_cast
      omega
    rw [hsplit, Nat.shiftLeft_eq]
    push_cast
    ring
  have hlow : ((mantissa <<< count).sqrt : ℚ) ^ 2 ≤ (mantissa <<< count : ℕ) := by
    exact_mod_cast Nat.sqrt_le' (mantissa <<< count)
  have hhigh : ((mantissa <<< count : ℕ) : ℚ) < ((mantissa <<< count).sqrt + 1) ^ 2 := by
    exact_mod_cast Nat.lt_succ_sqrt' (mantissa <<< count)
  refine ⟨Nat.le_sqrt.mpr (le_trans (by norm_num) hlong), by omega, ?_, ?_⟩
  · rw [hexact, mul_pow]
    gcongr
  · rw [hexact, mul_pow]
    gcongr

private theorem abs_sq_sub_le {x unit root f : ℚ} (hunit : 0 < unit) (hroot : 2 ^ 52 ≤ root)
    (hlow : (root * unit) ^ 2 ≤ x) (hhigh : x < ((root + 1) * unit) ^ 2) (hf : 0 ≤ f) (hf' : f < 1) :
    |((root + f) * unit) ^ 2 - x| ≤ 3 / 2 ^ 52 * x := by
  have hpos : 0 < root := lt_of_lt_of_le (by positivity) hroot
  have hbelow : (root * unit) ^ 2 ≤ ((root + f) * unit) ^ 2 := by
    gcongr
    linarith
  have habove : ((root + f) * unit) ^ 2 ≤ ((root + 1) * unit) ^ 2 := by gcongr
  have hgap : ((root + 1) * unit) ^ 2 - (root * unit) ^ 2 ≤ 3 / 2 ^ 52 * x := by
    calc ((root + 1) * unit) ^ 2 - (root * unit) ^ 2 = (2 * root + 1) * unit ^ 2 := by ring
      _ ≤ 3 / 2 ^ 52 * root * root * unit ^ 2 := by
        gcongr
        nlinarith
      _ = 3 / 2 ^ 52 * (root * unit) ^ 2 := by ring
      _ ≤ 3 / 2 ^ 52 * x := by gcongr
  rw [abs_le]
  constructor <;> linarith

private theorem rounded_sqrt {x : Float} (hx : x.isFinite = true) (hnonneg : 0 ≤ toRat x) :
    ∃ v : ℚ, Rounded v x.sqrt ∧ 0 ≤ v ∧ |v ^ 2 - toRat x| ≤ 3 / 2 ^ 52 * toRat x ∧
      (v = 0 ∨ 2 ^ (-1022 : ℤ) ≤ v) := by
  have hcanonical := canonical_unpack x
  rw [toRat_eq] at hnonneg ⊢
  replace hx : x.toModel.unpack.isFinite = true := hx
  show ∃ v : ℚ, Rounded v (.ofModel (Float.Model.pack (UnpackedFloat.sqrt _ x.toModel.unpack))) ∧ _
  cases h : x.toModel.unpack with
  | notANumber | infinity =>
    rw [h] at hx
    cases hx
  | zero s => exact ⟨0, rounded_zero s (nearest_self .zero), le_rfl, by simp, .inl rfl⟩
  | finite s mantissa exponent hpos =>
    rw [h] at hcanonical hnonneg
    obtain ⟨-, hexponent, -⟩ := hcanonical
    have hnumber : (0 : ℚ) < mantissa * 2 ^ exponent := by positivity
    cases s with
    | negative =>
      rw [unpackedRat_finite, isNegative_negative, factor_true] at hnonneg
      linarith
    | positive =>
      rw [UnpackedFloat.sqrt]
      obtain ⟨⟨root, place, accuracy⟩, hcore⟩ :
        ∃ core, sqrtCore Format.binary64 mantissa exponent = core := ⟨_, rfl⟩
      obtain ⟨hroot, hplace, hlow, hhigh⟩ := sqrtCore_spec hpos hexponent hcore
      -- The integer root is off by less than one; rounding sees it as the root with some part
      -- behind the last place.
      obtain ⟨f, hf⟩ := exists_fraction accuracy
      obtain ⟨hf0, hf1⟩ := fraction_bounds hf
      have hrounded : Rounded (factor (isNegative .positive) * ((root + f) * 2 ^ place)) _ :=
        rounded_roundWithAccuracy .positive hf (.inl hroot)
      have hroot : (2 : ℚ) ^ 52 ≤ root := by exact_mod_cast hroot
      rw [isNegative_positive, factor_false, one_mul] at hrounded
      rw [hcore, unpackedRat_finite, isNegative_positive, factor_false, one_mul]
      refine ⟨_, hrounded, by positivity, abs_sq_sub_le (by positivity) hroot hlow hhigh hf0 hf1,
        .inr ?_⟩
      calc (2 : ℚ) ^ (-1022 : ℤ) ≤ 2 ^ (52 + place) := zpow_le_zpow_right₀ one_le_two (by omega)
        _ = 2 ^ 52 * 2 ^ place := by rw [zpow_add₀ two_ne_zero]; rfl
        _ ≤ (root + f) * 2 ^ place := by
          gcongr
          linarith

private theorem le_of_sq_le {v q : ℚ} (hq : q ≤ largest) (h : v ^ 2 ≤ 2 ^ 2 * q) : v ≤ 2 ^ 513 := by
  refine le_of_sq_le_sq ?_ (by positivity)
  calc v ^ 2 ≤ 2 ^ 2 * q := h
    _ ≤ 2 ^ 2 * 2 ^ 1024 := by gcongr; exact hq.trans largest_lt.le
    _ = (2 ^ 513) ^ 2 := by rw [← pow_add, ← pow_mul]

/-- The square of the root gives a number back, up to a small part of it. -/
theorem sqrt_spec {x : Float} (hx : x.isFinite = true) (hnonneg : 0 ≤ toRat x) :
    x.sqrt.isFinite = true ∧ 0 ≤ toRat x.sqrt ∧
      |toRat x.sqrt ^ 2 - toRat x| ≤ rootError * toRat x := by
  obtain ⟨v, hrounded, hv, hclose, hnormal⟩ := rounded_sqrt hx hnonneg
  obtain ⟨hlow, hhigh⟩ := abs_le.mp hclose
  have hsize : |v| ≤ largest := by
    rw [abs_of_nonneg hv]
    exact (le_of_sq_le (toRat_le_largest x) (by linarith)).trans (two_pow_le_largest (by norm_num))
  have hfinite := hrounded.isFinite_of_le hsize
  have hnearest := hrounded.nearest hfinite
  refine ⟨hfinite, hnearest.le_of_ge .zero hv, ?_⟩
  have hround : |toRat x.sqrt - v| ≤ unitError * v := by
    rcases hnormal with rfl | hnormal
    · rw [hnearest.eq_self .zero]
      simp
    · have h := hnearest.abs_sub_le_relative (by rwa [abs_of_nonneg hv])
      rwa [abs_of_nonneg hv] at h
  obtain ⟨hroundLow, hroundHigh⟩ := abs_le.mp hround
  rw [unitError] at hroundLow hroundHigh
  rw [rootError, abs_le]
  constructor <;> nlinarith

theorem sqrt_le {x : Float} (hx : x.isFinite = true) (hnonneg : 0 ≤ toRat x) :
    toRat x.sqrt ≤ 2 ^ 513 := by
  have hclose := (abs_le.mp (sqrt_spec hx hnonneg).2.2).2
  rw [rootError] at hclose
  exact le_of_sq_le (toRat_le_largest x) (by linarith)

end SpatialComputer.Binary64
