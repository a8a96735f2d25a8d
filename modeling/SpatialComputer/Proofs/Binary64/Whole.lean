import SpatialComputer.Proofs.Binary64.Bounds

/-!
# Whole numbers

A whole number of at most 53 bits is a double, so it is kept by every operation that gives it exactly. Rounding down, rounding up and truncating a double lead to such a number or to the double itself, and are exact.
-/

namespace SpatialComputer.Binary64

theorem Rounded.exact_of_int {n : ℤ} {x : Float} (h : Rounded n x) (hn : |n| ≤ 2 ^ 53) :
    x.isFinite = true ∧ toRat x = n := by
  refine h.exact_of_representable (.of_int hn) (le_trans ?_ (two_pow_le_largest (n := 53) (by norm_num)))
  exact_mod_cast hn

theorem Rounded.exact_of_nat {n : Nat} {x : Float} (h : Rounded n x) (hn : n ≤ 2 ^ 53) :
    x.isFinite = true ∧ toRat x = n := by
  rw [← Int.cast_natCast] at h ⊢
  exact h.exact_of_int (by rw [Nat.abs_cast]; exact_mod_cast hn)

theorem ofNat_spec {n : Nat} (hn : n ≤ 2 ^ 53) : (ofNat n).isFinite = true ∧ toRat (ofNat n) = n := by
  have hrounded := rounded_ofRatio false n one_pos
  rw [factor_false, one_mul, Nat.cast_one, div_one] at hrounded
  exact hrounded.exact_of_nat hn

private theorem ofRatio_spec {negative : Bool} {n : ℤ} (hsign : factor negative * (n.natAbs : ℚ) = n)
    (hn : |n| ≤ 2 ^ 53) :
    (ofRatio negative n.natAbs 1).isFinite = true ∧ toRat (ofRatio negative n.natAbs 1) = n := by
  have hrounded := rounded_ofRatio negative n.natAbs one_pos
  rw [Nat.cast_one, div_one, hsign] at hrounded
  exact hrounded.exact_of_int hn

private theorem exists_int_of_value {x : Float} {negative : Bool} {mantissa : Nat} {exponent : Int}
    (hvalue : value x = .finite negative mantissa exponent) (hwhole : 0 ≤ exponent) :
    ∃ n : ℤ, toRat x = n := by
  obtain ⟨k, rfl⟩ := Int.eq_ofNat_of_zero_le hwhole
  refine ⟨signed negative mantissa * 2 ^ k, ?_⟩
  rw [toRat, hvalue, Value.toRat]
  push_cast
  rfl

/-! ### Rounding down and up -/

theorem floorInt_spec (negative : Bool) (mantissa : Nat) (exponent : Int) :
    (floorInt negative mantissa exponent : ℚ) ≤ signed negative mantissa * 2 ^ exponent ∧
      signed negative mantissa * 2 ^ exponent < (floorInt negative mantissa exponent + 1 : ℚ) := by
  have hsigned : (if negative then -(mantissa : ℤ) else mantissa) = signed negative mantissa := rfl
  rw [floorInt, hsigned]
  -- With places after the point the floor is a quotient of integers, rounded towards negative infinity.
  split
  · rename_i hle
    obtain ⟨n, rfl⟩ := Int.eq_ofNat_of_zero_le hle
    have hexact : ((signed negative mantissa * Nat.pow 2 (n : ℤ).toNat : ℤ) : ℚ) =
        signed negative mantissa * 2 ^ (n : ℤ) := by
      rw [Int.toNat_natCast, Nat.pow_eq]
      push_cast
      rw [zpow_natCast]
    rw [hexact]
    exact ⟨le_rfl, lt_add_one _⟩
  · rename_i hlt
    obtain ⟨n, rfl⟩ : ∃ n : Nat, exponent = -n := ⟨(-exponent).toNat, by omega⟩
    have hpower : (0 : ℤ) < (Nat.pow 2 n : Nat) := by
      rw [Nat.pow_eq]
      positivity
    have hpower' : (0 : ℚ) < 2 ^ n := by positivity
    have hsplit := Int.mul_ediv_add_emod (signed negative mantissa) (Nat.pow 2 n : Nat)
    have hmod := Int.emod_nonneg (signed negative mantissa) hpower.ne'
    have hmod' := Int.emod_lt_of_pos (signed negative mantissa) hpower
    rw [neg_neg, Int.toNat_natCast, zpow_neg, zpow_natCast, ← div_eq_mul_inv, le_div_iff₀ hpower',
      div_lt_iff₀ hpower']
    have hcast : ((Nat.pow 2 n : Nat) : ℤ) = 2 ^ n := by
      rw [Nat.pow_eq]
      push_cast
      rfl
    rw [hcast] at hsplit hmod hmod' ⊢
    constructor
    · have hle : signed negative mantissa / 2 ^ n * 2 ^ n ≤ signed negative mantissa := by linarith
      exact_mod_cast hle
    · have hlt : signed negative mantissa < (signed negative mantissa / 2 ^ n + 1) * 2 ^ n := by linarith
      exact_mod_cast hlt

theorem floorInt_eq_floor (negative : Bool) (mantissa : Nat) (exponent : Int) :
    floorInt negative mantissa exponent = ⌊(signed negative mantissa * 2 ^ exponent : ℚ)⌋ :=
  (Int.floor_eq_iff.mpr (floorInt_spec negative mantissa exponent)).symm

private theorem abs_floorInt_le (negative : Bool) (mantissa : Nat) (exponent : Int)
    (hexponent : exponent ≤ 0) : |floorInt negative mantissa exponent| ≤ mantissa := by
  have hpower : (2 : ℚ) ^ exponent ≤ 1 := zpow_le_one_of_nonpos₀ one_le_two hexponent
  have hsize : |(signed negative mantissa * 2 ^ exponent : ℚ)| ≤ mantissa := by
    rw [abs_mul, ← Int.cast_abs, abs_signed, abs_of_pos (by positivity : (0 : ℚ) < 2 ^ exponent)]
    exact mul_le_of_le_one_right (by positivity) hpower
  obtain ⟨hlow, hhigh⟩ := abs_le.mp hsize
  rw [floorInt_eq_floor, abs_le]
  constructor
  · rw [Int.le_floor]
    exact_mod_cast hlow
  · have h := (Int.floor_le _).trans hhigh
    exact_mod_cast h

private theorem factor_mul_natAbs_floorInt (negative : Bool) (mantissa : Nat) (exponent : Int) :
    factor negative * ((floorInt negative mantissa exponent).natAbs : ℚ) =
      floorInt negative mantissa exponent := by
  have hspec := floorInt_spec negative mantissa exponent
  have hsize : (0 : ℚ) ≤ mantissa * 2 ^ exponent := by positivity
  rw [signed_eq] at hspec
  cases negative with
  | false =>
    rw [factor_false, one_mul] at hspec
    have hlow : (-1 : ℤ) < floorInt false mantissa exponent := by
      have h : (-1 : ℚ) < floorInt false mantissa exponent := by linarith [hspec.2]
      exact_mod_cast h
    rw [factor_false, one_mul, ← Int.cast_natCast, Int.natAbs_of_nonneg (by omega)]
  | true =>
    rw [factor_true, neg_one_mul, neg_mul] at hspec
    have hhigh : floorInt true mantissa exponent ≤ 0 := by
      have h : (floorInt true mantissa exponent : ℚ) ≤ 0 := by linarith [hspec.1]
      exact_mod_cast h
    rw [factor_true, neg_one_mul, ← Int.cast_natCast, Int.ofNat_natAbs_of_nonpos hhigh, Int.cast_neg,
      neg_neg]

theorem floor_spec {x : Float} (hx : x.isFinite = true) :
    (floor x).isFinite = true ∧ toRat (floor x) = ⌊toRat x⌋ := by
  obtain ⟨negative, mantissa, exponent, hvalue⟩ := isFinite_iff.mp hx
  rw [floor, hvalue]
  dsimp only
  split
  · rename_i hwhole
    obtain ⟨n, hn⟩ := exists_int_of_value hvalue hwhole
    rw [hn, Int.floor_intCast]
    exact ⟨hx, rfl⟩
  · rename_i hfraction
    have hsize : |floorInt negative mantissa exponent| ≤ 2 ^ 53 := by
      have hmantissa := (value_bounds hvalue).1
      have h := abs_floorInt_le negative mantissa exponent (by omega)
      omega
    rw [toRat.eq_def x, hvalue, Value.toRat, ← floorInt_eq_floor]
    exact ofRatio_spec (factor_mul_natAbs_floorInt negative mantissa exponent) hsize

theorem ceilInt_eq_ceil (negative : Bool) (mantissa : Nat) (exponent : Int) :
    ceilInt negative mantissa exponent = ⌈(signed negative mantissa * 2 ^ exponent : ℚ)⌉ := by
  have hsigned : signed (!negative) mantissa = -signed negative mantissa := by
    cases negative <;> simp [signed]
  rw [ceilInt, floorInt_eq_floor, hsigned, Int.cast_neg, neg_mul, Int.floor_neg, neg_neg]

private theorem factor_mul_natAbs_ceilInt (negative : Bool) (mantissa : Nat) (exponent : Int) :
    factor negative * ((ceilInt negative mantissa exponent).natAbs : ℚ) =
      ceilInt negative mantissa exponent := by
  have h := factor_mul_natAbs_floorInt (!negative) mantissa exponent
  have hfactor : factor (!negative) = -factor negative := by cases negative <;> simp
  rw [hfactor] at h
  rw [ceilInt, Int.natAbs_neg, Int.cast_neg, ← h, neg_mul, neg_neg]

theorem ceil_spec {x : Float} (hx : x.isFinite = true) :
    (ceil x).isFinite = true ∧ toRat (ceil x) = ⌈toRat x⌉ := by
  obtain ⟨negative, mantissa, exponent, hvalue⟩ := isFinite_iff.mp hx
  rw [ceil, hvalue]
  dsimp only
  split
  · rename_i hwhole
    obtain ⟨n, hn⟩ := exists_int_of_value hvalue hwhole
    rw [hn, Int.ceil_intCast]
    exact ⟨hx, rfl⟩
  · rename_i hfraction
    have hsize : |ceilInt negative mantissa exponent| ≤ 2 ^ 53 := by
      have hmantissa := (value_bounds hvalue).1
      have h := abs_floorInt_le (!negative) mantissa exponent (by omega)
      rw [ceilInt, abs_neg]
      omega
    rw [toRat.eq_def x, hvalue, Value.toRat, ← ceilInt_eq_ceil]
    exact ofRatio_spec (factor_mul_natAbs_ceilInt negative mantissa exponent) hsize

/-- Truncating leaves a whole number as it is, up to the ends of the range. -/
theorem truncateInto_of_int {x : Float} {n : ℤ} (hx : x.isFinite = true) (hn : toRat x = n)
    (least greatest : ℤ) : truncateInto least greatest x = max least (min greatest n) := by
  obtain ⟨negative, mantissa, exponent, hvalue⟩ := isFinite_iff.mp hx
  rw [toRat, hvalue, Value.toRat] at hn
  rw [truncateInto, hvalue]
  dsimp only
  rw [ceilInt_eq_ceil, floorInt_eq_floor, hn, Int.ceil_intCast, Int.floor_intCast, ite_self]

end SpatialComputer.Binary64
