import SpatialComputer.Proofs.Binary64.Arithmetic

/-!
# The order of doubles

Finite doubles are compared by what they stand for. The comparison goes by exponents first and by mantissas only where these agree, which is the order of the numbers because mantissas are as long as they can be. For the same reason a number other than zero is that of a single double. Positive infinity is above every finite double, and adding to a fixed number keeps the order.
-/

namespace SpatialComputer.Binary64

open Float.Model Float.Model.UnpackedFloat

private theorem lt_of_exponent_lt {mantissa mantissa' : Nat} {exponent exponent' : Int}
    (hmantissa : mantissa < 2 ^ 53) (hexponent : -1074 ≤ exponent)
    (hlow : 2 ^ 52 ≤ mantissa' ∨ exponent' = -1074) (hlt : exponent < exponent') :
    (mantissa : ℚ) * 2 ^ exponent < mantissa' * 2 ^ exponent' := by
  have hmantissa : (mantissa : ℚ) < 2 ^ 53 := by exact_mod_cast hmantissa
  have hmantissa' : (2 : ℚ) ^ 52 ≤ mantissa' := by exact_mod_cast hlow.resolve_right (by omega)
  calc (mantissa : ℚ) * 2 ^ exponent < 2 ^ 53 * 2 ^ exponent := by gcongr
    _ = 2 ^ 52 * 2 ^ (exponent + 1) := by rw [zpow_add_one₀ two_ne_zero]; ring
    _ ≤ mantissa' * 2 ^ exponent' := by
      gcongr
      · exact one_le_two
      · omega

private theorem compare_parts {mantissa mantissa' : Nat} {exponent exponent' : Int}
    (hmantissa : mantissa < 2 ^ 53) (hexponent : -1074 ≤ exponent)
    (hlow : 2 ^ 52 ≤ mantissa ∨ exponent = -1074) (hmantissa' : mantissa' < 2 ^ 53)
    (hexponent' : -1074 ≤ exponent') (hlow' : 2 ^ 52 ≤ mantissa' ∨ exponent' = -1074) :
    (compare exponent exponent').then (compare mantissa mantissa') =
      compare ((mantissa : ℚ) * 2 ^ exponent) (mantissa' * 2 ^ exponent') := by
  -- Canonical mantissas have the same length, so the exponents decide first.
  rcases lt_trichotomy exponent exponent' with hlt | heq | hgt
  · rw [compare_lt_iff_lt.mpr hlt,
      compare_lt_iff_lt.mpr (lt_of_exponent_lt hmantissa hexponent hlow' hlt)]
    rfl
  · subst heq
    have hunit : (0 : ℚ) < 2 ^ exponent := by positivity
    rw [compare_eq_iff_eq.mpr rfl, Ordering.eq_then]
    rcases lt_trichotomy mantissa mantissa' with hlt | heq | hgt
    · have hlt' : (mantissa : ℚ) < mantissa' := by exact_mod_cast hlt
      rw [compare_lt_iff_lt.mpr hlt, compare_lt_iff_lt.mpr (by gcongr)]
    · rw [heq, compare_eq_iff_eq.mpr rfl, compare_eq_iff_eq.mpr rfl]
    · have hgt' : (mantissa' : ℚ) < mantissa := by exact_mod_cast hgt
      rw [compare_gt_iff_gt.mpr hgt, compare_gt_iff_gt.mpr (by gcongr)]
  · rw [compare_gt_iff_gt.mpr hgt,
      compare_gt_iff_gt.mpr (lt_of_exponent_lt hmantissa' hexponent' hlow hgt)]
    rfl

private theorem swap_compare (p q : ℚ) : (compare p q).swap = compare (-p) (-q) := by
  rcases lt_trichotomy p q with hlt | heq | hgt
  · rw [compare_lt_iff_lt.mpr hlt, compare_gt_iff_gt.mpr (neg_lt_neg hlt)]
    rfl
  · rw [heq, compare_eq_iff_eq.mpr rfl, compare_eq_iff_eq.mpr rfl]
    rfl
  · rw [compare_gt_iff_gt.mpr hgt, compare_lt_iff_lt.mpr (neg_lt_neg hgt)]
    rfl

private theorem unpackedRat_positive {mantissa : Nat} {exponent : Int} {hpos : 0 < mantissa} :
    unpackedRat (.finite .positive mantissa exponent hpos) = mantissa * 2 ^ exponent := by
  simp

private theorem unpackedRat_negative {mantissa : Nat} {exponent : Int} {hpos : 0 < mantissa} :
    unpackedRat (.finite .negative mantissa exponent hpos) = -(mantissa * 2 ^ exponent) := by
  simp

private theorem compare_unpacked {u w : UnpackedFloat} (hu : Canonical u) (hw : Canonical w)
    (hu' : u.isFinite = true) (hw' : w.isFinite = true) :
    UnpackedFloat.compare u w = some (compare (unpackedRat u) (unpackedRat w)) := by
  -- Numbers of different signs are compared by sign, and two negative ones in the order of the
  -- parts turned around.
  cases u with
  | notANumber | infinity => cases hu'
  | zero s =>
    cases w with
    | notANumber | infinity => cases hw'
    | zero s' => rw [unpackedRat_zero, unpackedRat_zero, compare_eq_iff_eq.mpr rfl]; rfl
    | finite s' mantissa exponent hpos =>
      have hnumber : (0 : ℚ) < mantissa * 2 ^ exponent := by positivity
      cases s' with
      | positive =>
        rw [unpackedRat_zero, unpackedRat_positive, compare_lt_iff_lt.mpr hnumber]
        rfl
      | negative =>
        rw [unpackedRat_zero, unpackedRat_negative, compare_gt_iff_gt.mpr (neg_lt_zero.mpr hnumber)]
        rfl
  | finite s mantissa exponent hpos =>
    have hnumber : (0 : ℚ) < mantissa * 2 ^ exponent := by positivity
    cases w with
    | notANumber | infinity => cases hw'
    | zero s' =>
      cases s with
      | positive =>
        rw [unpackedRat_zero, unpackedRat_positive, compare_gt_iff_gt.mpr hnumber]
        rfl
      | negative =>
        rw [unpackedRat_zero, unpackedRat_negative, compare_lt_iff_lt.mpr (neg_lt_zero.mpr hnumber)]
        rfl
    | finite s' mantissa' exponent' hpos' =>
      have hnumber' : (0 : ℚ) < mantissa' * 2 ^ exponent' := by positivity
      have hparts := compare_parts hu.1 hu.2.1 hu.2.2 hw.1 hw.2.1 hw.2.2
      cases s with
      | positive =>
        cases s' with
        | positive => rw [unpackedRat_positive, unpackedRat_positive, ← hparts]; rfl
        | negative =>
          rw [unpackedRat_positive, unpackedRat_negative,
            compare_gt_iff_gt.mpr ((neg_lt_zero.mpr hnumber').trans hnumber)]
          rfl
      | negative =>
        cases s' with
        | positive =>
          rw [unpackedRat_negative, unpackedRat_positive,
            compare_lt_iff_lt.mpr ((neg_lt_zero.mpr hnumber).trans hnumber')]
          rfl
        | negative =>
          rw [unpackedRat_negative, unpackedRat_negative, ← swap_compare, ← hparts]
          rfl

theorem lt_iff_compare {x y : Float} :
    x < y ↔ UnpackedFloat.compare x.toModel.unpack y.toModel.unpack = some .lt := by
  show Float.lt x y = true ↔ _
  rw [Float.lt, decide_eq_true_iff]
  show UnpackedFloat.lt _ _ = true ↔ _
  rw [UnpackedFloat.lt, beq_iff_eq]

theorem le_iff_unpacked {x y : Float} :
    x ≤ y ↔ UnpackedFloat.le x.toModel.unpack y.toModel.unpack = true := by
  show Float.le x y = true ↔ _
  rw [Float.le, decide_eq_true_iff]
  rfl

theorem lt_iff {x y : Float} (hx : x.isFinite = true) (hy : y.isFinite = true) :
    x < y ↔ toRat x < toRat y := by
  have h := compare_unpacked (canonical_unpack x) (canonical_unpack y) hx hy
  rw [lt_iff_compare, h, ← toRat_eq, ← toRat_eq, Option.some_inj, compare_lt_iff_lt]

theorem le_iff {x y : Float} (hx : x.isFinite = true) (hy : y.isFinite = true) :
    x ≤ y ↔ toRat x ≤ toRat y := by
  have h := compare_unpacked (canonical_unpack x) (canonical_unpack y) hx hy
  rw [← toRat_eq, ← toRat_eq] at h
  rw [le_iff_unpacked, ← compare_le_iff_le, UnpackedFloat.le, h]
  cases compare (toRat x) (toRat y) <;> decide

private theorem unpacked_eq {u w : UnpackedFloat} (hu : Canonical u) (hw : Canonical w)
    (hu' : u.isFinite = true) (hw' : w.isFinite = true) (h : unpackedRat u = unpackedRat w)
    (hne : unpackedRat u ≠ 0) : u = w := by
  cases u with
  | notANumber | infinity => cases hu'
  | zero s => exact absurd (unpackedRat_zero s) hne
  | finite s mantissa exponent hpos =>
    have hnumber : (0 : ℚ) < mantissa * 2 ^ exponent := by positivity
    cases w with
    | notANumber | infinity => cases hw'
    | zero s' => exact absurd (h.trans (unpackedRat_zero s')) hne
    | finite s' mantissa' exponent' hpos' =>
      have hnumber' : (0 : ℚ) < mantissa' * 2 ^ exponent' := by positivity
      have hparts := compare_parts hu.1 hu.2.1 hu.2.2 hw.1 hw.2.1 hw.2.2
      have hsame : (mantissa : ℚ) * 2 ^ exponent = mantissa' * 2 ^ exponent' ∧ s = s' := by
        cases s with
        | positive =>
          rw [unpackedRat_positive] at h
          cases s' with
          | positive => exact ⟨h.trans unpackedRat_positive, rfl⟩
          | negative =>
            rw [unpackedRat_negative] at h
            linarith
        | negative =>
          rw [unpackedRat_negative] at h
          cases s' with
          | positive =>
            rw [unpackedRat_positive] at h
            linarith
          | negative => exact ⟨neg_injective (h.trans unpackedRat_negative), rfl⟩
      obtain ⟨hsame, rfl⟩ := hsame
      rw [hsame, compare_eq_iff_eq.mpr rfl, Ordering.then_eq_eq, compare_eq_iff_eq,
        compare_eq_iff_eq] at hparts
      obtain ⟨rfl, rfl⟩ := hparts
      rfl

theorem eq_of_toRat_eq {x y : Float} (hx : x.isFinite = true) (hy : y.isFinite = true)
    (h : toRat x = toRat y) (hne : toRat x ≠ 0) : x = y := by
  rw [toRat_eq] at h hne
  rw [toRat_eq] at h
  rw [← pack_unpack_eq x, ← pack_unpack_eq y,
    unpacked_eq (canonical_unpack x) (canonical_unpack y) hx hy h hne]

theorem unpack_eq_infinity {x : Float} (s : Sign) (hx : value x = .infinite (isNegative s)) :
    x.toModel.unpack = .infinity s :=
  Value.ofUnpacked_injective ((value_eq x).symm.trans hx)

private theorem compare_infinity {u : UnpackedFloat} (hu : u.isFinite = true) :
    UnpackedFloat.compare (.infinity .positive) u = some .gt ∧
      UnpackedFloat.compare u (.infinity .positive) = some .lt ∧
      UnpackedFloat.compare (.infinity .negative) u = some .lt := by
  cases u with
  | notANumber | infinity => cases hu
  | zero | finite => exact ⟨rfl, rfl, rfl⟩

theorem not_lt_of_infinite {x y : Float} (hx : value x = .infinite false) (hy : y.isFinite = true) :
    ¬x < y := by
  rw [lt_iff_compare, unpack_eq_infinity .positive hx, (compare_infinity hy).1]
  decide

theorem lt_of_infinite {x y : Float} (hx : x.isFinite = true) (hy : value y = .infinite false) :
    x < y := by
  rw [lt_iff_compare, unpack_eq_infinity .positive hy]
  exact (compare_infinity hx).2.1

theorem lt_of_infinite_negative {x y : Float} (hx : value x = .infinite true) (hy : y.isFinite = true) :
    x < y := by
  rw [lt_iff_compare, unpack_eq_infinity .negative hx]
  exact (compare_infinity hy).2.2

/-! ### Equal numbers -/

theorem beq_iff {x y : Float} (hx : x.isFinite = true) (hy : y.isFinite = true) :
    (x == y) = true ↔ toRat x = toRat y := by
  have h := compare_unpacked (canonical_unpack x) (canonical_unpack y) hx hy
  rw [← toRat_eq, ← toRat_eq] at h
  show UnpackedFloat.beq _ _ = true ↔ _
  rw [UnpackedFloat.beq, h, beq_iff_eq, Option.some_inj, compare_eq_iff_eq]

theorem le_of_beq {x y : Float} (h : (x == y) = true) : x ≤ y := by
  change UnpackedFloat.beq _ _ = true at h
  rw [UnpackedFloat.beq, beq_iff_eq] at h
  rw [le_iff_unpacked, UnpackedFloat.le, h]
  rfl

theorem isFinite_of_beq_zero {x : Float} (h : (x == 0) = true) : x.isFinite = true := by
  have hzero : (0 : Float).toModel.unpack = .zero .positive := rfl
  change UnpackedFloat.beq _ _ = true at h
  rw [UnpackedFloat.beq, hzero] at h
  show x.toModel.unpack.isFinite = true
  cases hx : x.toModel.unpack with
  | notANumber => rw [hx] at h; cases h
  | infinity s => rw [hx] at h; cases s <;> cases h
  | zero | finite => rfl

/-! ### Sums in order -/

section Shift

variable {f : Float → Float} {x a b c : Float}

private theorem shift_of_zero (hshift : Rounded (toRat a + toRat x) (f a)) (hzero : toRat a = 0) :
    (f a).isFinite = true ∧ toRat (f a) = toRat x := by
  rw [hzero, zero_add] at hshift
  exact hshift.exact_of_double

/-- Adding to a fixed number keeps the order, also where roundings meet. -/
theorem shift_le (hshift : ∀ p : Float, p.isFinite = true → Rounded (toRat p + toRat x) (f p))
    (ha : a.isFinite = true) (hb : b.isFinite = true) (ha' : (f a).isFinite = true)
    (hb' : (f b).isFinite = true) (hle : toRat a ≤ toRat b) :
    toRat (f a) ≤ toRat (f b) := by
  rcases hle.lt_or_eq with hlt | heq
  · exact ((hshift a ha).nearest ha').mono ((hshift b hb).nearest hb') (by linarith)
  · by_cases hzero : toRat a = 0
    · rw [(shift_of_zero (hshift a ha) hzero).2, (shift_of_zero (hshift b hb) (heq ▸ hzero)).2]
    · rw [eq_of_toRat_eq ha hb heq hzero]

/-- Between two numbers that can be added without leaving the range of doubles, so can all. -/
theorem shift_isFinite (hshift : ∀ p : Float, p.isFinite = true → Rounded (toRat p + toRat x) (f p))
    (ha : a.isFinite = true) (hb : b.isFinite = true) (hc : c.isFinite = true)
    (ha' : (f a).isFinite = true) (hb' : (f b).isFinite = true)
    (hac : toRat a ≤ toRat c) (hcb : toRat c ≤ toRat b) : (f c).isFinite = true := by
  by_cases hzero : toRat c = 0
  · exact (shift_of_zero (hshift c hc) hzero).1
  rcases hac.lt_or_eq with hac | hac
  · rcases hcb.lt_or_eq with hcb | hcb
    · exact (hshift c hc).isFinite_of_between (hshift a ha) (hshift b hb) ha' hb' (by linarith)
        (by linarith)
    · rwa [eq_of_toRat_eq hc hb hcb hzero]
  · rwa [eq_of_toRat_eq hc ha hac.symm hzero]

end Shift

/-! ### Positive numbers -/

/-- Whether a double stands for a positive number. -/
structure FinitePositive (x : Float) : Prop where
  isFinite : x.isFinite = true
  pos : 0 < toRat x

namespace FinitePositive

variable {x y z : Float}

/-- Dividing by a positive number keeps the order, also where roundings meet. -/
theorem div_le (hz : FinitePositive z) (hx : (x / z).isFinite = true) (hy : (y / z).isFinite = true)
    (hle : toRat x ≤ toRat y) : toRat (x / z) ≤ toRat (y / z) := by
  have hpos := hz.pos
  have hx' := isFinite_of_div hz.isFinite hx
  have hy' := isFinite_of_div hz.isFinite hy
  have hroundedX := rounded_div hx' hz.isFinite hpos.ne'
  have hroundedY := rounded_div hy' hz.isFinite hpos.ne'
  rcases hle.lt_or_eq with hlt | heq
  · exact (hroundedX.nearest hx).mono (hroundedY.nearest hy) (by gcongr)
  · by_cases hzero : toRat x = 0
    · rw [hzero, zero_div] at hroundedX
      rw [← heq, hzero, zero_div] at hroundedY
      rw [(hroundedX.nearest hx).eq_self .zero, (hroundedY.nearest hy).eq_self .zero]
    · rw [eq_of_toRat_eq hx' hy' heq hzero]

/-- A positive number taken away leads no higher than the same number added. -/
theorem sub_le_add (hy : FinitePositive y) (hsub : (x - y).isFinite = true)
    (hadd : (x + y).isFinite = true) : toRat (x - y) ≤ toRat (x + y) := by
  have hpos := hy.pos
  have hx := isFinite_of_add hadd
  exact ((rounded_sub hx hy.isFinite).nearest hsub).mono ((rounded_add hx hy.isFinite).nearest hadd)
    (by linarith)

end FinitePositive

end SpatialComputer.Binary64
