import SpatialComputer.Proofs.Binary64.Whole

/-!
# Bounds on knots

The power series behind a knot are computed in integers, and each division rounds down. Still, from its third term on a series is small against its second one, so the sine of a knot is at most its angle, and the cosine falls short of one by almost half the square of the angle. Both are then rounded to doubles, which moves them by less than the corrections that are kept beside them.
-/

namespace SpatialComputer.Binary64

/-! ### Series -/

private theorem knotScale_pos : 0 < (knotScale : ℤ) := by decide

theorem abs_ediv_le {a b c : ℤ} (hb : 0 < b) (h : |a| ≤ c * b) : |a / b| ≤ c := by
  obtain ⟨hlow, hhigh⟩ := abs_le.mp h
  rw [abs_le]
  constructor
  · apply (Int.le_ediv_iff_mul_le hb).mpr
    linarith
  · exact Int.ediv_le_of_le_mul hb hhigh

/-- The term of a series that follows a given one. -/
def nextTerm (square : ℤ) (index : Nat) (term : ℤ) : ℤ :=
  -(term * square / knotScale / ((index + 1) * (index + 2) : Nat))

theorem seriesFrom_succ (square : ℤ) (count index : Nat) (term : ℤ) :
    seriesFrom square (count + 1) index term =
      term + seriesFrom square count (index + 2) (nextTerm square index term) := rfl

theorem abs_nextTerm_le {square : ℤ} (hlow : 0 ≤ square) (hhigh : square ≤ knotScale) (index : Nat)
    (term : ℤ) :
    ((index + 1) * (index + 2) : Nat) * |nextTerm square index term| ≤
      |term| + ((index + 1) * (index + 2) : Nat) := by
  have hscaled : |term * square / knotScale| ≤ |term| := by
    refine abs_ediv_le knotScale_pos ?_
    rw [abs_mul, abs_of_nonneg hlow]
    exact mul_le_mul_of_nonneg_left hhigh (abs_nonneg _)
  have hfactor : 0 < (((index + 1) * (index + 2) : Nat) : ℤ) := by positivity
  generalize hn : (((index + 1) * (index + 2) : Nat) : ℤ) = n at hfactor
  rw [nextTerm, hn, abs_neg]
  generalize term * square / knotScale = scaled at hscaled
  have hdiv := Int.mul_ediv_add_emod scaled n
  have hmod := Int.emod_nonneg scaled hfactor.ne'
  have hmod' := Int.emod_lt_of_pos scaled hfactor
  rw [← abs_of_pos hfactor, ← abs_mul, abs_of_pos hfactor]
  have hscaled := abs_le.mp hscaled
  rw [abs_le]
  constructor <;> linarith

/-- From the second term on, a series is at most one and a half times its first term. -/
theorem abs_seriesFrom_le {square : ℤ} (hlow : 0 ≤ square) (hhigh : square ≤ knotScale)
    (count : Nat) : ∀ (index : Nat) (term : ℤ), 1 ≤ index →
    2 * |seriesFrom square count index term| ≤ 3 * |term| + 6 * count := by
  induction count with
  | zero =>
    intro index term _
    rw [seriesFrom, abs_zero]
    positivity
  | succ count ih =>
    intro index term hindex
    have hnext := abs_nextTerm_le hlow hhigh index term
    have htail := ih (index + 2) (nextTerm square index term) (by omega)
    have hsum := abs_add_le term (seriesFrom square count (index + 2) (nextTerm square index term))
    have hfactor : 6 ≤ (((index + 1) * (index + 2) : Nat) : ℤ) := by
      have h : 2 * 3 ≤ (index + 1) * (index + 2) := Nat.mul_le_mul (by omega) (by omega)
      exact_mod_cast h
    have hsmall : 6 * |nextTerm square index term| ≤ |term| + 6 := by
      have hpos := abs_nonneg (nextTerm square index term)
      have hpos' := abs_nonneg term
      by_contra hlt
      nlinarith
    have hpos := abs_nonneg term
    rw [seriesFrom_succ]
    push_cast
    linarith

/-- The angle of a knot in fixed point. -/
def knotAngle (k : Nat) : ℤ := k * 2 ^ 153

/-- The square of the angle of a knot in fixed point. -/
def knotSquare (k : Nat) : ℤ := k ^ 2 * 2 ^ 146

theorem knot_eq (k : Nat) :
    let sine := splitFixed (seriesFrom (knotSquare k) 24 1 (knotAngle k))
    let cosine := splitFixed (seriesFrom (knotSquare k) 24 0 knotScale)
    knot k = ⟨sine.1, sine.2, cosine.1, cosine.2⟩ := by
  have hscale : (knotScale : ℤ) = 2 ^ 160 := by decide
  have hangle : (k : ℤ) * knotScale / 128 = knotAngle k := by
    rw [hscale, knotAngle]
    omega
  have hsquare : knotAngle k * knotAngle k / knotScale = knotSquare k := by
    have h : knotAngle k * knotAngle k = knotSquare k * 2 ^ 160 := by
      rw [knotAngle, knotSquare]
      ring
    rw [h, hscale]
    exact Int.mul_ediv_cancel _ (by norm_num)
  rw [knot, hangle, hsquare]

variable {k : Nat}

private theorem knotSquare_nonneg : 0 ≤ knotSquare k := by
  unfold knotSquare
  positivity

private theorem knotSquare_le (hk : k ≤ 128) : knotSquare k ≤ knotScale := by
  have hscale : (knotScale : ℤ) = 2 ^ 14 * 2 ^ 146 := by decide
  have hsquare : (k : ℤ) ^ 2 ≤ 2 ^ 14 := by
    have h : k ^ 2 ≤ 128 ^ 2 := Nat.pow_le_pow_left hk 2
    exact_mod_cast h
  rw [hscale, knotSquare]
  gcongr

private theorem cosine_series (hk : k ≤ 128) :
    2 ^ 158 ≤ seriesFrom (knotSquare k) 24 0 knotScale ∧
      16 * seriesFrom (knotSquare k) 24 0 knotScale ≤ 16 * 2 ^ 160 - 7 * knotSquare k + 2 ^ 20 := by
  have hpos : (0 : ℤ) ≤ k ^ 2 * 2 ^ 145 := by positivity
  have hlow := knotSquare_nonneg (k := k)
  have hhigh := knotSquare_le hk
  have hscale : (knotScale : ℤ) = 2 ^ 160 := by decide
  have hsecond : nextTerm (knotSquare k) 0 knotScale = -(k ^ 2 * 2 ^ 145) := by
    have h : (knotScale : ℤ) * knotSquare k / knotScale = (k ^ 2 * 2 ^ 145) * 2 := by
      rw [Int.mul_ediv_cancel_left _ knotScale_pos.ne', knotSquare]
      ring
    rw [nextTerm, h]
    norm_num
  have hsize : 2 * (k ^ 2 * 2 ^ 145) = knotSquare k := by
    rw [knotSquare]
    ring
  rw [seriesFrom_succ, seriesFrom_succ, hsecond, hscale]
  generalize hthird : nextTerm (knotSquare k) (0 + 2) (-(k ^ 2 * 2 ^ 145)) = third
  have hthird' := abs_nextTerm_le hlow hhigh (0 + 2) (-(k ^ 2 * 2 ^ 145))
  rw [hthird, abs_neg, abs_of_nonneg hpos] at hthird'
  have htail := abs_seriesFrom_le hlow hhigh 22 (0 + 2 + 2) third (by norm_num)
  rw [hscale] at hhigh
  generalize seriesFrom (knotSquare k) 22 (0 + 2 + 2) third = tail at htail
  have htail' := abs_le.mp (le_refl |tail|)
  generalize (k : ℤ) ^ 2 * 2 ^ 145 = second at *
  generalize knotSquare k = square at *
  norm_num at *
  constructor <;> linarith

private theorem cube_bounds (hk : k ≤ 128) :
    (k : ℤ) ^ 3 ≤ 128 ^ 2 * k ∧ 3 * 128 ^ 2 * (k : ℤ) - 2 * 128 ^ 3 ≤ (k : ℤ) ^ 3 := by
  have hk : (0 : ℤ) ≤ 128 - k := by omega
  have hhigh : 0 ≤ (k : ℤ) * ((128 - k) * (128 + k)) := by positivity
  have hlow : 0 ≤ (128 - k : ℤ) ^ 2 * (256 + k) := by positivity
  constructor <;> linarith

private theorem sine_series (hk : k ≤ 128) :
    |seriesFrom (knotSquare k) 24 1 (knotAngle k)| ≤ knotAngle k + 2 ^ 10 ∧
      |seriesFrom (knotSquare k) 24 1 (knotAngle k)| ≤ 7 * 2 ^ 157 := by
  have hpos : (0 : ℤ) ≤ k ^ 3 * 2 ^ 139 / 6 := by positivity
  have hlow := knotSquare_nonneg (k := k)
  have hhigh := knotSquare_le hk
  have hscale : (knotScale : ℤ) = 2 ^ 160 := by decide
  have hcube : knotAngle k * knotSquare k / knotScale = k ^ 3 * 2 ^ 139 := by
    have h : knotAngle k * knotSquare k = k ^ 3 * 2 ^ 139 * 2 ^ 160 := by
      rw [knotAngle, knotSquare]
      ring
    rw [h, hscale]
    exact Int.mul_ediv_cancel _ (by norm_num)
  have hsecond : nextTerm (knotSquare k) 1 (knotAngle k) = -(k ^ 3 * 2 ^ 139 / 6) := by
    rw [nextTerm, hcube]
    norm_num
  rw [seriesFrom_succ, seriesFrom_succ, hsecond]
  -- The tail from the third term on is at most one and a half times that term.
  generalize hthird : nextTerm (knotSquare k) (1 + 2) (-(k ^ 3 * 2 ^ 139 / 6)) = third
  have hthird' := abs_nextTerm_le hlow hhigh (1 + 2) (-(k ^ 3 * 2 ^ 139 / 6))
  rw [hthird, abs_neg, abs_of_nonneg hpos] at hthird'
  have htail := abs_seriesFrom_le hlow hhigh 22 (1 + 2 + 2) third (by norm_num)
  generalize seriesFrom (knotSquare k) 22 (1 + 2 + 2) third = tail at htail ⊢
  have htail' := abs_le.mp (le_refl |tail|)
  have hdiv := Int.mul_ediv_add_emod ((k : ℤ) ^ 3 * 2 ^ 139) 6
  have hmod := Int.emod_nonneg ((k : ℤ) ^ 3 * 2 ^ 139) (by norm_num : (6 : ℤ) ≠ 0)
  have hmod' := Int.emod_lt_of_pos ((k : ℤ) ^ 3 * 2 ^ 139) (by norm_num : (0 : ℤ) < 6)
  obtain ⟨hcubeHigh, hcubeLow⟩ := cube_bounds hk
  have hplace : (0 : ℤ) ≤ k := Int.natCast_nonneg k
  have hplace' : (k : ℤ) ≤ 128 := by exact_mod_cast hk
  rw [knotAngle, Nat.cast_ofNat] at *
  generalize (k : ℤ) ^ 3 * 2 ^ 139 / 6 = second, (k : ℤ) ^ 3 * 2 ^ 139 % 6 = rest at *
  generalize (k : ℤ) ^ 3 = cube, (k : ℤ) = place at *
  clear hsecond hcube hthird
  norm_num at *
  refine ⟨abs_le.mpr ⟨?_, ?_⟩, abs_le.mpr ⟨?_, ?_⟩⟩ <;> linarith

/-! ### Fixed point -/

theorem rounded_ofFixed (v : ℤ) : Rounded (v / 2 ^ 160) (ofFixed v) := by
  have h := rounded_ofRatio (decide (v < 0)) v.natAbs (by decide : 0 < knotScale)
  have hscale : ((knotScale : ℕ) : ℚ) = 2 ^ 160 := by norm_num [knotScale]
  rwa [hscale, ← mul_div_assoc, factor_mul_natAbs] at h

theorem toFixed_spec {x : Float} (hx : x.isFinite = true) :
    (toFixed x : ℚ) ≤ toRat x * 2 ^ 160 ∧ toRat x * 2 ^ 160 < (toFixed x + 1 : ℚ) := by
  obtain ⟨negative, mantissa, exponent, hvalue⟩ := isFinite_iff.mp hx
  have h := floorInt_spec negative mantissa (exponent + 160)
  rw [zpow_add₀ two_ne_zero, zpow_ofNat, ← mul_assoc] at h
  rw [toFixed, hvalue, toRat, hvalue, Value.toRat]
  exact h

/-- A number in fixed point up to two in magnitude is a double and a correction that is as small as the rounding error. -/
theorem splitFixed_spec {v : ℤ} (hv : |v| ≤ 2 ^ 161) :
    (ofFixed v).isFinite = true ∧ |toRat (ofFixed v) - v / 2 ^ 160| ≤ smallError ∧
      Bounded (1 / 2 ^ 40) (ofFixed (v - toFixed (ofFixed v))) := by
  have hscale : (0 : ℚ) < 2 ^ 160 := by positivity
  have hv' : |(v : ℚ) / 2 ^ 160| ≤ 4 := by
    have h : |(v : ℚ)| ≤ 2 ^ 161 := by exact_mod_cast hv
    rw [abs_div, abs_of_pos hscale, div_le_iff₀ hscale]
    linarith
  obtain ⟨hfinite, hclose⟩ := (rounded_ofFixed v).close hv'
  refine ⟨hfinite, hclose, ?_⟩
  obtain ⟨hlow, hhigh⟩ := toFixed_spec hfinite
  obtain ⟨hclose, hclose'⟩ := abs_le.mp hclose
  refine .of_rounded (a := 1 / 2 ^ 50) (rounded_ofFixed _) ?_ (by norm_num [smallError]) (by norm_num)
  have hlow := (div_le_iff₀ hscale).mpr hlow
  have hhigh := (lt_div_iff₀ hscale).mpr hhigh
  rw [add_div] at hhigh
  rw [smallError] at hclose hclose'
  rw [abs_le, Int.cast_sub, sub_div]
  generalize (toFixed (ofFixed v) : ℚ) / 2 ^ 160 = fixed, (v : ℚ) / 2 ^ 160 = exact at *
  constructor <;> linarith

/-! ### Knots -/

/-- How far the parts of the knot at `k / 128` are from zero and one. -/
structure KnotBounds (k : Nat) (near : Knot) : Prop where
  sine : Bounded (8 / 9) near.sine
  sine_le : |toRat near.sine| ≤ k / 128 + 1 / 2 ^ 40
  sineRest : Bounded (1 / 2 ^ 40) near.sineRest
  cosine_isFinite : near.cosine.isFinite = true
  cosine_ge : 1 / 4 ≤ toRat near.cosine
  cosine_le : toRat near.cosine ≤ 1 - 7 / 16 * (k / 128) ^ 2 + 1 / 2 ^ 40
  cosineRest : Bounded (1 / 2 ^ 40) near.cosineRest

private theorem sine_ofFixed (hk : k ≤ 128) {v : ℤ}
    (hv : v = seriesFrom (knotSquare k) 24 1 (knotAngle k)) :
    Bounded (8 / 9) (ofFixed v) ∧ |toRat (ofFixed v)| ≤ k / 128 + 1 / 2 ^ 40 ∧
      Bounded (1 / 2 ^ 40) (ofFixed (v - toFixed (ofFixed v))) := by
  obtain ⟨hangle, hwhole⟩ := sine_series hk
  rw [← hv] at hangle hwhole
  obtain ⟨hfinite, hclose, hrest⟩ := splitFixed_spec (hwhole.trans (by norm_num))
  have hscale : (0 : ℚ) < 2 ^ 160 := by positivity
  have hsize := abs_sub_abs_le_abs_sub (toRat (ofFixed v)) (v / 2 ^ 160)
  rw [abs_div, abs_of_pos hscale] at hsize
  have hangle : |(v : ℚ)| / 2 ^ 160 ≤ k / 128 + 1 / 2 ^ 50 := by
    have h : |(v : ℚ)| ≤ k * 2 ^ 153 + 2 ^ 10 := by
      rw [knotAngle] at hangle
      exact_mod_cast hangle
    rw [div_le_iff₀ hscale]
    linarith
  have hwhole : |(v : ℚ)| / 2 ^ 160 ≤ 7 / 8 := by
    have h : |(v : ℚ)| ≤ 7 * 2 ^ 157 := by exact_mod_cast hwhole
    rw [div_le_iff₀ hscale]
    linarith
  rw [smallError] at hclose
  exact ⟨⟨hfinite, by linarith⟩, by linarith, hrest⟩

private theorem cosine_ofFixed (hk : k ≤ 128) {v : ℤ}
    (hv : v = seriesFrom (knotSquare k) 24 0 knotScale) :
    (ofFixed v).isFinite = true ∧ 1 / 4 ≤ toRat (ofFixed v) ∧
      toRat (ofFixed v) ≤ 1 - 7 / 16 * (k / 128) ^ 2 + 1 / 2 ^ 40 ∧
      Bounded (1 / 2 ^ 40) (ofFixed (v - toFixed (ofFixed v))) := by
  have hsquare := knotSquare_nonneg (k := k)
  obtain ⟨hlow, hhigh⟩ := cosine_series hk
  rw [← hv] at hlow hhigh
  have hsize : |v| ≤ 2 ^ 161 := by
    rw [abs_of_nonneg (by linarith)]
    linarith
  obtain ⟨hfinite, hclose, hrest⟩ := splitFixed_spec hsize
  have hscale : (0 : ℚ) < 2 ^ 160 := by positivity
  have hhigh : (v : ℚ) / 2 ^ 160 ≤ 1 - 7 / 16 * (k / 128) ^ 2 + 1 / 2 ^ 50 := by
    have h : ((16 * v : ℤ) : ℚ) ≤ (16 * 2 ^ 160 - 7 * knotSquare k + 2 ^ 20 : ℤ) :=
      Int.cast_le.mpr hhigh
    rw [knotSquare] at h
    push_cast at h
    rw [div_le_iff₀ hscale]
    linarith
  have hquarter : Representable (1 / 4) := by
    rw [show (1 / 4 : ℚ) = 2 ^ (-2 : ℤ) by norm_num]
    exact .two_zpow (by norm_num)
  have hlow : 1 / 4 ≤ (v : ℚ) / 2 ^ 160 := by
    have h : (2 ^ 158 : ℚ) ≤ v := by exact_mod_cast hlow
    rw [le_div_iff₀ hscale]
    linarith
  have hlow := ((rounded_ofFixed v).nearest hfinite).le_of_ge hquarter hlow
  have hclose := (abs_le.mp hclose).2
  rw [smallError] at hclose
  exact ⟨hfinite, hlow, by linarith, hrest⟩

theorem knotBounds (hk : k ≤ 128) : KnotBounds k (knot k) := by
  obtain ⟨hsine, hsine', hsineRest⟩ := sine_ofFixed hk rfl
  obtain ⟨hfinite, hcosine, hcosine', hcosineRest⟩ := cosine_ofFixed hk rfl
  rw [knot_eq]
  exact ⟨hsine, hsine', hsineRest, hfinite, hcosine, hcosine', hcosineRest⟩

end SpatialComputer.Binary64
