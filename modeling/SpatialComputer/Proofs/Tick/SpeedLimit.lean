import SpatialComputer.Program.Scripted
import SpatialComputer.Proofs.Geometry.Length
import SpatialComputer.Proofs.Tick.Displacement

/-!
# The speed limit

A displacement that is longer than the limit is scaled by the quotient of the limit and its length. As long as the square of the length does not overflow, this shortens it to the limit, up to a small part. Where it does overflow the length is infinite, the quotient is zero, and a device that asks for the displacement stays where it is.
-/

namespace SpatialComputer

open Binary64

variable {U P : Type} [Processor U P]

/-- A displacement, made no longer than a limit. -/
noncomputable def shortened (limit : ℝ) (v : EuclideanSpace ℝ (Fin 3)) : EuclideanSpace ℝ (Fin 3) :=
  if ‖v‖ ≤ limit then v else (limit / ‖v‖) • v

/-- Whether a vector is another one, up to a relative error of one part in a billion. -/
def Near (v w : EuclideanSpace ℝ (Fin 3)) : Prop := ‖v - w‖ ≤ 1 / 10 ^ 9 * ‖w‖

variable {limit : ℝ} {v w : EuclideanSpace ℝ (Fin 3)}

theorem norm_shortened (hlimit : 0 ≤ limit) (v : EuclideanSpace ℝ (Fin 3)) :
    ‖shortened limit v‖ = min ‖v‖ limit := by
  rw [shortened]
  split
  · rename_i hshort
    rw [min_eq_left hshort]
  · rename_i hlong
    rw [not_le] at hlong
    rw [min_eq_right hlong.le, norm_smul, Real.norm_of_nonneg (by positivity),
      div_mul_cancel₀ _ (hlimit.trans_lt hlong).ne']

private theorem norm_sub_scaled (hv : 0 < ‖v‖) (limit : ℝ) :
    ‖v - (limit / ‖v‖) • v‖ = |‖v‖ - limit| := by
  have hscaled : v - (limit / ‖v‖) • v = (1 - limit / ‖v‖) • v := by rw [sub_smul, one_smul]
  rw [hscaled, norm_smul, Real.norm_eq_abs, ← abs_of_pos hv, ← abs_mul, abs_of_pos hv, sub_mul,
    one_mul, div_mul_cancel₀ _ hv.ne']

private theorem norm_sub_le_of_coordinates {part rest : ℝ} (hpart : 0 ≤ part) (hrest : 0 ≤ rest)
    (h : ∀ i, |v i - w i| ≤ part * |w i| + rest) : ‖v - w‖ ≤ part * ‖w‖ + 2 * rest := by
  have hsum : |w 0| + |w 1| + |w 2| ≤ 2 * ‖w‖ := by
    refine le_of_sq_le_sq ?_ (by positivity)
    rw [mul_pow, EuclideanSpace.real_norm_sq_eq, Fin.sum_univ_three, ← sq_abs (w 0), ← sq_abs (w 1),
      ← sq_abs (w 2)]
    nlinarith [sq_nonneg (|w 0| - |w 1|), sq_nonneg (|w 1| - |w 2|), sq_nonneg (|w 2| - |w 0|)]
  have hsquare : ∀ i, (v i - w i) ^ 2 ≤ (part * |w i| + rest) ^ 2 := by
    intro i
    rw [← sq_abs (v i - w i)]
    gcongr
    exact h i
  refine le_of_sq_le_sq ?_ (by positivity)
  calc ‖v - w‖ ^ 2 = (v 0 - w 0) ^ 2 + (v 1 - w 1) ^ 2 + (v 2 - w 2) ^ 2 := by
        rw [EuclideanSpace.real_norm_sq_eq, Fin.sum_univ_three]
        rfl
    _ ≤ (part * |w 0| + rest) ^ 2 + (part * |w 1| + rest) ^ 2 + (part * |w 2| + rest) ^ 2 := by
      linarith [hsquare 0, hsquare 1, hsquare 2]
    _ = part ^ 2 * ‖w‖ ^ 2 + 2 * part * rest * (|w 0| + |w 1| + |w 2|) + 3 * rest ^ 2 := by
      rw [EuclideanSpace.real_norm_sq_eq, Fin.sum_univ_three, ← sq_abs (w 0), ← sq_abs (w 1),
        ← sq_abs (w 2)]
      ring
    _ ≤ part ^ 2 * ‖w‖ ^ 2 + 2 * part * rest * (2 * ‖w‖) + 4 * rest ^ 2 := by
      gcongr
      norm_num
    _ = (part * ‖w‖ + 2 * rest) ^ 2 := by ring

/-! ### The factor -/

private theorem quotient_spec {x y : Float} (hx : x.isFinite = true) (hy : y.isFinite = true)
    (hone : 1 ≤ toRat x) (hlt : toRat x < toRat y) (hle : toRat y ≤ 2 ^ 513) :
    (x / y).isFinite = true ∧ 0 ≤ toRat (x / y) ∧ toRat (x / y) ≤ 1 ∧
      |toRat (x / y) - toRat x / toRat y| ≤ unitError * (toRat x / toRat y) := by
  have hpos : 0 < toRat y := by linarith
  have hnonneg : 0 ≤ toRat x / toRat y := div_nonneg (by linarith) hpos.le
  have hsmall : toRat x / toRat y ≤ 1 := (div_le_one hpos).mpr hlt.le
  have hnormal : (2 : ℚ) ^ (-1022 : ℤ) ≤ |toRat x / toRat y| := by
    rw [abs_of_nonneg hnonneg]
    calc (2 : ℚ) ^ (-1022 : ℤ) ≤ 2 ^ (-513 : ℤ) := zpow_le_zpow_right₀ one_le_two (by norm_num)
      _ = 1 / 2 ^ 513 := by rw [zpow_neg, one_div, zpow_ofNat]
      _ ≤ toRat x / toRat y := by gcongr
  have hrounded := rounded_div hx hy hpos.ne'
  have hfinite := hrounded.isFinite_of_le (by rw [abs_of_nonneg hnonneg]; exact hsmall.trans one_le_largest)
  have hnearest := hrounded.nearest hfinite
  have hclose := hnearest.abs_sub_le_relative hnormal
  rw [abs_of_nonneg hnonneg] at hclose
  exact ⟨hfinite, hnearest.le_of_ge .zero hnonneg, hnearest.le_of_le representable_one hsmall, hclose⟩

private theorem factor_close {factor limit length exact : ℝ} (hlimit : 0 < limit) (hexact : 0 < exact)
    (hlength : |length - exact| ≤ Vec3.lengthError * exact)
    (hfactor : |factor - limit / length| ≤ unitError * (limit / length)) :
    |factor - limit / exact| ≤ 1 / 2 ^ 45 * (limit / exact) := by
  rw [Vec3.lengthError] at hlength
  obtain ⟨hlow, hhigh⟩ := abs_le.mp hlength
  have hpos : 0 < length := by linarith
  have hpos' : 0 < limit / exact := by positivity
  have hratio : |limit / length - limit / exact| ≤ 1 / 2 ^ 46 * (limit / exact) := by
    have hsplit : limit / length - limit / exact = (exact - length) / length * (limit / exact) := by
      field_simp
    have hpart : |exact - length| / length ≤ 1 / 2 ^ 46 := by
      rw [div_le_iff₀ hpos, abs_sub_comm]
      linarith
    rw [hsplit, abs_mul, abs_div, abs_of_pos hpos, abs_of_pos hpos']
    gcongr
  have hquotient : limit / length ≤ 2 * (limit / exact) := by linarith [(abs_le.mp hratio).2]
  have hunit : (unitError : ℝ) = 1 / 2 ^ 53 := by norm_num [unitError]
  rw [hunit] at hfactor
  have htriangle := abs_sub_le factor (limit / length) (limit / exact)
  linarith

/-! ### Scaled coordinates -/

private theorem zero_add_spec {x : Float} (hx : x.isFinite = true) :
    (0 + x).isFinite = true ∧ toRat (0 + x) = toRat x := by
  have h := rounded_add isFinite_zero hx
  rw [toRat_zero, zero_add] at h
  exact h.exact_of_double

private theorem coordinate_close {x factor : Float} (hx : x.isFinite = true)
    (hfactor : factor.isFinite = true) (hnonneg : 0 ≤ toRat factor) (hle : toRat factor ≤ 1) {ratio : ℝ}
    (hratio : 0 < ratio) (hclose : |toRat factor - ratio| ≤ 1 / 2 ^ 45 * ratio) :
    (0 + x * factor).isFinite = true ∧
      |(toRat (0 + x * factor) : ℝ) - ratio * toRat x| ≤
        1 / 2 ^ 44 * |ratio * toRat x| + gridStep := by
  have hrounded := rounded_mul hx hfactor
  have hfinite : (x * factor).isFinite = true := by
    refine hrounded.isFinite_of_le ?_
    rw [abs_mul, abs_of_nonneg hnonneg]
    exact (mul_le_of_le_one_right (abs_nonneg _) hle).trans (abs_toRat_le x)
  obtain ⟨hsum, hrat⟩ := zero_add_spec hfinite
  refine ⟨hsum, ?_⟩
  -- Both errors count: that of the factor, and that of the product, which is not relative near zero.
  have hround := (hrounded.nearest hfinite).abs_sub_le_mixed
  have hround : |(toRat (x * factor) : ℝ) - toRat x * toRat factor| ≤
      1 / 2 ^ 53 * (|(toRat x : ℝ)| * toRat factor) + gridStep / 2 := by
    rw [abs_mul, abs_of_nonneg hnonneg, unitError] at hround
    have h := (Rat.cast_le (K := ℝ)).mpr hround
    push_cast at h
    exact h
  have hgrid : (0 : ℝ) < gridStep := by exact_mod_cast gridStep_pos
  have hproduct : |(toRat x : ℝ)| * toRat factor ≤ 2 * (ratio * |(toRat x : ℝ)|) := by
    have hfactor : (toRat factor : ℝ) ≤ 2 * ratio := by linarith [(abs_le.mp hclose).2]
    calc |(toRat x : ℝ)| * toRat factor ≤ |(toRat x : ℝ)| * (2 * ratio) := by gcongr
      _ = 2 * (ratio * |(toRat x : ℝ)|) := by ring
  have hscaled : |(toRat x : ℝ) * toRat factor - ratio * toRat x| ≤
      1 / 2 ^ 45 * (ratio * |(toRat x : ℝ)|) := by
    rw [mul_comm ratio (toRat x : ℝ), ← mul_sub, abs_mul]
    calc |(toRat x : ℝ)| * |toRat factor - ratio| ≤ |(toRat x : ℝ)| * (1 / 2 ^ 45 * ratio) := by gcongr
      _ = 1 / 2 ^ 45 * (ratio * |(toRat x : ℝ)|) := by ring
  have hpart : 0 ≤ ratio * |(toRat x : ℝ)| := by positivity
  have htriangle := abs_sub_le (toRat (x * factor) : ℝ) (toRat x * toRat factor) (ratio * toRat x)
  rw [hrat, abs_mul ratio, abs_of_pos hratio]
  linarith

/-! ### Displacements from the origin -/

namespace Vec3

variable {limit : Float} {delta : Vec3}

private theorem exact_zero_add (hdelta : delta.isFinite = true) :
    (zero + delta).isFinite = true ∧ (zero + delta).exact = delta.exact := by
  obtain ⟨hx, hy, hz⟩ := (isFinite_iff delta).mp hdelta
  obtain ⟨hfiniteX, hratX⟩ := zero_add_spec hx
  obtain ⟨hfiniteY, hratY⟩ := zero_add_spec hy
  obtain ⟨hfiniteZ, hratZ⟩ := zero_add_spec hz
  refine ⟨(isFinite_iff _).mpr ⟨hfiniteX, hfiniteY, hfiniteZ⟩, ?_⟩
  show !₂[((toRat (0 + delta.x) : ℚ) : ℝ), ((toRat (0 + delta.y) : ℚ) : ℝ),
    ((toRat (0 + delta.z) : ℚ) : ℝ)] = _
  rw [hratX, hratY, hratZ]
  rfl

private theorem near_of_length_le (hone : 1 ≤ toRat limit) (hdelta : delta.isFinite = true)
    (hsquare : delta.lengthSquared.isFinite = true) (hle : toRat delta.length ≤ toRat limit) :
    Near delta.exact (shortened (toRat limit) delta.exact) := by
  have hone : (1 : ℝ) ≤ toRat limit := by exact_mod_cast hone
  have hle : (toRat delta.length : ℝ) ≤ toRat limit := by exact_mod_cast hle
  rw [Near, norm_shortened (by linarith)]
  by_cases hshort : ‖delta.exact‖ ≤ toRat limit
  · rw [shortened, if_pos hshort, sub_self, norm_zero]
    positivity
  · -- It should have been scaled, but then its length is hardly different from the limit.
    rw [not_le] at hshort
    have hlong : 1 / 4 ≤ delta.exactSquare := by
      have h : (1 : ℝ) ≤ delta.exactSquare := by
        rw [← norm_exact_sq]
        exact one_le_pow₀ (by linarith)
      have h : 1 ≤ delta.exactSquare := by exact_mod_cast h
      linarith
    have hclose := (abs_le.mp (length_close hdelta hsquare hlong)).1
    rw [lengthError] at hclose
    rw [shortened, if_neg hshort.not_ge, norm_sub_scaled (by linarith), abs_of_pos (by linarith),
      min_eq_right hshort.le]
    linarith

private theorem mul_factor_close {factor : Float} (hdelta : delta.isFinite = true)
    (hfinite : factor.isFinite = true) (hnonneg : 0 ≤ toRat factor) (hle : toRat factor ≤ 1) {ratio : ℝ}
    (hratio : 0 < ratio) (hclose : |toRat factor - ratio| ≤ 1 / 2 ^ 45 * ratio) :
    (zero + delta * factor).isFinite = true ∧
      ‖(zero + delta * factor).exact - ratio • delta.exact‖ ≤
        1 / 2 ^ 44 * ‖ratio • delta.exact‖ + 2 * gridStep := by
  obtain ⟨hx, hy, hz⟩ := (isFinite_iff delta).mp hdelta
  obtain ⟨hfiniteX, hcloseX⟩ := coordinate_close hx hfinite hnonneg hle hratio hclose
  obtain ⟨hfiniteY, hcloseY⟩ := coordinate_close hy hfinite hnonneg hle hratio hclose
  obtain ⟨hfiniteZ, hcloseZ⟩ := coordinate_close hz hfinite hnonneg hle hratio hclose
  have hgrid : (0 : ℝ) ≤ gridStep := by exact_mod_cast gridStep_pos.le
  refine ⟨(isFinite_iff _).mpr ⟨hfiniteX, hfiniteY, hfiniteZ⟩, ?_⟩
  refine norm_sub_le_of_coordinates (by positivity) hgrid fun i => ?_
  fin_cases i
  · exact hcloseX
  · exact hcloseY
  · exact hcloseZ

private theorem near_of_length_gt (hlimit : limit.isFinite = true) (hone : 1 ≤ toRat limit)
    (hdelta : delta.isFinite = true) (hsquare : delta.lengthSquared.isFinite = true)
    (hgt : toRat limit < toRat delta.length) :
    (zero + delta * (limit / delta.length)).isFinite = true ∧
      Near (zero + delta * (limit / delta.length)).exact (shortened (toRat limit) delta.exact) := by
  -- A length that is found above a limit of at least one is not so small that squares vanish.
  have hlong : 1 / 4 ≤ delta.exactSquare := by
    by_contra hshort
    exact absurd (hone.trans_lt hgt) (not_lt.mpr (length_le_one hdelta hsquare (not_le.mp hshort)))
  have hclose := length_close hdelta hsquare hlong
  have hpos : 0 < ‖delta.exact‖ := norm_exact_pos hlong
  obtain ⟨hfinite, hnonneg, hle, hquotient⟩ := quotient_spec hlimit (length_isFinite hdelta hsquare) hone
    hgt (length_le hdelta hsquare)
  have hquotient : |(toRat (limit / delta.length) : ℝ) - toRat limit / toRat delta.length| ≤
      unitError * (toRat limit / toRat delta.length) := by exact_mod_cast hquotient
  have hone : (1 : ℝ) ≤ toRat limit := by exact_mod_cast hone
  have hgt : (toRat limit : ℝ) < toRat delta.length := by exact_mod_cast hgt
  have hratio : 0 < (toRat limit : ℝ) / ‖delta.exact‖ := by positivity
  have hfactor := factor_close (by linarith) hpos hclose hquotient
  obtain ⟨hmoved, hscaled⟩ := mul_factor_close hdelta hfinite hnonneg hle hratio hfactor
  refine ⟨hmoved, ?_⟩
  have hnorm : ‖((toRat limit : ℝ) / ‖delta.exact‖) • delta.exact‖ = toRat limit := by
    rw [norm_smul, Real.norm_of_nonneg hratio.le, div_mul_cancel₀ _ hpos.ne']
  have hgrid : (gridStep : ℝ) ≤ 1 / 2 ^ 60 := by
    have h := (Rat.cast_le (K := ℝ)).mpr gridStep_le
    push_cast at h
    exact h
  rw [hnorm] at hscaled
  rw [Near, norm_shortened (by linarith)]
  by_cases hshort : ‖delta.exact‖ ≤ toRat limit
  · -- It need not have been scaled, but then its length is hardly different from the limit.
    have hkept : ‖((toRat limit : ℝ) / ‖delta.exact‖) • delta.exact - delta.exact‖ =
        toRat limit - ‖delta.exact‖ := by
      rw [norm_sub_rev, norm_sub_scaled hpos, abs_of_nonpos (by linarith), neg_sub]
    have hhigh := (abs_le.mp hclose).2
    rw [lengthError] at hhigh
    rw [shortened, if_pos hshort, min_eq_left hshort]
    have htriangle := norm_sub_le_norm_sub_add_norm_sub
      (zero + delta * (limit / delta.length)).exact
      (((toRat limit : ℝ) / ‖delta.exact‖) • delta.exact) delta.exact
    linarith
  · rw [shortened, if_neg hshort, min_eq_right (not_le.mp hshort).le]
    linarith

private theorem exact_mul_zero {factor : Float} (hdelta : delta.isFinite = true)
    (hfactor : factor.isFinite = true) (hzero : toRat factor = 0) :
    (zero + delta * factor).isFinite = true ∧ (zero + delta * factor).exact = 0 := by
  have hproduct : ∀ {x : Float}, x.isFinite = true →
      (0 + x * factor).isFinite = true ∧ toRat (0 + x * factor) = 0 := by
    intro x hx
    have hrounded := rounded_mul hx hfactor
    rw [hzero, mul_zero, ← toRat_zero] at hrounded
    obtain ⟨hfinite, hrat⟩ := hrounded.exact_of_double
    obtain ⟨hsum, hkept⟩ := zero_add_spec hfinite
    exact ⟨hsum, by rw [hkept, hrat, toRat_zero]⟩
  obtain ⟨hx, hy, hz⟩ := (isFinite_iff delta).mp hdelta
  exact ⟨(isFinite_iff _).mpr ⟨(hproduct hx).1, (hproduct hy).1, (hproduct hz).1⟩,
    exact_eq_zero_iff.mpr ⟨(hproduct hx).2, (hproduct hy).2, (hproduct hz).2⟩⟩

private theorem limitSpeed_of_overflow (hlimit : limit.isFinite = true) (hdelta : delta.isFinite = true)
    (hsquare : delta.lengthSquared.isFinite = false) :
    (zero + limitSpeed (some limit) delta).isFinite = true ∧
      (zero + limitSpeed (some limit) delta).exact = 0 := by
  have hlength := length_infinite hdelta hsquare
  obtain ⟨hfinite, hzero⟩ := div_infinite hlimit hlength
  rw [limitSpeed, if_pos (lt_of_infinite hlimit hlength)]
  exact exact_mul_zero hdelta hfinite hzero

private theorem limitSpeed_near (hlimit : limit.isFinite = true) (hone : 1 ≤ toRat limit)
    (hdelta : delta.isFinite = true) (hsquare : delta.lengthSquared.isFinite = true) :
    (zero + limitSpeed (some limit) delta).isFinite = true ∧
      Near (zero + limitSpeed (some limit) delta).exact (shortened (toRat limit) delta.exact) := by
  have hlt := lt_iff hlimit (length_isFinite hdelta hsquare)
  rw [limitSpeed]
  split
  · rename_i hlonger
    exact near_of_length_gt hlimit hone hdelta hsquare (hlt.mp hlonger)
  · rename_i hshorter
    obtain ⟨hfinite, hexact⟩ := exact_zero_add hdelta
    refine ⟨hfinite, ?_⟩
    rw [hexact]
    exact near_of_length_le hone hdelta hsquare (not_lt.mp fun hgt => hshorter (hlt.mpr hgt))

private theorem norm_shortened_pos (hone : 1 ≤ toRat limit) (hne : delta.exact ≠ 0) :
    0 < ‖shortened (toRat limit) delta.exact‖ := by
  have hone : (1 : ℝ) ≤ toRat limit := by exact_mod_cast hone
  rw [norm_shortened (by linarith)]
  exact lt_min (norm_pos_iff.mpr hne) (by linarith)

private theorem not_near_zero {v : EuclideanSpace ℝ (Fin 3)} (hv : 0 < ‖v‖) : ¬Near 0 v := by
  rw [Near, zero_sub, norm_neg]
  linarith

private theorem limitSpeed_spec (hlimit : limit.isFinite = true) (hone : 1 ≤ toRat limit)
    (hdelta : delta.isFinite = true) :
    (zero + limitSpeed (some limit) delta).isFinite = true ∧
      (Near (zero + limitSpeed (some limit) delta).exact (shortened (toRat limit) delta.exact) ↔
        delta.lengthSquared.isFinite = true) ∧
      (delta.isZero = false →
        (zero + limitSpeed (some limit) delta).isZero = !delta.lengthSquared.isFinite) := by
  have hpos : delta.exact ≠ 0 → 0 < ‖shortened (toRat limit) delta.exact‖ := norm_shortened_pos hone
  -- Nothing but zero is near zero, so a displacement that overflow has cancelled is not the shortened one.
  cases hsquare : delta.lengthSquared.isFinite with
  | true =>
    obtain ⟨hfinite, hnear⟩ := limitSpeed_near hlimit hone hdelta hsquare
    refine ⟨hfinite, iff_of_true hnear rfl, fun hnonzero => ?_⟩
    rw [← Bool.not_eq_true, isZero_iff hdelta] at hnonzero
    rw [Bool.not_true, ← Bool.not_eq_true, isZero_iff hfinite]
    intro hzero
    rw [hzero] at hnear
    exact not_near_zero (hpos hnonzero) hnear
  | false =>
    obtain ⟨hfinite, hzero⟩ := limitSpeed_of_overflow hlimit hdelta hsquare
    refine ⟨hfinite, iff_of_false ?_ Bool.false_ne_true, fun _ => (isZero_iff hfinite).mpr hzero⟩
    rw [hzero]
    refine not_near_zero (hpos fun hzero => ?_)
    rw [lengthSquared_isFinite_of_exact_eq_zero hdelta hzero] at hsquare
    cases hsquare

end Vec3

theorem displaced_of_isFinite {limit : Float} {delta : Vec3} (hdelta : delta.isFinite = true)
    (hfinite : (Vec3.zero + limitSpeed (some limit) delta).isFinite = true) :
    displaced (some limit) none .zero delta = some (Vec3.zero + limitSpeed (some limit) delta) := by
  rw [displaced, if_neg (by rw [hdelta]; exact Bool.false_ne_true)]
  exact if_pos hfinite

private theorem Device.actuate_at_origin {limit : Float} {d : Device U} {t : Vec3}
    (hposition : d.position = .zero) (hasked : (Processor.actuators d.processor).isZero = false)
    (ht : displaced (some limit) none .zero (Processor.actuators d.processor) = some t) :
    (d.actuate (some limit) none).1 = if t.isZero then .ineffective else .moved := by
  unfold Device.actuate
  dsimp only
  rw [if_neg (by rw [hasked]; exact Bool.false_ne_true), hposition, ht]
  have hsame : (t == Vec3.zero) = t.isZero := rfl
  dsimp only
  rw [hsame]
  split <;> rfl

/-- The speed limit shortens a displacement from the origin, up to a relative error of one part in a billion, just if the square of its length does not overflow; and just then a device that asks for it, unless it is zero, moves. Coordinates up to `2 ^ 511` are always small enough. -/
theorem displaced_shortens_iff {limit : Float} (hlimit : limit.isFinite = true) (hone : 1 ≤ limit)
    {delta : Vec3} (hdelta : delta.isFinite = true) :
    (∃ t, displaced (some limit) none .zero delta = some t ∧
      (Near t.exact (shortened (toRat limit) delta.exact) ↔ delta.lengthSquared.isFinite = true)) ∧
    (∀ d : Device U, d.position = .zero → Processor.actuators d.processor = delta →
      delta.isZero = false →
        (d.actuate (some limit) none).1 =
          if delta.lengthSquared.isFinite then .moved else .ineffective) ∧
    (delta.Within (2 ^ 511) → delta.lengthSquared.isFinite = true) := by
  have hone : 1 ≤ toRat limit := by
    have h := (le_iff isFinite_one hlimit).mp hone
    rwa [toRat_one] at h
  obtain ⟨hfinite, hnear, hleft⟩ := Vec3.limitSpeed_spec hlimit hone hdelta
  have htarget := displaced_of_isFinite hdelta hfinite
  refine ⟨⟨_, htarget, hnear⟩, ?_, fun within => Vec3.lengthSquared_isFinite within.x within.y within.z⟩
  rintro d hposition rfl hasked
  rw [Device.actuate_at_origin hposition hasked htarget, hleft hasked]
  cases (Processor.actuators d.processor).lengthSquared.isFinite <;> rfl

def Device.asking (delta : Vec3) : Device ScriptedProcessor :=
  .create 1 none .zero 1 { program := .idle, position := .zero, actuators := delta } {} 0 0

/-- With a limit of two, a displacement of length fifty is shortened to a length of two, and the device that asks for it moves. -/
theorem displaced_shortens_iff_diagonal :
    (∃ t, displaced (some 2) none .zero ⟨30, 40, 0⟩ = some t ∧
      Near t.exact (shortened (toRat 2) (⟨30, 40, 0⟩ : Vec3).exact)) ∧
    ((Device.asking ⟨30, 40, 0⟩).actuate (some 2) none).1 = .moved := by
  have hfacts : (2 : Float).isFinite = true ∧ 1 ≤ (2 : Float) ∧
      (⟨30, 40, 0⟩ : Vec3).isFinite = true ∧ (⟨30, 40, 0⟩ : Vec3).isZero = false ∧
      atMost 30 40 1 = true ∧ atMost 40 40 1 = true ∧ atMost 0 40 1 = true := by decide +kernel
  obtain ⟨hlimit, hone, hdelta, hnonzero, hx, hy, hz⟩ := hfacts
  have hbound : ∀ {x : Float}, atMost x 40 1 = true → Bounded (2 ^ 511) x := fun h =>
    (Bounded.of_atMost 40 1 one_pos h (by norm_num : ((40 : ℕ) / (1 : ℕ) : ℚ) ≤ 2 ^ 6)).mono
      (pow_le_pow_right₀ one_le_two (by norm_num))
  obtain ⟨⟨t, ht, hnear⟩, hmoves, hfits⟩ :=
    displaced_shortens_iff (U := ScriptedProcessor) hlimit hone hdelta
  have hsquare := hfits ⟨hbound hx, hbound hy, hbound hz⟩
  refine ⟨⟨t, ht, hnear.mpr hsquare⟩, ?_⟩
  rw [hmoves (.asking ⟨30, 40, 0⟩) rfl rfl hnonzero, hsquare]
  rfl

/-- A displacement of `10 ^ 200` along an axis is finite and not zero, but its square overflows: a limit of one cancels it, and the device that asks for it does not count as moved. -/
theorem displaced_cancels_faraway :
    (⟨1e200, 0, 0⟩ : Vec3).isFinite = true ∧ (⟨1e200, 0, 0⟩ : Vec3).isZero = false ∧
      displaced (some 1) none .zero ⟨1e200, 0, 0⟩ = some .zero ∧
      ((Device.asking ⟨1e200, 0, 0⟩).actuate (some 1) none).1 = .ineffective := by
  decide +kernel

end SpatialComputer
