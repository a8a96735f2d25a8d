import SpatialComputer.Proofs.Sampling.Draws
import SpatialComputer.Proofs.Sampling.Units

/-!
# Draws from a range

A draw between finite ends that are a finite distance apart succeeds with a number of the range. Rounding may carry a number up to the upper end. A draw from a half-open range is then repeated, and a number among the lowest eighth always ends it; a draw from a closed range takes a scale that is small enough for the largest number in `[0, 1)` that can be drawn.
-/

namespace SpatialComputer.Sampling

open Binary64

variable {low high scale : Float}

private theorem scaled_spec (hscale : scale.isFinite = true) (hnonneg : 0 ≤ toRat scale)
    (v : UInt64) : (unitOf v * scale).isFinite = true ∧ 0 ≤ toRat (unitOf v * scale) ∧
      toRat (unitOf v * scale) ≤ 2 * (toRat (unitOf v) * toRat scale) := by
  have hunit := unitOf_nonneg v
  have hproduct : 0 ≤ toRat (unitOf v) * toRat scale := mul_nonneg hunit hnonneg
  have hfinite : (unitOf v * scale).isFinite = true := by
    rw [product_comm]
    exact ((Bounded.self hscale hnonneg).mul_of_one (unitOf_bounded v)).isFinite
  have hnearest := (rounded_mul (isFinite_unitOf v) hscale).nearest hfinite
  have hzero := hnearest.abs_sub_le 0 .zero
  rw [zero_sub, abs_neg, abs_of_nonneg hproduct] at hzero
  exact ⟨hfinite, hnearest.le_of_ge .zero hproduct, by linarith [(abs_le.mp hzero).2]⟩

/-! ### Half-open ranges -/

/-- Whether a range between finite ends has a finite width, which is the scale of its draws. -/
private structure Spans (low high scale : Float) : Prop where
  isFinite_low : low.isFinite = true
  isFinite_high : high.isFinite = true
  isFinite_scale : scale.isFinite = true
  ordered : toRat low < toRat high
  width : IsNearest (toRat high - toRat low) (toRat scale)

namespace Spans

private theorem scale_nonneg (spans : Spans low high scale) : 0 ≤ toRat scale :=
  spans.width.le_of_ge .zero (sub_nonneg.mpr spans.ordered.le)

private theorem mem_of_lt (spans : Spans low high scale) {v : UInt64}
    (hlt : unitOf v * scale + low < high) :
    (unitOf v * scale + low).isFinite = true ∧ low ≤ unitOf v * scale + low := by
  obtain ⟨hfinite, hnonneg, -⟩ := scaled_spec spans.isFinite_scale spans.scale_nonneg v
  have hrounded := rounded_add hfinite spans.isFinite_low
  have hlow : toRat low ≤ toRat (unitOf v * scale) + toRat low := le_add_of_nonneg_left hnonneg
  rcases hrounded.isFinite_or_infinite hlow with hsum | hinfinite
  · refine ⟨hsum, (le_iff spans.isFinite_low hsum).mpr ?_⟩
    exact (hrounded.nearest hsum).le_of_ge (representable_toRat low) hlow
  · exact absurd hlt (not_lt_of_infinite hinfinite spans.isFinite_high)

private theorem lt_of_low (spans : Spans low high scale) {v : UInt64} (hv : v.toNat < Keystream.lowBound) :
    unitOf v * scale + low < high := by
  have hordered := spans.ordered
  obtain ⟨hfinite, hnonneg, hle⟩ := scaled_spec spans.isFinite_scale spans.scale_nonneg v
  have hunit : toRat (unitOf v) < 1 / 8 := by
    have htop : v.toNat / 2 ^ 12 < 2 ^ 49 := by
      simp only [Keystream.lowBound] at hv
      omega
    have htop : ((v.toNat / 2 ^ 12 : Nat) : ℚ) < 2 ^ 49 := by exact_mod_cast htop
    rw [(unitOf_spec v).2, div_lt_iff₀ (by positivity)]
    linarith
  have hscale : toRat scale ≤ 2 * (toRat high - toRat low) := by
    have hzero := spans.width.abs_sub_le 0 .zero
    rw [zero_sub, abs_neg, abs_of_pos (sub_pos.mpr hordered)] at hzero
    linarith [(abs_le.mp hzero).2]
  -- The scale may be twice the width and the product twice the exact one, so an eighth becomes at most a half.
  have hhalf : 2 * toRat (unitOf v * scale) < toRat high - toRat low := by
    have hproduct : toRat (unitOf v) * toRat scale ≤
        toRat (unitOf v) * (2 * (toRat high - toRat low)) :=
      mul_le_mul_of_nonneg_left hscale (unitOf_nonneg v)
    have heighth : toRat (unitOf v) * (2 * (toRat high - toRat low)) <
        1 / 8 * (2 * (toRat high - toRat low)) :=
      mul_lt_mul_of_pos_right hunit (by linarith)
    linarith
  have hrounded := rounded_add hfinite spans.isFinite_low
  have hsum : (unitOf v * scale + low).isFinite = true := by
    have hlow := neg_largest_le_toRat low
    have hhigh := toRat_le_largest high
    exact hrounded.isFinite_of_le (abs_le.mpr ⟨by linarith, by linarith⟩)
  rw [lt_iff hsum spans.isFinite_high]
  have hnearest := (hrounded.nearest hsum).abs_sub_le _ (representable_toRat low)
  rw [abs_sub_comm (toRat low), add_sub_cancel_right, abs_of_nonneg hnonneg] at hnearest
  linarith [(abs_le.mp hnearest).2]

private theorem run_below (low high scale : Float) (attempts : Nat) (s : Keystream) :
    (below low high scale (attempts + 1)).run.run s =
      if unitOf (Keystream.valueAt s.key s.taken) * scale + low < high then
        (.ok (unitOf (Keystream.valueAt s.key s.taken) * scale + low),
          { s with taken := s.taken + 1 })
      else (below low high scale attempts).run.run { s with taken := s.taken + 1 } := by
  change (ite _ _ _ : Draw Float).run.run _ = _
  split <;> rfl

private theorem below_succeeds (spans : Spans low high scale) (attempts : Nat) :
    ∀ s : Keystream,
      (∃ ahead < attempts, (Keystream.valueAt s.key (s.taken + ahead)).toNat < Keystream.lowBound) →
      ∃ x s', (below low high scale attempts).run.run s = (.ok x, s') ∧ s'.key = s.key ∧
        x.isFinite = true ∧ low ≤ x ∧ x < high := by
  induction attempts with
  | zero =>
    rintro s ⟨ahead, hahead, -⟩
    omega
  | succ attempts ih =>
    rintro s ⟨ahead, hahead, hlow⟩
    by_cases hlt : unitOf (Keystream.valueAt s.key s.taken) * scale + low < high
    · obtain ⟨hfinite, hle⟩ := spans.mem_of_lt hlt
      exact ⟨_, _, (run_below ..).trans (if_pos hlt), rfl, hfinite, hle, hlt⟩
    · have hahead' : ahead ≠ 0 := by
        rintro rfl
        exact hlt (spans.lt_of_low hlow)
      have hnext : s.taken + ahead = s.taken + 1 + (ahead - 1) := by omega
      obtain ⟨x, s', hrun, hkey, hx⟩ := ih { s with taken := s.taken + 1 }
        ⟨ahead - 1, by omega, by rwa [← hnext]⟩
      exact ⟨x, s', (run_below ..).trans ((if_neg hlt).trans hrun), hkey, hx⟩

end Spans

variable {key : Vector UInt32 8}

/-- A half-open range of finite width yields its numbers. -/
theorem uniform_yields (hkey : Keystream.ReachesLow key) (hlow : low.isFinite = true)
    (hhigh : high.isFinite = true) (hlt : low < high) (hwidth : (high - low).isFinite = true) :
    Yields key (uniform low high) fun x => x.isFinite = true ∧ low ≤ x ∧ x < high := by
  have spans : Spans low high (high - low) :=
    ⟨hlow, hhigh, hwidth, (lt_iff hlow hhigh).mp hlt, (rounded_sub hhigh hlow).nearest hwidth⟩
  unfold uniform
  refine .check (by rw [decide_eq_true hlt, hlow, hhigh]; rfl) (.check hwidth ?_)
  rintro s rfl
  exact spans.below_succeeds _ s (hkey.exists_ahead s.taken)

/-! ### Closed ranges -/

theorem unitMax_spec : unitMax.isFinite = true ∧ toRat unitMax = 1 - 1 / 2 ^ 52 := by
  have h := toRat_of_value (by decide : value unitMax = .finite false (2 ^ 53 - 2) (-53))
  norm_num at h ⊢
  exact h

private theorem unitMax_pos : 0 < toRat unitMax := by
  rw [unitMax_spec.2]
  norm_num

/-- Whether a scale keeps even the largest draw within the range. -/
private structure Fits (low high scale : Float) : Prop where
  isFinite_scale : scale.isFinite = true
  scale_nonneg : 0 ≤ toRat scale
  not_lt : ¬high < scale * unitMax + low

private theorem ofBits_spec {bits : Nat} (hbits : bits < infinityBits) :
    (Float.ofBits (.ofNat bits)).isFinite = true ∧ 0 ≤ toRat (Float.ofBits (.ofNat bits)) := by
  have hfield : bits / fractionBound ≠ 2047 := by
    simp only [infinityBits] at hbits
    simp only [fractionBound]
    omega
  have hvalue := value_ofMagnitude false hbits.le
  rw [if_neg hfield, ofMagnitude, if_neg Bool.false_ne_true, Nat.zero_add] at hvalue
  split at hvalue
  all_goals
    obtain ⟨hfinite, hrat⟩ := toRat_of_value hvalue
    refine ⟨hfinite, ?_⟩
    rw [hrat, factor_false, one_mul]
    positivity

private theorem lt_infinityBits {bits : Nat} (hbits : bits < 2 ^ 64)
    (hfinite : (Float.ofBits (.ofNat bits)).isFinite = true)
    (hpos : 0 < toRat (Float.ofBits (.ofNat bits))) : bits < infinityBits := by
  obtain ⟨negative, mantissa, exponent, hparts⟩ := isFinite_iff.mp hfinite
  have hsign : negative = false := by
    rw [Bool.eq_false_iff]
    rintro rfl
    have hmagnitude : (0 : ℚ) ≤ mantissa * 2 ^ exponent := by positivity
    rw [(toRat_of_value hparts).2, factor_true] at hpos
    linarith
  rw [value_ofBits, UInt64.toNat_ofNat_of_lt' hbits, Value.ofBits] at hparts
  by_contra hle
  simp only [infinityBits] at hle
  split at hparts
  · split at hparts <;> cases hparts
  · rename_i hfield
    have hlow : ¬signBit ≤ bits := by
      split at hparts
      all_goals
        obtain ⟨h, -, -⟩ := Value.finite.inj hparts
        rw [hsign] at h
        exact of_decide_eq_false h
    simp only [signBit] at hlow
    simp only [fractionBound] at hfield
    omega

private theorem fits_of_zero (hlow : low.isFinite = true) (hhigh : high.isFinite = true)
    (hle : low ≤ high) (hscale : scale.isFinite = true) (hzero : toRat scale = 0) :
    Fits low high scale := by
  refine ⟨hscale, hzero.ge, ?_⟩
  have hproduct := rounded_mul hscale unitMax_spec.1
  rw [hzero, zero_mul, ← toRat_zero] at hproduct
  obtain ⟨hfinite, hrat⟩ := hproduct.exact_of_double
  have hsum := rounded_add hfinite hlow
  rw [hrat, toRat_zero, zero_add] at hsum
  obtain ⟨hfinite, hrat⟩ := hsum.exact_of_double
  rw [lt_iff hhigh hfinite, hrat, not_lt]
  exact (le_iff hlow hhigh).mp hle

private theorem fittingScale_fits (hlow : low.isFinite = true) (hhigh : high.isFinite = true)
    (hle : low ≤ high) (bits : Nat) (hbits : bits < 2 ^ 64)
    (hfinite : (Float.ofBits (.ofNat bits)).isFinite = true)
    (hnonneg : 0 ≤ toRat (Float.ofBits (.ofNat bits))) :
    Fits low high (fittingScale low high bits) := by
  induction bits with
  | zero => exact fits_of_zero hlow hhigh hle isFinite_zero toRat_zero
  | succ bits ih =>
    unfold fittingScale
    dsimp only
    split
    · rename_i hlt
      -- A scale that does not fit is above zero, so the bits below its own are those of a finite number.
      have hne : toRat (Float.ofBits (.ofNat (bits + 1))) ≠ 0 := fun h =>
        (fits_of_zero hlow hhigh hle hfinite h).not_lt hlt
      have hbits' := lt_infinityBits hbits hfinite (lt_of_le_of_ne hnonneg hne.symm)
      have hspec := ofBits_spec (Nat.lt_of_succ_lt hbits')
      exact ih (Nat.lt_of_succ_lt hbits) hspec.1 hspec.2
    · rename_i hnot
      exact ⟨hfinite, hnonneg, hnot⟩

private theorem fits_fittingScale (hlow : low.isFinite = true) (hhigh : high.isFinite = true)
    (hle : low ≤ high) (hscale : ((high - low) / unitMax).isFinite = true) :
    Fits low high (fittingScale low high ((high - low) / unitMax).toBits.toNat) := by
  have hnonneg : 0 ≤ toRat ((high - low) / unitMax) := by
    have hunitFinite := unitMax_spec.1
    have hwidth := isFinite_of_div hunitFinite hscale
    have hle' := sub_nonneg.mpr ((le_iff hlow hhigh).mp hle)
    have hwidth' := ((rounded_sub hhigh hlow).nearest hwidth).le_of_ge .zero hle'
    exact ((rounded_div hwidth hunitFinite unitMax_pos.ne').nearest hscale).le_of_ge .zero
      (div_nonneg hwidth' unitMax_pos.le)
  generalize (high - low) / unitMax = start at hscale hnonneg
  have hvalue : value (Float.ofBits (.ofNat start.toBits.toNat)) = value start := by
    rw [UInt64.ofNat_toNat, value_ofBits]
    rfl
  have hrat : toRat (Float.ofBits (.ofNat start.toBits.toNat)) = toRat start := by
    rw [toRat, toRat, hvalue]
  refine fittingScale_fits hlow hhigh hle _ (UInt64.toNat_lt _) ?_ (hrat ▸ hnonneg)
  rw [isFinite_iff, hvalue]
  exact isFinite_iff.mp hscale

private theorem Fits.largest_draw (fits : Fits low high scale) :
    (scale * unitMax).isFinite = true ∧ 0 ≤ toRat (scale * unitMax) ∧
      ∀ v, toRat (unitOf v * scale) ≤ toRat (scale * unitMax) := by
  obtain ⟨hunitFinite, hunit⟩ := unitMax_spec
  have hproduct : 0 ≤ toRat scale * toRat unitMax := mul_nonneg fits.scale_nonneg unitMax_pos.le
  have hunitBounded : Bounded 1 unitMax :=
    (Bounded.self hunitFinite unitMax_pos.le).mono (by rw [hunit]; norm_num)
  have hfinite :=
    ((Bounded.self fits.isFinite_scale fits.scale_nonneg).mul_of_one hunitBounded).isFinite
  have hnearest := (rounded_mul fits.isFinite_scale hunitFinite).nearest hfinite
  have hnonneg := hnearest.le_of_ge .zero hproduct
  refine ⟨hfinite, hnonneg, fun v => ?_⟩
  obtain ⟨hfinite', -, hle⟩ := scaled_spec fits.isFinite_scale fits.scale_nonneg v
  rcases fits.scale_nonneg.lt_or_eq with hscale | hscale
  · rcases (unitOf_le v).lt_or_eq with hlt | heq
    · refine ((rounded_mul (isFinite_unitOf v) fits.isFinite_scale).nearest hfinite').mono hnearest ?_
      rw [hunit, mul_comm]
      exact mul_lt_mul_of_pos_left hlt hscale
    · have heq : unitMax = unitOf v :=
        eq_of_toRat_eq hunitFinite (isFinite_unitOf v) (hunit.trans heq.symm) unitMax_pos.ne'
      rw [heq, product_comm]
  · rw [← hscale, mul_zero, mul_zero] at hle
    exact hle.trans hnonneg

private theorem Fits.mem (fits : Fits low high scale) (hlow : low.isFinite = true)
    (hhigh : high.isFinite = true) (v : UInt64) :
    (unitOf v * scale + low).isFinite = true ∧ low ≤ unitOf v * scale + low ∧
      unitOf v * scale + low ≤ high := by
  obtain ⟨hfinite, hnonneg, -⟩ := scaled_spec fits.isFinite_scale fits.scale_nonneg v
  obtain ⟨hmaxFinite, hmaxNonneg, hmax⟩ := fits.largest_draw
  have hshift : ∀ p : Float, p.isFinite = true → Rounded (toRat p + toRat low) (p + low) :=
    fun p hp => rounded_add hp hlow
  have hmaxSum : (scale * unitMax + low).isFinite = true := by
    rcases (hshift _ hmaxFinite).isFinite_or_infinite (le_add_of_nonneg_left hmaxNonneg) with h | h
    · exact h
    · exact absurd (lt_of_infinite hhigh h) fits.not_lt
  have hzeroSum := rounded_add isFinite_zero hlow
  rw [toRat_zero, zero_add] at hzeroSum
  obtain ⟨hzeroFinite, hzeroRat⟩ := hzeroSum.exact_of_double
  have hnonneg' : toRat 0 ≤ toRat (unitOf v * scale) := by rwa [toRat_zero]
  have hsum : (unitOf v * scale + low).isFinite = true :=
    shift_isFinite (f := (· + low)) hshift isFinite_zero hmaxFinite hfinite hzeroFinite hmaxSum
      hnonneg' (hmax v)
  refine ⟨hsum, (le_iff hlow hsum).mpr ?_, (le_iff hsum hhigh).mpr ?_⟩
  · rw [← hzeroRat]
    exact shift_le (f := (· + low)) hshift isFinite_zero hfinite hzeroFinite hsum hnonneg'
  · refine (shift_le (f := (· + low)) hshift hfinite hmaxFinite hsum hmaxSum (hmax v)).trans ?_
    exact le_of_not_gt fun h => fits.not_lt ((lt_iff hhigh hmaxSum).mpr h)

/-- A closed range whose draws have a finite scale yields its numbers. -/
theorem uniformInclusive_yields (hlow : low.isFinite = true) (hhigh : high.isFinite = true)
    (hle : low ≤ high) (hscale : ((high - low) / unitMax).isFinite = true) :
    Yields key (uniformInclusive low high) fun x => x.isFinite = true ∧ low ≤ x ∧ x ≤ high := by
  have fits := fits_fittingScale hlow hhigh hle hscale
  unfold uniformInclusive
  refine .check (by rw [decide_eq_true hle, hlow, hhigh]; rfl) (.check hscale ?_)
  refine .bind (q := fun u => ∃ v, u = unitOf v) ?_ ?_
  · exact .bind (.modifyGet (q := fun _ => True) (fun _ => rfl) fun _ => trivial)
      fun v _ => .pure ⟨v, rfl⟩
  · rintro u ⟨v, rfl⟩
    exact .pure (fits.mem hlow hhigh v)

end SpatialComputer.Sampling
