import SpatialComputer.Proofs.Binary64.Relative
import SpatialComputer.Proofs.Binary64.Whole
import SpatialComputer.Proofs.Device.Countdown

/-!
# Clone countdowns over doubles

What rounding does to a countdown. As long as the gaps between rounds are neither more than 2²² delays nor near the largest doubles, the quotient, the floor and the product that arm a timer again stay in range, so the timer is never negative and holds at most one delay, up to one part in 10⁹. But it may hold nothing: the product may be rounded down to what was owed. After gaps of at most two delays that does not happen.
-/

namespace SpatialComputer

open Binary64

/-- The part of a delay that a timer may hold beyond it. -/
def tolerance : ℚ := 1 / 10 ^ 9

/-- Whether a timer is not negative and holds at most one delay, up to rounding. -/
structure WithinDelay (delay timer : Float) : Prop where
  isFinite : timer.isFinite = true
  nonneg : 0 ≤ toRat timer
  le : toRat timer ≤ toRat delay * (1 + tolerance)

/-- Whether a gap between two rounds is at most 2²² delays and far from overflowing. -/
structure Moderate (delay gap : Float) : Prop where
  isFinite : gap.isFinite = true
  le : toRat gap ≤ 2 ^ 22 * toRat delay
  small : toRat gap ≤ 2 ^ 1021

namespace Countdown

/-- The number of delays that arm a timer again. -/
def delaysAdded (delay timer : Float) : ℤ := ⌊toRat (-timer / delay)⌋ + 1

section

variable {delay timer : Float} (hdelay : FinitePositive delay) (htimer : timer.isFinite = true)
  (hout : toRat timer ≤ 0) (howed : -toRat timer ≤ 2 ^ 22 * toRat delay)

include hdelay htimer hout howed

private theorem quotient_spec : (-timer / delay).isFinite = true ∧
    IsNearest (-toRat timer / toRat delay) (toRat (-timer / delay)) := by
  obtain ⟨hneg, hrat⟩ := isFinite_neg htimer
  have hpos := hdelay.pos
  have hrounded := rounded_div hneg hdelay.isFinite hpos.ne'
  rw [hrat] at hrounded
  have hsize : |-toRat timer / toRat delay| ≤ 2 ^ 22 := by
    rw [abs_of_nonneg (div_nonneg (neg_nonneg.mpr hout) hpos.le), div_le_iff₀ hpos]
    exact howed
  have hfinite := hrounded.isFinite_of_le (hsize.trans (two_pow_le_largest (by norm_num)))
  exact ⟨hfinite, hrounded.nearest hfinite⟩

private theorem delaysAdded_bounds :
    1 ≤ delaysAdded delay timer ∧ delaysAdded delay timer ≤ 2 ^ 22 + 1 := by
  have hpos := hdelay.pos
  obtain ⟨-, hnearest⟩ := quotient_spec hdelay htimer hout howed
  have hlow := hnearest.le_of_ge .zero (div_nonneg (neg_nonneg.mpr hout) hpos.le)
  have hhigh := hnearest.le_of_le (Representable.two_zpow (e := 22) (by norm_num)) (by
    rw [div_le_iff₀ hpos]
    exact_mod_cast howed)
  have hfloor := Int.floor_nonneg.mpr hlow
  have hfloor' : ⌊toRat (-timer / delay)⌋ ≤ 2 ^ 22 := by
    have h := (Int.floor_le _).trans hhigh
    exact_mod_cast h
  rw [delaysAdded]
  omega

private theorem factor_spec : (floor (-timer / delay) + 1).isFinite = true ∧
    toRat (floor (-timer / delay) + 1) = delaysAdded delay timer := by
  obtain ⟨hlow, hhigh⟩ := delaysAdded_bounds hdelay htimer hout howed
  obtain ⟨hfinite, hfloor⟩ := floor_spec (quotient_spec hdelay htimer hout howed).1
  have hrounded := rounded_add hfinite isFinite_one
  have hsum : toRat (floor (-timer / delay)) + toRat 1 = delaysAdded delay timer := by
    rw [hfloor, toRat_one, delaysAdded]
    push_cast
    rfl
  rw [hsum] at hrounded
  exact hrounded.exact_of_int (abs_le.mpr ⟨by omega, by omega⟩)

private theorem owed_lt : -toRat timer < toRat delay * delaysAdded delay timer := by
  have hpos := hdelay.pos
  obtain ⟨hlow, hhigh⟩ := delaysAdded_bounds hdelay htimer hout howed
  by_contra hle
  have hquotient : (delaysAdded delay timer : ℚ) ≤ -toRat timer / toRat delay := by
    rw [le_div_iff₀ hpos, mul_comm]
    exact not_lt.mp hle
  have hrepresentable : Representable (delaysAdded delay timer : ℚ) :=
    .of_int (abs_le.mpr ⟨by omega, by omega⟩)
  have hge := (quotient_spec hdelay htimer hout howed).2.le_of_ge hrepresentable hquotient
  have hlt := Int.lt_floor_add_one (toRat (-timer / delay))
  rw [delaysAdded] at hge
  push_cast at hge
  linarith

private theorem delays_le : toRat delay * delaysAdded delay timer ≤
    -toRat timer * (1 + unitError) + toRat delay * (1 + gridStep) := by
  have hpos := hdelay.pos
  have hnonneg : 0 ≤ -toRat timer / toRat delay := div_nonneg (neg_nonneg.mpr hout) hpos.le
  have herror := (quotient_spec hdelay htimer hout howed).2.abs_sub_le_mixed
  rw [abs_of_nonneg hnonneg] at herror
  have hquotient : toRat (-timer / delay) ≤
      -toRat timer / toRat delay * (1 + unitError) + gridStep := by
    have hstep := gridStep_pos
    linarith [(abs_le.mp herror).2]
  have hfloor : (delaysAdded delay timer : ℚ) ≤ toRat (-timer / delay) + 1 := by
    rw [delaysAdded]
    push_cast
    linarith [Int.floor_le (toRat (-timer / delay))]
  calc toRat delay * delaysAdded delay timer
      ≤ toRat delay * (-toRat timer / toRat delay * (1 + unitError) + gridStep + 1) := by
        gcongr
        linarith
    _ = -toRat timer * (1 + unitError) + toRat delay * (1 + gridStep) := by
        field_simp
        ring

private theorem delays_le_largest (hsmall : -toRat timer ≤ 2 ^ 1021) :
    toRat delay * delaysAdded delay timer ≤ largest := by
  have hpos := hdelay.pos
  obtain ⟨hlow, -⟩ := delaysAdded_bounds hdelay htimer hout howed
  rcases hlow.lt_or_eq with hmany | hone
  · -- Two delays are added only if what is owed is half a delay at least.
    have hhalf : toRat delay ≤ 2 * -toRat timer := by
      by_contra hless
      have hquotient : -toRat timer / toRat delay ≤ 2 ^ (-1 : ℤ) := by
        rw [div_le_iff₀ hpos]
        norm_num
        linarith
      have hle := (quotient_spec hdelay htimer hout howed).2.le_of_le
        (.two_zpow (by norm_num)) hquotient
      have hfloor := Int.floor_le (toRat (-timer / delay))
      have hone : (1 : ℚ) ≤ ⌊toRat (-timer / delay)⌋ := by
        rw [delaysAdded] at hmany
        exact_mod_cast (by omega : 1 ≤ ⌊toRat (-timer / delay)⌋)
      norm_num at hle
      linarith
    have hle := delays_le hdelay htimer hout howed
    have hunit : unitError ≤ 1 / 4 := by norm_num [unitError]
    have hstep : gridStep ≤ 1 / 4 := gridStep_le.trans (by norm_num)
    have hfour : (2 : ℚ) ^ 1023 = 4 * 2 ^ 1021 := by rw [pow_add 2 2 1021]; norm_num
    have hbound := two_pow_le_largest (n := 1023) (by norm_num)
    rw [hfour] at hbound
    have howed_nonneg : 0 ≤ -toRat timer := neg_nonneg.mpr hout
    generalize (2 : ℚ) ^ 1021 = small at hsmall hbound
    calc toRat delay * delaysAdded delay timer
        ≤ -toRat timer * (1 + unitError) + toRat delay * (1 + gridStep) := hle
      _ ≤ -toRat timer * (1 + 1 / 4) + toRat delay * (1 + 1 / 4) := by gcongr
      _ ≤ largest := by linarith
  · rw [← hone, Int.cast_one, mul_one]
    exact toRat_le_largest delay

private theorem product_spec (hsmall : -toRat timer ≤ 2 ^ 1021) :
    (delay * (floor (-timer / delay) + 1)).isFinite = true ∧
      IsNearest (toRat delay * delaysAdded delay timer) (toRat (delay * (floor (-timer / delay) + 1))) := by
  obtain ⟨hfinite, hfactor⟩ := factor_spec hdelay htimer hout howed
  have hrounded := rounded_mul hdelay.isFinite hfinite
  rw [hfactor] at hrounded
  have howed_lt := owed_lt hdelay htimer hout howed
  have hfinite := hrounded.isFinite_of_le (by
    rw [abs_of_nonneg (by linarith)]
    exact delays_le_largest hdelay htimer hout howed hsmall)
  exact ⟨hfinite, hrounded.nearest hfinite⟩

private theorem product_bounds (hsmall : -toRat timer ≤ 2 ^ 1021) :
    -toRat timer ≤ toRat (delay * (floor (-timer / delay) + 1)) ∧
      toRat (delay * (floor (-timer / delay) + 1)) + toRat timer ≤
        toRat delay * (2 ^ 22 * (2 * unitError + unitError ^ 2) + (1 + unitError) ^ 2) := by
  have hpos := hdelay.pos
  obtain ⟨-, hnearest⟩ := product_spec hdelay htimer hout howed hsmall
  have howed_lt := owed_lt hdelay htimer hout howed
  have hle := delays_le hdelay htimer hout howed
  have hneg := (isFinite_neg htimer).2
  refine ⟨hnearest.le_of_ge (hneg ▸ representable_toRat (-timer)) howed_lt.le, ?_⟩
  have herror := hnearest.abs_sub_le_of_onGrid ((OnGrid.toRat delay).mul_int _)
  rw [abs_of_nonneg (by linarith : 0 ≤ toRat delay * delaysAdded delay timer)] at herror
  have hunit := unitError_pos
  have hstep : gridStep ≤ unitError := gridStep_le.trans (by norm_num [unitError])
  calc toRat (delay * (floor (-timer / delay) + 1)) + toRat timer
      ≤ toRat delay * delaysAdded delay timer * (1 + unitError) + toRat timer := by
        linarith [(abs_le.mp herror).2]
    _ ≤ (-toRat timer * (1 + unitError) + toRat delay * (1 + unitError)) * (1 + unitError) +
          toRat timer := by
        gcongr
        refine hle.trans ?_
        gcongr
    _ = -toRat timer * (2 * unitError + unitError ^ 2) + toRat delay * (1 + unitError) ^ 2 := by ring
    _ ≤ 2 ^ 22 * toRat delay * (2 * unitError + unitError ^ 2) + toRat delay * (1 + unitError) ^ 2 := by
        gcongr
    _ = _ := by ring

private theorem owed_lt_product (hsmall : -toRat timer ≤ 2 ^ 1021) (hfew : -toRat timer ≤ 2 * toRat delay) :
    -toRat timer < toRat (delay * (floor (-timer / delay) + 1)) := by
  have hpos := hdelay.pos
  obtain ⟨-, hnearest⟩ := product_spec hdelay htimer hout howed hsmall
  have howed_lt := owed_lt hdelay htimer hout howed
  obtain ⟨hlow, -⟩ := delaysAdded_bounds hdelay htimer hout howed
  have hthree : delaysAdded delay timer ≤ 3 := by
    have hquotient : -toRat timer / toRat delay ≤ 2 ^ (1 : ℤ) := by
      rw [div_le_iff₀ hpos, zpow_one]
      exact hfew
    have hle := (quotient_spec hdelay htimer hout howed).2.le_of_le (.two_zpow (by norm_num)) hquotient
    have hfloor : ⌊toRat (-timer / delay)⌋ ≤ 2 := by
      have h := (Int.floor_le _).trans hle
      exact_mod_cast h
    rw [delaysAdded]
    omega
  -- One and two delays are exact. Three are rounded, but three exceed two by more than the error.
  obtain hone | htwo | hthree : delaysAdded delay timer = 1 ∨ delaysAdded delay timer = 2 ∨
      delaysAdded delay timer = 3 := by omega
  · rw [hone, Int.cast_one, mul_one] at hnearest howed_lt
    rwa [hnearest.eq_self (representable_toRat delay)]
  · rw [htwo] at hnearest howed_lt
    obtain ⟨m, e, hm, he, hdouble⟩ := representable_toRat delay
    have hrepresentable : Representable (toRat delay * (2 : ℤ)) := by
      refine ⟨m, e + 1, hm, by omega, ?_⟩
      rw [hdouble, zpow_add_one₀ two_ne_zero]
      push_cast
      ring
    rwa [hnearest.eq_self hrepresentable]
  · rw [hthree] at hnearest
    have herror := hnearest.abs_sub_le_of_onGrid ((OnGrid.toRat delay).mul_int _)
    have hnonneg : 0 ≤ toRat delay * ((3 : ℤ) : ℚ) := mul_nonneg hpos.le (by norm_num)
    rw [abs_of_nonneg hnonneg] at herror
    have hunit : unitError ≤ 1 / 6 := by norm_num [unitError]
    have hproduct : unitError * (toRat delay * (3 : ℤ)) ≤ 1 / 6 * (toRat delay * (3 : ℤ)) := by gcongr
    push_cast at herror hproduct
    linarith [(abs_le.mp herror).1]

/-- Armed again, a timer is not negative and holds one delay at most. It holds something exactly if the product was not rounded down to what was owed, and this does not happen if no more than two delays were owed. -/
theorem rearmed_spec (hsmall : -toRat timer ≤ 2 ^ 1021) : WithinDelay delay (rearmed delay timer) ∧
    (0 < rearmed delay timer ↔ -timer < delay * (floor (-timer / delay) + 1)) ∧
    (-toRat timer ≤ 2 * toRat delay → 0 < rearmed delay timer) := by
  have hpos := hdelay.pos
  obtain ⟨hfinite, -⟩ := product_spec hdelay htimer hout howed hsmall
  obtain ⟨hge, hle⟩ := product_bounds hdelay htimer hout howed hsmall
  obtain ⟨hneg, hnegated⟩ := isFinite_neg htimer
  have hrearmed : rearmed delay timer = timer + delay * (floor (-timer / delay) + 1) := rfl
  have hrounded := rounded_add htimer hfinite
  have hnonneg : 0 ≤ toRat timer + toRat (delay * (floor (-timer / delay) + 1)) := by linarith
  have hsum := hrounded.isFinite_of_le (by
    rw [abs_of_nonneg hnonneg]
    linarith [toRat_le_largest (delay * (floor (-timer / delay) + 1))])
  have hnearest := hrounded.nearest hsum
  -- The sum lies on the grid that all doubles lie on, so its error is relative even near zero.
  have hgrid := (OnGrid.toRat timer).add (OnGrid.toRat (delay * (floor (-timer / delay) + 1)))
  have herror := hnearest.abs_sub_le_of_onGrid hgrid
  rw [abs_of_nonneg hnonneg] at herror
  have hunit := unitError_pos
  have hiff : 0 < rearmed delay timer ↔ -timer < delay * (floor (-timer / delay) + 1) := by
    rw [hrearmed, lt_iff isFinite_zero hsum, lt_iff hneg hfinite, toRat_zero, hnegated]
    constructor
    · intro hleft
      by_contra hless
      have hzero : toRat timer + toRat (delay * (floor (-timer / delay) + 1)) = 0 := by linarith
      rw [hzero] at hnearest
      linarith [hnearest.eq_self .zero]
    · intro hless
      have hstep := hgrid.gridStep_le_abs (by linarith)
      rw [abs_of_nonneg hnonneg] at hstep
      exact gridStep_pos.trans_le (hnearest.le_of_ge (.two_zpow le_rfl) hstep)
  refine ⟨⟨hsum, hnearest.le_of_ge .zero hnonneg, ?_⟩, hiff, fun hfew => hiff.mpr ?_⟩
  · calc toRat (rearmed delay timer)
        ≤ (toRat (delay * (floor (-timer / delay) + 1)) + toRat timer) * (1 + unitError) := by
          rw [hrearmed]
          linarith [(abs_le.mp herror).2]
      _ ≤ toRat delay * (2 ^ 22 * (2 * unitError + unitError ^ 2) + (1 + unitError) ^ 2) *
            (1 + unitError) := by gcongr
      _ = toRat delay * ((2 ^ 22 * (2 * unitError + unitError ^ 2) + (1 + unitError) ^ 2) *
            (1 + unitError)) := by ring
      _ ≤ toRat delay * (1 + tolerance) := by
          gcongr
          norm_num [unitError, tolerance]
  · rw [lt_iff hneg hfinite, hnegated]
    exact owed_lt_product hdelay htimer hout howed hsmall hfew

end

/-! ### Rounds and requests -/

/-- Whether a countdown is in order at a time: its timer holds no more than it may, and its rounds lie in the past. -/
structure Paced (delay time : Float) (c : Countdown Float) : Prop where
  timer : WithinDelay delay c.timer
  elapsed_nonneg : c.elapsed.isFinite = true → 0 ≤ toRat c.elapsed
  last_le : ∀ last, c.last = some last → last.isFinite = true → time.isFinite = true →
    toRat last ≤ toRat time

section

variable {delay time : Float} {c : Countdown Float}

private theorem tolerance_pos : 0 < tolerance := by norm_num [tolerance]

theorem Paced.fresh (hdelay : FinitePositive delay) (time : Float) : Paced delay time (fresh delay) := by
  have hpos := hdelay.pos
  refine ⟨⟨hdelay.isFinite, hpos.le, ?_⟩, fun _ => toRat_zero.ge, nofun⟩
  have htolerance := tolerance_pos
  exact le_mul_of_one_le_right hpos.le (by linarith)

theorem Paced.round (paced : Paced delay time c) : Paced delay time (c.round time) := by
  refine ⟨paced.timer, fun hfinite => ?_, ?_⟩
  · unfold Countdown.round at hfinite ⊢
    cases hlast : c.last with
    | none => exact toRat_zero.ge
    | some last =>
      rw [hlast] at hfinite
      obtain ⟨htime, hbefore⟩ := isFinite_of_sub hfinite
      have hle := paced.last_le last hlast hbefore htime
      exact ((rounded_sub htime hbefore).nearest hfinite).le_of_ge .zero (sub_nonneg.mpr hle)
  · intro last hlast _ _
    obtain rfl := Option.some.inj hlast
    exact le_rfl

theorem Paced.later {step : Float} (hstep : FinitePositive step) (paced : Paced delay time c) :
    Paced delay (time + step) c := by
  refine ⟨paced.timer, paced.elapsed_nonneg, fun last hlast hfinite hsum => ?_⟩
  have htime := isFinite_of_add hsum
  have hpos := hstep.pos
  refine (paced.last_le last hlast hfinite htime).trans ?_
  exact ((rounded_add htime hstep.isFinite).nearest hsum).le_of_ge (representable_toRat time)
    (le_add_of_nonneg_right hpos.le)

variable (hdelay : FinitePositive delay) (paced : Paced delay time c) (hgap : Moderate delay c.elapsed)

include hdelay in
private theorem request_eq : c.request delay =
    if 0 < c.charged then (false, ⟨c.charged, 0, c.last⟩)
    else (true, ⟨rearmed delay c.charged, 0, c.last⟩) := by
  have hpos := hdelay.pos
  rw [request, if_neg]
  rw [le_iff hdelay.isFinite isFinite_zero, toRat_zero]
  exact not_le.mpr hpos

include paced hgap in
private theorem charged_spec : c.charged.isFinite = true ∧ -toRat c.elapsed ≤ toRat c.charged ∧
    toRat c.charged ≤ toRat c.timer ∧ (0 < toRat c.charged →
      toRat c.charged ≤ (toRat c.timer - toRat c.elapsed) * (1 + unitError)) := by
  have htimer := paced.timer.nonneg
  have helapsed := paced.elapsed_nonneg hgap.isFinite
  have hpositive := lt_iff isFinite_zero paced.timer.isFinite
  rw [toRat_zero] at hpositive
  unfold charged
  split
  · have hrounded := rounded_sub paced.timer.isFinite hgap.isFinite
    have hfinite := hrounded.isFinite_of_le (abs_le.mpr
      ⟨by linarith [toRat_le_largest c.elapsed], by linarith [toRat_le_largest c.timer]⟩)
    have hnearest := hrounded.nearest hfinite
    refine ⟨hfinite, ?_, hnearest.le_of_le (representable_toRat _) (by linarith), fun hleft => ?_⟩
    · exact hnearest.le_of_ge (representable_toRat c.elapsed).neg (by linarith)
    · have hnonneg : 0 ≤ toRat c.timer - toRat c.elapsed := by
        by_contra hless
        have hzero := hnearest.le_of_le .zero (not_le.mp hless).le
        linarith
      have herror := hnearest.abs_sub_le_of_onGrid ((OnGrid.toRat _).sub (OnGrid.toRat _))
      rw [abs_of_nonneg hnonneg] at herror
      linarith [(abs_le.mp herror).2]
  · rename_i hout
    have hzero : toRat c.timer ≤ 0 := not_lt.mp fun h => hout (hpositive.mpr h)
    exact ⟨paced.timer.isFinite, by linarith, le_rfl, fun h => absurd h (not_lt.mpr hzero)⟩

include hdelay paced hgap

private theorem rearmed_charged (hout : ¬0 < c.charged) :
    WithinDelay delay (rearmed delay c.charged) ∧
      (0 < rearmed delay c.charged ↔ -c.charged < delay * (floor (-c.charged / delay) + 1)) ∧
      (toRat c.elapsed ≤ 2 * toRat delay → 0 < rearmed delay c.charged) := by
  obtain ⟨hfinite, hlow, -⟩ := charged_spec paced hgap
  rw [lt_iff isFinite_zero hfinite, toRat_zero, not_lt] at hout
  have howed : -toRat c.charged ≤ toRat c.elapsed := neg_le.mp hlow
  obtain ⟨hwithin, hiff, hfew⟩ :=
    rearmed_spec hdelay hfinite hout (howed.trans hgap.le) (howed.trans hgap.small)
  exact ⟨hwithin, hiff, fun htwo => hfew (howed.trans htwo)⟩

theorem Paced.request : Paced delay time (c.request delay).2 := by
  rw [request_eq hdelay]
  split
  · rename_i hleft
    obtain ⟨hfinite, -, hhigh, -⟩ := charged_spec paced hgap
    rw [lt_iff isFinite_zero hfinite, toRat_zero] at hleft
    exact ⟨⟨hfinite, hleft.le, hhigh.trans paced.timer.le⟩, fun _ => toRat_zero.ge, paced.last_le⟩
  · rename_i hout
    exact ⟨(rearmed_charged hdelay paced hgap hout).1, fun _ => toRat_zero.ge, paced.last_le⟩

theorem request_of_granted (hgranted : (c.request delay).1 = true) :
    (0 < (c.request delay).2.timer ↔ -c.charged < delay * (floor (-c.charged / delay) + 1)) ∧
      (toRat c.elapsed ≤ 2 * toRat delay → 0 < (c.request delay).2.timer) := by
  rw [request_eq hdelay] at hgranted ⊢
  split at hgranted
  · cases hgranted
  · rename_i hout
    rw [if_neg hout]
    exact (rearmed_charged hdelay paced hgap hout).2

/-- A refused request lowers the timer by at least half of a gap that is not negligible. -/
theorem request_of_refused (hrefused : (c.request delay).1 = false) :
    toRat (c.request delay).2.timer ≤ toRat c.timer ∧
      ∀ gap, 2 ^ (-48 : ℤ) * toRat delay ≤ gap → gap ≤ toRat c.elapsed →
        toRat (c.request delay).2.timer ≤ toRat c.timer - gap / 2 := by
  have hpos := hdelay.pos
  rw [request_eq hdelay] at hrefused ⊢
  split at hrefused
  · rename_i hleft
    rw [if_pos hleft]
    obtain ⟨hfinite, -, hhigh, hcharged⟩ := charged_spec paced hgap
    rw [lt_iff isFinite_zero hfinite, toRat_zero] at hleft
    have hcharged := hcharged hleft
    refine ⟨hhigh, fun gap hlow hgap' => ?_⟩
    have htimer : toRat c.timer ≤ 2 * toRat delay := by
      refine paced.timer.le.trans ?_
      have htwo : 1 + tolerance ≤ 2 := by norm_num [tolerance]
      linarith [mul_le_mul_of_nonneg_left htwo hpos.le]
    have hgap_nonneg : 0 ≤ gap := (mul_nonneg (by positivity) hpos.le).trans hlow
    have hunit := unitError_pos
    -- The gap is not negligible against the delay, so the rounding error takes away no more than half of it.
    have hrest : unitError * (toRat c.timer - toRat c.elapsed) ≤ gap / 2 := by
      calc unitError * (toRat c.timer - toRat c.elapsed)
          ≤ unitError * (2 * toRat delay) := by
            gcongr
            linarith
        _ ≤ 2 ^ (-48 : ℤ) * toRat delay / 2 := by
            norm_num [unitError]
            linarith
        _ ≤ gap / 2 := by gcongr
    show toRat c.charged ≤ _
    linarith
  · cases hrefused

end

end Countdown

end SpatialComputer
