import SpatialComputer.Proofs.Binary64.Knots

/-!
# Sines and cosines stay within one

The computed sine and cosine of an angle up to a full turn are finite and at most one in magnitude, not only nearly so. Sines are only taken around zero, where they stay away from one. A cosine is close to one only at the first knots: at zero nothing is added to one, at 1/128 the linear term is made up for by the quadratic one, and from the second knot on the knot itself is far enough below one.
-/

namespace SpatialComputer.Binary64

variable {x dx : Float}

/-! ### Polynomials -/

/-- A polynomial with bounded coefficients is bounded on small numbers. -/
theorem horner_bounded {a b c : ℚ} {leading : Float} {others : List Float} (hx : Bounded a x)
    (hleading : Bounded b leading) (hothers : ∀ coefficient ∈ others, Bounded c coefficient)
    (hstep : b * a + c + smallError ≤ b) (hsmall : b ≤ 4) :
    Bounded b (horner x leading others) := by
  induction others generalizing leading with
  | nil => exact hleading
  | cons coefficient others ih =>
    have hcoefficient := hothers coefficient List.mem_cons_self
    exact ih (hleading.fusedMulAdd hx hcoefficient hstep hsmall)
      fun other hother => hothers other (List.mem_cons_of_mem coefficient hother)

private theorem sinePart_bounded (hx : Bounded (1 / 2 ^ 10) x) : Bounded (1 / 5) (sinePart x) := by
  refine horner_bounded (c := 17 / 100) hx ?_ ?_ (by norm_num [smallError]) (by norm_num)
  · exact .of_atMost 1 5 (by norm_num) (by decide) (by norm_num)
  · intro coefficient h
    obtain rfl := List.mem_singleton.mp h
    exact .of_atMost 17 100 (by norm_num) (by decide) (by norm_num)

private theorem sineSeries_bounded (hx : Bounded (1 / 40) x) : Bounded (1 / 5) (sineSeries x) := by
  refine horner_bounded (c := 17 / 100) hx ?_ ?_ (by norm_num [smallError]) (by norm_num)
  · exact .of_atMost 1 5 (by norm_num) (by decide) (by norm_num)
  · intro coefficient h
    simp only [List.mem_cons, List.not_mem_nil, or_false] at h
    rcases h with rfl | rfl | rfl | rfl <;>
      exact .of_atMost 17 100 (by norm_num) (by decide) (by norm_num)

private theorem cosinePart_close (hx : Bounded (1 / 2 ^ 10) x) :
    (cosinePart x).isFinite = true ∧ |toRat (cosinePart x) - 1 / 2| ≤ 1 / 2 ^ 13 := by
  have hleading : Bounded (1 / 20) (.ofBits 0x3f56c16bedd9e239) :=
    .of_atMost 1 20 (by norm_num) (by decide) (by norm_num)
  have hsecond : Bounded (1 / 20) (.ofBits 0xbfa5555555555535) :=
    .of_atMost 1 20 (by norm_num) (by decide) (by norm_num)
  have hhalf : value (.ofBits 0x3fe0000000000000) = .finite false (2 ^ 52) (-53) := by decide
  have hhalf' : toRat (.ofBits 0x3fe0000000000000) = 1 / 2 := by
    rw [toRat, hhalf]
    norm_num [Value.toRat, signed]
  have hinner : Bounded (1 / 16) _ :=
    hleading.fusedMulAdd hx hsecond (by norm_num [smallError]) (by norm_num)
  have hrounded := rounded_fusedMulAdd hinner.isFinite hx.isFinite (isFinite_iff.mpr ⟨_, _, _, hhalf⟩)
  rw [hhalf'] at hrounded
  have hproduct := abs_le.mp (hinner.abs_mul_le hx)
  obtain ⟨hfinite, hclose⟩ := hrounded.close (abs_le.mpr ⟨by linarith, by linarith⟩)
  refine ⟨hfinite, ?_⟩
  have hclose := abs_le.mp hclose
  rw [smallError] at hclose
  show |toRat (fusedMulAdd _ x _) - 1 / 2| ≤ _
  rw [abs_le]
  constructor <;> linarith

/-! ### The nearest knot -/

private theorem truncateInto_le {least greatest : ℤ} (hzero : 0 ≤ greatest) (hle : least ≤ greatest)
    (x : Float) : truncateInto least greatest x ≤ greatest := by
  unfold truncateInto
  split
  · exact hzero
  · split
    · exact hle
    · exact le_rfl
  · exact max_le hle (min_le_left _ _)

private theorem nearestKnot_spec (hx : x.isFinite = true) (hlow : 0 ≤ toRat x) (hhigh : toRat x ≤ 1) :
    (nearestKnot x).1 ≤ 128 ∧ Bounded (1 / 2 ^ 8) (nearestKnot x).2 := by
  constructor
  · have h : truncateInto 0 128 _ ≤ 128 := truncateInto_le (by norm_num) (by norm_num)
      (((x + Float.ofBits 0x42c8000000000000) - Float.ofBits 0x42c8000000000000) * 128)
    exact Int.toNat_le.mpr h
  have hshift : value (.ofBits 0x42c8000000000000) = .finite false (3 * 2 ^ 51) (-7) := by
    decide
  have hunit : (2 : ℚ) ^ (-7 : ℤ) / 2 = 1 / 2 ^ 8 := by norm_num
  obtain ⟨hfinite, hclose, -⟩ := round_by_shift (by norm_num) (by norm_num) hshift
    (rounded_add hx (toRat_of_value hshift).1) hlow (hhigh.trans (by norm_num))
  rw [hunit, abs_sub_comm] at hclose
  refine .of_representable (rounded_sub hx hfinite) hclose ?_ (le_trans (by norm_num) one_le_largest)
  rw [show (1 / 2 ^ 8 : ℚ) = 2 ^ (-8 : ℤ) by norm_num]
  exact .two_zpow (by norm_num)

/-! ### Around zero -/

private theorem ite_neg_bounded {a : ℚ} (condition : Prop) [Decidable condition] (hx : Bounded a x) :
    Bounded a (if condition then -x else x) := by
  split
  · exact hx.neg
  · exact hx

private theorem magnitude_lt (hx : x.isFinite = true) (h : magnitude x < 0.126) :
    |toRat x| ≤ 1 / 7 := by
  obtain ⟨hfinite, hrat⟩ := magnitude_spec hx
  have hbound : Bounded (1 / 7) 0.126 :=
    .of_atMost 1 7 (by norm_num) (by decide) (by norm_num)
  have hlt := (lt_iff hfinite hbound.isFinite).mp h
  rw [hrat] at hlt
  linarith [(abs_le.mp hbound.abs_le).2]

private theorem sineTail_bounded {a : ℚ} (hx : Bounded a x) (ha : a ≤ 1 / 2 ^ 7)
    (hdx : Bounded (1 / 2 ^ 20) dx) :
    Bounded (1 / 2 ^ 18) (fusedMulAdd (x * (x * x)) (sinePart (x * x)) dx) := by
  have hx : Bounded (1 / 2 ^ 7) x := hx.mono ha
  have hsquare : Bounded (1 / 2 ^ 13) (x * x) := hx.mul hx (by norm_num [smallError]) (by norm_num)
  have hcube : Bounded (1 / 2 ^ 19) (x * (x * x)) :=
    hx.mul hsquare (by norm_num [smallError]) (by norm_num)
  exact hcube.fusedMulAdd (sinePart_bounded (hsquare.mono (by norm_num))) hdx
    (by norm_num [smallError]) (by norm_num)

theorem KnotBounds.cosine {k : Nat} {near : Knot} (h : KnotBounds k near) :
    Bounded (1 + 1 / 2 ^ 40) near.cosine := by
  refine ⟨h.cosine_isFinite, ?_⟩
  rw [abs_of_nonneg (le_trans (by norm_num) h.cosine_ge)]
  have hsquare : (0 : ℚ) ≤ 7 / 16 * (k / 128) ^ 2 := by positivity
  linarith [h.cosine_le]

private theorem cosinePart_bounded (hx : Bounded (1 / 2 ^ 10) x) :
    Bounded (3 / 5) (cosinePart x) := by
  obtain ⟨hfinite, hclose⟩ := cosinePart_close hx
  obtain ⟨hlow, hhigh⟩ := abs_le.mp hclose
  exact ⟨hfinite, abs_le.mpr ⟨by linarith, by linarith⟩⟩

private theorem sine_near {k : Nat} {near : Knot} (h : KnotBounds k near)
    (hx : Bounded (1 / 2 ^ 8) x) (hdx : Bounded (1 / 2 ^ 20) dx) :
    let s := x + fusedMulAdd (x * (x * x)) (sinePart (x * x)) dx
    let c := fusedMulAdd x dx (x * x * cosinePart (x * x))
    let rest := fusedMulAdd (-near.sine) c (fusedMulAdd s near.cosineRest near.sineRest)
    Bounded 1 (near.sine + fusedMulAdd near.cosine s rest) := by
  intro s c rest
  have hsquare : Bounded (1 / 2 ^ 15) (x * x) := hx.mul hx (by norm_num [smallError]) (by norm_num)
  have hs : Bounded (1 / 2 ^ 7) s :=
    hx.add (sineTail_bounded hx (by norm_num) hdx) (by norm_num [smallError]) (by norm_num)
  have hc : Bounded (1 / 2 ^ 15) c :=
    hx.fusedMulAdd hdx
      (hsquare.mul (cosinePart_bounded (hsquare.mono (by norm_num))) (le_refl _)
        (by norm_num [smallError]))
      (by norm_num [smallError]) (by norm_num)
  have hsmall : Bounded (1 / 2 ^ 38) (fusedMulAdd s near.cosineRest near.sineRest) :=
    hs.fusedMulAdd h.cosineRest h.sineRest (by norm_num [smallError]) (by norm_num)
  have hrest : Bounded (1 / 2 ^ 14) rest :=
    h.sine.neg.fusedMulAdd hc hsmall (by norm_num [smallError]) (by norm_num)
  have hchange : Bounded (1 / 2 ^ 6) (fusedMulAdd near.cosine s rest) :=
    h.cosine.fusedMulAdd hs hrest (by norm_num [smallError]) (by norm_num)
  exact h.sine.add hchange (by norm_num [smallError]) (by norm_num)

private theorem sine_small (hx : Bounded (1 / 7) x) (hdx : Bounded (1 / 2 ^ 20) dx) :
    Bounded 1 (x + fusedMulAdd (fusedMulAdd (sineSeries (x * x)) x (-(0.5 * dx))) (x * x) dx) := by
  have hhalf : Bounded (1 / 2) 0.5 :=
    .of_atMost 1 2 (by norm_num) (by decide) (by norm_num)
  have hsquare : Bounded (1 / 40) (x * x) := hx.mul hx (by norm_num [smallError]) (by norm_num)
  have hcorrection : Bounded (1 / 2 ^ 20) (-(0.5 * dx)) :=
    (hhalf.mul hdx (by norm_num [smallError]) (by norm_num)).neg
  have hinner : Bounded (1 / 20) (fusedMulAdd (sineSeries (x * x)) x (-(0.5 * dx))) :=
    (sineSeries_bounded hsquare).fusedMulAdd hx hcorrection (by norm_num [smallError]) (by norm_num)
  have houter : Bounded (1 / 100)
      (fusedMulAdd (fusedMulAdd (sineSeries (x * x)) x (-(0.5 * dx))) (x * x) dx) :=
    hinner.fusedMulAdd hsquare hdx (by norm_num [smallError]) (by norm_num)
  exact hx.add houter (by norm_num [smallError]) (by norm_num)

theorem sineAround_bounded (hx : Bounded (7 / 8) x) (hdx : Bounded (1 / 2 ^ 20) dx) :
    Bounded 1 (sineAround x dx) := by
  unfold sineAround
  split
  · rename_i hsmall
    exact sine_small ⟨hx.isFinite, magnitude_lt hx.isFinite hsmall⟩ hdx
  · obtain ⟨hfinite, hrat⟩ := magnitude_spec hx.isFinite
    obtain ⟨hk, hx'⟩ := nearestKnot_spec hfinite (by rw [hrat]; exact abs_nonneg _)
      (by rw [hrat]; exact hx.abs_le.trans (by norm_num))
    exact ite_neg_bounded (x < 0) (sine_near (knotBounds hk) hx' (ite_neg_bounded (x ≤ 0) hdx))

/-- The linear and the quadratic term by which a cosine changes from the nearest knot. -/
private structure Change (x s c : Float) : Prop where
  linear : Bounded (|toRat x| + 1 / 2 ^ 24) s
  quadratic : Bounded (1 / 2 ^ 15) c
  nonneg : 0 ≤ toRat c
  quadratic_ge : 49 / 100 * toRat x ^ 2 - 1 / 2 ^ 40 ≤ toRat c

private theorem change (hx : Bounded (1 / 2 ^ 8 + 1 / 2 ^ 19) x) :
    Change x (fusedMulAdd (x * (x * x)) (sinePart (x * x)) x) (x * x * cosinePart (x * x)) := by
  have hsquare : Bounded (1 / 2 ^ 15) (x * x) := hx.mul hx (by norm_num [smallError]) (by norm_num)
  have hcube : Bounded (1 / 2 ^ 22) (x * (x * x)) :=
    hx.mul hsquare (by norm_num [smallError]) (by norm_num)
  have hpart := cosinePart_close (hsquare.mono (by norm_num))
  have hpart' := cosinePart_bounded (hsquare.mono (by norm_num))
  have hsinePart := sinePart_bounded (hsquare.mono (by norm_num))
  obtain ⟨hpartLow, hpartHigh⟩ := abs_le.mp hpart.2
  have hsquareRounded := rounded_mul hx.isFinite hx.isFinite
  have hquadratic : Bounded (1 / 2 ^ 15) (x * x * cosinePart (x * x)) :=
    hsquare.mul hpart' (by norm_num [smallError]) (by norm_num)
  have hquadraticRounded := rounded_mul hsquare.isFinite hpart.1
  have hsquareNonneg : 0 ≤ toRat (x * x) :=
    (hsquareRounded.nearest hsquare.isFinite).le_of_ge .zero (mul_self_nonneg _)
  constructor
  · have hproduct := hcube.abs_mul_le hsinePart
    have hsum := abs_add_le (toRat (x * (x * x)) * toRat (sinePart (x * x))) (toRat x)
    refine .of_rounded (rounded_fusedMulAdd hcube.isFinite hsinePart.isFinite hx.isFinite)
      (a := |toRat x| + 1 / 2 ^ 24 - smallError) ?_ (by linarith) ?_
    · rw [smallError]
      linarith
    · linarith [hx.abs_le]
  · exact hquadratic
  · exact (hquadraticRounded.nearest hquadratic.isFinite).le_of_ge .zero
      (mul_nonneg hsquareNonneg (by linarith))
  · have hproduct : toRat (x * x) * (1 / 2 - 1 / 2 ^ 13) ≤ toRat (x * x) * toRat (cosinePart (x * x)) :=
      mul_le_mul_of_nonneg_left (by linarith) hsquareNonneg
    have hsquareSize := hx.abs_mul_le hx
    obtain ⟨-, hsquareClose⟩ := hsquareRounded.close (hsquareSize.trans (by norm_num))
    obtain ⟨-, hquadraticClose⟩ :=
      hquadraticRounded.close ((hsquare.abs_mul_le hpart').trans (by norm_num))
    have hsquareClose := (abs_le.mp hsquareClose).1
    have hquadraticClose := (abs_le.mp hquadraticClose).1
    have hnonneg := mul_self_nonneg (toRat x)
    rw [smallError] at hsquareClose hquadraticClose
    rw [pow_two]
    linarith

private theorem cosineChange_le {k : Nat} {near : Knot} (h : KnotBounds k near)
    (hx : Bounded (1 / 2 ^ 8 + 1 / 2 ^ 19) x) {s c : Float} (hchange : Change x s c) :
    let rest := fusedMulAdd (-near.cosine) c (fusedMulAdd (-s) near.sineRest near.cosineRest)
    Bounded (1 / 2 ^ 6) (fusedMulAdd (-near.sine) s rest) ∧
      toRat (fusedMulAdd (-near.sine) s rest) ≤
        |toRat near.sine| * (|toRat x| + 1 / 2 ^ 24) - toRat near.cosine * toRat c + 1 / 2 ^ 37 := by
  intro rest
  have hs : Bounded (1 / 2 ^ 7) s := hchange.linear.mono (by linarith [hx.abs_le])
  have hsmall : Bounded (1 / 2 ^ 38) (fusedMulAdd (-s) near.sineRest near.cosineRest) :=
    hs.neg.fusedMulAdd h.sineRest h.cosineRest (by norm_num [smallError]) (by norm_num)
  have hrest : Bounded (1 / 2 ^ 14) rest :=
    h.cosine.neg.fusedMulAdd hchange.quadratic hsmall (by norm_num [smallError]) (by norm_num)
  have htotal : Bounded (1 / 2 ^ 6) (fusedMulAdd (-near.sine) s rest) :=
    h.sine.neg.fusedMulAdd hs hrest (by norm_num [smallError]) (by norm_num)
  refine ⟨htotal, ?_⟩
  have hrestClose := h.cosine.neg.fusedMulAdd_close hchange.quadratic hsmall (by norm_num)
  have htotalClose := h.sine.neg.fusedMulAdd_close hs hrest (by norm_num)
  rw [(isFinite_neg h.cosine.isFinite).2] at hrestClose
  rw [(isFinite_neg h.sine.isFinite).2] at htotalClose
  have hrestClose := (abs_le.mp hrestClose).2
  have htotalClose := (abs_le.mp htotalClose).2
  have hsmall := (abs_le.mp hsmall.abs_le).2
  have hlinear : -toRat near.sine * toRat s ≤ |toRat near.sine| * (|toRat x| + 1 / 2 ^ 24) := by
    refine (le_abs_self _).trans ?_
    rw [abs_mul, abs_neg]
    exact mul_le_mul_of_nonneg_left hchange.linear.abs_le (abs_nonneg _)
  rw [smallError] at hrestClose htotalClose
  change toRat rest - _ ≤ _ at hrestClose
  linarith

private theorem cosineChange_zero {s c : Float} (hs : Bounded 1 s) (hc : Bounded 1 c)
    (hnonneg : 0 ≤ toRat c) :
    toRat (knot 0).cosine + toRat (fusedMulAdd (-(knot 0).sine) s (fusedMulAdd (-(knot 0).cosine) c
      (fusedMulAdd (-s) (knot 0).sineRest (knot 0).cosineRest))) ≤ 1 := by
  have h := knotBounds (Nat.zero_le 128)
  have hzero : ∀ {x : Float}, atMost x 0 1 = true → toRat x = 0 := by
    intro x hx
    have h : Bounded 0 x := .of_atMost 0 1 Nat.one_pos hx (by norm_num)
    exact abs_nonpos_iff.mp h.abs_le
  have hcosine : toRat (knot 0).cosine ≤ 1 := by
    have h : Bounded 1 (knot 0).cosine := .of_atMost 1 1 Nat.one_pos (by decide +kernel) (by norm_num)
    exact (le_abs_self _).trans h.abs_le
  -- All parts of the first knot but its cosine vanish, so only the quadratic term is left.
  have hsine : toRat (knot 0).sine = 0 := hzero (by decide +kernel)
  have hsineRest : toRat (knot 0).sineRest = 0 := hzero (by decide +kernel)
  have hcosineRest : toRat (knot 0).cosineRest = 0 := hzero (by decide +kernel)
  generalize knot 0 = near at *
  have hcosineNeg := isFinite_neg h.cosine_isFinite
  have hsineNeg := isFinite_neg h.sine.isFinite
  have hsmall := rounded_fusedMulAdd hs.neg.isFinite h.sineRest.isFinite h.cosineRest.isFinite
  rw [hsineRest, hcosineRest, mul_zero, add_zero] at hsmall
  obtain ⟨hsmallFinite, hsmallZero⟩ := hsmall.exact_of_representable .zero (by rw [abs_zero, largest]; positivity)
  have hsmallBounded : Bounded 0 (fusedMulAdd (-s) near.sineRest near.cosineRest) :=
    ⟨hsmallFinite, by rw [hsmallZero, abs_zero]⟩
  have hrest : Bounded 2 _ :=
    h.cosine.neg.fusedMulAdd hc hsmallBounded (by norm_num [smallError]) (by norm_num)
  have hrestRounded := rounded_fusedMulAdd hcosineNeg.1 hc.isFinite hsmallFinite
  rw [hcosineNeg.2, hsmallZero, add_zero] at hrestRounded
  have hrestNonpos := (hrestRounded.nearest hrest.isFinite).le_of_le .zero
    (mul_nonpos_of_nonpos_of_nonneg (by linarith [h.cosine_ge]) hnonneg)
  have htotal : Bounded 4 _ :=
    h.sine.neg.fusedMulAdd hs hrest (by norm_num [smallError]) (by norm_num)
  have htotalRounded := rounded_fusedMulAdd hsineNeg.1 hs.isFinite hrest.isFinite
  rw [hsineNeg.2, hsine, neg_zero, zero_mul, zero_add] at htotalRounded
  have htotalNonpos := (htotalRounded.nearest htotal.isFinite).le_of_le .zero hrestNonpos
  linarith

private theorem cosineChange_one {c : ℚ} (hx : Bounded (1 / 2 ^ 8 + 1 / 2 ^ 19) x)
    (hnonneg : 0 ≤ c) (hc : 49 / 100 * toRat x ^ 2 - 1 / 2 ^ 40 ≤ c) :
    toRat (knot 1).cosine + (|toRat (knot 1).sine| * (|toRat x| + 1 / 2 ^ 24) -
      toRat (knot 1).cosine * c + 1 / 2 ^ 37) ≤ 1 := by
  have h := knotBounds (by norm_num : 1 ≤ 128)
  have hcosine : toRat (knot 1).cosine ≤ 1 - 1 / 2 ^ 15 + 1 / 2 ^ 32 := by
    have h : Bounded (1 - 1 / 2 ^ 15 + 1 / 2 ^ 32) (knot 1).cosine :=
      .of_atMost (2 ^ 32 - 2 ^ 17 + 1) (2 ^ 32) (by norm_num) (by decide +kernel) (by norm_num)
    exact (le_abs_self _).trans h.abs_le
  have hsine := h.sine_le
  have hlow := h.cosine_ge
  have hx := hx.abs_le
  rw [← sq_abs] at hc
  have hx0 := abs_nonneg (toRat x)
  have hsine0 := abs_nonneg (toRat (knot 1).sine)
  generalize toRat (knot 1).cosine = cosine, |toRat (knot 1).sine| = sine, |toRat x| = size at *
  clear h
  have hproduct : 0 ≤ cosine * c := by positivity
  rw [Nat.cast_one] at hsine
  rcases le_total size (1 / 2 ^ 9) with hnear | hfar
  · have hlinear : sine * (size + 1 / 2 ^ 24) ≤ (1 / 128 + 1 / 2 ^ 40) * (1 / 2 ^ 9 + 1 / 2 ^ 24) :=
      mul_le_mul hsine (by linarith) (by positivity) (by positivity)
    linarith
  · have hlinear : sine * (size + 1 / 2 ^ 24) ≤
        (1 / 128 + 1 / 2 ^ 40) * (1 / 2 ^ 8 + 1 / 2 ^ 19 + 1 / 2 ^ 24) :=
      mul_le_mul hsine (by linarith) (by positivity) (by positivity)
    have hsquare : (1 / 2 ^ 9) ^ 2 ≤ size ^ 2 := by gcongr
    have hquadratic : 1 / 4 * (49 / 100 * (1 / 2 ^ 9) ^ 2 - 1 / 2 ^ 40) ≤ cosine * c :=
      mul_le_mul hlow (by linarith) (by norm_num) (by linarith)
    linarith

private theorem cosineChange_far {k : Nat} {near : Knot} (h : KnotBounds k near) (hk : 2 ≤ k) {c : ℚ}
    (hx : Bounded (1 / 2 ^ 8 + 1 / 2 ^ 19) x) (hnonneg : 0 ≤ c) :
    toRat near.cosine + (|toRat near.sine| * (|toRat x| + 1 / 2 ^ 24) -
      toRat near.cosine * c + 1 / 2 ^ 37) ≤ 1 := by
  have hproduct : 0 ≤ toRat near.cosine * c := mul_nonneg (le_trans (by norm_num) h.cosine_ge) hnonneg
  have hk : (2 : ℚ) ≤ k := by exact_mod_cast hk
  have hsine := h.sine_le
  have hcosine := h.cosine_le
  have hx : |toRat x| + 1 / 2 ^ 24 ≤ 1 / 2 ^ 8 + 1 / 2 ^ 18 := by linarith [hx.abs_le]
  have hlinear : |toRat near.sine| * (|toRat x| + 1 / 2 ^ 24) ≤
      (k / 128 + 1 / 2 ^ 40) * (1 / 2 ^ 8 + 1 / 2 ^ 18) :=
    mul_le_mul hsine hx (by positivity) (by positivity)
  have hquadratic : (2 : ℚ) * k ≤ k ^ 2 := by nlinarith
  rw [div_pow] at hcosine
  linarith

private theorem cosine_near {k : Nat} (hk : k ≤ 128) (hx : Bounded (1 / 2 ^ 8 + 1 / 2 ^ 19) x) :
    let s := fusedMulAdd (x * (x * x)) (sinePart (x * x)) x
    let c := x * x * cosinePart (x * x)
    let rest := fusedMulAdd (-(knot k).cosine) c
      (fusedMulAdd (-s) (knot k).sineRest (knot k).cosineRest)
    Bounded 1 ((knot k).cosine + fusedMulAdd (-(knot k).sine) s rest) := by
  intro s c rest
  have h := knotBounds hk
  have hchange : Change x s c := change hx
  obtain ⟨htotal, hle⟩ := cosineChange_le h hx hchange
  have hsum : toRat (knot k).cosine + toRat (fusedMulAdd (-(knot k).sine) s rest) ≤ 1 := by
    by_cases hzero : k = 0
    · subst hzero
      exact cosineChange_zero (hchange.linear.mono (by linarith [hx.abs_le]))
        (hchange.quadratic.mono (by norm_num)) hchange.nonneg
    · by_cases hone : k = 1
      · subst hone
        exact (add_le_add_right hle _).trans
          (cosineChange_one hx hchange.nonneg hchange.quadratic_ge)
      · exact (add_le_add_right hle _).trans
          (cosineChange_far h (by omega) hx hchange.nonneg)
  refine .of_representable (rounded_add h.cosine_isFinite htotal.isFinite) ?_ representable_one
    one_le_largest
  have hlow := (abs_le.mp htotal.abs_le).1
  rw [abs_le]
  exact ⟨by linarith [h.cosine_ge], hsum⟩

theorem cosineAround_bounded (hx : Bounded (7 / 8) x) (hdx : Bounded (1 / 2 ^ 20) dx) :
    Bounded 1 (cosineAround x dx) := by
  obtain ⟨hfinite, hrat⟩ := magnitude_spec hx.isFinite
  obtain ⟨hk, hdistance⟩ := nearestKnot_spec hfinite (by rw [hrat]; exact abs_nonneg _)
    (by rw [hrat]; exact hx.abs_le.trans (by norm_num))
  have hplace : Bounded (1 / 2 ^ 8 + 1 / 2 ^ 19)
      ((nearestKnot (magnitude x)).2 + if x < 0 then -dx else dx) :=
    hdistance.add (ite_neg_bounded (x < 0) hdx) (by norm_num [smallError]) (by norm_num)
  exact cosine_near hk hplace

/-! ### Around the circle -/

private theorem less_tiny {a b : ℚ} {part quarters y : Float} (hpart : Bounded (1 / 2 ^ 50) part)
    (hquarters : Bounded 5 quarters) (hy : Bounded a y) (hb : a + 1 / 2 ^ 40 ≤ b) (hb' : b ≤ 4) :
    let z := fusedMulAdd (-part) quarters y
    Bounded b z ∧ Bounded (1 / 2 ^ 40) (fusedMulAdd (-part) quarters (y - z)) := by
  intro z
  have hz : Bounded b z :=
    hpart.neg.fusedMulAdd hquarters hy (by rw [smallError]; linarith) hb'
  refine ⟨hz, ?_⟩
  have hclose := abs_le.mp (hpart.neg.fusedMulAdd_close hquarters hy (by linarith))
  have hproduct := abs_le.mp (hpart.neg.abs_mul_le hquarters)
  change -smallError ≤ toRat z - _ ∧ toRat z - _ ≤ smallError at hclose
  rw [smallError] at hclose
  have hdifference : Bounded (1 / 2 ^ 45) (y - z) := by
    refine .of_rounded (a := 1 / 2 ^ 46) (rounded_sub hy.isFinite hz.isFinite) ?_
      (by norm_num [smallError]) (by norm_num)
    rw [abs_le]
    constructor <;> linarith
  exact hpart.neg.fusedMulAdd hquarters hdifference (by norm_num [smallError]) (by norm_num)

theorem reduce_bounded (hx : x.isFinite = true) (hlow : 2 ≤ toRat x) (hhigh : toRat x ≤ 63 / 10) :
    Bounded (7 / 8) (reduce x).angle ∧ Bounded (1 / 2 ^ 20) (reduce x).rest := by
  have hshift : value (.ofBits 0x4338000000000000) = .finite false (3 * 2 ^ 51) 0 := by decide
  obtain ⟨hscaleFinite, hscale⟩ := toRat_of_value
    (by decide : value (.ofBits 0x3fe45f306dc9c883) = .finite false 5734161139222659 (-53))
  obtain ⟨hfirstFinite, hfirst⟩ := toRat_of_value
    (by decide : value (.ofBits 0x3ff921fb58000000) = .finite false 7074237814669312 (-52))
  have hsecond : Bounded (1 / 2 ^ 20) (.ofBits 0xbe4dde973c000000) :=
    .of_atMost 1 (2 ^ 20) (by norm_num) (by decide) (by norm_num)
  have hthird : Bounded (1 / 2 ^ 50) (.ofBits 0xbc8cb3b398000000) :=
    .of_atMost 1 (2 ^ 50) (by norm_num) (by decide) (by norm_num)
  have hfourth : Bounded (1 / 2 ^ 50) (.ofBits 0xbacd747f23e32ed7) :=
    .of_atMost 1 (2 ^ 50) (by norm_num) (by decide) (by norm_num)
  rw [factor_false, one_mul] at hscale hfirst
  norm_num at hscale hfirst
  -- Adding and taking off `1.5 * 2 ^ 52` rounds the quotient to a whole number of quarter turns.
  have hshifted := rounded_fusedMulAdd hx hscaleFinite (toRat_of_value hshift).1
  rw [hscale] at hshifted
  obtain ⟨hfinite, hclose, -⟩ := round_by_shift (by norm_num) le_rfl hshift hshifted
    (by positivity) (by linarith)
  generalize hquarters : fusedMulAdd x (.ofBits 0x3fe45f306dc9c883) (.ofBits 0x4338000000000000) -
    .ofBits 0x4338000000000000 = quarters at hfinite hclose
  rw [zpow_zero, abs_le] at hclose
  obtain ⟨hcloseLow, hcloseHigh⟩ := hclose
  have hcount : Bounded 5 quarters := ⟨hfinite, abs_le.mpr ⟨by linarith, by linarith⟩⟩
  have hfirstNeg := isFinite_neg hfirstFinite
  have hy₁ : Bounded (79 / 100) (fusedMulAdd (-.ofBits 0x3ff921fb58000000) quarters x) := by
    refine .of_rounded (rounded_fusedMulAdd hfirstNeg.1 hfinite hx) (a := 787 / 1000) ?_
      (by norm_num [smallError]) (by norm_num)
    rw [hfirstNeg.2, hfirst, abs_le]
    constructor <;> linarith
  have hy : Bounded (4 / 5) _ :=
    hsecond.neg.fusedMulAdd hcount hy₁ (by norm_num [smallError]) (by norm_num)
  obtain ⟨hz, hzRest⟩ := less_tiny (b := 41 / 50) hthird hcount hy (by norm_num) (by norm_num)
  obtain ⟨hangle, hangleRest⟩ := less_tiny (b := 7 / 8) hfourth hcount hz (by norm_num) (by norm_num)
  rw [← hquarters] at hangle hzRest hangleRest
  exact ⟨hangle, hzRest.add hangleRest (by norm_num [smallError]) (by norm_num)⟩

private theorem sineOfReduced_bounded {quarters : Nat} {angle rest : Float}
    (hangle : Bounded (7 / 8) angle) (hrest : Bounded (1 / 2 ^ 20) rest) :
    Bounded 1 (sineOfReduced quarters angle rest) := by
  have hresult : Bounded 1
      (if quarters % 2 = 0 then sineAround angle rest else cosineAround angle rest) := by
    split
    · exact sineAround_bounded hangle hrest
    · exact cosineAround_bounded hangle hrest
  rw [sineOfReduced]
  generalize (if quarters % 2 = 0 then sineAround angle rest else cosineAround angle rest) = result at *
  split
  · exact hresult
  · exact hresult.neg

private theorem bounded_zero : Bounded (1 / 2 ^ 20) 0 :=
  ⟨isFinite_zero, by norm_num⟩

private theorem bounded_one : Bounded 1 1 :=
  .of_atMost 1 1 Nat.one_pos (by decide) (by norm_num)

private theorem quarterTurnRest_bounded : Bounded (1 / 2 ^ 53) quarterTurnRest :=
  .of_atMost 1 (2 ^ 53) (by norm_num) (by decide) (by norm_num)

private theorem toRat_nearEnd : nearEnd.isFinite = true ∧ toRat nearEnd = 219 / 256 := by
  have h := toRat_of_value
    (by decide : value nearEnd = .finite false 7705377487454208 (-53))
  norm_num at h
  exact h

private theorem toRat_middleEnd : middleEnd.isFinite = true ∧ toRat middleEnd = 1272061 / 524288 := by
  have h := toRat_of_value
    (by decide : value middleEnd = .finite false 5463460393517056 (-51))
  norm_num at h
  exact h

private theorem complement_bounded (hx : x.isFinite = true) (hlow : ¬x < nearEnd) (hhigh : x < middleEnd) :
    Bounded (6 / 7) (quarterTurn - x) := by
  obtain ⟨hnearFinite, hnear⟩ := toRat_nearEnd
  obtain ⟨hmiddleFinite, hmiddle⟩ := toRat_middleEnd
  obtain ⟨hquarterFinite, hquarter⟩ := toRat_of_value
    (by decide : value quarterTurn = .finite false 7074237752028440 (-52))
  rw [lt_iff hx hnearFinite, hnear] at hlow
  rw [lt_iff hx hmiddleFinite, hmiddle] at hhigh
  norm_num at hquarter
  refine .of_rounded (rounded_sub hquarterFinite hx) (a := 599 / 700) ?_ (by norm_num [smallError])
    (by norm_num)
  rw [hquarter, abs_le]
  constructor <;> linarith

private theorem bounded_of_lt_nearEnd (hx : x.isFinite = true) (hlow : 0 ≤ toRat x) (h : x < nearEnd) :
    Bounded (7 / 8) x := by
  obtain ⟨hnearFinite, hnear⟩ := toRat_nearEnd
  rw [lt_iff hx hnearFinite, hnear] at h
  exact ⟨hx, abs_le.mpr ⟨by linarith, by linarith⟩⟩

private theorem two_le_of_middleEnd_le (hx : x.isFinite = true) (h : ¬x < middleEnd) : 2 ≤ toRat x := by
  obtain ⟨hmiddleFinite, hmiddle⟩ := toRat_middleEnd
  rw [lt_iff hx hmiddleFinite, hmiddle] at h
  linarith

variable (hx : x.isFinite = true) (hlow : 0 ≤ toRat x) (hhigh : toRat x ≤ 63 / 10)

include hx hlow hhigh

theorem sine_bounded : Bounded 1 (sine x) := by
  unfold sine
  split
  · rename_i h
    have hbound : Bounded 1 (.ofBits 0x3e50000000000000) :=
      .of_atMost 1 1 Nat.one_pos (by decide) (by norm_num)
    have hlt := (lt_iff hx hbound.isFinite).mp h
    have hle := (abs_le.mp hbound.abs_le).2
    exact ⟨hx, abs_le.mpr ⟨by linarith, by linarith⟩⟩
  · split
    · rename_i h
      exact sineAround_bounded (bounded_of_lt_nearEnd hx hlow h) bounded_zero
    · split
      · rename_i hnear hmiddle
        exact cosineAround_bounded ((complement_bounded hx hnear hmiddle).mono (by norm_num))
          (quarterTurnRest_bounded.mono (by norm_num))
      · rename_i hmiddle
        obtain ⟨hangle, hrest⟩ := reduce_bounded hx (two_le_of_middleEnd_le hx hmiddle) hhigh
        exact sineOfReduced_bounded hangle hrest

theorem cosine_bounded : Bounded 1 (cosine x) := by
  unfold cosine
  split
  · exact bounded_one
  · split
    · rename_i h
      exact cosineAround_bounded (bounded_of_lt_nearEnd hx hlow h) bounded_zero
    · split
      · rename_i hnear hmiddle
        have hy := complement_bounded hx hnear hmiddle
        have hangle : Bounded (7 / 8) (quarterTurn - x + quarterTurnRest) :=
          hy.add quarterTurnRest_bounded (by norm_num [smallError]) (by norm_num)
        refine sineAround_bounded hangle ?_
        generalize quarterTurn - x = y at hy hangle
        have hclose := ((rounded_add hy.isFinite quarterTurnRest_bounded.isFinite).close
          ((abs_add_le _ _).trans (by linarith [hy.abs_le, quarterTurnRest_bounded.abs_le]))).2
        have hclose := abs_le.mp hclose
        have hrest := abs_le.mp quarterTurnRest_bounded.abs_le
        rw [smallError] at hclose
        have hdifference : Bounded (1 / 2 ^ 30) (y - (y + quarterTurnRest)) := by
          refine .of_rounded (rounded_sub hy.isFinite hangle.isFinite) (a := 1 / 2 ^ 40) ?_
            (by norm_num [smallError]) (by norm_num)
          rw [abs_le]
          constructor <;> linarith
        exact hdifference.add quarterTurnRest_bounded (by norm_num [smallError]) (by norm_num)
      · rename_i hmiddle
        obtain ⟨hangle, hrest⟩ := reduce_bounded hx (two_le_of_middleEnd_le hx hmiddle) hhigh
        exact sineOfReduced_bounded hangle hrest

end SpatialComputer.Binary64
