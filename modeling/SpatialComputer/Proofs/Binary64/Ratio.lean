import SpatialComputer.Proofs.Binary64.Arithmetic

/-!
# Ratios and fused operations

A ratio is rounded by computing the bits of the result: the rounded mantissa on top of the exponent, so that a mantissa that grows by a bit carries into the exponent by itself. The bits found are those of what the ratio is rounded to, and so are the fused product and sum, whose exact value is a ratio.
-/

namespace SpatialComputer.Binary64

open Float.Model Float.Model.UnpackedFloat

/-! ### Doubles from bits -/

theorem value_ofBits (bits : UInt64) : value (.ofBits bits) = .ofBits bits.toNat := by
  have hunpack := ofUnpacked_unpack bits.toBitVec
  rw [value_eq]
  show Value.ofUnpacked (UnpackedFloat.unpack _ (UnpackedFloat.pack _ (UnpackedFloat.unpack _ _))) = _
  rw [pack_unpack]
  split
  · rename_i hnan
    rw [unpack_packedNaN]
    refine Eq.trans ?_ hunpack
    rw [isNaNBits, decide_eq_true_iff] at hnan
    rw [UnpackedFloat.unpack]
    simp [hnan.1, hnan.2]
  · exact hunpack

theorem value_ofMagnitude (negative : Bool) {bits : Nat} (hbits : bits ≤ infinityBits) :
    value (ofMagnitude negative bits) =
      if bits / fractionBound = 2047 then .infinite negative
      else if bits / fractionBound = 0 then .finite negative (bits % fractionBound) (-1074)
      else .finite negative (fractionBound + bits % fractionBound)
        ((bits / fractionBound : Nat) - 1075) := by
  simp only [infinityBits] at hbits
  obtain ⟨whole, hwhole⟩ : ∃ whole, whole = (if negative then signBit else 0) + bits := ⟨_, rfl⟩
  have hsplit : negative = true ∧ whole = 2 ^ 63 + bits ∨ negative = false ∧ whole = bits := by
    cases negative <;> simp [hwhole, signBit]
  have hlt : whole < 2 ^ 64 := by omega
  have hnat : (UInt64.ofNat whole).toNat = whole := UInt64.toNat_ofNat_of_lt' hlt
  have hsign : decide (signBit ≤ whole) = negative := by
    have hbit : signBit = 2 ^ 63 := rfl
    rcases hsplit with ⟨rfl, h⟩ | ⟨rfl, h⟩
    · exact decide_eq_true (by omega)
    · exact decide_eq_false (by omega)
  have hfield : whole / fractionBound % 2048 = bits / fractionBound := by
    simp only [fractionBound]
    omega
  have hfraction : whole % fractionBound = bits % fractionBound := by
    simp only [fractionBound]
    omega
  have hzero : bits / fractionBound = 2047 → bits % fractionBound = 0 := by
    simp only [fractionBound]
    omega
  rw [ofMagnitude, ← hwhole, value_ofBits, hnat, Value.ofBits, hsign, hfield, hfraction]
  by_cases htop : bits / fractionBound = 2047
  · rw [if_pos htop, if_pos htop, if_pos (hzero htop)]
  · rw [if_neg htop, if_neg htop]

/-! ### Ratios -/

private theorem abs_roundHalfEven_sub_le (num : Nat) {den : Nat} (hden : 0 < den) :
    |(roundHalfEven num den : ℚ) - num / den| ≤ 1 / 2 := by
  have hden' : (0 : ℚ) < den := by exact_mod_cast hden
  have hsplit : (num : ℚ) / den = (num / den : ℕ) + ((num % den : ℕ) : ℚ) / den := by
    have h : (num : ℚ) = den * (num / den : ℕ) + (num % den : ℕ) := by
      exact_mod_cast (Nat.div_add_mod num den).symm
    nth_rewrite 1 [h]
    field_simp
  have hrest : 0 ≤ ((num % den : ℕ) : ℚ) / den := by positivity
  have hrest' : ((num % den : ℕ) : ℚ) / den < 1 := by
    rw [div_lt_one hden']
    exact_mod_cast Nat.mod_lt num hden
  have hhalf : 2 * (num % den) ≤ den ↔ ((num % den : ℕ) : ℚ) / den ≤ 1 / 2 := by
    rw [div_le_div_iff₀ hden' two_pos, mul_comm, one_mul]
    exact_mod_cast Iff.rfl
  have hhalf' : den ≤ 2 * (num % den) ↔ 1 / 2 ≤ ((num % den : ℕ) : ℚ) / den := by
    rw [div_le_div_iff₀ two_pos hden', mul_comm _ (2 : ℚ), one_mul]
    exact_mod_cast Iff.rfl
  -- The remainder decides; at exactly one half both neighbours are equally near.
  rw [hsplit, roundHalfEven, abs_le]
  split
  · rename_i hless
    have h := hhalf.mp hless.le
    constructor <;> linarith
  · split
    · rename_i hmore
      have h := hhalf'.mp hmore.le
      push_cast
      constructor <;> linarith
    · rename_i hless hmore
      have h := hhalf.mp (not_lt.mp hmore)
      have h' := hhalf'.mp (not_lt.mp hless)
      rcases Nat.mod_two_eq_zero_or_one (num / den) with heven | hodd
      · rw [heven]
        push_cast
        constructor <;> linarith
      · rw [hodd]
        push_cast
        constructor <;> linarith

private theorem toRat_ofMagnitude (negative : Bool) {shift mantissa : Nat}
    (hlt : shift * fractionBound + mantissa < infinityBits) (hmantissa : mantissa ≤ 2 ^ 53)
    (hlong : shift = 0 ∨ 2 ^ 52 ≤ mantissa) :
    let x := ofMagnitude negative (shift * fractionBound + mantissa)
    x.isFinite = true ∧ toRat x = factor negative * (mantissa * 2 ^ ((shift : ℤ) - 1074)) := by
  intro x
  have hvalue := value_ofMagnitude negative hlt.le
  obtain ⟨bits, hbits⟩ : ∃ bits, bits = shift * fractionBound + mantissa := ⟨_, rfl⟩
  have hbound : fractionBound = 2 ^ 52 := rfl
  have hinfinity : infinityBits = 2047 * 2 ^ 52 := rfl
  rw [← hbits, hbound] at hvalue
  rw [← hbits, hinfinity] at hlt
  have hbits' := hbits
  rw [hbound] at hbits'
  have htop : bits / 2 ^ 52 ≠ 2047 := by omega
  rw [if_neg htop] at hvalue
  have hfinite : ∀ {mantissa' : Nat} {exponent : Int}, value x = .finite negative mantissa' exponent →
      (mantissa' : ℚ) * 2 ^ exponent = mantissa * 2 ^ ((shift : ℤ) - 1074) →
      x.isFinite = true ∧ toRat x = factor negative * (mantissa * 2 ^ ((shift : ℤ) - 1074)) := by
    intro mantissa' exponent hx heq
    refine ⟨isFinite_iff.mpr ⟨_, _, _, hx⟩, ?_⟩
    rw [toRat, hx, Value.toRat, signed_eq, ← heq, mul_assoc]
  have hx : value x = value (ofMagnitude negative bits) := by rw [hbits]
  rw [← hx] at hvalue
  -- A short mantissa leaves the exponent field empty, a full one adds its leading bit to it, and
  -- one that has carried adds two.
  by_cases hshort : mantissa < 2 ^ 52
  · have hshift : shift = 0 := by omega
    have hfield : bits / 2 ^ 52 = 0 := by omega
    have hfraction : bits % 2 ^ 52 = mantissa := by omega
    rw [if_pos hfield, hfraction] at hvalue
    apply hfinite hvalue
    rw [hshift, Nat.cast_zero, zero_sub]
  · by_cases hcarry : mantissa = 2 ^ 53
    · have hfield : bits / 2 ^ 52 = shift + 2 := by omega
      have hfraction : bits % 2 ^ 52 = 0 := by omega
      rw [if_neg (by omega), hfield, hfraction] at hvalue
      apply hfinite hvalue
      have hexponent : ((shift + 2 : ℕ) : ℤ) - 1075 = (shift - 1074) + 1 := by omega
      rw [hexponent, zpow_add₀ two_ne_zero, hcarry]
      push_cast
      ring
    · have hfield : bits / 2 ^ 52 = shift + 1 := by omega
      have hfraction : 2 ^ 52 + bits % 2 ^ 52 = mantissa := by omega
      rw [if_neg (by omega), hfield, hfraction] at hvalue
      apply hfinite hvalue
      have hexponent : ((shift + 1 : ℕ) : ℤ) - 1075 = shift - 1074 := by omega
      rw [hexponent]

private theorem value_ofMagnitude_infinityBits (negative : Bool) :
    value (ofMagnitude negative infinityBits) = .infinite negative :=
  value_ofMagnitude negative le_rfl

private theorem div_two_zpow (num : Nat) {den : Nat} (hden : 0 < den) (shift place : Nat) :
    (num : ℚ) / den / 2 ^ ((shift : ℤ) - place) =
      (num * Nat.pow 2 place : ℕ) / (den * Nat.pow 2 shift : ℕ) := by
  have hden' : (den : ℚ) ≠ 0 := by exact_mod_cast hden.ne'
  rw [zpow_sub₀ two_ne_zero, zpow_natCast, zpow_natCast, Nat.pow_eq, Nat.pow_eq]
  push_cast
  field_simp

private theorem isNearest_roundHalfEven (num : Nat) {den : Nat} (hden : 0 < den) {shift place : Nat}
    (hplace : 1074 = place) (hshift : shift = Nat.log2 (num * Nat.pow 2 place / den) - 52) :
    let mantissa := roundHalfEven (num * Nat.pow 2 place) (den * Nat.pow 2 shift)
    IsNearest (num / den) (mantissa * 2 ^ ((shift : ℤ) - place)) ∧
      mantissa ≤ 2 ^ 53 ∧ (shift = 0 ∨ 2 ^ 52 ≤ mantissa) := by
  intro mantissa
  have hden' : (0 : ℚ) < den := by exact_mod_cast hden
  have hunit : (0 : ℚ) < 2 ^ ((shift : ℤ) - place) := by positivity
  have hscale : (num : ℚ) / den / 2 ^ ((shift : ℤ) - place) =
      (num * Nat.pow 2 place : ℕ) / (den * Nat.pow 2 shift : ℕ) := div_two_zpow num hden shift place
  have hround := abs_roundHalfEven_sub_le (num * Nat.pow 2 place)
    (Nat.mul_pos hden (Nat.pos_of_ne_zero (by simp)) : 0 < den * Nat.pow 2 shift)
  rw [← hscale] at hround
  obtain ⟨scaled, hscaled⟩ : ∃ scaled, scaled = num * Nat.pow 2 place := ⟨_, rfl⟩
  rw [← hscaled] at hscale hshift
  have hwide : (0 : ℚ) < (den * Nat.pow 2 shift : ℕ) := by
    exact_mod_cast Nat.mul_pos hden (Nat.pow_pos two_pos)
  -- The shift leaves the quotient with 53 bits before the point, or with fewer if nothing is shifted.
  have hhigh : (num : ℚ) / den / 2 ^ ((shift : ℤ) - place) < 2 ^ 53 := by
    have hquotient : scaled / den < 2 ^ (shift + 53) :=
      Nat.lt_log2_self.trans_le (Nat.pow_le_pow_right two_pos (by omega))
    have hlt : scaled < 2 ^ 53 * (den * 2 ^ shift) := by
      have h := (Nat.div_lt_iff_lt_mul hden).mp hquotient
      rw [pow_add] at h
      linarith
    rw [hscale, div_lt_iff₀ hwide]
    exact_mod_cast hlt
  have hlow : (shift : ℤ) - place = -1074 ∨ 2 ^ 52 ≤ (num : ℚ) / den / 2 ^ ((shift : ℤ) - place) := by
    by_cases hzero : shift = 0
    · exact .inl (by omega)
    right
    have hlog : shift + 52 = Nat.log2 (scaled / den) := by omega
    have hquotient : 2 ^ (shift + 52) ≤ scaled / den := by
      rw [hlog]
      apply Nat.log2_self_le
      rintro hzero
      rw [hzero] at hlog
      simp at hlog
    have hle : 2 ^ 52 * (den * 2 ^ shift) ≤ scaled := by
      have h := (Nat.le_div_iff_mul_le hden).mp hquotient
      rw [pow_add] at h
      linarith
    rw [hscale, le_div_iff₀ hwide]
    exact_mod_cast hle
  obtain ⟨hnearest, hmantissa, hlong⟩ :=
    isNearest_of_units (by omega) (by positivity) hhigh hlow hround
  rw [div_mul_cancel₀ _ hunit.ne'] at hnearest
  exact ⟨hnearest, hmantissa, by omega⟩

theorem rounded_ofRatio (negative : Bool) (num : Nat) {den : Nat} (hden : 0 < den) :
    Rounded (factor negative * (num / den)) (ofRatio negative num den) := by
  unfold ofRatio nearestBits
  generalize hplace : 1074 = place
  have hplace' : (place : ℤ) = 1074 := by omega
  dsimp only
  generalize hshift : Nat.log2 (num * Nat.pow 2 place / den) - 52 = shift
  obtain ⟨hnearest, hmantissa, hlong⟩ := isNearest_roundHalfEven num hden hplace hshift.symm
  rw [hplace'] at hnearest
  generalize roundHalfEven (num * Nat.pow 2 place) (den * Nat.pow 2 shift) = mantissa at *
  have hsigned : IsNearest (factor negative * (num / den))
      (factor negative * (mantissa * 2 ^ ((shift : ℤ) - 1074))) := by
    cases negative
    · simpa using hnearest
    · simpa using hnearest.neg
  have habs : |factor negative * (mantissa * 2 ^ ((shift : ℤ) - 1074))| =
      mantissa * 2 ^ ((shift : ℤ) - 1074) := by
    rw [abs_mul, abs_factor, one_mul, abs_of_nonneg (by positivity)]
  refine ⟨_, hsigned, ?_⟩
  by_cases hlt : shift * fractionBound + mantissa < infinityBits
  · left
    rw [min_eq_left hlt.le]
    obtain ⟨hfinite, hrat⟩ := toRat_ofMagnitude negative hlt hmantissa hlong
    refine ⟨?_, hfinite, hrat⟩
    rw [← hrat]
    exact (abs_toRat_le _).trans_lt largest_lt
  · right
    rw [min_eq_right (not_lt.mp hlt), value_ofMagnitude_infinityBits]
    have hbound : fractionBound = 2 ^ 52 := rfl
    have hinfinity : infinityBits = 2047 * 2 ^ 52 := rfl
    rw [hbound, hinfinity] at hlt
    have hfull : 2 ^ 52 ≤ mantissa := by omega
    have hfull : (2 ^ 52 : ℚ) ≤ mantissa := by exact_mod_cast hfull
    -- Infinity is reached by the shift alone, or by a mantissa that carries at the last shift before it.
    have hlarge : (2 : ℚ) ^ 1024 ≤ mantissa * 2 ^ ((shift : ℤ) - 1074) := by
      rw [← zpow_ofNat]
      by_cases hcarry : shift = 2045
      · have hcarry' : mantissa = 2 ^ 53 := by omega
        rw [hcarry, hcarry', Nat.cast_pow, Nat.cast_ofNat, ← zpow_ofNat, ← zpow_add₀ two_ne_zero]
        exact zpow_le_zpow_right₀ one_le_two (by norm_num)
      · calc (2 : ℚ) ^ (1024 : ℤ) ≤ 2 ^ ((52 : ℤ) + (shift - 1074)) :=
              zpow_le_zpow_right₀ one_le_two (by omega)
          _ = 2 ^ 52 * 2 ^ ((shift : ℤ) - 1074) := by rw [zpow_add₀ two_ne_zero, zpow_ofNat]
          _ ≤ mantissa * 2 ^ ((shift : ℤ) - 1074) := by gcongr
    refine ⟨by rwa [habs], ?_⟩
    have hpos : (0 : ℚ) < mantissa * 2 ^ ((shift : ℤ) - 1074) := lt_of_lt_of_le (by positivity) hlarge
    cases negative
    · rw [factor_false, one_mul, decide_eq_false (not_lt.mpr hpos.le)]
    · rw [factor_true, neg_one_mul, decide_eq_true (neg_lt_zero.mpr hpos)]

/-! ### Fused operations -/

theorem ratio_spec (mantissa : Nat) (exponent : Int) :
    0 < (ratio mantissa exponent).2 ∧
      ((ratio mantissa exponent).1 : ℚ) / (ratio mantissa exponent).2 = mantissa * 2 ^ exponent := by
  rw [ratio]
  split
  · rename_i hle
    obtain ⟨n, rfl⟩ := Int.eq_ofNat_of_zero_le hle
    refine ⟨Nat.one_pos, ?_⟩
    simp
  · rename_i hlt
    obtain ⟨n, rfl⟩ : ∃ n : Nat, exponent = -n := ⟨(-exponent).toNat, by omega⟩
    refine ⟨Nat.pow_pos two_pos, ?_⟩
    simp [div_eq_mul_inv]

theorem factor_mul_natAbs (n : ℤ) : factor (decide (n < 0)) * (n.natAbs : ℚ) = n := by
  have hsigned : signed (decide (n < 0)) n.natAbs = n := by
    by_cases hneg : n < 0
    · rw [decide_eq_true hneg, signed, if_pos rfl]
      omega
    · rw [decide_eq_false hneg, signed, if_neg (by decide)]
      omega
  rw [← signed_eq, hsigned]

theorem rounded_ofDyadic (numerator exponent : Int) :
    Rounded (numerator * 2 ^ exponent) (ofDyadic numerator exponent) := by
  obtain ⟨hden, hratio⟩ := ratio_spec numerator.natAbs exponent
  have h := rounded_ofRatio (decide (numerator < 0)) (ratio numerator.natAbs exponent).1 hden
  rwa [hratio, ← mul_assoc, factor_mul_natAbs] at h

private theorem signed_scaled (negative : Bool) (mantissa : Nat) {exponent least : Int}
    (hle : least ≤ exponent) :
    ((signed negative (mantissa * Nat.pow 2 (exponent - least).toNat) : ℤ) : ℚ) * 2 ^ least =
      factor negative * mantissa * 2 ^ exponent := by
  have hsplit : (2 : ℚ) ^ exponent = 2 ^ (exponent - least).toNat * 2 ^ least := by
    rw [← zpow_natCast, ← zpow_add₀ two_ne_zero, Int.toNat_of_nonneg (by omega), sub_add_cancel]
  rw [signed_eq, hsplit, Nat.pow_eq]
  push_cast
  ring

theorem rounded_fusedMulAdd {x y z : Float} (hx : x.isFinite = true) (hy : y.isFinite = true)
    (hz : z.isFinite = true) : Rounded (toRat x * toRat y + toRat z) (fusedMulAdd x y z) := by
  obtain ⟨xNegative, xMantissa, xExponent, hxValue⟩ := isFinite_iff.mp hx
  obtain ⟨yNegative, yMantissa, yExponent, hyValue⟩ := isFinite_iff.mp hy
  obtain ⟨zNegative, zMantissa, zExponent, hzValue⟩ := isFinite_iff.mp hz
  have htotal : toRat x * toRat y + toRat z =
      ((signed (xNegative != yNegative) (xMantissa * yMantissa *
          Nat.pow 2 (xExponent + yExponent - min (xExponent + yExponent) zExponent).toNat) +
        signed zNegative (zMantissa *
          Nat.pow 2 (zExponent - min (xExponent + yExponent) zExponent).toNat) : ℤ) : ℚ) *
        2 ^ min (xExponent + yExponent) zExponent := by
    rw [Int.cast_add, add_mul, signed_scaled _ _ (min_le_left _ _),
      signed_scaled _ _ (min_le_right _ _), factor_bne, zpow_add₀ two_ne_zero, toRat, toRat, toRat,
      hxValue, hyValue, hzValue, Value.toRat, Value.toRat, Value.toRat, signed_eq, signed_eq,
      signed_eq]
    push_cast
    ring
  rw [fusedMulAdd, hxValue, hyValue, hzValue]
  dsimp only
  split
  · -- The product cancels, so it is representable and nothing is lost by rounding it first.
    rename_i hzero
    rw [hzero, Int.cast_zero, zero_mul] at htotal
    have hproduct : toRat x * toRat y = -toRat z := by linarith
    have hrounded := rounded_mul hx hy
    rw [hproduct] at hrounded
    have hlargest : |-toRat z| ≤ largest := by
      rw [abs_neg]
      exact abs_toRat_le z
    obtain ⟨hfinite, hrat⟩ := hrounded.exact_of_representable (representable_toRat z).neg hlargest
    have hsum := rounded_add hfinite hz
    rwa [hrat, ← hproduct] at hsum
  · rw [htotal]
    exact rounded_ofDyadic _ _

end SpatialComputer.Binary64
