import SpatialComputer.Binary64.Numeral
import SpatialComputer.Proofs.Binary64.Order
import SpatialComputer.Proofs.Binary64.Ratio

/-!
# Doubles read back

Rounding a decimal depends on the number that it denotes and on nothing else: powers of ten that are not computed would have made no difference, and every layout of a numeral denotes the same number. A decimal is written for a double only if it is rounded to it, so whatever the layout, the numeral of a finite double reads back as this very double, sign of zero included.
-/

namespace SpatialComputer.Binary64

open Float.Model Float.Model.UnpackedFloat

/-! ### Equal values, equal doubles -/

/-- A double is determined by its exact value, which tells the zeros apart. -/
theorem value_injective : Function.Injective value := by
  intro x y h
  rw [value_eq, value_eq] at h
  rw [← pack_unpack_eq x, ← pack_unpack_eq y, Value.ofUnpacked_injective h]

theorem isFinite_ofMagnitude (negative : Bool) {bits : Nat} (hbits : bits ≤ infinityBits) :
    (ofMagnitude negative bits).isFinite = true ↔ bits < infinityBits := by
  have hbound : fractionBound = 2 ^ 52 := rfl
  have hinfinity : infinityBits = 2047 * 2 ^ 52 := rfl
  rw [isFinite_iff, value_ofMagnitude negative hbits, hbound]
  rw [hinfinity] at hbits ⊢
  by_cases htop : bits / 2 ^ 52 = 2047
  · rw [if_pos htop]
    constructor
    · rintro ⟨_, _, _, h⟩
      cases h
    · omega
  · rw [if_neg htop]
    refine ⟨fun _ => by omega, fun _ => ?_⟩
    split <;> exact ⟨_, _, _, rfl⟩

/-! ### Ratios -/

theorem nearestBits_le (num den : Nat) : nearestBits num den ≤ infinityBits := min_le_right _ _

private theorem roundHalfEven_mul {k : Nat} (hk : 0 < k) (num den : Nat) :
    roundHalfEven (k * num) (k * den) = roundHalfEven num den := by
  have htwice : 2 * (k * num % (k * den)) = k * (2 * (num % den)) := by
    rw [Nat.mul_mod_mul_left]
    ring
  simp only [roundHalfEven, Nat.mul_div_mul_left _ _ hk, htwice, Nat.mul_lt_mul_left hk]

private theorem nearestBits_mul {k : Nat} (hk : 0 < k) (num den : Nat) :
    nearestBits (k * num) (k * den) = nearestBits num den := by
  simp only [nearestBits, mul_assoc, Nat.mul_div_mul_left _ _ hk, roundHalfEven_mul hk]

/-- Rounding sees of a ratio only which number it is. -/
theorem nearestBits_congr {num den num' den' : Nat} (hden : 0 < den) (hden' : 0 < den')
    (h : (num : ℚ) / den = num' / den') : nearestBits num den = nearestBits num' den' := by
  have hcross : den' * num = den * num' := by
    rw [div_eq_div_iff (by exact_mod_cast hden.ne') (by exact_mod_cast hden'.ne')] at h
    have h : num * den' = num' * den := by exact_mod_cast h
    rw [mul_comm den', h, mul_comm]
  rw [← nearestBits_mul hden' num, hcross, mul_comm den' den, nearestBits_mul hden]

private theorem nearestBits_of_large {num den : Nat} (hden : 0 < den)
    (h : (2 : ℚ) ^ 1024 ≤ num / den) : nearestBits num den = infinityBits := by
  -- Otherwise a finite double would be nearest to a number past the largest one.
  by_contra hne
  have hlt := lt_of_le_of_ne (nearestBits_le num den) hne
  have hfinite := (isFinite_ofMagnitude false hlt.le).mpr hlt
  have hnearest := (rounded_ofRatio false num hden).nearest hfinite
  rw [factor_false, one_mul] at hnearest
  have hpower : Representable (2 ^ 1024) := by
    have h := Representable.two_zpow (e := 1024) (by norm_num)
    rwa [zpow_ofNat] at h
  have hle := hnearest.le_of_ge hpower h
  exact absurd (hle.trans (toRat_le_largest _)) (not_le.mpr largest_lt)

private theorem nearestBits_of_small {num den : Nat} (h : 2 * (num * Nat.pow 2 1074) < den) :
    nearestBits num den = 0 := by
  unfold nearestBits
  generalize num * Nat.pow 2 1074 = scaled at h ⊢
  have hquotient : scaled / den = 0 := Nat.div_eq_of_lt (by omega)
  have hrest : scaled % den = scaled := Nat.mod_eq_of_lt (by omega)
  simp [hquotient, hrest, roundHalfEven, h]

private theorem nearestBits_zero {den : Nat} (hden : 0 < den) : nearestBits 0 den = 0 := by
  have hone : nearestBits 0 1 = 0 := by decide +kernel
  have hscale := nearestBits_mul hden 0 1
  rwa [mul_zero, mul_one, hone] at hscale

/-! ### Decimals -/

/-- The number that a decimal denotes. -/
def Decimal.toRat (d : Decimal) : ℚ := d.coefficient * 10 ^ d.exponent

namespace Decimal

private theorem lt_of_log2_lt {coefficient places : Nat}
    (h : coefficient.log2 + 1100 < 3 * places) :
    2 * (coefficient * Nat.pow 2 1074) < 10 ^ places := by
  generalize hleast : 1074 = least
  rw [Nat.pow_eq]
  calc 2 * (coefficient * 2 ^ least) < 2 * (2 ^ (coefficient.log2 + 1) * 2 ^ least) := by
        gcongr
        exact Nat.lt_log2_self
    _ = 2 ^ (coefficient.log2 + least + 2) := by ring
    _ ≤ 2 ^ (3 * places) := Nat.pow_le_pow_right two_pos (by omega)
    _ = 8 ^ places := by rw [pow_mul]; norm_num
    _ ≤ 10 ^ places := Nat.pow_le_pow_left (by norm_num) _

/-- The bits of a decimal are those of the nearest double to the number it denotes. -/
theorem bits_eq (d : Decimal) {num den : Nat} (hden : 0 < den) (h : d.toRat = num / den) :
    d.bits = nearestBits num den := by
  obtain ⟨coefficient, exponent⟩ := d
  rw [toRat] at h
  dsimp only at h
  rw [bits]
  dsimp only
  -- The cases are those of `bits`; its two shortcuts skip powers of ten that could only overflow or vanish.
  split
  · rename_i hzero
    rw [hzero, Nat.cast_zero, zero_mul, eq_comm, div_eq_zero_iff] at h
    have hnum : num = 0 := by
      rcases h with h | h
      · exact_mod_cast h
      · exact absurd h (by exact_mod_cast hden.ne')
    rw [hnum, nearestBits_zero hden]
  · rename_i hzero
    have hcoefficient : (1 : ℚ) ≤ coefficient := by exact_mod_cast Nat.one_le_iff_ne_zero.mpr hzero
    split
    · rename_i hexponent
      obtain ⟨n, rfl⟩ := Int.eq_ofNat_of_zero_le hexponent
      rw [zpow_natCast] at h
      split
      · rename_i hlarge
        refine (nearestBits_of_large hden ?_).symm
        rw [← h]
        calc (2 : ℚ) ^ 1024 ≤ 2 ^ (3 * 401) := pow_le_pow_right₀ one_le_two (by norm_num)
          _ = 8 ^ 401 := by rw [pow_mul]; norm_num
          _ ≤ 10 ^ 401 := by gcongr; norm_num
          _ ≤ 10 ^ n := pow_le_pow_right₀ (by norm_num) (by omega)
          _ ≤ coefficient * 10 ^ n := le_mul_of_one_le_left (by positivity) hcoefficient
      · apply nearestBits_congr Nat.one_pos hden
        rw [← h, Int.toNat_natCast, Nat.pow_eq]
        push_cast
        ring
    · rename_i hexponent
      obtain ⟨n, rfl⟩ : ∃ n : Nat, exponent = -n := ⟨(-exponent).toNat, by omega⟩
      rw [neg_neg, Int.toNat_natCast, Nat.pow_eq]
      have hratio : (coefficient : ℚ) / (10 ^ n : Nat) = num / den := by
        rw [← h, zpow_neg, zpow_natCast, div_eq_mul_inv]
        push_cast
        rfl
      have hcongr : nearestBits coefficient (10 ^ n) = nearestBits num den :=
        nearestBits_congr (by positivity) hden hratio
      split
      · rename_i hsmall
        rw [← hcongr, nearestBits_of_small (lt_of_log2_lt hsmall)]
      · exact hcongr

theorem bits_congr {d d' : Decimal} (h : d.toRat = d'.toRat) : d.bits = d'.bits := by
  have hnonneg : 0 ≤ d.toRat := by
    rw [toRat]
    positivity
  have hratio : d.toRat = (d.toRat.num.toNat : ℚ) / d.toRat.den := by
    have hnum : ((d.toRat.num.toNat : Nat) : ℚ) = d.toRat.num := by
      exact_mod_cast Int.toNat_of_nonneg (Rat.num_nonneg.mpr hnonneg)
    rw [hnum, Rat.num_div_den]
  rw [bits_eq d d.toRat.pos hratio, bits_eq d' d.toRat.pos (h.symm.trans hratio)]

theorem bits_le (d : Decimal) : d.bits ≤ infinityBits := by
  unfold bits
  dsimp only
  split
  · exact Nat.zero_le _
  · split <;> split
    · exact le_rfl
    · exact nearestBits_le _ _
    · exact Nat.zero_le _
    · exact nearestBits_le _ _

theorem toRat_exact (mantissa : Nat) (exponent : Int) :
    (exact mantissa exponent).toRat = mantissa * 2 ^ exponent := by
  rw [exact]
  split
  · rename_i hexponent
    obtain ⟨n, rfl⟩ := Int.eq_ofNat_of_zero_le hexponent
    simp [toRat]
  · rename_i hexponent
    obtain ⟨n, rfl⟩ : ∃ n : Nat, exponent = -n := ⟨(-exponent).toNat, by omega⟩
    have hten : (10 : ℚ) ^ n = 5 ^ n * 2 ^ n := by rw [← mul_pow]; norm_num
    simp only [toRat, neg_neg, Int.toNat_natCast, Nat.pow_eq, zpow_neg, zpow_natCast, hten]
    push_cast
    field_simp

end Decimal

/-- What is found as the shortest decimal of a number is rounded like the number itself. -/
theorem bits_shortest (tie : Tie) (mantissa : Nat) (exponent : Int) :
    (shortest tie mantissa exponent).bits =
      nearestBits (ratio mantissa exponent).1 (ratio mantissa exponent).2 := by
  obtain ⟨hden, hratio⟩ := ratio_spec mantissa exponent
  unfold shortest
  split
  · rename_i hzero
    refine Decimal.bits_eq _ hden ?_
    rw [hratio, hzero]
    simp [Decimal.toRat]
  · dsimp only
    generalize hfound : List.findSome? _ _ = found
    cases found with
    | some d =>
      obtain ⟨_, _, hfound⟩ := List.exists_of_findSome?_eq_some hfound
      exact eq_of_beq (List.find?_some (p := fun d : Decimal => d.bits == _) hfound)
    | none => exact Decimal.bits_eq _ hden ((Decimal.toRat_exact _ _).trans hratio.symm)

/-! ### Layouts -/

@[simp] theorem Layout.negative_numeral (layout : Layout) (negative : Bool) (d : Decimal) :
    (layout.numeral negative d).negative = negative := by
  unfold Layout.numeral
  dsimp only
  split_ifs <;> rfl

private theorem one_le_digitCount (n : Nat) : 1 ≤ digitCount n := Nat.length_toDigits_pos

theorem Layout.toRat_numeral (layout : Layout) (negative : Bool) (d : Decimal) :
    (layout.numeral negative d).decimal.toRat = d.toRat := by
  obtain ⟨coefficient, exponent⟩ := d
  unfold Layout.numeral
  dsimp only
  generalize hleading : (if coefficient = 0 then 0 else
    (digitCount coefficient : Int) - 1 + exponent) = leading
  split_ifs with _ hexponent
  · obtain ⟨n, rfl⟩ := Int.eq_ofNat_of_zero_le hexponent
    simp [Numeral.decimal, Decimal.toRat]
  · obtain ⟨n, rfl⟩ := Int.eq_ofNat_of_zero_le hexponent
    simp [Numeral.decimal, Decimal.toRat]
  · have hplaces : 0 - (((-exponent).toNat : Nat) : Int) = exponent := by omega
    simp only [Numeral.decimal, Decimal.toRat, Option.getD_none, hplaces]
  · by_cases hzero : coefficient = 0
    · simp [Numeral.decimal, Decimal.toRat, hzero]
    · have hcount := one_le_digitCount coefficient
      rw [if_neg hzero] at hleading
      have hplaces : leading - ((digitCount coefficient - 1 : Nat) : Int) = exponent := by omega
      simp only [Numeral.decimal, Decimal.toRat, Option.getD_some, hplaces]

theorem Numeral.isFinite_of_toFloat? {n : Numeral} {x : Float} (h : n.toFloat? = some x) :
    x.isFinite = true := by
  unfold Numeral.toFloat? at h
  split at h
  · rename_i hlt
    rw [← Option.some.inj h]
    exact (isFinite_ofMagnitude _ (Decimal.bits_le _)).mpr hlt
  · cases h

/-- The numeral of a finite double, laid out in any way, reads back as this double. -/
theorem Layout.toFloat?_numeral (layout : Layout) {x : Float} {negative : Bool} {mantissa : Nat}
    {exponent : Int} (hx : value x = .finite negative mantissa exponent) :
    (layout.numeral negative (shortest layout.tie mantissa exponent)).toFloat? = some x := by
  obtain ⟨hden, hratio⟩ := ratio_spec mantissa exponent
  have hbits := Decimal.bits_congr
    (layout.toRat_numeral negative (shortest layout.tie mantissa exponent))
  rw [bits_shortest] at hbits
  rw [Numeral.toFloat?, Decimal.toFloat, layout.negative_numeral, hbits]
  generalize (ratio mantissa exponent).1 = num, (ratio mantissa exponent).2 = den at *
  have hrat : toRat x = factor negative * (num / den) := by
    rw [toRat, hx, Value.toRat, signed_eq, hratio, mul_assoc]
  have hrounded := rounded_ofRatio negative num hden
  rw [← hrat] at hrounded
  obtain ⟨hfinite, hsame⟩ := hrounded.exact_of_double
  rw [if_pos ((isFinite_ofMagnitude negative (nearestBits_le _ _)).mp hfinite)]
  congr 1
  by_cases hzero : toRat x = 0
  · -- The zeros stand for the same number, so they are told apart by their values.
    have hnum : num = 0 := by
      rw [hrat, mul_eq_zero, div_eq_zero_iff] at hzero
      rcases hzero with hfactor | hnum | hden'
      · cases negative <;> norm_num at hfactor
      · exact_mod_cast hnum
      · exact absurd hden' (by exact_mod_cast hden.ne')
    have hmantissa : mantissa = 0 := by
      rw [hnum, Nat.cast_zero, zero_div, eq_comm, mul_eq_zero] at hratio
      exact_mod_cast hratio.resolve_right (by positivity)
    obtain ⟨-, -, -, hlow⟩ := value_bounds hx
    have hexponent : exponent = -1074 := hlow.resolve_left (by omega)
    apply value_injective
    rw [hnum, nearestBits_zero hden, value_ofMagnitude negative (Nat.zero_le _), hx,
      hmantissa, hexponent]
    rfl
  · exact eq_of_toRat_eq hfinite (isFinite_iff.mpr ⟨_, _, _, hx⟩) hsame (hsame ▸ hzero)

end SpatialComputer.Binary64
