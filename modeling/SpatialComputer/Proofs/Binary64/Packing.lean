import Mathlib
import SpatialComputer.Binary64.Fused

/-!
# The parts of a double

The logic knows a double as a pattern of bits that its operations take apart and put together again. Here both directions are tied to the exact value: taken apart, a pattern has the parts that `Value.ofBits` reads off it, and parts put together are found again, unless they are too large for a double and become an infinity.
-/

namespace SpatialComputer.Binary64

open Float.Model Float.Model.UnpackedFloat

/-! ### Taking apart -/

def isNegative : Sign → Bool
  | .negative => true
  | .positive => false

@[simp] theorem isNegative_positive : isNegative .positive = false := rfl

@[simp] theorem isNegative_negative : isNegative .negative = true := rfl

def Value.ofUnpacked : UnpackedFloat → Value
  | .notANumber => .nan
  | .infinity s => .infinite (isNegative s)
  | .zero s => .finite (isNegative s) 0 (-1074)
  | .finite s mantissa exponent _ => .finite (isNegative s) mantissa exponent

theorem isNegative_inj {s s' : Sign} : isNegative s = isNegative s' ↔ s = s' := by
  cases s <;> cases s' <;> simp

theorem Value.ofUnpacked_injective : Function.Injective Value.ofUnpacked := by
  intro u w h
  cases u <;> cases w <;> simp [Value.ofUnpacked, isNegative_inj] at h ⊢ <;> first | exact h | omega

private theorem toNat_unpackMantissa (b : BitVec Format.binary64.numBits) :
    (unpackMantissa b).toNat = b.toNat % fractionBound := by
  rw [unpackMantissa_def]
  simp [BitVec.extractLsb'_toNat, fractionBound]

private theorem toNat_unpackExponent (b : BitVec Format.binary64.numBits) :
    (unpackExponent b).toNat = b.toNat / fractionBound % 2048 := by
  rw [unpackExponent_def]
  simp [BitVec.extractLsb'_toNat, fractionBound, Nat.shiftRight_eq_div_pow]

private theorem isNegative_unpackSign (b : BitVec Format.binary64.numBits) :
    isNegative (Sign.ofBitVec (unpackSign b)) = decide (signBit ≤ b.toNat) := by
  have hlt : b.toNat < 2 ^ 64 := b.isLt
  have hbit : (unpackSign b).toNat = b.toNat / 2 ^ 63 := by
    rw [unpackSign_def]
    simp [BitVec.extractLsb'_toNat, Nat.shiftRight_eq_div_pow]
    omega
  by_cases hsign : signBit ≤ b.toNat
  · have hone : unpackSign b = 1#1 := by
      apply BitVec.eq_of_toNat_eq
      rw [hbit]
      simp [signBit] at hsign ⊢
      omega
    rw [hone, decide_eq_true hsign]
    rfl
  · have hzero : unpackSign b = 0#1 := by
      apply BitVec.eq_of_toNat_eq
      rw [hbit]
      simp [signBit] at hsign ⊢
      omega
    rw [hzero, decide_eq_false hsign]
    rfl

theorem ofUnpacked_unpack (b : BitVec Format.binary64.numBits) :
    Value.ofUnpacked (unpack Format.binary64 b) = Value.ofBits b.toNat := by
  have hmantissa := toNat_unpackMantissa b
  have hexponent := toNat_unpackExponent b
  have hsign := isNegative_unpackSign b
  have hones : unpackExponent b = -1#11 ↔ b.toNat / fractionBound % 2048 = 2047 := by
    rw [← hexponent, ← BitVec.toNat_inj]
    rfl
  have hnone : unpackExponent b = 0#11 ↔ b.toNat / fractionBound % 2048 = 0 := by
    rw [← hexponent, ← BitVec.toNat_inj]
    rfl
  have hwhole : unpackMantissa b = 0#52 ↔ b.toNat % fractionBound = 0 := by
    rw [← hmantissa, ← BitVec.toNat_inj]
    rfl
  unfold Value.ofBits UnpackedFloat.unpack
  simp only [hones, hnone, hwhole]
  -- The exponent field tells infinities and NaNs, subnormal and normal numbers apart.
  by_cases htop : b.toNat / fractionBound % 2048 = 2047
  · rw [if_pos htop, if_pos htop]
    split
    · exact congrArg Value.infinite hsign
    · rfl
  · rw [if_neg htop, if_neg htop]
    by_cases hbottom : b.toNat / fractionBound % 2048 = 0
    · rw [if_pos hbottom, if_pos hbottom]
      split
      · rename_i hzero
        rw [Value.ofUnpacked, hsign, hzero]
      · rw [Value.ofUnpacked, hsign, hmantissa, hexponent, hbottom]
        rfl
    · rw [if_neg hbottom, if_neg hbottom, Value.ofUnpacked, hsign, hexponent]
      have happend : (1#1 ++ unpackMantissa b).toNat = fractionBound + b.toNat % fractionBound := by
        rw [BitVec.toNat_append, ← Nat.shiftLeft_add_eq_or_of_lt (unpackMantissa b).isLt, hmantissa]
        rfl
      rw [happend]
      rfl

theorem value_eq (x : Float) : value x = .ofUnpacked x.toModel.unpack :=
  (ofUnpacked_unpack x.toBits.toBitVec).symm

/-! ### Putting together -/

/-- Whether the mantissa of a finite number is as long as a double allows. There is no bound on the exponent. -/
def Canonical : UnpackedFloat → Prop
  | .finite _ mantissa exponent _ =>
    mantissa < 2 ^ 53 ∧ -1074 ≤ exponent ∧ (2 ^ 52 ≤ mantissa ∨ exponent = -1074)
  | _ => True

private theorem unpack_packedInfinity (s : Sign) :
    UnpackedFloat.unpack Format.binary64 (packedInfinity Format.binary64 s) = .infinity s := by
  unfold UnpackedFloat.unpack packedInfinity
  simp

private theorem unpack_packComponents_normal (s : Sign) {field mantissa : Nat} (hfield : 0 < field)
    (hfield' : field < 2047) (hlow : 2 ^ 52 ≤ mantissa) (hhigh : mantissa < 2 ^ 53) :
    Value.ofUnpacked (UnpackedFloat.unpack Format.binary64
      (packComponents Format.binary64 s (.ofNat 11 field) (.ofNat 52 mantissa))) =
      .finite (isNegative s) mantissa (field - 1075) := by
  have htop : BitVec.ofNat 11 field ≠ -1#11 := by
    intro h
    have h := congrArg BitVec.toNat h
    simp at h
    omega
  have hbottom : BitVec.ofNat 11 field ≠ 0#11 := by
    intro h
    have h := congrArg BitVec.toNat h
    simp at h
    omega
  have hmantissa : (1#1 ++ BitVec.ofNat 52 mantissa).toNat = mantissa := by
    rw [BitVec.toNat_append, ← Nat.shiftLeft_add_eq_or_of_lt (BitVec.ofNat 52 mantissa).isLt,
      BitVec.toNat_ofNat]
    simp
    omega
  have hexponent : ((BitVec.ofNat 11 field).toNat : Int) = field := by
    rw [BitVec.toNat_ofNat, Nat.mod_eq_of_lt (by omega)]
  unfold UnpackedFloat.unpack
  simp only [unpackMantissa_packComponents, unpackExponent_packComponents, unpackSign_packComponents,
    Sign.ofBitVec_toBitVec, if_neg htop, if_neg hbottom, Value.ofUnpacked, hmantissa, hexponent]
  rfl

private theorem unpack_packComponents_subnormal (s : Sign) {mantissa : Nat} (hlow : 0 < mantissa)
    (hhigh : mantissa < 2 ^ 52) :
    Value.ofUnpacked (UnpackedFloat.unpack Format.binary64
      (packComponents Format.binary64 s 0#11 (.ofNat 52 mantissa))) =
      .finite (isNegative s) mantissa (-1074) := by
  have htop : 0#11 ≠ -1#11 := by decide
  have hmantissa : (BitVec.ofNat 52 mantissa).toNat = mantissa := by
    rw [BitVec.toNat_ofNat, Nat.mod_eq_of_lt hhigh]
  have hwhole : BitVec.ofNat 52 mantissa ≠ 0#52 := by
    intro h
    have h := congrArg BitVec.toNat h
    rw [hmantissa] at h
    simp at h
    omega
  unfold UnpackedFloat.unpack
  simp only [unpackMantissa_packComponents, unpackExponent_packComponents, unpackSign_packComponents,
    Sign.ofBitVec_toBitVec, if_neg htop, if_true, dif_neg hwhole, Value.ofUnpacked, hmantissa]
  rfl

/-- Put together, a finite number has its value, or it is infinite if its exponent is too large. -/
theorem value_pack_finite (s : Sign) {mantissa : Nat} {exponent : Int} (hpos : 0 < mantissa)
    (canonical : Canonical (.finite s mantissa exponent hpos)) :
    value (.ofModel (Float.Model.pack (.finite s mantissa exponent hpos))) =
      if exponent ≤ 971 then .finite (isNegative s) mantissa exponent
      else .infinite (isNegative s) := by
  obtain ⟨hhigh, hexponent, hlow⟩ := canonical
  rw [value_eq]
  show Value.ofUnpacked (UnpackedFloat.unpack _ (UnpackedFloat.pack _ _)) = _
  have hbias : Format.binary64.exponentBias = 1023 := rfl
  have hbits : Format.binary64.mantissaBits = 53 := rfl
  unfold UnpackedFloat.pack
  simp only [hbias, hbits]
  by_cases hlarge : exponent ≤ 971
  · rw [if_pos hlarge, if_neg (by omega)]
    have hlog : mantissa.log2 + 1 = 53 ↔ 2 ^ 52 ≤ mantissa := by
      have hlt := Nat.log2_lt hpos.ne' (k := 53)
      have hle := Nat.le_log2 hpos.ne' (k := 52)
      omega
    simp only [hlog]
    split
    · rename_i hnormal
      rw [unpack_packComponents_normal s (by omega) (by omega) hnormal hhigh]
      congr 1
      omega
    · rename_i hsubnormal
      rw [unpack_packComponents_subnormal s hpos (by omega)]
      congr 1
      omega
  · rw [if_neg hlarge, if_pos (by omega), unpack_packedInfinity]
    rfl

end SpatialComputer.Binary64
