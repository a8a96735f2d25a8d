import SpatialComputer.Proofs.Binary64.Exact

/-!
# Rounding rounds to nearest

An operation computes a mantissa that may be too long, together with a note on what lies behind its last place. Shifting keeps the note exact, and rounding by the note is rounding to the nearest integer; so what is put together in the end is a nearest representable number.
-/

namespace SpatialComputer.Binary64

open Float.Model Float.Model.UnpackedFloat

/-! ### Results that are put together -/

theorem rounded_zero (s : Sign) {v : ℚ} (nearest : IsNearest v 0) :
    Rounded v (.ofModel (Float.Model.pack (.zero s))) := by
  have hvalue : value (.ofModel (Float.Model.pack (.zero s))) = .finite (isNegative s) 0 (-1074) := by
    rw [value_eq]
    show Value.ofUnpacked (UnpackedFloat.unpack _ (packedZero _ s)) = _
    rw [unpack_packedZero]
    rfl
  refine ⟨0, nearest, Or.inl ⟨by simp, isFinite_iff.mpr ⟨_, _, _, hvalue⟩, ?_⟩⟩
  rw [toRat, hvalue]
  cases s <;> simp [Value.toRat, signed, isNegative]

theorem rounded_finite {v : ℚ} {s : Sign} {mantissa : Nat} {exponent : Int} {hpos : 0 < mantissa}
    (canonical : Canonical (.finite s mantissa exponent hpos))
    (nearest : IsNearest v (signed (isNegative s) mantissa * 2 ^ exponent)) :
    Rounded v (.ofModel (Float.Model.pack (.finite s mantissa exponent hpos))) := by
  have hvalue := value_pack_finite s hpos canonical
  obtain ⟨-, -, hlow⟩ := canonical
  refine ⟨_, nearest, ?_⟩
  by_cases hlarge : exponent ≤ 971
  · rw [if_pos hlarge] at hvalue
    have hrat : toRat (.ofModel (Float.Model.pack (.finite s mantissa exponent hpos))) =
        signed (isNegative s) mantissa * 2 ^ exponent := by
      rw [toRat, hvalue, Value.toRat]
    refine Or.inl ⟨?_, isFinite_iff.mpr ⟨_, _, _, hvalue⟩, hrat⟩
    rw [← hrat]
    exact (abs_toRat_le _).trans_lt largest_lt
  · rw [if_neg hlarge] at hvalue
    have hpower : (2 : ℚ) ^ (972 : ℤ) ≤ 2 ^ exponent := zpow_le_zpow_right₀ one_le_two (by omega)
    have hmantissa : (2 : ℚ) ^ 52 ≤ mantissa := by exact_mod_cast hlow.resolve_right (by omega)
    have hsize : 2 ^ 1024 ≤ (mantissa : ℚ) * 2 ^ exponent := by
      rw [zpow_ofNat] at hpower
      rw [(pow_add 2 52 972 : (2 : ℚ) ^ 1024 = 2 ^ 52 * 2 ^ 972)]
      exact mul_le_mul hmantissa hpower (by positivity) (by positivity)
    have hpositive : (0 : ℚ) < mantissa * 2 ^ exponent := lt_of_lt_of_le (by positivity) hsize
    refine Or.inr ?_
    rw [hvalue]
    cases s with
    | positive =>
      have hsigned : ((signed (isNegative .positive) mantissa : ℤ) : ℚ) * 2 ^ exponent =
          mantissa * 2 ^ exponent := by simp [isNegative, signed]
      rw [hsigned, abs_of_pos hpositive, decide_eq_false (not_lt.mpr hpositive.le)]
      exact ⟨hsize, rfl⟩
    | negative =>
      have hsigned : ((signed (isNegative .negative) mantissa : ℤ) : ℚ) * 2 ^ exponent =
          -(mantissa * 2 ^ exponent) := by simp [isNegative, signed]
      rw [hsigned, abs_neg, abs_of_pos hpositive, decide_eq_true (neg_lt_zero.mpr hpositive)]
      exact ⟨hsize, rfl⟩

/-! ### The note behind the last place -/

/-- What a mantissa with its note says about a number. -/
def Notes (em : ExtendedMantissa) (x : ℚ) : Prop :=
  match em.roundBit, em.stickyBit with
  | false, false => x = em.mantissa
  | false, true => em.mantissa < x ∧ x < em.mantissa + 1 / 2
  | true, false => x = em.mantissa + 1 / 2
  | true, true => em.mantissa + 1 / 2 < x ∧ x < em.mantissa + 1

namespace Notes

variable {em : ExtendedMantissa} {x : ℚ}

theorem abs_roundedMantissa_sub_le (h : Notes em x) : |em.roundedMantissa - x| ≤ 1 / 2 := by
  obtain ⟨mantissa, roundBit, stickyBit⟩ := em
  have hparity : mantissa % 2 = 0 ∨ mantissa % 2 = 1 := by omega
  rw [abs_le]
  cases roundBit <;> cases stickyBit <;>
    simp only [Notes, ExtendedMantissa.roundedMantissa, ExtendedMantissa.accuracy,
      Accuracy.roundToNearestEven] at h ⊢
  · constructor <;> linarith
  · constructor <;> linarith
  · rcases hparity with heven | hodd
    · rw [heven]
      push_cast
      constructor <;> linarith
    · rw [hodd]
      push_cast
      constructor <;> linarith
  · push_cast
    constructor <;> linarith

theorem shiftRightOne (h : Notes em x) : Notes em.shiftRightOne (x / 2) := by
  obtain ⟨mantissa, roundBit, stickyBit⟩ := em
  have hsplit : (mantissa : ℚ) = 2 * (mantissa / 2 : ℕ) + (mantissa % 2 : ℕ) := by
    exact_mod_cast (Nat.div_add_mod mantissa 2).symm
  have hparity : mantissa % 2 = 0 ∨ mantissa % 2 = 1 := by omega
  rcases hparity with hbit | hbit <;> rw [hbit] at hsplit <;> push_cast at hsplit <;>
    cases roundBit <;> cases stickyBit <;>
    simp [Notes, ExtendedMantissa.shiftRightOne, hbit] at h ⊢ <;>
    (try constructor) <;> linarith

theorem shiftRight (h : Notes em x) (count : Nat) : Notes (em >>> count) (x / 2 ^ count) := by
  show Notes (Nat.repeat ExtendedMantissa.shiftRightOne count em) _
  induction count with
  | zero => simpa [Nat.repeat] using h
  | succ count ih =>
    rw [pow_succ, ← div_div]
    exact ih.shiftRightOne

end Notes

/-- What a note says about the part behind the last place of a mantissa. -/
def Fraction (accuracy : Accuracy) (f : ℚ) : Prop :=
  match accuracy with
  | .exact => f = 0
  | .inexact .lt => 0 < f ∧ f < 1 / 2
  | .inexact .eq => f = 1 / 2
  | .inexact .gt => 1 / 2 < f ∧ f < 1

private theorem notes_ofMantissaAndAccuracy {accuracy : Accuracy} {f : ℚ} (h : Fraction accuracy f)
    (mantissa : Nat) :
    Notes (ExtendedMantissa.ofMantissaAndAccuracy mantissa accuracy) (mantissa + f) := by
  cases accuracy with
  | exact => simpa [Notes, ExtendedMantissa.ofMantissaAndAccuracy, Fraction] using h
  | inexact place =>
    cases place <;>
      simp only [Notes, ExtendedMantissa.ofMantissaAndAccuracy, Fraction] at h ⊢ <;>
      (try constructor) <;> linarith

theorem fraction_bounds {accuracy : Accuracy} {f : ℚ} (h : Fraction accuracy f) :
    0 ≤ f ∧ f < 1 := by
  cases accuracy with
  | exact =>
    simp only [Fraction] at h
    constructor <;> linarith
  | inexact place => cases place <;> simp only [Fraction] at h <;> constructor <;> linarith

/-! ### Shifting to the exponent of a double -/

theorem targetExponent_eq (mantissa : Nat) (exponent : Int) :
    Format.binary64.targetExponent (totalExponent mantissa exponent) =
      max (mantissa.log2 + exponent - 52) (-1074) := by
  show max ((mantissa.log2 : Int) + 1 + exponent - 53) (-1074) = _
  congr 1
  omega

private theorem shift_short {mantissa : Nat} {exponent : Int} (hmantissa : mantissa < 2 ^ 53)
    (hexponent : -1074 ≤ exponent) :
    shiftToTargetExponent Format.binary64 mantissa exponent .exact = (⟨mantissa, false, false⟩, exponent) := by
  have hlog : mantissa.log2 ≤ 52 := by
    by_cases hzero : mantissa = 0
    · simp [hzero]
    · exact Nat.le_of_lt_succ ((Nat.log2_lt hzero).mpr hmantissa)
  have hcount : (max ((mantissa.log2 : Int) + exponent - 52) (-1074) - exponent).toNat = 0 := by omega
  rw [shiftToTargetExponent, targetExponent_eq, shiftToExponent]
  simp only [hcount]
  simp [ExtendedMantissa.ofMantissaAndAccuracy, HShiftRight.hShiftRight, Nat.repeat]

private theorem shift_carry {exponent : Int} (hexponent : -1074 ≤ exponent) :
    shiftToTargetExponent Format.binary64 (2 ^ 53) exponent .exact =
      (⟨2 ^ 52, false, false⟩, exponent + 1) := by
  have hcount : (max (((2 ^ 53 : Nat).log2 : Int) + exponent - 52) (-1074) - exponent).toNat = 1 := by
    rw [Nat.log2_two_pow]
    omega
  rw [shiftToTargetExponent, targetExponent_eq, shiftToExponent]
  simp only [hcount]
  rfl

private theorem nearest_shift {mantissa : Nat} {exponent : Int} {accuracy : Accuracy} {f : ℚ}
    (hf : Fraction accuracy f) (hlong : 2 ^ 52 ≤ mantissa ∨ exponent ≤ -1074) :
    let first := shiftToTargetExponent Format.binary64 mantissa exponent accuracy
    IsNearest ((mantissa + f) * 2 ^ exponent) (first.1.roundedMantissa * 2 ^ first.2) ∧
      -1074 ≤ first.2 ∧ first.1.roundedMantissa ≤ 2 ^ 53 ∧
      (2 ^ 52 ≤ first.1.roundedMantissa ∨ first.2 = -1074) := by
  obtain ⟨hf0, hf1⟩ := fraction_bounds hf
  set target := max ((mantissa.log2 : Int) + exponent - 52) (-1074) with htarget
  set count := (target - exponent).toNat with hcount
  have hexponent : exponent + count = target := by
    have hlog : 2 ^ 52 ≤ mantissa → 52 ≤ mantissa.log2 := by
      intro hle
      exact (Nat.le_log2 (by omega)).mpr hle
    omega
  have hfirst : shiftToTargetExponent Format.binary64 mantissa exponent accuracy =
      (ExtendedMantissa.ofMantissaAndAccuracy mantissa accuracy >>> count, target) := by
    rw [shiftToTargetExponent, targetExponent_eq, shiftToExponent, ← hexponent]
  rw [hfirst]
  dsimp only
  set em := ExtendedMantissa.ofMantissaAndAccuracy mantissa accuracy >>> count
  set x : ℚ := (mantissa + f) / 2 ^ count with hx
  have hnotes : Notes em x := (notes_ofMantissaAndAccuracy hf mantissa).shiftRight count
  have hv : (mantissa + f) * 2 ^ exponent = x * 2 ^ target := by
    rw [← hexponent, zpow_add₀ two_ne_zero, zpow_natCast, hx]
    field_simp
  have hcount : (0 : ℚ) < 2 ^ count := by positivity
  -- After the shift the mantissa has 53 bits, or the exponent is the least one.
  have hhigh : x < 2 ^ 53 := by
    have hmantissa : mantissa + 1 ≤ 2 ^ (53 + count) :=
      Nat.succ_le_of_lt (Nat.lt_log2_self.trans_le (Nat.pow_le_pow_right (by omega) (by omega)))
    have hmantissa : (mantissa : ℚ) + 1 ≤ 2 ^ (53 + count) := by exact_mod_cast hmantissa
    rw [hx, div_lt_iff₀ hcount, ← pow_add]
    linarith
  have hlow : target = -1074 ∨ 2 ^ 52 ≤ x := by
    by_cases hleast : target = -1074
    · exact Or.inl hleast
    · have hlog : mantissa.log2 = 52 + count := by omega
      have hmantissa : 2 ^ (52 + count) ≤ mantissa := by
        rw [← hlog]
        exact Nat.log2_self_le (by rintro rfl; simp at hlog; omega)
      have hmantissa : (2 : ℚ) ^ (52 + count) ≤ mantissa := by exact_mod_cast hmantissa
      rw [hx, le_div_iff₀ hcount, ← pow_add]
      exact Or.inr (by linarith)
  have hunits := isNearest_of_units (by omega) (by positivity) hhigh hlow
    hnotes.abs_roundedMantissa_sub_le
  rw [hv]
  exact ⟨hunits.1, by omega, hunits.2⟩

/-- What is put together after rounding is what the exact number is rounded to. -/
theorem rounded_roundWithAccuracy (s : Sign) {mantissa : Nat} {exponent : Int} {accuracy : Accuracy}
    {f : ℚ} (hf : Fraction accuracy f) (hlong : 2 ^ 52 ≤ mantissa ∨ exponent ≤ -1074) :
    Rounded (factor (isNegative s) * ((mantissa + f) * 2 ^ exponent))
      (.ofModel (Float.Model.pack
        (roundWithAccuracy Format.binary64 s mantissa exponent accuracy))) := by
  obtain ⟨hnearest, hexponent, hhigh, hlow⟩ := nearest_shift hf hlong
  rw [roundWithAccuracy]
  generalize shiftToTargetExponent Format.binary64 mantissa exponent accuracy = first at *
  obtain ⟨em, exponent'⟩ := first
  dsimp only at hnearest hexponent hhigh hlow ⊢
  have hnearest : IsNearest (factor (isNegative s) * ((mantissa + f) * 2 ^ exponent))
      (factor (isNegative s) * em.roundedMantissa * 2 ^ exponent') := by
    rw [mul_assoc]
    cases s with
    | positive => simpa using hnearest
    | negative => simpa using hnearest.neg
  generalize em.roundedMantissa = rounded at *
  -- A mantissa that was rounded up to 54 bits is shifted once more; its last bit is zero, so nothing is lost.
  by_cases hshort : rounded < 2 ^ 53
  · rw [shift_short hshort hexponent]
    dsimp only
    split
    · rename_i hzero
      rw [hzero, Nat.cast_zero, mul_zero, zero_mul] at hnearest
      exact rounded_zero s hnearest
    · exact rounded_finite ⟨hshort, hexponent, hlow⟩ (by rwa [signed_eq])
  · obtain rfl : rounded = 2 ^ 53 := by omega
    rw [shift_carry hexponent]
    dsimp only
    rw [dif_neg (by norm_num)]
    refine rounded_finite ⟨by norm_num, by omega, Or.inl (by norm_num)⟩ ?_
    rw [signed_eq]
    have hcarry : factor (isNegative s) * ((2 ^ 52 : ℕ) : ℚ) * 2 ^ (exponent' + 1) =
        factor (isNegative s) * ((2 ^ 53 : ℕ) : ℚ) * 2 ^ exponent' := by
      rw [zpow_add_one₀ two_ne_zero]
      push_cast
      ring
    rwa [hcarry]

end SpatialComputer.Binary64
