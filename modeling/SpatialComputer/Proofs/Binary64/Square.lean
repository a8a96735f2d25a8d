import SpatialComputer.Proofs.Binary64.Packing

/-!
# Squares of differences

A difference changes at most its sign when its operands are swapped, also where it overflows or is no number, and a square does not see the sign. So the square of a difference of doubles is the same double in both directions.
-/

namespace SpatialComputer.Binary64

open Float.Model Float.Model.UnpackedFloat

/-- An unpacked double with its sign forgotten. -/
def unsigned : UnpackedFloat → UnpackedFloat
  | .notANumber => .notANumber
  | .infinity _ => .infinity .positive
  | .zero _ => .zero .positive
  | .finite _ mantissa exponent hpos => .finite .positive mantissa exponent hpos

private theorem mul_self_unsigned (u : UnpackedFloat) :
    UnpackedFloat.mul Format.binary64 u u =
      UnpackedFloat.mul Format.binary64 (unsigned u) (unsigned u) := by
  have hsign : ∀ s : Sign, s * s = Sign.positive * Sign.positive := by
    intro s
    cases s <;> rfl
  cases u <;> simp only [unsigned, UnpackedFloat.mul, hsign]

/-! ### Differences -/

private theorem unsigned_roundWithAccuracy (s s' : Sign) (mantissa : Nat) (exponent : Int)
    (accuracy : Accuracy) :
    unsigned (roundWithAccuracy Format.binary64 s mantissa exponent accuracy) =
      unsigned (roundWithAccuracy Format.binary64 s' mantissa exponent accuracy) := by
  unfold roundWithAccuracy
  dsimp only
  split <;> rfl

private theorem unsigned_normalize_neg (mantissa exponent : Int) :
    unsigned (UnpackedFloat.normalize Format.binary64 (-mantissa) exponent .positive) =
      unsigned (UnpackedFloat.normalize Format.binary64 mantissa exponent .positive) := by
  unfold UnpackedFloat.normalize
  rcases lt_trichotomy mantissa 0 with hneg | rfl | hpos
  · have hswap : compare (-mantissa) 0 = .gt := by
      rw [compare_gt_iff_gt]
      omega
    rw [hswap, compare_lt_iff_lt.mpr hneg]
    exact unsigned_roundWithAccuracy _ _ _ _ _
  · rfl
  · have hswap : compare (-mantissa) 0 = .lt := by
      rw [compare_lt_iff_lt]
      omega
    rw [hswap, compare_gt_iff_gt.mpr hpos, neg_neg]
    exact unsigned_roundWithAccuracy _ _ _ _ _

private theorem unsigned_sub_swap (u w : UnpackedFloat) :
    unsigned (UnpackedFloat.sub Format.binary64 u w) =
      unsigned (UnpackedFloat.sub Format.binary64 w u) := by
  cases u with
  | notANumber => cases w <;> rfl
  | infinity s | zero s =>
    cases w with
    | notANumber | finite => rfl
    | infinity s' | zero s' => cases s <;> cases s' <;> rfl
  | finite s mantissa exponent hpos =>
    cases w with
    | notANumber | infinity | zero => rfl
    | finite s' mantissa' exponent' hpos' =>
      simp only [UnpackedFloat.sub, min_comm exponent' exponent]
      rw [← unsigned_normalize_neg, neg_sub]

/-! ### Packing -/

private theorem unsigned_unpack_packComponents (s : Sign) (field : BitVec Format.binary64.exponentBits)
    (mantissa : BitVec Format.binary64.mantissaBitsWithoutImplicit) :
    unsigned (UnpackedFloat.unpack Format.binary64 (packComponents Format.binary64 s field mantissa)) =
      unsigned (UnpackedFloat.unpack Format.binary64
        (packComponents Format.binary64 .positive field mantissa)) := by
  unfold UnpackedFloat.unpack
  simp only [unpackMantissa_packComponents, unpackExponent_packComponents, unpackSign_packComponents]
  split
  · split <;> rfl
  · split
    · split <;> rfl
    · rfl

private theorem unsigned_unpack_pack (u : UnpackedFloat) :
    unsigned (UnpackedFloat.unpack Format.binary64 (UnpackedFloat.pack Format.binary64 u)) =
      unsigned (UnpackedFloat.unpack Format.binary64
        (UnpackedFloat.pack Format.binary64 (unsigned u))) := by
  cases u with
  | notANumber => rfl
  | infinity s => cases s <;> rfl
  | zero s => cases s <;> rfl
  | finite s mantissa exponent hpos =>
    show unsigned (UnpackedFloat.unpack _ (UnpackedFloat.pack _ (.finite s mantissa exponent hpos))) =
      unsigned (UnpackedFloat.unpack _ (UnpackedFloat.pack _ (.finite .positive mantissa exponent hpos)))
    unfold UnpackedFloat.pack
    dsimp only
    split_ifs
    · cases s <;> rfl
    · exact unsigned_unpack_packComponents _ _ _
    · exact unsigned_unpack_packComponents _ _ _

/-- The square of a difference does not depend on the direction, whatever the operands are. -/
theorem square_sub_swap (x y : Float) : (x - y) * (x - y) = (y - x) * (y - x) := by
  have hunsigned : unsigned (x - y).toModel.unpack = unsigned (y - x).toModel.unpack := by
    show unsigned (UnpackedFloat.unpack _ (UnpackedFloat.pack _ (UnpackedFloat.sub _ _ _))) =
      unsigned (UnpackedFloat.unpack _ (UnpackedFloat.pack _ (UnpackedFloat.sub _ _ _)))
    rw [unsigned_unpack_pack, unsigned_sub_swap, ← unsigned_unpack_pack]
  show Float.ofModel (Float.Model.pack (UnpackedFloat.mul _ _ _)) =
    Float.ofModel (Float.Model.pack (UnpackedFloat.mul _ _ _))
  rw [mul_self_unsigned, hunsigned, ← mul_self_unsigned]

end SpatialComputer.Binary64
