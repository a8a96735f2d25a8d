import SpatialComputer.Proofs.Binary64.Bounds

/-!
# Overflow

Where a computation goes on after an overflow. Sums of numbers that are not negative and roots stay infinite, and a quotient by an infinite number is zero, whatever is divided.
-/

namespace SpatialComputer.Binary64

open Float.Model Float.Model.UnpackedFloat

variable {x y : Float}

private theorem value_infinity :
    value (.ofModel (Float.Model.pack (.infinity .positive))) = .infinite false := by decide

private theorem add_unpacked_infinity {u : UnpackedFloat} (hu : u.isFinite = true ∨ u = .infinity .positive) :
    UnpackedFloat.add Format.binary64 (.infinity .positive) u = .infinity .positive ∧
      UnpackedFloat.add Format.binary64 u (.infinity .positive) = .infinity .positive := by
  rcases hu with hu | rfl
  · cases u with
    | notANumber | infinity => cases hu
    | zero | finite => exact ⟨rfl, rfl⟩
  · exact ⟨rfl, rfl⟩

theorem add_infinite (hx : value x = .infinite false) (hy : y.isFinite = true ∨ value y = .infinite false) :
    value (x + y) = .infinite false ∧ value (y + x) = .infinite false := by
  have hsum := add_unpacked_infinity (u := y.toModel.unpack) (hy.imp_right (unpack_eq_infinity .positive))
  rw [← unpack_eq_infinity .positive hx] at hsum
  constructor
  · show value (.ofModel (Float.Model.pack (UnpackedFloat.add _ x.toModel.unpack _))) = _
    rw [hsum.1, unpack_eq_infinity .positive hx, value_infinity]
  · show value (.ofModel (Float.Model.pack (UnpackedFloat.add _ _ x.toModel.unpack))) = _
    rw [hsum.2, unpack_eq_infinity .positive hx, value_infinity]

theorem sqrt_infinite (hx : value x = .infinite false) : value x.sqrt = .infinite false := by
  show value (.ofModel (Float.Model.pack (UnpackedFloat.sqrt _ x.toModel.unpack))) = _
  rw [unpack_eq_infinity .positive hx]
  exact value_infinity

theorem div_infinite (hx : x.isFinite = true) (hy : value y = .infinite false) :
    (x / y).isFinite = true ∧ toRat (x / y) = 0 := by
  show (Float.ofModel (Float.Model.pack (UnpackedFloat.div _ _ y.toModel.unpack))).isFinite = true ∧
    toRat (.ofModel (Float.Model.pack (UnpackedFloat.div _ x.toModel.unpack y.toModel.unpack))) = 0
  rw [unpack_eq_infinity .positive hy]
  change x.toModel.unpack.isFinite = true at hx
  cases h : x.toModel.unpack with
  | notANumber | infinity =>
    rw [h] at hx
    cases hx
  | zero s | finite s =>
    have hzero := rounded_zero (s / .positive) (nearest_self .zero)
    have hlargest : |(0 : ℚ)| ≤ largest := abs_zero.trans_le ((abs_nonneg _).trans (abs_toRat_le 0))
    exact hzero.exact_of_representable .zero hlargest

/-! ### Numbers that are not negative -/

/-- Whether a double is a number that is not negative, or above all numbers. -/
inductive NonnegOrInfinite (x : Float) : Prop where
  | finite (hfinite : x.isFinite = true) (hnonneg : 0 ≤ toRat x)
  | infinite (hvalue : value x = .infinite false)

namespace NonnegOrInfinite

private theorem of_rounded {v : ℚ} (h : Rounded v x) (hv : 0 ≤ v) : NonnegOrInfinite x := by
  rcases h.isFinite_or_infinite (y := 0) (by rwa [toRat_zero]) with hfinite | hinfinite
  · exact .finite hfinite ((h.nearest hfinite).le_of_ge .zero hv)
  · exact .infinite hinfinite

theorem mul_self (hx : x.isFinite = true) : NonnegOrInfinite (x * x) :=
  of_rounded (rounded_mul hx hx) (mul_self_nonneg _)

theorem add (hx : NonnegOrInfinite x) (hy : NonnegOrInfinite y) : NonnegOrInfinite (x + y) := by
  cases hx with
  | infinite hx =>
    cases hy with
    | finite hy _ => exact .infinite (add_infinite hx (.inl hy)).1
    | infinite hy => exact .infinite (add_infinite hx (.inr hy)).1
  | finite hx hnonneg =>
    cases hy with
    | finite hy hnonneg' => exact of_rounded (rounded_add hx hy) (add_nonneg hnonneg hnonneg')
    | infinite hy => exact .infinite (add_infinite hy (.inl hx)).2

end NonnegOrInfinite

end SpatialComputer.Binary64
