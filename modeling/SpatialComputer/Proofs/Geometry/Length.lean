import Mathlib.Analysis.InnerProductSpace.PiL2
import SpatialComputer.Geometry.Vec3
import SpatialComputer.Proofs.Binary64.Overflow
import SpatialComputer.Proofs.Binary64.SquareRoot

/-!
# Lengths

The length of a vector of doubles beside that of the vector it stands for. It is computed from a sum of squares, which may overflow although the vector is finite; then the length is infinite. Otherwise it is right up to a small part; only of vectors so short that their squares may be lost is no more known than that they are not found to be long.
-/

namespace SpatialComputer

open Binary64

namespace Vec3

variable {a : Vec3}

/-- The vector of real numbers that a vector stands for. -/
noncomputable def exact (a : Vec3) : EuclideanSpace ℝ (Fin 3) :=
  !₂[(toRat a.x : ℝ), (toRat a.y : ℝ), (toRat a.z : ℝ)]

def exactSquare (a : Vec3) : ℚ := toRat a.x ^ 2 + toRat a.y ^ 2 + toRat a.z ^ 2

theorem norm_exact_sq (a : Vec3) : ‖a.exact‖ ^ 2 = a.exactSquare := by
  rw [EuclideanSpace.real_norm_sq_eq, Fin.sum_univ_three, exactSquare]
  push_cast
  rfl

theorem exact_eq_zero_iff : a.exact = 0 ↔ toRat a.x = 0 ∧ toRat a.y = 0 ∧ toRat a.z = 0 := by
  constructor
  · intro h
    have hcoordinate : ∀ i, a.exact i = 0 := fun i => by rw [h]; rfl
    exact ⟨Rat.cast_eq_zero.mp (hcoordinate 0), Rat.cast_eq_zero.mp (hcoordinate 1),
      Rat.cast_eq_zero.mp (hcoordinate 2)⟩
  · rintro ⟨hx, hy, hz⟩
    ext i
    fin_cases i
    · exact Rat.cast_eq_zero.mpr hx
    · exact Rat.cast_eq_zero.mpr hy
    · exact Rat.cast_eq_zero.mpr hz

theorem isZero_iff (ha : a.isFinite = true) : a.isZero = true ↔ a.exact = 0 := by
  obtain ⟨hx, hy, hz⟩ := (isFinite_iff a).mp ha
  rw [isZero, Bool.and_eq_true, Bool.and_eq_true, beq_iff hx isFinite_zero, beq_iff hy isFinite_zero,
    beq_iff hz isFinite_zero, toRat_zero, exact_eq_zero_iff, and_assoc]

theorem norm_exact_pos (hlong : 1 / 4 ≤ a.exactSquare) : 0 < ‖a.exact‖ := by
  refine (sq_pos_iff.mp ?_).lt_of_le' (norm_nonneg _)
  rw [norm_exact_sq]
  exact_mod_cast (by linarith : 0 < a.exactSquare)

/-! ### The sum of squares -/

theorem lengthSquared_nonnegOrInfinite (ha : a.isFinite = true) : NonnegOrInfinite a.lengthSquared := by
  obtain ⟨hx, hy, hz⟩ := (isFinite_iff a).mp ha
  exact ((NonnegOrInfinite.mul_self hx).add (.mul_self hy)).add (.mul_self hz)

private theorem square_close {x : Float} (hx : x.isFinite = true) (hsquare : (x * x).isFinite = true) :
    |toRat (x * x) - toRat x ^ 2| ≤ unitError * toRat x ^ 2 + gridStep / 2 ∧ 0 ≤ toRat (x * x) := by
  have hnearest := (rounded_mul hx hx).nearest hsquare
  rw [← sq] at hnearest
  have h := hnearest.abs_sub_le_mixed
  rw [abs_of_nonneg (sq_nonneg (toRat x))] at h
  exact ⟨h, hnearest.le_of_ge .zero (sq_nonneg _)⟩

private theorem sum_close {x y : Float} (hsum : (x + y).isFinite = true) (hx : 0 ≤ toRat x)
    (hy : 0 ≤ toRat y) :
    |toRat (x + y) - (toRat x + toRat y)| ≤ unitError * (toRat x + toRat y) ∧ 0 ≤ toRat (x + y) := by
  have hnearest := (rounded_add (isFinite_of_add hsum) (isFinite_of_add_right hsum)).nearest hsum
  have h := hnearest.abs_sub_le_of_onGrid ((OnGrid.toRat x).add (OnGrid.toRat y))
  rw [abs_of_nonneg (add_nonneg hx hy)] at h
  exact ⟨h, hnearest.le_of_ge .zero (add_nonneg hx hy)⟩

theorem lengthSquared_close (ha : a.isFinite = true) (hsquare : a.lengthSquared.isFinite = true) :
    |toRat a.lengthSquared - a.exactSquare| ≤ a.exactSquare / 2 ^ 50 + 4 * gridStep ∧
      0 ≤ toRat a.lengthSquared := by
  obtain ⟨hx, hy, hz⟩ := (isFinite_iff a).mp ha
  have hleft : (a.x * a.x + a.y * a.y).isFinite = true := isFinite_of_add hsquare
  obtain ⟨hcloseX, hposX⟩ := square_close hx (isFinite_of_add hleft)
  obtain ⟨hcloseY, hposY⟩ := square_close hy (isFinite_of_add_right hleft)
  obtain ⟨hcloseZ, hposZ⟩ := square_close hz (isFinite_of_add_right hsquare)
  obtain ⟨hcloseLeft, hposLeft⟩ := sum_close hleft hposX hposY
  obtain ⟨hclose, hpos⟩ := sum_close hsquare hposLeft hposZ
  refine ⟨?_, hpos⟩
  have hgrid := gridStep_pos
  rw [unitError, abs_le] at hcloseX hcloseY hcloseZ hcloseLeft hclose
  rw [lengthSquared, exactSquare, abs_le]
  have hsqX := sq_nonneg (toRat a.x)
  have hsqY := sq_nonneg (toRat a.y)
  have hsqZ := sq_nonneg (toRat a.z)
  generalize gridStep = step at *
  constructor <;> linarith

theorem lengthSquared_isFinite (hx : Bounded (2 ^ 511) a.x) (hy : Bounded (2 ^ 511) a.y)
    (hz : Bounded (2 ^ 511) a.z) : a.lengthSquared.isFinite = true := by
  have hpower : ∀ n : Nat, Representable (2 ^ n) := fun n => .two_zpow (e := n) (by omega)
  have hsquare : ∀ {x : Float}, Bounded (2 ^ 511) x → Bounded (2 ^ 1022) (x * x) := by
    intro x hx
    have hle := hx.abs_mul_le hx
    rw [← pow_add] at hle
    exact .of_representable (rounded_mul hx.isFinite hx.isFinite) hle (hpower _)
      (two_pow_le_largest (by norm_num))
  have hleft : Bounded (2 ^ 1023) (a.x * a.x + a.y * a.y) := by
    refine .of_representable (rounded_add (hsquare hx).isFinite (hsquare hy).isFinite) ?_
      (hpower _) (two_pow_le_largest (by norm_num))
    refine (abs_add_le _ _).trans ((add_le_add (hsquare hx).abs_le (hsquare hy).abs_le).trans_eq ?_)
    rw [← two_mul, ← pow_succ']
  refine (rounded_add hleft.isFinite (hsquare hz).isFinite).isFinite_of_le ?_
  refine (abs_add_le _ _).trans ((add_le_add hleft.abs_le (hsquare hz).abs_le).trans ?_)
  rw [largest, (pow_add 2 52 971 : (2 : ℚ) ^ 1023 = _), (pow_add 2 51 971 : (2 : ℚ) ^ 1022 = _), ← add_mul]
  gcongr
  norm_num

theorem lengthSquared_isFinite_of_exact_eq_zero (ha : a.isFinite = true) (hzero : a.exact = 0) :
    a.lengthSquared.isFinite = true := by
  have hsmall : ∀ {x : Float}, x.isFinite = true → toRat x = 0 → Bounded (2 ^ 511) x := by
    intro x hx hzero
    refine ⟨hx, ?_⟩
    rw [hzero, abs_zero]
    positivity
  obtain ⟨hx, hy, hz⟩ := (isFinite_iff a).mp ha
  obtain ⟨hzeroX, hzeroY, hzeroZ⟩ := exact_eq_zero_iff.mp hzero
  exact lengthSquared_isFinite (hsmall hx hzeroX) (hsmall hy hzeroY) (hsmall hz hzeroZ)

/-! ### The length -/

theorem length_isFinite (ha : a.isFinite = true) (hsquare : a.lengthSquared.isFinite = true) :
    a.length.isFinite = true :=
  (sqrt_spec hsquare (lengthSquared_close ha hsquare).2).1

theorem length_le (ha : a.isFinite = true) (hsquare : a.lengthSquared.isFinite = true) :
    toRat a.length ≤ 2 ^ 513 :=
  sqrt_le hsquare (lengthSquared_close ha hsquare).2

theorem length_infinite (ha : a.isFinite = true) (hsquare : a.lengthSquared.isFinite = false) :
    value a.length = .infinite false := by
  cases lengthSquared_nonnegOrInfinite ha with
  | finite hfinite => exact absurd (hsquare.symm.trans hfinite) Bool.false_ne_true
  | infinite hinfinite => exact sqrt_infinite hinfinite

private theorem length_sq_close (ha : a.isFinite = true) (hsquare : a.lengthSquared.isFinite = true) :
    |toRat a.length ^ 2 - a.exactSquare| ≤ a.exactSquare / 2 ^ 48 + 8 * gridStep ∧
      0 ≤ toRat a.length := by
  obtain ⟨hclose, hpos⟩ := lengthSquared_close ha hsquare
  obtain ⟨-, hnonneg, hroot⟩ := sqrt_spec hsquare hpos
  refine ⟨?_, hnonneg⟩
  have hgrid := gridStep_pos
  rw [rootError, abs_le] at hroot
  rw [abs_le] at hclose ⊢
  rw [length]
  generalize gridStep = step at *
  constructor <;> linarith

/-- Vectors shorter than one half are found to be no longer than one. -/
theorem length_le_one (ha : a.isFinite = true) (hsquare : a.lengthSquared.isFinite = true)
    (hshort : a.exactSquare < 1 / 4) : toRat a.length ≤ 1 := by
  obtain ⟨hclose, -⟩ := length_sq_close ha hsquare
  have hgrid := gridStep_le
  have hhigh := (abs_le.mp hclose).2
  have hle : toRat a.length ^ 2 ≤ 1 ^ 2 := by linarith
  exact le_of_sq_le_sq hle zero_le_one

/-- The part of a length that it may be off by. -/
noncomputable def lengthError : ℝ := 1 / 2 ^ 47

/-- The length of a vector that is not short is right up to a small part. -/
theorem length_close (ha : a.isFinite = true) (hsquare : a.lengthSquared.isFinite = true)
    (hlong : 1 / 4 ≤ a.exactSquare) : |toRat a.length - ‖a.exact‖| ≤ lengthError * ‖a.exact‖ := by
  obtain ⟨hclose, hnonneg⟩ := length_sq_close ha hsquare
  have hgrid := gridStep_le
  have hclose : |toRat a.length ^ 2 - a.exactSquare| ≤ a.exactSquare / 2 ^ 47 := by linarith
  have hclose : |(toRat a.length : ℝ) ^ 2 - ‖a.exact‖ ^ 2| ≤ ‖a.exact‖ ^ 2 / 2 ^ 47 := by
    rw [norm_exact_sq]
    exact_mod_cast hclose
  have hnonneg : (0 : ℝ) ≤ toRat a.length := by exact_mod_cast hnonneg
  have hpos := norm_exact_pos hlong
  rw [sq_sub_sq, abs_mul, abs_of_pos (by linarith)] at hclose
  rw [lengthError]
  have hscaled : ‖a.exact‖ * |toRat a.length - ‖a.exact‖| ≤ ‖a.exact‖ * (1 / 2 ^ 47 * ‖a.exact‖) := by
    nlinarith [abs_nonneg ((toRat a.length : ℝ) - ‖a.exact‖)]
  exact le_of_mul_le_mul_left hscaled hpos

end Vec3

end SpatialComputer
