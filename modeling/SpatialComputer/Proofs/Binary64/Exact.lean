import SpatialComputer.Proofs.Binary64.Nearest
import SpatialComputer.Proofs.Binary64.Packing

/-!
# The number that a double stands for

Every finite double stands for a representable number below `2 ^ 1024`, and comparisons of finite doubles are comparisons of these numbers. What an operation rounds to is a nearest representable number, or an infinity if that number is too large: as long as the exact result stays half of a last place below `2 ^ 1024`, the rounded one is finite.
-/

namespace SpatialComputer.Binary64

open Float.Model Float.Model.UnpackedFloat

/-- The number that a value stands for; zero if it stands for none. -/
def Value.toRat : Value → ℚ
  | .nan => 0
  | .infinite _ => 0
  | .finite negative mantissa exponent => signed negative mantissa * 2 ^ exponent

def toRat (x : Float) : ℚ := (value x).toRat

/-! ### Parts -/

theorem value_bounds {x : Float} {negative : Bool} {mantissa : Nat} {exponent : Int}
    (h : value x = .finite negative mantissa exponent) :
    mantissa < 2 ^ 53 ∧ -1074 ≤ exponent ∧ exponent ≤ 971 ∧
      (2 ^ 52 ≤ mantissa ∨ exponent = -1074) := by
  unfold value Value.ofBits at h
  have hfraction := Nat.mod_lt x.toBits.toNat (by decide : 0 < fractionBound)
  have hfield := Nat.mod_lt (x.toBits.toNat / fractionBound) (by decide : 0 < 2048)
  have hbound : fractionBound = 2 ^ 52 := rfl
  dsimp only at h
  split at h
  · split at h <;> cases h
  · split at h
    · cases h
      omega
    · cases h
      omega

theorem isFinite_iff {x : Float} :
    x.isFinite = true ↔ ∃ negative mantissa exponent, value x = .finite negative mantissa exponent := by
  rw [value_eq]
  show x.toModel.unpack.isFinite = true ↔ _
  cases x.toModel.unpack <;> simp [UnpackedFloat.isFinite, Value.ofUnpacked]

theorem isNaN_iff {x : Float} : x.isNaN = true ↔ value x = .nan := by
  rw [value_eq]
  show x.toModel.unpack.isNaN = true ↔ _
  cases x.toModel.unpack <;> simp [UnpackedFloat.isNaN, Value.ofUnpacked]

/-- The factor by which a sign changes a number. -/
def factor (negative : Bool) : ℚ := if negative then -1 else 1

@[simp] theorem factor_false : factor false = 1 := rfl

@[simp] theorem factor_true : factor true = -1 := rfl

theorem factor_mul_self (negative : Bool) : factor negative * factor negative = 1 := by
  cases negative <;> norm_num

theorem signed_eq (negative : Bool) (mantissa : Nat) :
    ((signed negative mantissa : ℤ) : ℚ) = factor negative * mantissa := by
  cases negative <;> simp [signed]

theorem factor_bne (negative negative' : Bool) :
    factor (negative != negative') = factor negative * factor negative' := by
  cases negative <;> cases negative' <;> norm_num

theorem abs_factor (negative : Bool) : |factor negative| = 1 := by
  cases negative <;> norm_num

theorem abs_signed (negative : Bool) (mantissa : Nat) :
    |signed negative mantissa| = mantissa := by
  cases negative <;> simp [signed]

theorem representable_toRat (x : Float) : Representable (toRat x) := by
  unfold toRat
  cases h : value x with
  | nan | infinite => exact .zero
  | finite negative mantissa exponent =>
    obtain ⟨hmantissa, hexponent, -⟩ := value_bounds h
    refine ⟨signed negative mantissa, exponent, ?_, hexponent, rfl⟩
    rw [abs_signed]
    exact_mod_cast hmantissa

/-- The largest number that a double stands for. -/
def largest : ℚ := (2 ^ 53 - 1) * 2 ^ 971

theorem representable_largest : Representable largest := by
  refine ⟨2 ^ 53 - 1, 971, by norm_num, by norm_num, ?_⟩
  rw [largest, zpow_ofNat, show ((2 ^ 53 - 1 : ℤ) : ℚ) = 2 ^ 53 - 1 by norm_num]

theorem largest_add : largest + 2 ^ 971 = 2 ^ 1024 := by
  have h : (2 : ℚ) ^ 1024 = 2 ^ 53 * 2 ^ 971 := pow_add 2 53 971
  rw [h, largest]
  generalize (2 : ℚ) ^ 971 = place
  ring

theorem largest_lt : largest < 2 ^ 1024 := by
  rw [← largest_add]
  exact lt_add_of_pos_right _ (by positivity)

theorem abs_toRat_le (x : Float) : |toRat x| ≤ largest := by
  unfold toRat
  cases h : value x with
  | nan | infinite =>
    rw [Value.toRat, abs_zero, largest]
    positivity
  | finite negative mantissa exponent =>
    obtain ⟨hmantissa, -, hexponent, -⟩ := value_bounds h
    have hmantissa : ((mantissa : ℤ) : ℚ) ≤ 2 ^ 53 - 1 := by
      have hle : (mantissa : ℤ) ≤ 2 ^ 53 - 1 := by omega
      exact_mod_cast hle
    have hexponent : (2 : ℚ) ^ exponent ≤ 2 ^ (971 : ℤ) :=
      zpow_le_zpow_right₀ one_le_two hexponent
    rw [Value.toRat, abs_mul, abs_of_pos (by positivity : (0 : ℚ) < 2 ^ exponent), ← Int.cast_abs,
      abs_signed, largest]
    exact mul_le_mul hmantissa hexponent (by positivity) (by norm_num)

theorem toRat_le_largest (x : Float) : toRat x ≤ largest := (abs_le.mp (abs_toRat_le x)).2

theorem neg_largest_le_toRat (x : Float) : -largest ≤ toRat x := (abs_le.mp (abs_toRat_le x)).1

theorem toRat_of_not_isFinite {x : Float} (h : x.isFinite = false) : toRat x = 0 := by
  unfold toRat
  cases hx : value x with
  | nan | infinite => rfl
  | finite negative mantissa exponent =>
    rw [isFinite_iff.mpr ⟨_, _, _, hx⟩] at h
    cases h

/-! ### Rounding -/

/-- Whether a double is what a number is rounded to: a nearest number, or an infinity if that number is too large. -/
def Rounded (v : ℚ) (x : Float) : Prop :=
  ∃ r, IsNearest v r ∧
    (|r| < 2 ^ 1024 ∧ x.isFinite = true ∧ toRat x = r ∨
      2 ^ 1024 ≤ |r| ∧ value x = .infinite (decide (r < 0)))

/-- The middle between the largest number of a double and `2 ^ 1024`: what reaches it may be rounded to an infinity. -/
def overflowBound : ℚ := largest + 2 ^ 970

namespace Rounded

variable {v q : ℚ} {x : Float}

theorem nearest (h : Rounded v x) (hfinite : x.isFinite = true) : IsNearest v (toRat x) := by
  obtain ⟨r, hr, ⟨-, -, rfl⟩ | ⟨-, hinfinite⟩⟩ := h
  · exact hr
  · obtain ⟨negative, mantissa, exponent, hx⟩ := isFinite_iff.mp hfinite
    rw [hx] at hinfinite
    cases hinfinite

/-- A number is rounded to a finite double if it stays below the overflow bound. -/
theorem isFinite_of_lt (h : Rounded v x) (hv : |v| < overflowBound) : x.isFinite = true := by
  obtain ⟨r, hr, ⟨-, hfinite, -⟩ | ⟨hlarge, -⟩⟩ := h
  · exact hfinite
  · exfalso
    wlog hpos : 0 ≤ v generalizing v r
    · exact this (by rwa [abs_neg]) (-r) hr.neg (by rwa [abs_neg]) (by linarith)
    rw [abs_of_nonneg hpos, overflowBound] at hv
    have hr0 : 0 ≤ r := hr.le_of_ge .zero hpos
    rw [abs_of_nonneg hr0] at hlarge
    have hle := hr.abs_sub_le _ representable_largest
    have hgap := largest_add
    have hhalf : (2 : ℚ) ^ 971 = 2 ^ 970 * 2 := pow_succ 2 970
    have hunit : (0 : ℚ) < 2 ^ 970 := by positivity
    generalize (2 : ℚ) ^ 970 = unit, (2 : ℚ) ^ 971 = place, (2 : ℚ) ^ 1024 = bound at *
    rcases le_total v largest with hsmall | hsmall
    · have := hr.le_of_le representable_largest hsmall
      linarith
    · rw [abs_of_nonneg (by linarith), abs_of_nonpos (by linarith)] at hle
      linarith

theorem isFinite_of_le (h : Rounded v x) (hv : |v| ≤ largest) : x.isFinite = true :=
  h.isFinite_of_lt (hv.trans_lt (lt_add_of_pos_right _ (by positivity)))

/-- A bound that is representable carries over to what is rounded. -/
theorem abs_toRat_le (h : Rounded v x) (hq : Representable q) (hv : |v| ≤ q) : |toRat x| ≤ q := by
  cases hfinite : x.isFinite with
  | true => exact (h.nearest hfinite).abs_le_of_abs_le hq hv
  | false =>
    rw [toRat_of_not_isFinite hfinite, abs_zero]
    exact (abs_nonneg v).trans hv

theorem exact_of_representable (h : Rounded v x) (hv : Representable v) (hlt : |v| ≤ largest) :
    x.isFinite = true ∧ toRat x = v := by
  have hfinite := h.isFinite_of_le hlt
  exact ⟨hfinite, (h.nearest hfinite).eq_self hv⟩

theorem exact_of_double {y : Float} (h : Rounded (toRat y) x) :
    x.isFinite = true ∧ toRat x = toRat y :=
  h.exact_of_representable (representable_toRat y) (Binary64.abs_toRat_le y)

/-- What is not below the number of a double does not overflow downwards. -/
theorem isFinite_or_infinite (h : Rounded v x) {y : Float} (hv : toRat y ≤ v) :
    x.isFinite = true ∨ value x = .infinite false := by
  obtain ⟨r, hr, ⟨-, hfinite, -⟩ | ⟨hlarge, hinfinite⟩⟩ := h
  · exact .inl hfinite
  · have hlow := neg_largest_le_toRat y
    have hr' := hr.le_of_ge (representable_toRat y) hv
    have hlarge' : largest < |r| := largest_lt.trans_le hlarge
    have hpos : ¬r < 0 := by
      intro hneg
      rw [abs_of_neg hneg] at hlarge'
      linarith
    rw [decide_eq_false hpos] at hinfinite
    exact .inr hinfinite

theorem isFinite_of_between {u w : ℚ} {y z : Float} (h : Rounded v x) (hu : Rounded u y)
    (hw : Rounded w z) (hy : y.isFinite = true) (hz : z.isFinite = true) (huv : u < v)
    (hvw : v < w) : x.isFinite = true := by
  obtain ⟨r, hr, ⟨-, hfinite, -⟩ | ⟨hlarge, -⟩⟩ := h
  · exact hfinite
  · have hlow := (hu.nearest hy).mono hr huv
    have hhigh := hr.mono (hw.nearest hz) hvw
    have hr' : |r| ≤ largest :=
      abs_le.mpr ⟨(neg_largest_le_toRat y).trans hlow, hhigh.trans (toRat_le_largest z)⟩
    exact absurd (hlarge.trans hr') (not_le.mpr largest_lt)

end Rounded

end SpatialComputer.Binary64
