import SpatialComputer.Proofs.Binary64.Circle
import SpatialComputer.Sampling.Draw

/-!
# Numbers from stream values

The 52 bits that are taken from a value of the stream count exactly how many units in the last place below one the drawn number is. Nothing is rounded, so a drawn number is a multiple of `2 ^ (-52)` in `[0, 1)`, and drawn angles lie within a full turn.
-/

namespace SpatialComputer.Sampling

open Binary64

private theorem value_oneAndBits (v : UInt64) :
    value (.ofBits ((0x3ff0000000000000 : UInt64) ||| (v >>> 12))) =
      .finite false (2 ^ 52 + v.toNat / 2 ^ 12) (-52) := by
  have hv : v.toNat < 2 ^ 64 := v.toNat_lt
  have hbits : ((0x3ff0000000000000 : UInt64) ||| (v >>> 12)).toNat =
      2 ^ 52 * 1023 + v.toNat / 2 ^ 12 := by
    rw [UInt64.toNat_or, UInt64.toNat_shiftRight, Nat.two_pow_add_eq_or_of_lt (by omega)]
    simp [Nat.shiftRight_eq_div_pow]
  have hfield : (2 ^ 52 * 1023 + v.toNat / 2 ^ 12) / fractionBound % 2048 = 1023 := by
    simp only [fractionBound]
    omega
  have hfraction : (2 ^ 52 * 1023 + v.toNat / 2 ^ 12) % fractionBound = v.toNat / 2 ^ 12 := by
    simp only [fractionBound]
    omega
  have hsign : ¬signBit ≤ 2 ^ 52 * 1023 + v.toNat / 2 ^ 12 := by
    simp only [signBit]
    omega
  rw [value_ofBits, hbits, Value.ofBits, hfield, hfraction, decide_eq_false hsign]
  rfl

theorem unitOf_spec (v : UInt64) :
    (unitOf v).isFinite = true ∧ toRat (unitOf v) = (v.toNat / 2 ^ 12 : Nat) / 2 ^ 52 := by
  have hv : v.toNat < 2 ^ 64 := v.toNat_lt
  have hparts := value_oneAndBits v
  obtain ⟨top, htop⟩ : ∃ top, top = v.toNat / 2 ^ 12 := ⟨_, rfl⟩
  have htop' : top < 2 ^ 52 := by omega
  rw [← htop] at hparts
  obtain ⟨hfinite, hrat⟩ := toRat_of_value hparts
  have hone := toRat_of_value (by decide : value 1 = .finite false (2 ^ 52) (-52))
  have hdifference : toRat (.ofBits ((0x3ff0000000000000 : UInt64) ||| (v >>> 12))) - toRat 1 =
      (top : ℤ) * 2 ^ (-52 : ℤ) := by
    rw [hrat, hone.2, factor_false]
    push_cast
    ring
  have hle : |(top : ℤ)| ≤ 2 ^ 53 := by
    rw [Nat.abs_cast]
    omega
  have hsmall : |((top : ℤ) : ℚ) * 2 ^ (-52 : ℤ)| ≤ largest := by
    have htop : ((top : ℤ) : ℚ) ≤ 2 ^ 52 := by exact_mod_cast htop'.le
    rw [abs_of_nonneg (by positivity), zpow_neg, zpow_ofNat, ← div_eq_mul_inv]
    exact ((div_le_one (by positivity)).mpr htop).trans one_le_largest
  have hrounded := rounded_sub hfinite hone.1
  rw [hdifference] at hrounded
  obtain ⟨hfinite, hrat⟩ :=
    hrounded.exact_of_representable (.of_abs_le hle (by norm_num)) hsmall
  refine ⟨hfinite, hrat.trans ?_⟩
  rw [← htop, zpow_neg, zpow_ofNat, ← div_eq_mul_inv, Int.cast_natCast]

theorem isFinite_unitOf (v : UInt64) : (unitOf v).isFinite = true := (unitOf_spec v).1

theorem unitOf_nonneg (v : UInt64) : 0 ≤ toRat (unitOf v) := by
  rw [(unitOf_spec v).2]
  positivity

theorem unitOf_le (v : UInt64) : toRat (unitOf v) ≤ 1 - 1 / 2 ^ 52 := by
  have hv : v.toNat < 2 ^ 64 := v.toNat_lt
  have htop : v.toNat / 2 ^ 12 + 1 ≤ 2 ^ 52 := by omega
  have htop : ((v.toNat / 2 ^ 12 : Nat) : ℚ) + 1 ≤ 2 ^ 52 := by exact_mod_cast htop
  rw [(unitOf_spec v).2, div_le_iff₀ (by positivity)]
  linarith

theorem unitOf_bounded (v : UInt64) : Bounded 1 (unitOf v) :=
  (Bounded.self (isFinite_unitOf v) (unitOf_nonneg v)).mono ((unitOf_le v).trans (by norm_num))

theorem turn_spec : turn.isFinite = true ∧ toRat turn = 884279719003555 / 140737488355328 := by
  have h := toRat_of_value (by decide : value turn = .finite false 7074237752028440 (-50))
  norm_num at h
  exact h

theorem angle_bounds (s : Keystream) :
    (angle s).1.isFinite = true ∧ 0 ≤ toRat (angle s).1 ∧ toRat (angle s).1 ≤ 63 / 10 := by
  obtain ⟨hturnFinite, hturn⟩ := turn_spec
  have hturnNonneg : 0 ≤ toRat turn := by
    rw [hturn]
    norm_num
  have hbounded : Bounded (toRat turn) (unitOf s.next.1 * turn) := by
    rw [product_comm]
    exact (Bounded.self hturnFinite hturnNonneg).mul_of_one (unitOf_bounded _)
  have hnearest := (rounded_mul (isFinite_unitOf s.next.1) hturnFinite).nearest hbounded.isFinite
  have hnonneg := hnearest.le_of_ge .zero (mul_nonneg (unitOf_nonneg _) hturnNonneg)
  refine ⟨hbounded.isFinite, hnonneg, ((le_abs_self _).trans hbounded.abs_le).trans ?_⟩
  rw [hturn]
  norm_num

end SpatialComputer.Sampling
