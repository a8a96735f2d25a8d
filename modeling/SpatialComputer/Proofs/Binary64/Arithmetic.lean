import SpatialComputer.Proofs.Binary64.Rounding

/-!
# Operations on doubles

Sums, differences, products and quotients of finite doubles are the exact ones, rounded. Each operation brings its operands to mantissas and exponents and leaves the rest to rounding, so what has to be shown of it is that its mantissa is exact and long enough.
-/

namespace SpatialComputer.Binary64

open Float.Model Float.Model.UnpackedFloat

/-! ### Operands -/

/-- The number that an unpacked double stands for. -/
def unpackedRat (u : UnpackedFloat) : ℚ := (Value.ofUnpacked u).toRat

theorem toRat_eq (x : Float) : toRat x = unpackedRat x.toModel.unpack := by
  rw [toRat, value_eq, unpackedRat]

@[simp] theorem unpackedRat_finite (s : Sign) (mantissa : Nat) (exponent : Int) (hpos : 0 < mantissa) :
    unpackedRat (.finite s mantissa exponent hpos) = factor (isNegative s) * mantissa * 2 ^ exponent := by
  rw [unpackedRat, Value.ofUnpacked, Value.toRat, signed_eq]

@[simp] theorem unpackedRat_zero (s : Sign) : unpackedRat (.zero s) = 0 := by
  cases s <;> simp [unpackedRat, Value.ofUnpacked, Value.toRat, signed, isNegative]

@[simp] theorem factor_isNegative_neg (s : Sign) : factor (isNegative (-s)) = -factor (isNegative s) := by
  cases s <;> rfl

theorem canonical_unpack (x : Float) : Canonical x.toModel.unpack := by
  have hvalue := value_eq x
  cases h : x.toModel.unpack with
  | finite s mantissa exponent hpos =>
    rw [h] at hvalue
    obtain ⟨hhigh, hexponent, -, hlow⟩ := value_bounds hvalue
    exact ⟨hhigh, hexponent, hlow⟩
  | _ => trivial

theorem pack_unpack_eq (x : Float) : Float.ofModel (Float.Model.pack x.toModel.unpack) = x := by
  apply Float.toBits_inj.mp
  apply UInt64.toBitVec_inj.mp
  exact pack_unpack_of_valid x.toModel.valid

theorem nearest_self {q : ℚ} (h : Representable q) : IsNearest q q := by
  refine ⟨h, fun q' _ => ?_⟩
  rw [sub_self, abs_zero]
  exact abs_nonneg _

private theorem rounded_pack {u : UnpackedFloat} (canonical : Canonical u)
    (hfinite : u.isFinite = true) : Rounded (unpackedRat u) (.ofModel (Float.Model.pack u)) := by
  cases u with
  | notANumber | infinity => cases hfinite
  | zero s =>
    rw [unpackedRat_zero]
    exact rounded_zero s (nearest_self .zero)
  | finite s mantissa exponent hpos =>
    rw [unpackedRat_finite, ← signed_eq]
    refine rounded_finite canonical (nearest_self ⟨_, _, ?_, canonical.2.1, rfl⟩)
    rw [abs_signed]
    exact_mod_cast canonical.1

theorem isFinite_neg {x : Float} (hx : x.isFinite = true) :
    (-x).isFinite = true ∧ toRat (-x) = -toRat x := by
  have hcanonical := canonical_unpack x
  have hle := abs_toRat_le x
  have hrepresentable := (representable_toRat x).neg
  rw [← abs_neg] at hle
  replace hx : x.toModel.unpack.isFinite = true := hx
  rw [toRat_eq x] at hle hrepresentable ⊢
  show (Float.ofModel (Float.Model.pack x.toModel.unpack.neg)).isFinite = true ∧
    toRat (.ofModel (Float.Model.pack x.toModel.unpack.neg)) = _
  cases h : x.toModel.unpack with
  | notANumber | infinity =>
    rw [h] at hx
    cases hx
  | zero s =>
    rw [h, unpackedRat_zero, neg_zero] at hle hrepresentable
    rw [unpackedRat_zero, neg_zero]
    exact (rounded_zero _ (nearest_self .zero)).exact_of_representable .zero hle
  | finite s mantissa exponent hpos =>
    rw [h] at hcanonical hle hrepresentable
    have hneg : -unpackedRat (.finite s mantissa exponent hpos) =
        unpackedRat (.finite (-s) mantissa exponent hpos) := by simp
    rw [hneg] at hle hrepresentable ⊢
    have hcanonical : Canonical (.finite (-s) mantissa exponent hpos) := hcanonical
    exact (rounded_pack hcanonical rfl).exact_of_representable hrepresentable hle

/-! ### Sums and differences -/

private theorem rounded_round (s : Sign) {mantissa : Nat} (hpos : 0 < mantissa) (exponent : Int) :
    Rounded (factor (isNegative s) * (mantissa * 2 ^ exponent))
      (.ofModel (Float.Model.pack (UnpackedFloat.round Format.binary64 s mantissa exponent))) := by
  rw [UnpackedFloat.round, targetExponent_eq, decreaseExponent]
  dsimp only
  set target := max ((mantissa.log2 : Int) + exponent - 52) (-1074)
  set count := (exponent - target).toNat with hcount
  have hlong : 2 ^ 52 ≤ mantissa <<< count ∨ exponent - count ≤ -1074 := by
    by_cases hleast : target = -1074
    · exact Or.inr (by omega)
    · left
      have hlog : 52 ≤ mantissa.log2 + count := by omega
      rw [Nat.shiftLeft_eq]
      calc 2 ^ 52 ≤ 2 ^ (mantissa.log2 + count) := Nat.pow_le_pow_right (by omega) hlog
        _ = 2 ^ mantissa.log2 * 2 ^ count := by rw [pow_add]
        _ ≤ mantissa * 2 ^ count := Nat.mul_le_mul_right _ (Nat.log2_self_le hpos.ne')
  have hexact : (mantissa : ℚ) * 2 ^ exponent = ((mantissa <<< count : ℕ) + 0) * 2 ^ (exponent - count) := by
    rw [Nat.shiftLeft_eq, add_zero, zpow_sub₀ two_ne_zero, zpow_natCast]
    push_cast
    field_simp
  rw [hexact]
  exact rounded_roundWithAccuracy s rfl hlong

private theorem rounded_normalize (mantissa exponent : Int) (s : Sign) :
    Rounded (mantissa * 2 ^ exponent)
      (.ofModel (Float.Model.pack (normalize Format.binary64 mantissa exponent s))) := by
  rw [UnpackedFloat.normalize]
  rcases lt_trichotomy mantissa 0 with hneg | hzero | hpos
  · rw [Int.compare_eq_lt.mpr hneg]
    have h := rounded_round .negative (by omega : 0 < (-mantissa).toNat) exponent
    have hmantissa : (((-mantissa).toNat : ℕ) : ℚ) = -mantissa := by
      have h : ((-mantissa).toNat : ℤ) = -mantissa := Int.toNat_of_nonneg (by omega)
      exact_mod_cast h
    rw [hmantissa] at h
    simpa  using h
  · subst hzero
    rw [Int.cast_zero, zero_mul]
    exact rounded_zero s (nearest_self .zero)
  · rw [Int.compare_eq_gt.mpr hpos]
    have h := rounded_round .positive (by omega : 0 < mantissa.toNat) exponent
    have hmantissa : ((mantissa.toNat : ℕ) : ℚ) = mantissa := by
      have h : (mantissa.toNat : ℤ) = mantissa := Int.toNat_of_nonneg (by omega)
      exact_mod_cast h
    rw [hmantissa] at h
    simpa  using h

private theorem decreaseExponent_eq (s : Sign) (mantissa : Nat) {exponent target : Int}
    (hle : target ≤ exponent) :
    ((s.apply ((decreaseExponent mantissa exponent target).1 : ℤ) : ℤ) : ℚ) * 2 ^ target =
      factor (isNegative s) * mantissa * 2 ^ exponent := by
  have hsplit : (2 : ℚ) ^ exponent = 2 ^ (exponent - target).toNat * 2 ^ target := by
    rw [← zpow_natCast, ← zpow_add₀ two_ne_zero]
    congr 1
    omega
  rw [decreaseExponent, hsplit, Nat.shiftLeft_eq]
  cases s <;> simp [Sign.apply] <;> ring

private theorem rounded_add_unpacked {u w : UnpackedFloat} (hu : Canonical u) (hw : Canonical w)
    (hu' : u.isFinite = true) (hw' : w.isFinite = true) :
    Rounded (unpackedRat u + unpackedRat w)
      (.ofModel (Float.Model.pack (UnpackedFloat.add Format.binary64 u w))) := by
  cases u with
  | notANumber | infinity => cases hu'
  | zero s =>
    cases w with
    | notANumber | infinity => cases hw'
    | zero s' =>
      rw [UnpackedFloat.add, unpackedRat_zero, unpackedRat_zero, add_zero]
      split <;> exact rounded_zero _ (nearest_self .zero)
    | finite s' mantissa exponent hpos =>
      rw [unpackedRat_zero, zero_add]
      exact rounded_pack hw hw'
  | finite s mantissa exponent hpos =>
    cases w with
    | notANumber | infinity => cases hw'
    | zero s' =>
      rw [unpackedRat_zero, add_zero]
      exact rounded_pack hu hu'
    | finite s' mantissa' exponent' hpos' =>
      rw [UnpackedFloat.add, unpackedRat_finite, unpackedRat_finite,
        ← decreaseExponent_eq s mantissa (min_le_left exponent exponent'),
        ← decreaseExponent_eq s' mantissa' (min_le_right exponent exponent'), ← add_mul]
      exact_mod_cast rounded_normalize _ _ _

private theorem rounded_sub_unpacked {u w : UnpackedFloat} (hu : Canonical u) (hw : Canonical w)
    (hu' : u.isFinite = true) (hw' : w.isFinite = true) :
    Rounded (unpackedRat u - unpackedRat w)
      (.ofModel (Float.Model.pack (UnpackedFloat.sub Format.binary64 u w))) := by
  cases u with
  | notANumber | infinity => cases hu'
  | zero s =>
    cases w with
    | notANumber | infinity => cases hw'
    | zero s' =>
      rw [UnpackedFloat.sub, unpackedRat_zero, unpackedRat_zero, sub_zero]
      split <;> exact rounded_zero _ (nearest_self .zero)
    | finite s' mantissa exponent hpos =>
      have h : Rounded (unpackedRat (.finite (-s') mantissa exponent hpos)) _ := rounded_pack hw hw'
      rw [unpackedRat_finite, factor_isNegative_neg] at h
      rw [unpackedRat_zero, zero_sub, unpackedRat_finite, ← neg_mul, ← neg_mul]
      exact h
  | finite s mantissa exponent hpos =>
    cases w with
    | notANumber | infinity => cases hw'
    | zero s' =>
      rw [unpackedRat_zero, sub_zero]
      exact rounded_pack hu hu'
    | finite s' mantissa' exponent' hpos' =>
      rw [UnpackedFloat.sub, unpackedRat_finite, unpackedRat_finite,
        ← decreaseExponent_eq s mantissa (min_le_left exponent exponent'),
        ← decreaseExponent_eq s' mantissa' (min_le_right exponent exponent'), ← sub_mul]
      exact_mod_cast rounded_normalize _ _ _

/-- The sum of finite doubles is the exact sum, rounded. -/
theorem rounded_add {x y : Float} (hx : x.isFinite = true) (hy : y.isFinite = true) :
    Rounded (toRat x + toRat y) (x + y) := by
  rw [toRat_eq, toRat_eq]
  exact rounded_add_unpacked (canonical_unpack x) (canonical_unpack y) hx hy

theorem rounded_sub {x y : Float} (hx : x.isFinite = true) (hy : y.isFinite = true) :
    Rounded (toRat x - toRat y) (x - y) := by
  rw [toRat_eq, toRat_eq]
  exact rounded_sub_unpacked (canonical_unpack x) (canonical_unpack y) hx hy

private theorem add_unpacked_of_not_finite {u w : UnpackedFloat} (hu : u.isFinite = false) :
    UnpackedFloat.add Format.binary64 u w = .notANumber ∨
      ∃ s, UnpackedFloat.add Format.binary64 u w = .infinity s := by
  cases u with
  | zero | finite => cases hu
  | notANumber => exact .inl (by cases w <;> rfl)
  | infinity s =>
    cases w with
    | notANumber => exact .inl rfl
    | zero | finite => exact .inr ⟨s, rfl⟩
    | infinity s' =>
      cases s with
      | positive =>
        cases s' with
        | positive => exact .inr ⟨_, rfl⟩
        | negative => exact .inl rfl
      | negative =>
        cases s' with
        | positive => exact .inl rfl
        | negative => exact .inr ⟨_, rfl⟩

private theorem isFinite_of_unpacked {u : UnpackedFloat}
    (h : u = .notANumber ∨ ∃ s, u = .infinity s) :
    (Float.ofModel (Float.Model.pack u)).isFinite = false := by
  rcases h with rfl | ⟨s, rfl⟩
  · decide
  · cases s <;> decide

theorem isFinite_of_add {x y : Float} (h : (x + y).isFinite = true) : x.isFinite = true := by
  cases hx : x.isFinite with
  | true => rfl
  | false => exact (isFinite_of_unpacked (add_unpacked_of_not_finite hx)).symm.trans h

private theorem add_unpacked_of_right {u w : UnpackedFloat} (hw : w.isFinite = false) :
    UnpackedFloat.add Format.binary64 u w = .notANumber ∨
      ∃ s, UnpackedFloat.add Format.binary64 u w = .infinity s := by
  cases w with
  | zero | finite => cases hw
  | notANumber => exact .inl (by cases u <;> rfl)
  | infinity s =>
    cases hu : u.isFinite with
    | false => exact add_unpacked_of_not_finite hu
    | true =>
      cases u with
      | notANumber | infinity => cases hu
      | zero | finite => exact .inr ⟨s, rfl⟩

theorem isFinite_of_add_right {x y : Float} (h : (x + y).isFinite = true) : y.isFinite = true := by
  cases hy : y.isFinite with
  | true => rfl
  | false => exact (isFinite_of_unpacked (add_unpacked_of_right hy)).symm.trans h

private theorem sub_unpacked_of_not_finite {u w : UnpackedFloat}
    (h : u.isFinite = false ∨ w.isFinite = false) :
    UnpackedFloat.sub Format.binary64 u w = .notANumber ∨
      ∃ s, UnpackedFloat.sub Format.binary64 u w = .infinity s := by
  cases u with
  | notANumber => exact .inl (by cases w <;> rfl)
  | infinity s =>
    cases w with
    | notANumber => exact .inl rfl
    | zero | finite => exact .inr ⟨s, rfl⟩
    | infinity s' =>
      cases s with
      | positive =>
        cases s' with
        | positive => exact .inl rfl
        | negative => exact .inr ⟨_, rfl⟩
      | negative =>
        cases s' with
        | positive => exact .inr ⟨_, rfl⟩
        | negative => exact .inl rfl
  | zero | finite =>
    have hw : w.isFinite = false := h.resolve_left nofun
    cases w with
    | zero | finite => cases hw
    | notANumber => exact .inl rfl
    | infinity s => exact .inr ⟨_, rfl⟩

theorem isFinite_of_sub {x y : Float} (h : (x - y).isFinite = true) :
    x.isFinite = true ∧ y.isFinite = true := by
  by_contra hnot
  rw [not_and_or, Bool.not_eq_true, Bool.not_eq_true] at hnot
  exact Bool.false_ne_true ((isFinite_of_unpacked (sub_unpacked_of_not_finite hnot)).symm.trans h)

/-! ### Products and quotients -/

private theorem isNegative_mul (s s' : Sign) : isNegative (s * s') = (isNegative s != isNegative s') := by
  cases s <;> cases s' <;> rfl

private theorem isNegative_div (s s' : Sign) : isNegative (s / s') = (isNegative s != isNegative s') := by
  cases s <;> cases s' <;> rfl

private theorem rounded_mul_unpacked {u w : UnpackedFloat} (hu : Canonical u) (hw : Canonical w)
    (hu' : u.isFinite = true) (hw' : w.isFinite = true) :
    Rounded (unpackedRat u * unpackedRat w)
      (.ofModel (Float.Model.pack (UnpackedFloat.mul Format.binary64 u w))) := by
  cases u with
  | notANumber | infinity => cases hu'
  | zero s =>
    rw [unpackedRat_zero, zero_mul]
    cases w with
    | notANumber | infinity => cases hw'
    | zero | finite => exact rounded_zero _ (nearest_self .zero)
  | finite s mantissa exponent hpos =>
    cases w with
    | notANumber | infinity => cases hw'
    | zero s' =>
      rw [unpackedRat_zero, mul_zero]
      exact rounded_zero _ (nearest_self .zero)
    | finite s' mantissa' exponent' hpos' =>
      obtain ⟨-, hexponent, hlow⟩ := hu
      obtain ⟨-, hexponent', hlow'⟩ := hw
      -- A factor that is not full has the least exponent, so the product is then far enough down.
      have hlong : 2 ^ 52 ≤ mantissa * mantissa' ∨ exponent + exponent' ≤ -1074 := by
        rcases hlow with hlow | hleast
        · exact Or.inl (hlow.trans (Nat.le_mul_of_pos_right _ hpos'))
        · rcases hlow' with hlow' | hleast'
          · exact Or.inl (hlow'.trans (Nat.le_mul_of_pos_left _ hpos))
          · exact Or.inr (by omega)
      have hexact : Fraction .exact 0 := rfl
      have h := rounded_roundWithAccuracy (s * s') hexact hlong
      rw [isNegative_mul, factor_bne, zpow_add₀ two_ne_zero, add_zero] at h
      rw [UnpackedFloat.mul, unpackedRat_finite, unpackedRat_finite]
      convert h using 1
      push_cast
      ring

theorem rounded_mul {x y : Float} (hx : x.isFinite = true) (hy : y.isFinite = true) :
    Rounded (toRat x * toRat y) (x * y) := by
  rw [toRat_eq, toRat_eq]
  exact rounded_mul_unpacked (canonical_unpack x) (canonical_unpack y) hx hy

private theorem sign_mul_comm (s s' : Sign) : s * s' = s' * s := by
  cases s <;> cases s' <;> rfl

private theorem mul_unpacked_comm (u w : UnpackedFloat) :
    UnpackedFloat.mul Format.binary64 u w = UnpackedFloat.mul Format.binary64 w u := by
  cases u <;> cases w <;> simp only [UnpackedFloat.mul, sign_mul_comm, Nat.mul_comm, Int.add_comm]

/-- Multiplication does not depend on the order, whatever the factors are. -/
theorem product_comm (x y : Float) : x * y = y * x :=
  congrArg (fun u => Float.ofModel (Float.Model.pack u))
    (mul_unpacked_comm x.toModel.unpack y.toModel.unpack)

private theorem fraction_accuracyOfFraction {num den : Nat} (hlt : num < den) :
    Fraction (accuracyOfFraction num den) (num / den) := by
  have hden : (0 : ℚ) < den := by exact_mod_cast (by omega : 0 < den)
  have hnum : (num : ℚ) < den := by exact_mod_cast hlt
  rw [accuracyOfFraction]
  split
  · rename_i hzero
    rw [hzero, Nat.cast_zero, zero_div]
    rfl
  · rename_i hzero
    have hpos : (0 : ℚ) < num := by exact_mod_cast Nat.pos_of_ne_zero hzero
    rcases lt_trichotomy (2 * num) den with hless | hhalf | hmore
    · have hless' : 2 * (num : ℚ) < den := by exact_mod_cast hless
      rw [Nat.compare_eq_lt.mpr hless]
      refine ⟨by positivity, ?_⟩
      rw [div_lt_div_iff₀ hden two_pos]
      linarith
    · have hhalf' : 2 * (num : ℚ) = den := by exact_mod_cast hhalf
      rw [Nat.compare_eq_eq.mpr hhalf]
      show (num : ℚ) / den = 1 / 2
      rw [div_eq_div_iff hden.ne' two_ne_zero]
      linarith
    · have hmore' : (den : ℚ) < 2 * num := by exact_mod_cast hmore
      rw [Nat.compare_eq_gt.mpr hmore]
      refine ⟨?_, ?_⟩
      · rw [div_lt_div_iff₀ two_pos hden]
        linarith
      · rwa [div_lt_one hden]

private theorem quotient_long {mantissa mantissa' count : Nat} (hpos : 0 < mantissa)
    (hpos' : 0 < mantissa') (hlog : mantissa'.log2 + 53 ≤ mantissa.log2 + count) :
    2 ^ 52 ≤ (mantissa <<< count) / mantissa' := by
  rw [Nat.le_div_iff_mul_le hpos', Nat.shiftLeft_eq]
  calc 2 ^ 52 * mantissa' ≤ 2 ^ 52 * 2 ^ (mantissa'.log2 + 1) :=
        Nat.mul_le_mul_left _ Nat.lt_log2_self.le
    _ = 2 ^ (mantissa'.log2 + 53) := by rw [← pow_add]; congr 1; omega
    _ ≤ 2 ^ (mantissa.log2 + count) := Nat.pow_le_pow_right (by omega) hlog
    _ = 2 ^ mantissa.log2 * 2 ^ count := by rw [pow_add]
    _ ≤ mantissa * 2 ^ count := Nat.mul_le_mul_right _ (Nat.log2_self_le hpos.ne')

private theorem quotient_add_rest (mantissa count : Nat) {mantissa' : Nat} (hpos' : 0 < mantissa') :
    ((mantissa <<< count / mantissa' : ℕ) : ℚ) + ((mantissa <<< count % mantissa' : ℕ) : ℚ) / mantissa' =
      mantissa * 2 ^ count / mantissa' := by
  have hsplit : ((mantissa * 2 ^ count : ℕ) : ℚ) =
      mantissa' * (mantissa <<< count / mantissa' : ℕ) + (mantissa <<< count % mantissa' : ℕ) := by
    rw [← Nat.shiftLeft_eq]
    exact_mod_cast (Nat.div_add_mod (mantissa <<< count) mantissa').symm
  push_cast at hsplit
  rw [hsplit]
  field_simp

private theorem rounded_div_unpacked {u w : UnpackedFloat} (hu : Canonical u) (hw : Canonical w)
    (hu' : u.isFinite = true) (hw' : w.isFinite = true) (hne : unpackedRat w ≠ 0) :
    Rounded (unpackedRat u / unpackedRat w)
      (.ofModel (Float.Model.pack (UnpackedFloat.div Format.binary64 u w))) := by
  cases w with
  | notANumber | infinity => cases hw'
  | zero s' => exact absurd (unpackedRat_zero s') hne
  | finite s' mantissa' exponent' hpos' =>
    cases u with
    | notANumber | infinity => cases hu'
    | zero s =>
      rw [unpackedRat_zero, zero_div]
      exact rounded_zero _ (nearest_self .zero)
    | finite s mantissa exponent hpos =>
      rw [UnpackedFloat.div, divCore]
      dsimp only
      set target := min (exponent - exponent') (Format.binary64.targetExponent
        (totalExponent mantissa exponent - totalExponent mantissa' exponent')) with htarget
      set count := (exponent - exponent' - target).toNat with hcount
      have hexponent : target + count = exponent - exponent' := by omega
      -- The dividend is shifted until the quotient fills a mantissa, or down to the least exponent.
      have hlong : 2 ^ 52 ≤ (mantissa <<< count) / mantissa' ∨ target ≤ -1074 := by
        by_cases hleast : target ≤ -1074
        · exact Or.inr hleast
        · refine Or.inl (quotient_long hpos hpos' ?_)
          rw [Format.targetExponent, totalExponent, totalExponent] at htarget
          norm_num [Format.mantissaBits, Format.minExponent] at htarget
          omega
      have hfraction := fraction_accuracyOfFraction (Nat.mod_lt (mantissa <<< count) hpos')
      have h := rounded_roundWithAccuracy (s / s') hfraction hlong
      rw [unpackedRat_finite, unpackedRat_finite]
      convert h using 1
      have hpower : (2 : ℚ) ^ exponent = 2 ^ target * 2 ^ count * 2 ^ exponent' := by
        rw [← zpow_natCast, ← zpow_add₀ two_ne_zero, ← zpow_add₀ two_ne_zero]
        congr 1
        omega
      rw [quotient_add_rest mantissa count hpos', isNegative_div, factor_bne, hpower]
      have hfactor := factor_mul_self (isNegative s')
      have hne : factor (isNegative s') ≠ 0 := left_ne_zero_of_mul_eq_one hfactor
      field_simp
      rw [sq, hfactor, mul_one]

/-- The quotient of finite doubles is the exact quotient, rounded, unless the divisor is zero. -/
theorem rounded_div {x y : Float} (hx : x.isFinite = true) (hy : y.isFinite = true)
    (hne : toRat y ≠ 0) : Rounded (toRat x / toRat y) (x / y) := by
  rw [toRat_eq] at hne ⊢
  rw [toRat_eq]
  exact rounded_div_unpacked (canonical_unpack x) (canonical_unpack y) hx hy hne

private theorem div_unpacked_of_not_finite {u w : UnpackedFloat} (hu : u.isFinite = false)
    (hw : w.isFinite = true) :
    UnpackedFloat.div Format.binary64 u w = .notANumber ∨
      ∃ s, UnpackedFloat.div Format.binary64 u w = .infinity s := by
  cases u with
  | zero | finite => cases hu
  | notANumber => exact .inl (by cases w <;> rfl)
  | infinity s =>
    cases w with
    | notANumber | infinity => cases hw
    | zero | finite => exact .inr ⟨_, rfl⟩

theorem isFinite_of_div {x y : Float} (hy : y.isFinite = true) (h : (x / y).isFinite = true) :
    x.isFinite = true := by
  cases hx : x.isFinite with
  | true => rfl
  | false => exact (isFinite_of_unpacked (div_unpacked_of_not_finite hx hy)).symm.trans h

end SpatialComputer.Binary64
