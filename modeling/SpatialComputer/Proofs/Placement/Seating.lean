import SpatialComputer.Proofs.Binary64.Relative
import SpatialComputer.Proofs.Binary64.Whole
import SpatialComputer.Proofs.Placement.Reach

/-!
# Seating a population

Rows and layers of a lattice are roots and quotients of doubles, which round either way, may overflow, and are cut off where they become counts. None of this costs a seat. Rows and layers are at least one whatever they are computed from, and the columns are the population divided by both and rounded up, so they make up for all rounding before. Seats are the digits of an index to the base of layers, rows and columns, so no two devices share one.
-/

namespace SpatialComputer

open Binary64

/-! ### Counts -/

theorem countOf_of_nat {x : Float} {k : Nat} (hx : x.isFinite = true) (hk : toRat x = k) :
    countOf x = min maxCount k := by
  rw [countOf, truncateInto_of_int hx (n := k) (by exact_mod_cast hk)]
  omega

theorem countOf_of_infinite {x : Float} (hx : value x = .infinite false) : countOf x = maxCount := by
  rw [countOf, truncateInto, hx]
  rfl

namespace Lattice

/-! ### Dimensions -/

/-- Whether a double is a whole number that is at least one, or above all numbers. -/
inductive Dimension (x : Float) : Prop where
  | finite (k : Nat) (hpos : 0 < k) (hfinite : x.isFinite = true) (hrat : toRat x = k)
  | infinite (hvalue : value x = .infinite false)

theorem Dimension.one : Dimension 1 :=
  .finite 1 one_pos isFinite_one (by rw [toRat_one, Nat.cast_one])

theorem ceilOne_spec {x : Float} (hx : x.isFinite = true) :
    (ceilOne x).isFinite = true ∧ toRat (ceilOne x) = (max ⌈toRat x⌉ 1 : ℤ) := by
  obtain ⟨hceil, hrat⟩ := ceil_spec hx
  obtain ⟨hfinite, hmax⟩ := maxNum_spec hceil isFinite_one
  refine ⟨hfinite, ?_⟩
  rw [ceilOne, hmax, hrat, toRat_one]
  push_cast
  rfl

/-- Whatever is rounded up is a dimension: what is not a number, or below all numbers, becomes one. -/
theorem ceilOne_dimension (x : Float) : Dimension (ceilOne x) := by
  cases hvalue : value x with
  | nan =>
    have hceil : ceil x = x := by rw [ceil, hvalue]
    rw [ceilOne, hceil, maxNum, if_pos (isNaN_iff.mpr hvalue)]
    exact .one
  | infinite negative =>
    have hceil : ceil x = x := by rw [ceil, hvalue]
    have hnumber : ¬x.isNaN = true := by
      rw [isNaN_iff, hvalue]
      exact Value.noConfusion
    rw [ceilOne, hceil, maxNum, if_neg hnumber]
    cases negative with
    | true =>
      rw [if_pos (lt_of_infinite_negative hvalue isFinite_one)]
      exact .one
    | false =>
      rw [if_neg (not_lt_of_infinite hvalue isFinite_one)]
      exact .infinite hvalue
  | finite negative mantissa exponent =>
    obtain ⟨hfinite, hrat⟩ := ceilOne_spec (isFinite_iff.mpr ⟨_, _, _, hvalue⟩)
    have hone : 1 ≤ max ⌈toRat x⌉ 1 := le_max_right _ _
    obtain ⟨k, hk⟩ := Int.eq_ofNat_of_zero_le (by omega : 0 ≤ max ⌈toRat x⌉ 1)
    apply Dimension.finite k (by omega) hfinite
    rw [hrat, hk, Int.cast_natCast]

namespace Dimension

variable {x : Float}

theorem countOf_pos (h : Dimension x) : 0 < countOf x := by
  have hmax : 0 < maxCount := by decide
  cases h with
  | finite k hpos hfinite hrat =>
    rw [countOf_of_nat hfinite hrat]
    omega
  | infinite hvalue => rwa [countOf_of_infinite hvalue]

theorem toRat_eq_countOf (h : Dimension x) (hlt : countOf x < maxCount) :
    x.isFinite = true ∧ toRat x = countOf x := by
  cases h with
  | finite k hpos hfinite hrat =>
    rw [countOf_of_nat hfinite hrat] at hlt ⊢
    refine ⟨hfinite, ?_⟩
    rw [hrat, min_eq_right (by omega)]
  | infinite hvalue => exact absurd (countOf_of_infinite hvalue) hlt.ne

end Dimension

theorem countOf_ceilOne {x : Float} (hx : x.isFinite = true) :
    (countOf (ceilOne x) : ℤ) = min (maxCount : ℤ) (max ⌈toRat x⌉ 1) := by
  obtain ⟨hfinite, hrat⟩ := ceilOne_spec hx
  rw [countOf, truncateInto_of_int hfinite hrat]
  omega

/-! ### Columns -/

variable {rows layers : Float} {n : Nat}

private theorem share_nearest (hrows : rows.isFinite = true) (hlayers : layers.isFinite = true)
    {r l : Nat} (hr : toRat rows = r) (hl : toRat layers = l) (hpos : 0 < r * l)
    (hproduct : r * l ≤ 2 ^ 53) (hn : n ≤ 2 ^ 53) :
    (ofNat n / (rows * layers)).isFinite = true ∧
      IsNearest (n / (r * l : Nat)) (toRat (ofNat n / (rows * layers))) := by
  obtain ⟨hcount, hcountRat⟩ := ofNat_spec hn
  have hrounded := rounded_mul hrows hlayers
  rw [hr, hl, ← Nat.cast_mul] at hrounded
  obtain ⟨hseats, hseatsRat⟩ := hrounded.exact_of_nat hproduct
  have hone : (1 : ℚ) ≤ (r * l : Nat) := by exact_mod_cast hpos
  have hshare := rounded_div hcount hseats (by rw [hseatsRat]; linarith)
  rw [hseatsRat] at hshare
  have hnonneg : 0 ≤ toRat (ofNat n) := by
    rw [hcountRat]
    positivity
  have hfinite := hshare.isFinite_of_le <| by
    rw [abs_of_nonneg (by positivity)]
    exact (div_le_self hnonneg hone).trans (toRat_le_largest _)
  rw [hcountRat] at hshare
  exact ⟨hfinite, hshare.nearest hfinite⟩

/-- Columns make up for whatever rows and layers are. -/
theorem le_countOf_columns (hrows : Dimension rows) (hlayers : Dimension layers) (hn : n < 2 ^ 53) :
    n ≤ countOf rows * countOf (ceilOne (ofNat n / (rows * layers))) * countOf layers := by
  have hmax : 2 ^ 53 < maxCount := by decide
  have hcolumns := (ceilOne_dimension (ofNat n / (rows * layers))).countOf_pos
  have hpos := Nat.mul_pos hrows.countOf_pos hlayers.countOf_pos
  rw [Nat.mul_right_comm]
  by_cases hlarge : n ≤ countOf rows * countOf layers
  · exact hlarge.trans (Nat.le_mul_of_pos_right _ hcolumns)
  rw [not_le] at hlarge
  -- With fewer seats in a column than devices, neither dimension has been cut off.
  have hrowsLe := Nat.le_mul_of_pos_right (countOf rows) hlayers.countOf_pos
  have hlayersLe := Nat.le_mul_of_pos_left (countOf layers) hrows.countOf_pos
  obtain ⟨hrowsFinite, hrowsRat⟩ := hrows.toRat_eq_countOf (by omega)
  obtain ⟨hlayersFinite, hlayersRat⟩ := hlayers.toRat_eq_countOf (by omega)
  obtain ⟨hfinite, hnearest⟩ :=
    share_nearest hrowsFinite hlayersFinite hrowsRat hlayersRat hpos (by omega) hn.le
  have hseats := hnearest.le_mul_ceil hpos hlarge.le hn
  have hcounted := countOf_ceilOne hfinite
  generalize countOf (ceilOne (ofNat n / (rows * layers))) = columns at *
  rcases le_or_gt ⌈toRat (ofNat n / (rows * layers))⌉ columns with hle | hcut
  · have h : (n : ℤ) ≤ (countOf rows * countOf layers : Nat) * (columns : ℤ) :=
      hseats.trans (by gcongr)
    exact_mod_cast h
  · have hcut : columns = maxCount := by omega
    exact le_trans (by omega) (Nat.le_mul_of_pos_left columns hpos)

/-- Rows and layers are counts of dimensions, and the columns are what these leave of the population. -/
theorem forPopulation_eq (population : Nat) (volume : Volume) :
    ∃ rows layers : Float, Dimension rows ∧ Dimension layers ∧
      forPopulation population volume =
        { rows := countOf rows
          columns := countOf (ceilOne (ofNat (max population 1) / (rows * layers)))
          layers := countOf layers } := by
  refine ⟨_, _, ?_, ?_, rfl⟩
  · split
    · exact ceilOne_dimension _
    · exact ceilOne_dimension _
  · split
    · exact ceilOne_dimension _
    · exact .one

/-! ### Seats -/

/-- Whether a seat lies within a lattice. -/
structure Holds (lattice : Lattice) (seat : Seat) : Prop where
  row : seat.row < lattice.rows
  column : seat.column < lattice.columns
  layer : seat.layer < lattice.layers

/-- The index of the device that is given a seat. -/
def indexOf (lattice : Lattice) (seat : Seat) : Nat :=
  (seat.column * lattice.rows + seat.row) * lattice.layers + seat.layer

theorem indexOf_seat (lattice : Lattice) (index : Nat) :
    lattice.indexOf (lattice.seat index) = index := by
  simp only [indexOf, seat]
  rw [← Nat.div_div_eq_div_mul, Nat.div_add_mod', Nat.div_add_mod']

theorem seat_injective (lattice : Lattice) : Function.Injective lattice.seat :=
  Function.LeftInverse.injective lattice.indexOf_seat

theorem holds_seat {lattice : Lattice} {index : Nat} (hrows : 0 < lattice.rows)
    (hlayers : 0 < lattice.layers) (h : index < lattice.rows * lattice.columns * lattice.layers) :
    lattice.Holds (lattice.seat index) where
  row := Nat.mod_lt _ hrows
  column := by
    apply (Nat.div_lt_iff_lt_mul (Nat.mul_pos hlayers hrows)).mpr
    linarith
  layer := Nat.mod_lt _ hlayers

/-- A lattice for fewer than 2⁵³ devices has at least as many seats as devices, whatever the volume. As long as the seats of a column can be counted, every device is given a place by its seat, which lies within the lattice, and no two devices have the same seat. -/
theorem everyone_seated_once {population : Nat} (hpopulation : population < 2 ^ 53) (volume : Volume)
    (hcount : (forPopulation population volume).layers * (forPopulation population volume).rows ≤
      maxCount) :
    let lattice := forPopulation population volume
    population ≤ lattice.rows * lattice.columns * lattice.layers ∧
      (∀ index < population,
        lattice.position volume index = .ok (lattice.seatPosition volume (lattice.seat index)) ∧
          lattice.Holds (lattice.seat index)) ∧
      ∀ index < population, ∀ other < population,
        lattice.seat index = lattice.seat other → index = other := by
  intro lattice
  obtain ⟨rows, layers, hrows, hlayers, hlattice⟩ := forPopulation_eq population volume
  -- The lattice of an empty population is that of a single device.
  have hseats : population ≤ lattice.rows * lattice.columns * lattice.layers := by
    have h := le_countOf_columns hrows hlayers (n := max population 1) (by omega)
    simp only [lattice, hlattice]
    omega
  refine ⟨hseats, fun index hindex => ⟨position_eq_ok.mpr ⟨hcount, rfl⟩, ?_⟩,
    fun index _ other _ h => lattice.seat_injective h⟩
  apply holds_seat
  · simp only [lattice, hlattice]
    exact hrows.countOf_pos
  · simp only [lattice, hlattice]
    exact hlayers.countOf_pos
  · omega

-- Of 2⁵³ + 1 devices one has no seat, as their number is rounded to 2⁵³ before it is divided.
example : forPopulation (2 ^ 53 + 1) ⟨.zero, ⟨1e200, 1e-200, 0⟩⟩ = ⟨1, 2 ^ 53, 1⟩ := by
  decide +kernel

def shaft : Volume := ⟨.zero, ⟨1, 1, 1e30⟩⟩

/-- The layers of the shaft can just be counted, so five devices still sit in five seats. -/
theorem everyone_seated_once_shaft :
    let lattice := forPopulation 5 shaft
    Distribution.validateVolume shaft = .ok () ∧ lattice = ⟨1, 1, maxCount⟩ ∧
      lattice.layers * lattice.rows ≤ maxCount ∧
      5 ≤ lattice.rows * lattice.columns * lattice.layers ∧
      (∀ index < 5,
        lattice.position shaft index = .ok (lattice.seatPosition shaft (lattice.seat index)) ∧
          lattice.Holds (lattice.seat index)) ∧
      ∀ index < 5, ∀ other < 5, lattice.seat index = lattice.seat other → index = other := by
  intro lattice
  have hfacts : Distribution.validateVolume shaft = .ok () ∧ lattice = ⟨1, 1, maxCount⟩ := by
    decide +kernel
  obtain ⟨hvalid, hlattice⟩ := hfacts
  have hcount : lattice.layers * lattice.rows ≤ maxCount := by
    rw [hlattice]
    exact (Nat.mul_one _).le
  exact ⟨hvalid, hlattice, hcount, everyone_seated_once (by norm_num) shaft hcount⟩

end Lattice

end SpatialComputer
