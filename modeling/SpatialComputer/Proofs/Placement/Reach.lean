import SpatialComputer.Placement.Distribution
import SpatialComputer.Proofs.Sampling.Ranges
import SpatialComputer.Proofs.Settings.Validation

/-!
# Which places can be reached

An accepted volume has a finite extent, so a uniform place can always be drawn. Seats of a lattice and places on a cylinder are computed in steps that may leave the range of doubles although the volume does not, and the seats of a column may be too many to count. `Distribution.inRange` says that none of this happens; then every device gets a finite place. Without it no lattice is filled.
-/

namespace SpatialComputer

open Binary64 Sampling

variable {volume : Volume} {key : Vector UInt32 8}

/-! ### Accepted volumes -/

/-- Whether two ends and the distance between them are finite. -/
structure Spaced (low high : Float) : Prop where
  isFinite_low : low.isFinite = true
  isFinite_high : high.isFinite = true
  isFinite_distance : (high - low).isFinite = true

theorem Spaced.lt {low high : Float} (spaced : Spaced low high) (hpos : 0 < toRat (high - low)) :
    low < high := by
  rw [lt_iff spaced.isFinite_low spaced.isFinite_high]
  by_contra hle
  have hle' : toRat high - toRat low ≤ 0 := by linarith
  have hrounded := rounded_sub spaced.isFinite_high spaced.isFinite_low
  have h := (hrounded.nearest spaced.isFinite_distance).le_of_le .zero hle'
  linarith

/-- The distance of two numbers that are out of order is not rounded to zero, as it is no smaller than the smallest double. -/
theorem Spaced.le {low high : Float} (spaced : Spaced low high) (hnonneg : 0 ≤ toRat (high - low)) :
    toRat low ≤ toRat high := by
  by_contra hlt
  rw [not_le] at hlt
  obtain ⟨n, hn⟩ := (representable_toRat low).exists_multiple (.inl rfl)
  obtain ⟨m, hm⟩ := (representable_toRat high).exists_multiple (.inl rfl)
  have hunit : (0 : ℚ) < 2 ^ (-1074 : ℤ) := by positivity
  have hless : m < n := by
    rw [hn, hm] at hlt
    exact_mod_cast lt_of_mul_lt_mul_right hlt hunit.le
  have hstep : (m : ℚ) + 1 ≤ n := by exact_mod_cast hless
  have hgap : toRat high - toRat low ≤ -2 ^ (-1074 : ℤ) := by
    rw [hn, hm]
    nlinarith
  have hrounded := rounded_sub spaced.isFinite_high spaced.isFinite_low
  have h := (hrounded.nearest spaced.isFinite_distance).le_of_le
    (Representable.two_zpow (Int.le_refl _)).neg hgap
  linarith

theorem Spaced.yields {low high : Float} (spaced : Spaced low high)
    (hpos : 0 < toRat (high - low)) (hkey : Keystream.ReachesLow key) :
    Yields key (uniform low high) (·.isFinite = true) :=
  (uniform_yields hkey spaced.isFinite_low spaced.isFinite_high (spaced.lt hpos)
    spaced.isFinite_distance).mono fun _ h => h.1

/-- Whether a volume can be placed in. Its depth is the only part of its extent that may be zero. -/
structure Volume.Spacious (volume : Volume) : Prop where
  x : Spaced volume.min.x volume.max.x
  y : Spaced volume.min.y volume.max.y
  z : Spaced volume.min.z volume.max.z
  width : 0 < toRat volume.width
  height : 0 < toRat volume.height

theorem Volume.Spacious.depth (spacious : volume.Spacious) (h : volume.is3d = true) :
    0 < toRat volume.depth := by
  have h : 0 < volume.depth := of_decide_eq_true h
  have hlt := (lt_iff isFinite_zero spacious.z.isFinite_distance).mp h
  rwa [toRat_zero] at hlt

private theorem validateVolume_eq_ok (h : Distribution.validateVolume volume = .ok ()) :
    (Spaced volume.min.x volume.max.x ∧ Spaced volume.min.y volume.max.y ∧
      Spaced volume.min.z volume.max.z) ∧
      0 < toRat volume.width ∧ 0 < toRat volume.height ∧ 0 ≤ toRat volume.depth := by
  unfold Distribution.validateVolume at h
  dsimp only at h
  split at h
  · cases h
  split at h
  · cases h
  split at h
  · cases h
  rename_i hbounds hextent hpositive
  simp only [Bool.or_eq_true, Bool.not_eq_true', not_or, Bool.not_eq_false, Vec3.isFinite_iff]
    at hbounds hextent
  simp only [Bool.or_eq_true, decide_eq_true_eq, not_or] at hpositive
  obtain ⟨⟨hminX, hminY, hminZ⟩, hmaxX, hmaxY, hmaxZ⟩ := hbounds
  obtain ⟨hx, hy, hz⟩ := hextent
  obtain ⟨⟨hwidth, hheight⟩, hdepth⟩ := hpositive
  rw [le_iff hx isFinite_zero, toRat_zero, not_le] at hwidth
  rw [le_iff hy isFinite_zero, toRat_zero, not_le] at hheight
  rw [lt_iff hz isFinite_zero, toRat_zero, not_lt] at hdepth
  exact ⟨⟨⟨hminX, hmaxX, hx⟩, ⟨hminY, hmaxY, hy⟩, hminZ, hmaxZ, hz⟩, hwidth, hheight, hdepth⟩

theorem spacious_of_validateVolume (h : Distribution.validateVolume volume = .ok ()) :
    volume.Spacious := by
  obtain ⟨⟨hx, hy, hz⟩, hwidth, hheight, -⟩ := validateVolume_eq_ok h
  exact ⟨hx, hy, hz, hwidth, hheight⟩

theorem isOrdered_of_validateVolume (h : Distribution.validateVolume volume = .ok ()) :
    volume.isOrdered = true := by
  obtain ⟨⟨hx, hy, hz⟩, hwidth, hheight, hdepth⟩ := validateVolume_eq_ok h
  simp only [Volume.isOrdered, Bool.and_eq_true, decide_eq_true_iff]
  exact ⟨⟨(le_iff hx.isFinite_low hx.isFinite_high).mpr (hx.le hwidth.le),
    (le_iff hy.isFinite_low hy.isFinite_high).mpr (hy.le hheight.le)⟩,
    (le_iff hz.isFinite_low hz.isFinite_high).mpr (hz.le hdepth)⟩

theorem isFinite_of_checkPoints {points : List Vec3} (h : Distribution.checkPoints points = .ok ())
    {index : Nat} {point : Vec3} (hpoint : points[index]? = some point) :
    point.isFinite = true := by
  unfold Distribution.checkPoints at h
  split at h
  · cases h
  · rename_i hfind
    have hmem : (point, index) ∈ points.zipIdx := List.mem_zipIdx_iff_getElem?.mpr hpoint
    have h := List.find?_eq_none.mp hfind _ hmem
    rwa [Bool.not_eq_true, Bool.not_eq_false'] at h

namespace Distribution

/-! ### Uniform places -/

theorem uniformIn_yields (spacious : volume.Spacious) (hkey : Keystream.ReachesLow key) :
    Yields key (uniformIn volume) (·.isFinite = true) := by
  have hrest : ∀ z : Float, z.isFinite = true → Yields key (do
      let x ← uniform volume.min.x volume.max.x
      let y ← uniform volume.min.y volume.max.y
      return ⟨x, y, z⟩) fun p : Vec3 => p.isFinite = true := by
    intro z hz
    refine .bind (spacious.x.yields spacious.width hkey) fun x hx => ?_
    refine .bind (spacious.y.yields spacious.height hkey) fun y hy => ?_
    exact .pure ((Vec3.isFinite_iff _).mpr ⟨hx, hy, hz⟩)
  unfold uniformIn
  dsimp only
  split
  · rename_i h
    exact .bind (spacious.z.yields (spacious.depth h) hkey) hrest
  · exact .bind (.pure spacious.z.isFinite_low) hrest

/-! ### Places on a cylinder -/

/-- Whether the places farthest from the axis of the cylinder have finite coordinates. -/
def rimInRange (volume : Volume) : Bool :=
  let radius := minNum volume.height volume.depth / 2
  let centerY := volume.min.y + volume.height / 2
  let centerZ := volume.min.z + volume.depth / 2
  ((centerY + -radius).isFinite && (centerY + radius).isFinite) &&
    ((centerZ + -radius).isFinite && (centerZ + radius).isFinite)

private theorem around_isFinite {center radius turned : Float} (hradius : radius.isFinite = true)
    (hnonneg : 0 ≤ toRat radius) (hturned : Bounded 1 turned)
    (hlow : (center + -radius).isFinite = true) (hhigh : (center + radius).isFinite = true) :
    (center + radius * turned).isFinite = true := by
  have hcenter := isFinite_of_add hhigh
  obtain ⟨hneg, hnegRat⟩ := isFinite_neg hradius
  have hoffset := (Bounded.self hradius hnonneg).mul_of_one hturned
  obtain ⟨hoffsetLow, hoffsetHigh⟩ := abs_le.mp hoffset.abs_le
  refine shift_isFinite (f := (center + ·)) (x := center) (fun p hp => ?_) hneg hradius
    hoffset.isFinite hlow hhigh (hnegRat.trans_le hoffsetLow) hoffsetHigh
  rw [add_comm]
  exact rounded_add hcenter hp

private theorem minNum_eq_or (x y : Float) : minNum x y = x ∨ minNum x y = y := by
  unfold minNum
  split
  · exact .inr rfl
  · split
    · exact .inr rfl
    · exact .inl rfl

private theorem radius_spec (spacious : volume.Spacious) (h : volume.is3d = true) :
    (minNum volume.height volume.depth / 2).isFinite = true ∧
      0 ≤ toRat (minNum volume.height volume.depth / 2) := by
  obtain ⟨htwoFinite, htwo⟩ :=
    toRat_of_value (by decide : value 2 = .finite false (2 ^ 52) (-51))
  have htwo : toRat 2 = 2 := htwo.trans (by norm_num)
  have hdiameter : (minNum volume.height volume.depth).isFinite = true ∧
      0 ≤ toRat (minNum volume.height volume.depth) := by
    rcases minNum_eq_or volume.height volume.depth with heq | heq
    · rw [heq]
      exact ⟨spacious.y.isFinite_distance, spacious.height.le⟩
    · rw [heq]
      exact ⟨spacious.z.isFinite_distance, (spacious.depth h).le⟩
  obtain ⟨hfinite, hnonneg⟩ := hdiameter
  have hrounded := rounded_div hfinite htwoFinite (by rw [htwo]; norm_num)
  rw [htwo] at hrounded
  have hhalf : 0 ≤ toRat (minNum volume.height volume.depth) / 2 := by positivity
  have hle := toRat_le_largest (minNum volume.height volume.depth)
  have hhalfFinite := hrounded.isFinite_of_le (by
    rw [abs_of_nonneg hhalf]
    linarith)
  exact ⟨hhalfFinite, (hrounded.nearest hhalfFinite).le_of_ge .zero hhalf⟩

theorem onCylinder_yields (spacious : volume.Spacious) (hkey : Keystream.ReachesLow key)
    (h : volume.is3d = true) (hrim : rimInRange volume = true) :
    Yields key (onCylinder volume) (·.isFinite = true) := by
  obtain ⟨hradius, hnonneg⟩ := radius_spec spacious h
  simp only [rimInRange, Bool.and_eq_true] at hrim
  obtain ⟨⟨hlowY, hhighY⟩, hlowZ, hhighZ⟩ := hrim
  unfold onCylinder
  refine .bind (q := fun theta => Bounded 1 (cosine theta) ∧ Bounded 1 (sine theta)) ?_
    fun theta htheta => ?_
  · refine .modifyGet (fun _ => rfl) fun s => ?_
    obtain ⟨hfinite, hlow, hhigh⟩ := angle_bounds s
    exact ⟨cosine_bounded hfinite hlow hhigh, sine_bounded hfinite hlow hhigh⟩
  refine .bind (spacious.x.yields spacious.width hkey) fun x hx => ?_
  exact .pure ((Vec3.isFinite_iff _).mpr
    ⟨hx, around_isFinite hradius hnonneg htheta.1 hlowY hhighY,
      around_isFinite hradius hnonneg htheta.2 hlowZ hhighZ⟩)

end Distribution

/-! ### Seats of a lattice -/

namespace Lattice

/-- Whether the seats of a column can be counted and the places of all seats that are taken pass a check. -/
def seatsInRange (lattice : Lattice) (volume : Volume) (population : Nat) (check : Vec3 → Bool) :
    Bool :=
  decide (lattice.layers * lattice.rows ≤ maxCount) &&
    (List.range population).all fun index =>
      check (lattice.seatPosition volume (lattice.seat index))

variable {lattice : Lattice} {population index : Nat} {check : Vec3 → Bool}

theorem position_eq_ok {place : Vec3} : lattice.position volume index = .ok place ↔
    lattice.layers * lattice.rows ≤ maxCount ∧
      lattice.seatPosition volume (lattice.seat index) = place := by
  unfold position
  split
  · rename_i hle
    exact ⟨fun h => ⟨hle, Except.ok.inj h⟩, fun h => congrArg Except.ok h.2⟩
  · rename_i hlt
    exact ⟨fun h => (nomatch h), fun h => absurd h.1 hlt⟩

theorem exists_position (h : lattice.seatsInRange volume population check = true)
    (hindex : index < population) :
    ∃ place, lattice.position volume index = .ok place ∧ check place = true := by
  obtain ⟨hcount, hseats⟩ := Bool.and_eq_true_iff.mp h
  exact ⟨_, position_eq_ok.mpr ⟨of_decide_eq_true hcount, rfl⟩,
    List.all_eq_true.mp hseats index (List.mem_range.mpr hindex)⟩

theorem seatsInRange_of_positions (hpopulation : 0 < population)
    (h : ∀ index < population, ∃ place,
      lattice.position volume index = .ok place ∧ check place = true) :
    lattice.seatsInRange volume population check = true := by
  obtain ⟨_, hfirst, -⟩ := h 0 hpopulation
  refine Bool.and_eq_true_iff.mpr ⟨decide_eq_true (position_eq_ok.mp hfirst).1, ?_⟩
  refine List.all_eq_true.mpr fun index hindex => ?_
  obtain ⟨place, hplace, hcheck⟩ := h index (List.mem_range.mp hindex)
  rwa [(position_eq_ok.mp hplace).2]

end Lattice

/-! ### All distributions -/

namespace Distribution

/-- Whether the coordinates that a lattice with random heights uses are finite. -/
def isFiniteInXZ (place : Vec3) : Bool :=
  place.x.isFinite && place.z.isFinite

/-- Whether computing the places of a population stays in range. For a cylinder this says it of all places of its surface, drawn or not. -/
def inRange (distribution : Distribution) (volume : Volume) (population : Nat) : Bool :=
  match distribution with
  | uniformRandom | fixedPoints _ | explicit _ => true
  | grid => (Lattice.forPopulation population volume).seatsInRange volume population Vec3.isFinite
  | xGrid => (Lattice.forPopulation population volume).seatsInRange volume population isFiniteInXZ
  | cylinder => rimInRange volume

variable {distribution : Distribution} {population index : Nat}

private theorem listed_yields (population : Nat) (spacious : volume.Spacious)
    (hkey : Keystream.ReachesLow key) {points : List Vec3} (hpoints : checkPoints points = .ok ()) :
    Yields key ((fixedPoints points).place volume population index) (·.isFinite = true) := by
  rw [place]
  split
  · rename_i point hpoint
    exact .pure (isFinite_of_checkPoints hpoints hpoint)
  · exact uniformIn_yields spacious hkey

/-- In range, every device of an accepted population is given a finite place. -/
theorem place_yields (hvalid : distribution.validate volume population = .ok ())
    (hkey : Keystream.ReachesLow key) (hrange : distribution.inRange volume population = true)
    (hindex : index < population) :
    Yields key (distribution.place volume population index) (·.isFinite = true) := by
  obtain ⟨_, hvolume, hvalid⟩ := except_bind_eq_ok hvalid
  have spacious := spacious_of_validateVolume hvolume
  cases distribution with
  | uniformRandom => exact uniformIn_yields spacious hkey
  | fixedPoints points => exact listed_yields population spacious hkey hvalid
  | explicit points =>
    obtain ⟨_, hpoints, -⟩ := except_bind_eq_ok hvalid
    exact listed_yields population spacious hkey hpoints
  | grid =>
    obtain ⟨p, hposition, hfinite⟩ := Lattice.exists_position hrange hindex
    exact fun s hs => ⟨p, s, congrArg (·, s) hposition, hs, hfinite⟩
  | xGrid =>
    obtain ⟨seat, hposition, hfinite⟩ := Lattice.exists_position hrange hindex
    obtain ⟨hx, hz⟩ := Bool.and_eq_true_iff.mp hfinite
    refine .bind (q := (· = seat)) (fun s hs => ⟨seat, s, congrArg (·, s) hposition, hs, rfl⟩) ?_
    rintro _ rfl
    refine .bind (spacious.y.yields spacious.height hkey) fun y hy => ?_
    exact .pure ((Vec3.isFinite_iff _).mpr ⟨hx, hy, hz⟩)
  | cylinder =>
    have h3d : volume.is3d = true := by
      by_contra h
      rw [Bool.not_eq_true] at h
      simp only [h] at hvalid
      cases hvalid
    exact onCylinder_yields spacious hkey h3d hrange

/-- A lattice that is filled with finite places is in range. -/
theorem inRange_of_place (hcylinder : distribution ≠ .cylinder) (hpopulation : 0 < population)
    (h : ∀ index < population, ∃ s place s',
      (distribution.place volume population index).run.run s = (.ok place, s') ∧
        place.isFinite = true) : distribution.inRange volume population = true := by
  cases distribution with
  | uniformRandom | fixedPoints | explicit => rfl
  | cylinder => exact absurd rfl hcylinder
  | grid =>
    refine Lattice.seatsInRange_of_positions hpopulation fun index hindex => ?_
    obtain ⟨s, place, s', hrun, hfinite⟩ := h index hindex
    exact ⟨place, (Prod.mk.inj hrun).1, hfinite⟩
  | xGrid =>
    refine Lattice.seatsInRange_of_positions hpopulation fun index hindex => ?_
    obtain ⟨s, place, s', hrun, hfinite⟩ := h index hindex
    obtain ⟨seat, _, hseat, hrun⟩ := run_bind_eq_ok hrun
    obtain ⟨y, _, -, hrun⟩ := run_bind_eq_ok hrun
    obtain rfl := Except.ok.inj (Prod.mk.inj hrun).1
    obtain ⟨hx, -, hz⟩ := (Vec3.isFinite_iff _).mp hfinite
    exact ⟨seat, (Prod.mk.inj hseat).1, Bool.and_eq_true_iff.mpr ⟨hx, hz⟩⟩

end Distribution

end SpatialComputer
