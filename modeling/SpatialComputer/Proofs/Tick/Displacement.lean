import SpatialComputer.Proofs.Placement.Reach
import SpatialComputer.Proofs.Sampling.Units
import SpatialComputer.Proofs.Tick.Spawning

/-!
# Where displacements lead

A device is only moved to a place that is finite. A clone is put wherever its displacement leads, so it is the length of displacements that keeps it in range: adding anything shorter than half of the distance between the largest doubles to a finite coordinate is rounded to a finite one.
-/

namespace SpatialComputer

open Binary64 Sampling

variable {U P : Type} [Processor U P]

namespace Vec3

/-- Whether the coordinates are finite and at most as large as a bound. -/
structure Within (bound : ℚ) (a : Vec3) : Prop where
  x : Bounded bound a.x
  y : Bounded bound a.y
  z : Bounded bound a.z

end Vec3

/-! ### Single displacements -/

def Settings.bounds (s : Settings) : Option Volume :=
  if s.dynamics.bounded then some s.population.volume else none

/-- Where a displacement takes a device. A displacement that is zero, not finite or leads nowhere else leaves the device where it is. -/
def Settings.destination (s : Settings) (position delta : Vec3) : Vec3 :=
  if delta.isZero then position
  else match displaced s.dynamics.speedLimit s.bounds position delta with
    | none => position
    | some target => if target == position then position else target

theorem Device.position_actuate_eq (s : Settings) (d : Device U) :
    (d.actuate s.dynamics.speedLimit s.bounds).2.position =
      s.destination d.position (Processor.actuators d.processor) := by
  unfold Device.actuate Settings.destination
  dsimp only
  by_cases hzero : (Processor.actuators d.processor).isZero = true
  · rw [if_pos hzero, if_pos hzero]
    rfl
  · rw [if_neg hzero, if_neg hzero]
    cases displaced s.dynamics.speedLimit s.bounds d.position (Processor.actuators d.processor) with
    | none => rfl
    | some target =>
      dsimp only
      split <;> rfl

theorem Device.actuate_of_isZero {speedLimit : Option Float} {bounds : Option Volume} {d : Device U}
    (hzero : (Processor.actuators d.processor).isZero = true) :
    (d.actuate speedLimit bounds).1 = .idle := by
  unfold Device.actuate
  simp only [hzero, if_true]

theorem Engine.actuations_eq (e : Engine U P) :
    e.actuations = e.transmission.devices.map fun heard =>
      (heard.computeIfDue e.time).actuate e.settings.dynamics.speedLimit e.settings.bounds := by
  rw [Engine.actuations, actuationPhase, Engine.afterRounds, Array.map_map]
  rfl

/-! ### Movement -/

theorem displaced_isFinite {speedLimit : Option Float} {bounds : Option Volume}
    {position delta target : Vec3} (h : displaced speedLimit bounds position delta = some target) :
    target.isFinite = true := by
  unfold displaced at h
  dsimp only at h
  split at h
  · cases h
  · obtain ⟨hfinite, heq⟩ := Option.ite_none_right_eq_some.mp h
    rwa [← Option.some.inj heq]

theorem Device.actuate_isFinite (speedLimit : Option Float) (bounds : Option Volume) {d : Device U}
    (hd : d.position.isFinite = true) :
    (d.actuate speedLimit bounds).2.position.isFinite = true := by
  unfold Device.actuate
  dsimp only
  split
  · exact hd
  · split
    · exact hd
    · rename_i target htarget
      split
      · exact hd
      · exact displaced_isFinite htarget

/-! ### Movement within bounds -/

private theorem clampAxis_between {low high x : Float} (hlow : low.isFinite = true)
    (hhigh : high.isFinite = true) (hle : low ≤ high)
    (hfinite : (Volume.clampAxis low high x).isFinite = true) :
    low ≤ Volume.clampAxis low high x ∧ Volume.clampAxis low high x ≤ high := by
  have hself : ∀ {y : Float}, y.isFinite = true → y ≤ y := fun hy => (le_iff hy hy).mpr le_rfl
  unfold Volume.clampAxis at hfinite ⊢
  dsimp only at hfinite ⊢
  by_cases hbelow : x < low
  · rw [if_pos hbelow] at hfinite ⊢
    split
    · exact ⟨hle, hself hhigh⟩
    · exact ⟨hself hlow, hle⟩
  · rw [if_neg hbelow] at hfinite ⊢
    split
    · exact ⟨hle, hself hhigh⟩
    · rename_i habove
      rw [if_neg habove] at hfinite
      rw [lt_iff hfinite hlow, not_lt] at hbelow
      rw [lt_iff hhigh hfinite, not_lt] at habove
      exact ⟨(le_iff hlow hfinite).mpr hbelow, (le_iff hfinite hhigh).mpr habove⟩

/-- Whether a volume has finite corners that are in order. -/
structure Volume.Proper (volume : Volume) : Prop where
  min : volume.min.isFinite = true
  max : volume.max.isFinite = true
  ordered : volume.isOrdered = true

theorem Settings.Accepted.proper {s : Settings} (accepted : s.Accepted) :
    s.population.volume.Proper := by
  obtain ⟨_, hvolume, -⟩ := except_bind_eq_ok accepted.distribution
  have spacious := spacious_of_validateVolume hvolume
  refine ⟨(Vec3.isFinite_iff _).mpr ?_, (Vec3.isFinite_iff _).mpr ?_, isOrdered_of_validateVolume hvolume⟩
  · exact ⟨spacious.x.isFinite_low, spacious.y.isFinite_low, spacious.z.isFinite_low⟩
  · exact ⟨spacious.x.isFinite_high, spacious.y.isFinite_high, spacious.z.isFinite_high⟩

theorem Volume.contains_iff {volume : Volume} {p : Vec3} : volume.contains p = true ↔
    (volume.min.x ≤ p.x ∧ p.x ≤ volume.max.x) ∧ (volume.min.y ≤ p.y ∧ p.y ≤ volume.max.y) ∧
      volume.min.z ≤ p.z ∧ p.z ≤ volume.max.z := by
  simp only [contains, Bool.and_eq_true, decide_eq_true_iff, and_assoc]

theorem Volume.Proper.contains_clamp {volume : Volume} (proper : volume.Proper) {p : Vec3}
    (hfinite : (volume.clamp p).isFinite = true) : volume.contains (volume.clamp p) = true := by
  obtain ⟨hminX, hminY, hminZ⟩ := (Vec3.isFinite_iff _).mp proper.min
  obtain ⟨hmaxX, hmaxY, hmaxZ⟩ := (Vec3.isFinite_iff _).mp proper.max
  have hordered := proper.ordered
  simp only [isOrdered, Bool.and_eq_true, decide_eq_true_iff] at hordered
  obtain ⟨⟨hx, hy⟩, hz⟩ := hordered
  obtain ⟨hclampX, hclampY, hclampZ⟩ := (Vec3.isFinite_iff _).mp hfinite
  exact contains_iff.mpr ⟨clampAxis_between hminX hmaxX hx hclampX,
    clampAxis_between hminY hmaxY hy hclampY, clampAxis_between hminZ hmaxZ hz hclampZ⟩

/-- Whether a place is finite and in the volume. -/
structure Volume.Houses (volume : Volume) (p : Vec3) : Prop where
  isFinite : p.isFinite = true
  contains : volume.contains p = true

theorem displaced_houses {speedLimit : Option Float} {volume : Volume} (proper : volume.Proper)
    {position delta target : Vec3}
    (h : displaced speedLimit (some volume) position delta = some target) :
    volume.Houses target := by
  unfold displaced at h
  dsimp only at h
  split at h
  · cases h
  · obtain ⟨hfinite, heq⟩ := Option.ite_none_right_eq_some.mp h
    obtain rfl := Option.some.inj heq
    exact ⟨hfinite, proper.contains_clamp hfinite⟩

/-- In a bounded volume a device is moved to a place inside or not at all. -/
theorem Device.actuate_houses (speedLimit : Option Float) {volume : Volume}
    (proper : volume.Proper) (d : Device U) :
    volume.Houses (d.actuate speedLimit (some volume)).2.position ∨
      (d.actuate speedLimit (some volume)).2.position = d.position := by
  unfold Device.actuate
  dsimp only
  split
  · exact .inr rfl
  · split
    · exact .inr rfl
    · rename_i target htarget
      split
      · exact .inr rfl
      · exact .inl (displaced_houses proper htarget)

theorem Engine.acted_eq {e : Engine U P} {i : Nat} {d acted : Device U} (hd : e.devices[i]? = some d)
    (hacted : e.afterActuation[i]? = some acted) :
    ∃ ready : Device U, ready.position = d.position ∧
      acted = (ready.actuate e.settings.dynamics.speedLimit
        (if e.settings.dynamics.bounded then some e.settings.population.volume else none)).2 := by
  obtain ⟨ready, hready, hsame⟩ := exists_of_map_eq (sites_afterRounds e) hd
  refine ⟨ready, congrArg Site.position hsame, ?_⟩
  rw [Engine.afterActuation, actuations, actuationPhase, Array.getElem?_map, Array.getElem?_map,
    hready] at hacted
  exact (Option.some.inj hacted).symm

/-! ### Clones -/

/-- The distance below which displacements leave finite coordinates finite: `2 ^ 970`, half of the distance between the two largest doubles. -/
def safeOffset : Float := .ofBits 0x7c90000000000000

private theorem toRat_safeOffset : safeOffset.isFinite = true ∧ toRat safeOffset = 2 ^ 970 := by
  obtain ⟨hfinite, h⟩ := toRat_of_value
    (by decide : value safeOffset = .finite false (2 ^ 52) 918)
  refine ⟨hfinite, h.trans ?_⟩
  rw [factor_false, one_mul, Nat.cast_pow, Nat.cast_ofNat, zpow_ofNat, ← pow_add]

/-- The displacement of a clone is nowhere longer than configured. -/
theorem cloneOffset_within {distance : Float} (hfinite : distance.isFinite = true)
    (hnonneg : 0 ≤ toRat distance) (volume : Volume) (stream : Keystream) :
    (cloneOffset distance volume stream).1.Within (toRat distance) := by
  have hdistance := Bounded.self hfinite hnonneg
  have hzero : Bounded (toRat distance) 0 := ⟨isFinite_zero, by rwa [toRat_zero, abs_zero]⟩
  have hsine : ∀ s, Bounded 1 (sine (angle s).1) := fun s =>
    sine_bounded (angle_bounds s).1 (angle_bounds s).2.1 (angle_bounds s).2.2
  have hcosine : ∀ s, Bounded 1 (cosine (angle s).1) := fun s =>
    cosine_bounded (angle_bounds s).1 (angle_bounds s).2.1 (angle_bounds s).2.2
  unfold cloneOffset
  split
  · exact ⟨hzero, hzero, hzero⟩
  · dsimp only
    split
    · have hradius := hdistance.mul_of_one (hsine (angle stream).2)
      exact ⟨hradius.mul_of_one (hcosine stream), hradius.mul_of_one (hsine stream),
        hdistance.mul_of_one (hcosine (angle stream).2)⟩
    · exact ⟨hdistance.mul_of_one (hcosine stream), hdistance.mul_of_one (hsine stream), hzero⟩

theorem cloneOffsets_within {distance : Float} (hfinite : distance.isFinite = true)
    (hnonneg : 0 ≤ toRat distance) (volume : Volume) (count : Nat) : ∀ stream : Keystream,
    ∀ offset ∈ (cloneOffsets distance volume count stream).1, offset.Within (toRat distance) := by
  induction count with
  | zero =>
    intro stream offset h
    cases h
  | succ count ih =>
    intro stream offset h
    rcases List.mem_cons.mp h with rfl | h
    · exact cloneOffset_within hfinite hnonneg volume stream
    · exact ih _ offset h

private theorem coordinate_isFinite {x y : Float} {bound : ℚ} (hx : x.isFinite = true) (hy : Bounded bound y)
    (hbound : bound < 2 ^ 970) : (x + y).isFinite = true := by
  refine (rounded_add hx hy.isFinite).isFinite_of_lt ?_
  refine (abs_add_le _ _).trans_lt ?_
  exact add_lt_add_of_le_of_lt (abs_toRat_le x) (hy.abs_le.trans_lt hbound)

theorem Vec3.add_isFinite {a offset : Vec3} {bound : ℚ} (ha : a.isFinite = true)
    (hoffset : offset.Within bound) (hbound : bound < 2 ^ 970) : (a + offset).isFinite = true := by
  obtain ⟨hx, hy, hz⟩ := (isFinite_iff a).mp ha
  exact (isFinite_iff _).mpr ⟨coordinate_isFinite hx hoffset.x hbound,
    coordinate_isFinite hy hoffset.y hbound, coordinate_isFinite hz hoffset.z hbound⟩

theorem toRat_lt_of_lt_safeOffset {distance : Float} (hfinite : distance.isFinite = true)
    (h : distance < safeOffset) : toRat distance < 2 ^ 970 := by
  obtain ⟨hsafeFinite, hsafe⟩ := toRat_safeOffset
  rwa [lt_iff hfinite hsafeFinite, hsafe] at h

end SpatialComputer
