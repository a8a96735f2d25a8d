import SpatialComputer.Program.Scripted
import SpatialComputer.Proofs.Population.Counting
import SpatialComputer.Proofs.Tick.Displacement

/-!
# Actuation, device by device

What the actuation phase does to a device is a function of its position, of the displacement it asks for and of the configuration. So it does not matter in which order the devices have their turns, and what is counted on the way is what is counted over the population. A device that counts as moved stands elsewhere afterwards, every other one stands where it stood, and the topology flag goes up just if a device has moved.
-/

namespace SpatialComputer

open Binary64

variable {U P : Type} [Processor U P]

/-! ### Turns with their checks -/

/-- Where a displacement leads, if the bounds that it is kept in have their corners in order. -/
def displaced? (speedLimit : Option Float) (bounds : Option Volume) (position delta : Vec3) :
    Option (Option Vec3) :=
  if !delta.isFinite then some none
  else do
    let free := position + limitSpeed speedLimit delta
    let target ← match bounds with
      | some volume => volume.clamp? free
      | none => some free
    return if target.isFinite then some target else none

/-- Applies the displacement that the device asks for, if the bounds allow it to be checked. -/
def Device.actuate? (speedLimit : Option Float) (bounds : Option Volume) (d : Device U) :
    Option (Actuation × Device U) :=
  let delta := Processor.actuators d.processor
  if delta.isZero then some (.idle, d.refreshPosition)
  else do
    let d := { d with processor := Processor.setActuators .zero d.processor }
    match ← displaced? speedLimit bounds d.position delta with
    | none => return (.suppressed, d.refreshPosition)
    | some target =>
      if target == d.position then return (.ineffective, d.refreshPosition)
      else return (.moved, d.moveTo target)

/-- The actuation phase when some devices have had their turns, with what was counted so far. -/
structure ActuationPass (U : Type) where
  devices : Array (Device U)
  moved : Nat := 0
  suppressed : Nat := 0

/-- The turn of the device at `i`, if there is one. -/
def ActuationPass.step? (s : Settings) (pass : ActuationPass U) (i : Nat) :
    Option (ActuationPass U) := do
  let d ← pass.devices[i]?
  let (outcome, acted) ← d.actuate? s.dynamics.speedLimit s.bounds
  return {
    devices := pass.devices.setIfInBounds i acted
    moved := pass.moved + if outcome = .moved then 1 else 0
    suppressed := pass.suppressed + if outcome = .suppressed then 1 else 0 }

/-- The actuation phase with the devices visited in the given order. The index learns of it at the end. -/
def actuateInOrder? (s : Settings) (order : List Nat) (index : NeighborIndex)
    (devices : Array (Device U)) : Option (ActuationPass U × NeighborIndex) := do
  let pass ← order.foldlM (ActuationPass.step? s) { devices := devices }
  return (pass, index.markDirtyIf (0 < pass.moved))

/-- What the configuration makes of the displacement that a device asks for. -/
def Settings.actuate (s : Settings) (d : Device U) : Actuation × Device U :=
  d.actuate s.dynamics.speedLimit s.bounds

theorem actuationPhase_eq (s : Settings) (devices : Array (Device U)) :
    actuationPhase s.dynamics s.population.volume devices = devices.map s.actuate :=
  rfl

theorem displaced?_eq {speedLimit : Option Float} {bounds : Option Volume}
    (hordered : ∀ volume, bounds = some volume → volume.isOrdered = true) (position delta : Vec3) :
    displaced? speedLimit bounds position delta = some (displaced speedLimit bounds position delta) := by
  unfold displaced? displaced
  split
  · rfl
  · cases bounds with
    | none => rfl
    | some volume =>
      simp only [Volume.clamp?, hordered volume rfl, if_true]
      rfl

theorem Device.actuate?_eq {speedLimit : Option Float} {bounds : Option Volume}
    (hordered : ∀ volume, bounds = some volume → volume.isOrdered = true) (d : Device U) :
    d.actuate? speedLimit bounds = some (d.actuate speedLimit bounds) := by
  unfold Device.actuate? Device.actuate
  simp only [displaced?_eq hordered]
  split
  · rfl
  · cases displaced speedLimit bounds d.position (Processor.actuators d.processor) with
    | none => rfl
    | some target =>
      simp only [Option.bind_eq_bind, Option.bind_some]
      split <;> rfl

theorem Settings.Accepted.ordered_bounds {s : Settings} (accepted : s.Accepted) (volume : Volume)
    (h : s.bounds = some volume) : volume.isOrdered = true := by
  obtain ⟨-, h⟩ := Option.ite_none_right_eq_some.mp h
  obtain rfl := Option.some.inj h
  exact accepted.proper.ordered

/-! ### Orders of visit -/

variable {s : Settings} {devices : Array (Device U)} {order : List Nat}

/-- How often an outcome comes up among the devices at the given places. -/
def outcomesAmong (s : Settings) (outcome : Actuation) (devices : Array (Device U))
    (order : List Nat) : Nat :=
  order.countP fun i => devices[i]?.any fun d => (s.actuate d).1 = outcome

def actedInOrder (s : Settings) (order : List Nat) (devices : Array (Device U)) : Array (Device U) :=
  order.foldl (fun devices i => devices.modify i fun d => (s.actuate d).2) devices

private theorem step?_eq (accepted : s.Accepted) {pass : ActuationPass U} {i : Nat} {d : Device U}
    (hd : pass.devices[i]? = some d) :
    pass.step? s i = some {
      devices := pass.devices.modify i fun d => (s.actuate d).2
      moved := pass.moved + outcomesAmong s .moved pass.devices [i]
      suppressed := pass.suppressed + outcomesAmong s .suppressed pass.devices [i] } := by
  have hset := setIfInBounds_eq_modify hd fun d => (s.actuate d).2
  have hcount : ∀ outcome, outcomesAmong s outcome pass.devices [i] =
      if (s.actuate d).1 = outcome then 1 else 0 := by
    intro outcome
    simp [outcomesAmong, hd, List.countP_cons]
  rw [ActuationPass.step?, hd, ← hset, hcount, hcount]
  simp only [Option.bind_eq_bind, Option.bind_some, Device.actuate?_eq accepted.ordered_bounds]
  rfl

private theorem outcomesAmong_cons {i : Nat} (hi : i ∉ order) (outcome : Actuation) :
    outcomesAmong s outcome devices [i] +
        outcomesAmong s outcome (devices.modify i fun d => (s.actuate d).2) order =
      outcomesAmong s outcome devices (i :: order) := by
  have huntouched : outcomesAmong s outcome (devices.modify i fun d => (s.actuate d).2) order =
      outcomesAmong s outcome devices order := by
    refine List.countP_congr fun j hj => ?_
    have hne : i ≠ j := fun heq => hi (heq ▸ hj)
    rw [Array.getElem?_modify, if_neg hne]
  rw [huntouched, outcomesAmong, outcomesAmong, outcomesAmong, List.countP_cons, List.countP_cons,
    List.countP_nil]
  omega

private theorem foldlM_step? (accepted : s.Accepted) (hnodup : order.Nodup) :
    ∀ pass : ActuationPass U, (∀ i ∈ order, i < pass.devices.size) →
      order.foldlM (ActuationPass.step? s) pass = some {
        devices := actedInOrder s order pass.devices
        moved := pass.moved + outcomesAmong s .moved pass.devices order
        suppressed := pass.suppressed + outcomesAmong s .suppressed pass.devices order } := by
  induction order with
  | nil => exact fun _ _ => rfl
  | cons i order ih =>
    intro pass hplaces
    obtain ⟨hi, horder⟩ := List.nodup_cons.mp hnodup
    have hd := Array.getElem?_eq_getElem (hplaces i List.mem_cons_self)
    have hrest : ∀ j ∈ order, j < (pass.devices.modify i fun d => (s.actuate d).2).size := by
      intro j hj
      rw [Array.size_modify]
      exact hplaces j (List.mem_cons_of_mem i hj)
    rw [List.foldlM_cons, step?_eq accepted hd, Option.bind_eq_bind, Option.bind_some, ih horder _ hrest]
    simp only [Nat.add_assoc, outcomesAmong_cons hi]
    rfl

private theorem outcomesAmong_perm (horder : order.Perm (List.range devices.size)) (outcome : Actuation) :
    outcomesAmong s outcome devices order =
      (actuationPhase s.dynamics s.population.volume devices).countP fun acted => acted.1 = outcome := by
  have hcount := countP_range (fun d => (s.actuate d).1 = outcome) devices.toList
  simp only [Array.length_toList, Array.getElem?_toList] at hcount
  rw [outcomesAmong, horder.countP_eq, hcount, actuationPhase_eq, Array.countP_map, Array.countP_toList]
  rfl

private theorem actedInOrder_perm (horder : order.Perm (List.range devices.size)) :
    actedInOrder s order devices =
      (actuationPhase s.dynamics s.population.volume devices).map (·.2) := by
  apply Array.ext_getElem?
  intro i
  rw [actedInOrder, getElem?_foldl_modify _ (horder.nodup_iff.mpr List.nodup_range), actuationPhase_eq,
    Array.map_map, Array.getElem?_map]
  by_cases hi : i ∈ order
  · rw [if_pos hi]
    rfl
  · have hsize : devices.size ≤ i :=
      Nat.not_lt.mp fun h => hi (horder.mem_iff.mpr (List.mem_range.mpr h))
    rw [if_neg hi, Array.getElem?_eq_none hsize]
    rfl

/-- In whatever order the devices have their turns, no check fails and the phase comes to the same. -/
theorem actuateInOrder?_eq (accepted : s.Accepted) (horder : order.Perm (List.range devices.size))
    (index : NeighborIndex) :
    let acted := actuationPhase s.dynamics s.population.volume devices
    let moved := acted.countP fun (outcome, _) => outcome = .moved
    actuateInOrder? s order index devices = some
      ({ devices := acted.map (·.2)
         moved := moved
         suppressed := acted.countP fun (outcome, _) => outcome = .suppressed },
        index.markDirtyIf (0 < moved)) := by
  have hplaces : ∀ i ∈ order, i < devices.size := fun i hi => List.mem_range.mp (horder.mem_iff.mp hi)
  have hpass := foldlM_step? accepted (horder.nodup_iff.mpr List.nodup_range) { devices := devices } hplaces
  simp only [Nat.zero_add, outcomesAmong_perm horder, actedInOrder_perm horder] at hpass
  rw [actuateInOrder?, hpass]
  rfl

/-! ### The effect on a device -/

def Settings.verdict (s : Settings) (position delta : Vec3) : Actuation :=
  if delta.isZero then .idle
  else match displaced s.dynamics.speedLimit s.bounds position delta with
    | none => .suppressed
    | some target => if target == position then .ineffective else .moved

/-- A device is taken where its displacement leads, and a displacement that is not zero is used up. -/
theorem Settings.actuate_eq (s : Settings) (d : Device U) :
    let delta := Processor.actuators d.processor
    s.actuate d = (s.verdict d.position delta, Device.moveTo (s.destination d.position delta)
      (if delta.isZero then d else { d with processor := Processor.setActuators .zero d.processor })) := by
  unfold Settings.actuate Device.actuate verdict destination
  dsimp only
  cases (Processor.actuators d.processor).isZero with
  | true => rfl
  | false =>
    simp only [Bool.false_eq_true, if_false]
    cases displaced s.dynamics.speedLimit s.bounds d.position (Processor.actuators d.processor) with
    | none => rfl
    | some target =>
      dsimp only
      cases target == d.position <;> rfl

theorem Vec3.beq_self {a : Vec3} (ha : a.isFinite = true) : (a == a) = true := by
  obtain ⟨hx, hy, hz⟩ := (isFinite_iff a).mp ha
  show (a.x == a.x && a.y == a.y && a.z == a.z) = true
  simp only [Bool.and_eq_true, beq_iff hx hx, beq_iff hy hy, beq_iff hz hz, and_self]

variable {position delta : Vec3}

theorem Settings.destination_of_moved (h : s.verdict position delta = .moved) :
    (s.destination position delta == position) = false ∧ s.destination position delta ≠ position := by
  cases hzero : delta.isZero with
  | true => simp [verdict, hzero] at h
  | false =>
    cases htarget : displaced s.dynamics.speedLimit s.bounds position delta with
    | none => simp [verdict, hzero, htarget] at h
    | some target =>
      cases hsame : target == position with
      | true => simp [verdict, hzero, htarget, hsame] at h
      | false =>
        have hdestination : s.destination position delta = target := by
          simp [destination, hzero, htarget, hsame]
        rw [hdestination]
        refine ⟨hsame, ?_⟩
        rintro rfl
        rw [Vec3.beq_self (displaced_isFinite htarget)] at hsame
        cases hsame

theorem Settings.destination_of_not_moved (h : s.verdict position delta ≠ .moved) :
    s.destination position delta = position := by
  unfold verdict at h
  unfold destination
  split
  · rfl
  · rename_i hzero
    rw [if_neg hzero] at h
    cases htarget : displaced s.dynamics.speedLimit s.bounds position delta with
    | none => rfl
    | some target =>
      simp only [htarget] at h ⊢
      split
      · rfl
      · rename_i hsame
        exact absurd (if_neg hsame) h

/-! ### The counts and the flag -/

theorem countP_moved_add_suppressed (acted : Array (Actuation × Device U)) :
    acted.countP (fun (outcome, _) => outcome = .moved) +
        acted.countP (fun (outcome, _) => outcome = .suppressed) =
      acted.countP fun (outcome, _) => outcome = .moved ∨ outcome = .suppressed := by
  apply countP_add
  rintro ⟨outcome, _⟩ -
  cases outcome <;> rfl

private theorem moved_add_suppressed_le (s : Settings) (devices : Array (Device U)) :
    let acted := actuationPhase s.dynamics s.population.volume devices
    acted.countP (fun (outcome, _) => outcome = .moved) +
        acted.countP (fun (outcome, _) => outcome = .suppressed) ≤
      devices.countP fun d => !(Processor.actuators d.processor).isZero := by
  dsimp only
  rw [countP_moved_add_suppressed, actuationPhase_eq, Array.countP_map]
  refine Array.countP_mono_left fun d _ houtcome => ?_
  rw [Bool.not_eq_true']
  by_contra hzero
  rw [Bool.not_eq_false] at hzero
  have hidle : (s.actuate d).1 = .idle := Device.actuate_of_isZero hzero
  simp [hidle] at houtcome

/-- Under an accepted configuration the phase never fails, and in whatever order the devices have their turns it leaves the same devices, counts and index. Of a device it changes the position, and of its processor the copy of the position and the displacement asked for; what these become, and what is counted, is given by the position and the displacement. A device counts as moved just if its position changes, and then to another number. At most the displacements that are not zero are counted, and the flag goes up just if a device has moved; otherwise the index is left as it was. This is what a tick does between its rounds and its clones. -/
theorem actuation_pointwise {s : Settings} (valid : s.validate = .ok ())
    (devices : Array (Device ScriptedProcessor)) (index : NeighborIndex) :
    let acted := actuationPhase s.dynamics s.population.volume devices
    let moved := acted.countP fun (outcome, _) => outcome = .moved
    let suppressed := acted.countP fun (outcome, _) => outcome = .suppressed
    (∀ order : List Nat, order.Perm (List.range devices.size) →
      actuateInOrder? s order index devices =
        some (⟨acted.map (·.2), moved, suppressed⟩, index.markDirtyIf (0 < moved))) ∧
    acted.size = devices.size ∧
    (∀ (i : Nat) (d : Device ScriptedProcessor), devices[i]? = some d →
      let delta := d.processor.actuators
      let target := s.destination d.position delta
      acted[i]? = some (s.verdict d.position delta, { d with
        position := target
        processor := { d.processor with
          position := target
          actuators := if delta.isZero then delta else .zero } }) ∧
      (s.verdict d.position delta = .moved ↔ target ≠ d.position) ∧
      (s.verdict d.position delta = .moved → (target == d.position) = false)) ∧
    moved + suppressed ≤ devices.countP (fun d => !d.processor.actuators.isZero) ∧
    (index.markDirtyIf (0 < moved)).dirty = (index.dirty || decide (0 < moved)) ∧
    (moved = 0 → index.markDirtyIf (0 < moved) = index) ∧
    ∀ e : Engine ScriptedProcessor Program,
      e.settings = s → e.afterRounds = devices → e.transmission.index = index →
        e.afterActuation = acted.map (·.2) ∧ e.runTick.report.moved = moved ∧
          e.runTick.report.suppressed = suppressed ∧ e.runTick.engine.index =
            (index.markDirtyIf (0 < moved)).markDirtyIf (0 < e.runTick.report.spawned) := by
  have accepted := Settings.accepted_of_validate valid
  refine ⟨fun order horder => actuateInOrder?_eq accepted horder index, Array.size_map, ?_,
    moved_add_suppressed_le s devices, NeighborIndex.markDirtyIf_dirty _ _, fun hnone => ?_, ?_⟩
  · intro i d hd
    refine ⟨?_, ⟨fun hmoved => (Settings.destination_of_moved hmoved).2, fun hne => ?_⟩,
      fun hmoved => (Settings.destination_of_moved hmoved).1⟩
    · have hasked : Processor.actuators d.processor = d.processor.actuators := rfl
      rw [actuationPhase_eq, Array.getElem?_map, hd, Option.map_some, Settings.actuate_eq, hasked]
      dsimp only
      cases d.processor.actuators.isZero <;> rfl
    · by_contra hmoved
      exact hne (Settings.destination_of_not_moved hmoved)
  · rw [hnone]
    rfl
  · rintro e rfl rfl rfl
    rw [Engine.runTick_eq]
    exact ⟨rfl, rfl, rfl, rfl⟩

def arena : Settings where
  dynamics := { speedLimit := some 5, bounded := true }

/-- Devices that ask for nothing, for a step inside, for a step across the bounds, and for one that is not a number. -/
def steppers : Array (Device ScriptedProcessor) :=
  #[(⟨1, 1, 1⟩, ⟨-0, 0, 0⟩), (⟨2, 2, 2⟩, ⟨30, 40, 0⟩), (⟨100, 50, 50⟩, ⟨7, 0, 0⟩),
    (⟨3, 3, 3⟩, ⟨0 / 0, 0, 0⟩)].mapIdx fun k (position, delta) =>
      .create (P := Program) (k + 1) none position 1
        { program := .idle, position := position, actuators := delta } {} 0 0

/-- Only the second of these devices moves, by 5, and only the fourth is suppressed, also when the third has its turn first. -/
theorem actuation_pointwise_steppers : arena.validate = .ok () ∧
    ∃ (pass : ActuationPass ScriptedProcessor) (index : NeighborIndex),
      actuateInOrder? arena [2, 0, 3, 1] (.create .bruteForce 1) steppers = some (pass, index) ∧
        pass.devices.map Device.position = #[⟨1, 1, 1⟩, ⟨5, 6, 2⟩, ⟨100, 50, 50⟩, ⟨3, 3, 3⟩] ∧
        pass.moved = 1 ∧ pass.suppressed = 1 ∧ index.dirty = true := by
  have hfacts : arena.validate = .ok () ∧
      (actuationPhase arena.dynamics arena.population.volume steppers).map (fun acted =>
        (acted.1, acted.2.position)) =
          #[(.idle, ⟨1, 1, 1⟩), (.moved, ⟨5, 6, 2⟩), (.ineffective, ⟨100, 50, 50⟩),
            (.suppressed, ⟨3, 3, 3⟩)] := by
    decide +kernel
  obtain ⟨hvalid, hacted⟩ := hfacts
  have hpositions := congrArg (Array.map Prod.snd) hacted
  have hmoved := congrArg (Array.countP fun seen => seen.1 = Actuation.moved) hacted
  have hsuppressed := congrArg (Array.countP fun seen => seen.1 = Actuation.suppressed) hacted
  rw [Array.map_map] at hpositions
  rw [Array.countP_map] at hmoved hsuppressed
  have horder : [2, 0, 3, 1].Perm (List.range steppers.size) := by decide +kernel
  obtain ⟨hpass, -⟩ := actuation_pointwise hvalid steppers (.create .bruteForce 1)
  refine ⟨hvalid, _, _, hpass _ horder, ?_, hmoved, hsuppressed, ?_⟩
  · rw [Array.map_map]
    exact hpositions.trans (by simp)
  · rw [NeighborIndex.markDirtyIf_dirty]
    exact decide_eq_true (hmoved.symm ▸ Nat.one_pos)

end SpatialComputer
