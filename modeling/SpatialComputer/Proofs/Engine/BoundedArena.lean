import SpatialComputer.Program.Scripted
import SpatialComputer.Proofs.Engine.History
import SpatialComputer.Proofs.Tick.Displacement

/-!
# Bounded arenas

In a bounded arena whatever moves is moved to a place inside. Only clones are put somewhere without being moved: without a displacement they stand where their parents do, and otherwise they may stand outside, but only until they move. So those who are inside stay inside.
-/

namespace SpatialComputer

open Binary64

variable {U P : Type} [Processor U P]

/-! ### Clones without a displacement -/

theorem cloneOffsets_zero {distance : Float} (hzero : (distance == 0) = true) (volume : Volume)
    (count : Nat) : ∀ stream : Sampling.Keystream,
    ∀ offset ∈ (cloneOffsets distance volume count stream).1, offset = Vec3.zero := by
  induction count with
  | zero => exact fun _ _ h => nomatch h
  | succ count ih =>
    intro stream offset h
    rcases List.mem_cons.mp h with rfl | h
    · show (cloneOffset distance volume stream).1 = Vec3.zero
      unfold cloneOffset
      rw [if_pos hzero]
    · exact ih _ offset h

namespace Volume

private theorem between_add_zero {low x high : Float} (hlow : low.isFinite = true)
    (hx : x.isFinite = true) (hhigh : high.isFinite = true) (h : low ≤ x ∧ x ≤ high) :
    (x + 0).isFinite = true ∧ low ≤ x + 0 ∧ x + 0 ≤ high := by
  have hrounded := rounded_add hx isFinite_zero
  rw [toRat_zero, add_zero] at hrounded
  obtain ⟨hfinite, hsame⟩ := hrounded.exact_of_double
  rw [le_iff hlow hx, le_iff hx hhigh] at h
  rw [le_iff hlow hfinite, le_iff hfinite hhigh, hsame]
  exact ⟨hfinite, h⟩

theorem Houses.add_zero {volume : Volume} {p : Vec3} (proper : volume.Proper) (houses : volume.Houses p) :
    volume.Houses (p + Vec3.zero) := by
  obtain ⟨hminX, hminY, hminZ⟩ := (Vec3.isFinite_iff _).mp proper.min
  obtain ⟨hmaxX, hmaxY, hmaxZ⟩ := (Vec3.isFinite_iff _).mp proper.max
  obtain ⟨hpX, hpY, hpZ⟩ := (Vec3.isFinite_iff _).mp houses.isFinite
  obtain ⟨hx, hy, hz⟩ := contains_iff.mp houses.contains
  obtain ⟨hfiniteX, hx⟩ := between_add_zero hminX hpX hmaxX hx
  obtain ⟨hfiniteY, hy⟩ := between_add_zero hminY hpY hmaxY hy
  obtain ⟨hfiniteZ, hz⟩ := between_add_zero hminZ hpZ hmaxZ hz
  exact ⟨(Vec3.isFinite_iff _).mpr ⟨hfiniteX, hfiniteY, hfiniteZ⟩, contains_iff.mpr ⟨hx, hy, hz⟩⟩

end Volume

namespace Engine

variable {b : Blueprint P} {e : Engine U P} {i : Nat} {d : Device U}

/-! ### A tick -/

private theorem Sound.acted_houses (sound : Sound b e) (proper : b.settings.population.volume.Proper)
    (hbounded : b.settings.dynamics.bounded = true) (hd : e.devices[i]? = some d) {acted : Device U}
    (hacted : e.afterActuation[i]? = some acted) :
    b.settings.population.volume.Houses acted.position ∨ acted.position = d.position := by
  obtain ⟨ready, hready, rfl⟩ := acted_eq hd hacted
  rw [sound.settings, if_pos hbounded, ← hready]
  exact ready.actuate_houses _ proper

private theorem Sound.houses_runTick (sound : Sound b e) (proper : b.settings.population.volume.Proper)
    (hbounded : b.settings.dynamics.bounded = true) (hd : e.devices[i]? = some d) :
    ∃ d', e.runTick.engine.devices[i]? = some d' ∧ d'.parent = d.parent ∧
      (b.settings.population.volume.Houses d'.position ∨ d'.position = d.position) := by
  obtain ⟨acted, hacted, hidentity, hd'⟩ := sound.device_runTick hd
  have hsame := (acted.identity_settled e.settings.lifecycle.cloneDelay).trans hidentity
  refine ⟨_, hd', congrArg Identity.parent hsame, ?_⟩
  have hmoved := sound.acted_houses proper hbounded hd hacted
  obtain ⟨timer, elapsed, hsettled⟩ := acted.settled_eq e.settings.lifecycle.cloneDelay
  rwa [hsettled]

private def spot (d : Device U) : Option DeviceId × Vec3 := (d.parent, d.position)

private theorem lasting_spot : Lasting (spot (U := U)) :=
  ⟨fun _ _ => rfl, fun _ _ _ => rfl, fun _ _ => rfl, fun _ _ => rfl⟩

/-- Whether the initial devices are inside, and the clones as well if they are not displaced. Adding a zero displacement leaves only a finite place where it is, so being finite is part of it. -/
private def Housed (b : Blueprint P) (e : Engine U P) : Prop :=
  ∀ d ∈ e.devices, d.parent = none ∨ (b.settings.lifecycle.cloneOffset == 0) = true →
    b.settings.population.volume.Houses d.position

private theorem Housed.runTick (sound : Sound b e) (proper : b.settings.population.volume.Proper)
    (hbounded : b.settings.dynamics.bounded = true) (housed : Housed b e) :
    Housed b e.runTick.engine := by
  intro d' hd' hguarded
  obtain ⟨i, hi⟩ := Array.mem_iff_getElem?.mp hd'
  rcases sound.device_runTick_cases hi with ⟨d, hd⟩ | ⟨k, parent, offset, rfl, hparent, hoffset, rfl⟩
  · obtain ⟨d₁, hd₁, hsame, hmoved⟩ := sound.houses_runTick proper hbounded hd
    obtain rfl := Option.some.inj (hi.symm.trans hd₁)
    rcases hmoved with hinside | hstay
    · exact hinside
    · rw [hstay]
      exact housed d (Array.mem_of_getElem? hd) (hsame ▸ hguarded)
  · have hzero := hguarded.resolve_left (Option.some_ne_none _)
    obtain ⟨j, hj, hacted, -⟩ := sound.place_of_parent (List.mem_of_getElem? hparent)
    have hd := Array.getElem?_eq_getElem hj
    have hinside : b.settings.population.volume.Houses parent.position := by
      rcases sound.acted_houses proper hbounded hd hacted with hinside | hstay
      · exact hinside
      · rw [hstay]
        exact housed _ (Array.mem_of_getElem? hd) (.inr hzero)
    obtain rfl : offset = Vec3.zero := by
      refine cloneOffsets_zero ?_ _ _ _ offset (List.mem_of_getElem? hoffset)
      rwa [sound.settings]
    exact hinside.add_zero proper

private theorem Reachable.housed (hbounded : b.settings.dynamics.bounded = true)
    (hinside : ∀ (start : Engine U P) (events : List (Event U)), b.build = (.ok start, events) →
      ∀ d ∈ start.devices, b.settings.population.volume.contains d.position = true)
    (reachable : Reachable b e) : Housed b e := by
  have proper := (Settings.accepted_of_validate reachable.valid).proper
  refine reachable.invariant_of_tick (fun h d hd _ => ?_) ?_ ?_
  · exact ⟨Blueprint.position_isFinite_of_build h d hd, hinside _ _ h d hd⟩
  · exact fun reachable housed => housed.runTick reachable.sound proper hbounded
  · exact fun h housed => forall_of_map_eq
      (p := fun spot : Option DeviceId × Vec3 =>
        spot.1 = none ∨ (b.settings.lifecycle.cloneOffset == 0) = true →
          b.settings.population.volume.Houses spot.2)
      (h.map_devices lasting_spot) housed

private theorem Course.contains {ticks : List (Engine U P)} {e' : Engine U P}
    (course : Course e ticks e') (sound : Sound b e) (proper : b.settings.population.volume.Proper)
    (hbounded : b.settings.dynamics.bounded = true) (hd : e.devices[i]? = some d) :
    ∃ d', e'.devices[i]? = some d' ∧
      (b.settings.population.volume.contains d'.position = true ∨ d'.position = d.position) := by
  refine course.follow Lasting.position
    (r := fun p q => b.settings.population.volume.contains q = true ∨ q = p) (fun _ => .inr rfl)
    (fun hfirst hrest => ?_) (fun sound hd => ?_) sound hd
  · rcases hrest with hinside | hstay
    · exact .inl hinside
    · exact hstay ▸ hfirst
  · obtain ⟨d', hd', -, hmoved⟩ := sound.houses_runTick proper hbounded hd
    exact ⟨d', hd', hmoved.imp_left fun houses => houses.contains⟩

/-- In a bounded arena whose initial devices are all inside, these stay inside in every reachable engine, and so do the clones if they are put where their parents are. However far clones are put away, from any tick of a history on a device is at a place inside or still where that tick left it; so whoever is inside stays inside. -/
theorem bounded_keeps_inside (hbounded : b.settings.dynamics.bounded = true)
    (hinside : ∀ (start : Engine U P) (events : List (Event U)), b.build = (.ok start, events) →
      ∀ d ∈ start.devices, b.settings.population.volume.contains d.position = true)
    (reachable : Reachable b e) :
    (∀ d ∈ e.devices, d.parent = none ∨ (b.settings.lifecycle.cloneOffset == 0) = true →
      b.settings.population.volume.contains d.position = true) ∧
    ∀ (ops : List Operation) (before rest : List (Engine U P)), e.ticksIn ops = before ++ rest →
      ∀ (i : Nat) (d : Device U), (e.afterTicks before).devices[i]? = some d →
        ∃ d', (e.performAll ops).devices[i]? = some d' ∧
          (b.settings.population.volume.contains d'.position = true ∨ d'.position = d.position) := by
  constructor
  · intro d hd hguarded
    exact (reachable.housed hbounded hinside d hd hguarded).contains
  · intro ops before rest hticks i d hd
    have proper := (Settings.accepted_of_validate reachable.valid).proper
    exact (course_afterTicks hticks).contains (reachable.afterTicks hticks).sound proper hbounded hd

/-- A device in a flat bounded arena of ten by ten, with clones two away. -/
def arena (start : Vec3) (program : Program) : Blueprint Program where
  settings := {
    engine := { seed := some 2 }
    population := {
      size := 1
      radius := 1
      volume := { min := ⟨0, 0, 0⟩, max := ⟨10, 10, 0⟩ }
      distribution := .explicit [start] }
    dynamics := { bounded := true }
    lifecycle := { cloneOffset := 2 } }
  program := program

private theorem inside_of_facts {b : Blueprint Program}
    (hfacts : (afterHistory b []).map (fun e : Engine ScriptedProcessor Program =>
      e.devices.all fun d => b.settings.population.volume.contains d.position) = some true) :
    ∀ (start : Engine ScriptedProcessor Program) (events : List (Event ScriptedProcessor)),
      b.build = (.ok start, events) →
        ∀ d ∈ start.devices, b.settings.population.volume.contains d.position = true := by
  intro start events hbuild d hd
  rw [afterHistory, hbuild] at hfacts
  exact Array.all_eq_true_iff_forall_mem.mp (Option.some.inj hfacts) d hd

/-- A device that drifts into the wall and a clone of it end up inside, and stay there. -/
theorem bounded_keeps_inside_drifter : ∃ e : Engine ScriptedProcessor Program,
    Reachable (arena ⟨5, 5, 0⟩ (.drift ⟨3, 0, 0⟩)) e ∧ e.devices.map Device.parent = #[none, some 1] ∧
      ∀ ops, ∃ d d', (e.performAll ops).devices[0]? = some d ∧ (e.performAll ops).devices[1]? = some d' ∧
        Volume.contains ⟨⟨0, 0, 0⟩, ⟨10, 10, 0⟩⟩ d.position = true ∧
        Volume.contains ⟨⟨0, 0, 0⟩, ⟨10, 10, 0⟩⟩ d'.position = true := by
  have hbuilt : (afterHistory (arena ⟨5, 5, 0⟩ (.drift ⟨3, 0, 0⟩)) []).map
      (fun e : Engine ScriptedProcessor Program => e.devices.all fun d =>
        (arena ⟨5, 5, 0⟩ (.drift ⟨3, 0, 0⟩)).settings.population.volume.contains d.position) =
          some true := by
    decide +kernel
  have hfacts : (afterHistory (arena ⟨5, 5, 0⟩ (.drift ⟨3, 0, 0⟩)) [.requestClone 1, .run 4]).map
      (fun e : Engine ScriptedProcessor Program => (e.devices.map Device.parent,
        e.devices.map fun d => Volume.contains ⟨⟨0, 0, 0⟩, ⟨10, 10, 0⟩⟩ d.position)) =
          some (#[none, some 1], #[true, true]) := by
    decide +kernel
  obtain ⟨e, he, hfacts⟩ := Option.map_eq_some_iff.mp hfacts
  obtain ⟨hparents, hcontains⟩ := Prod.mk.inj hfacts
  have reachable : Reachable (arena ⟨5, 5, 0⟩ (.drift ⟨3, 0, 0⟩)) e := .of_afterHistory he
  obtain ⟨-, hlater⟩ := bounded_keeps_inside (b := arena ⟨5, 5, 0⟩ (.drift ⟨3, 0, 0⟩)) rfl
    (inside_of_facts hbuilt) reachable
  have hstays : ∀ (i : Nat), i < 2 → ∀ ops, ∃ d', (e.performAll ops).devices[i]? = some d' ∧
      Volume.contains ⟨⟨0, 0, 0⟩, ⟨10, 10, 0⟩⟩ d'.position = true := by
    intro i hi ops
    have hat : (e.devices.map fun d =>
        Volume.contains ⟨⟨0, 0, 0⟩, ⟨10, 10, 0⟩⟩ d.position)[i]? = some true := by
      rw [hcontains]
      interval_cases i <;> rfl
    rw [Array.getElem?_map] at hat
    obtain ⟨d, hd, hin⟩ := Option.map_eq_some_iff.mp hat
    obtain ⟨d', hd', hinside | hstay⟩ := hlater ops [] _ rfl i d hd
    · exact ⟨d', hd', hinside⟩
    · exact ⟨d', hd', hstay ▸ hin⟩
  refine ⟨e, reachable, hparents, fun ops => ?_⟩
  obtain ⟨d, hd, hin⟩ := hstays 0 (by decide) ops
  obtain ⟨d', hd', hin'⟩ := hstays 1 (by decide) ops
  exact ⟨d, d', hd, hd', hin, hin'⟩

/-- A clone of a device at the wall is put outside, although the arena is bounded and all initial devices are inside. -/
theorem clone_outside_edgeDevice :
    (arena ⟨10, 5, 0⟩ .idle).settings.dynamics.bounded = true ∧
      (∀ (start : Engine ScriptedProcessor Program) (events : List (Event ScriptedProcessor)),
        (arena ⟨10, 5, 0⟩ .idle).build = (.ok start, events) → ∀ d ∈ start.devices,
          (arena ⟨10, 5, 0⟩ .idle).settings.population.volume.contains d.position = true) ∧
      ∃ e : Engine ScriptedProcessor Program, Reachable (arena ⟨10, 5, 0⟩ .idle) e ∧
        ∃ d ∈ e.devices,
          (arena ⟨10, 5, 0⟩ .idle).settings.population.volume.contains d.position = false := by
  have hbuilt : (afterHistory (arena ⟨10, 5, 0⟩ .idle) []).map
      (fun e : Engine ScriptedProcessor Program => e.devices.all fun d =>
        (arena ⟨10, 5, 0⟩ .idle).settings.population.volume.contains d.position) = some true := by
    decide +kernel
  have hfacts : (afterHistory (arena ⟨10, 5, 0⟩ .idle) [.requestClone 1, .tick]).map
      (fun e : Engine ScriptedProcessor Program => e.devices[1]?.map fun d =>
        (arena ⟨10, 5, 0⟩ .idle).settings.population.volume.contains d.position) =
          some (some false) := by
    decide +kernel
  refine ⟨rfl, inside_of_facts hbuilt, ?_⟩
  obtain ⟨e, he, hfacts⟩ := Option.map_eq_some_iff.mp hfacts
  obtain ⟨d, hd, houtside⟩ := Option.map_eq_some_iff.mp hfacts
  exact ⟨e, .of_afterHistory he, d, Array.mem_of_getElem? hd, houtside⟩

end Engine

end SpatialComputer
