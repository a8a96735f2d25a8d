import SpatialComputer.Program.Scripted
import SpatialComputer.Proofs.Engine.Invariant
import SpatialComputer.Proofs.Tick.Displacement

/-!
# Positions stay finite

Devices start at finite places, and no displacement that a program asks for takes one anywhere else. Only clones are put where nobody has looked. As long as they are displaced by less than the safe distance they stand at finite places too; a larger distance can carry a clone beyond the largest double.
-/

namespace SpatialComputer

namespace Engine

open Binary64

variable {U P : Type} [Processor U P] {b : Blueprint P} {e : Engine U P}

/-- Whether the initial devices stand at finite places, and the clones as well if their displacements are safe. -/
def Grounded (safe : Prop) (devices : Array (Device U)) : Prop :=
  ∀ d ∈ devices, d.parent = none ∨ safe → d.position.isFinite = true

variable {safe : Prop}

omit [Processor U P] in
theorem Grounded.congr {devices devices' : Array (Device U)} (grounded : Grounded safe devices)
    (same : devices'.map (fun d => (d.parent, d.position)) =
      devices.map fun d => (d.parent, d.position)) : Grounded safe devices' :=
  forall_of_map_eq (p := fun d : Option DeviceId × Vec3 => d.1 = none ∨ safe → d.2.isFinite = true)
    same grounded

omit [Processor U P] in
private theorem Grounded.withDevice (grounded : Grounded safe e.devices) (i : Nat)
    {f : Device U → Device U} (hsame : ∀ d, ((f d).parent, (f d).position) = (d.parent, d.position)) :
    Grounded safe (e.withDevice i f).devices :=
  grounded.congr (map_modify e.devices i hsame)

/-! ### A tick -/

theorem Grounded.afterActuation (grounded : Grounded safe e.devices) : Grounded safe e.afterActuation := by
  have hrounds : Grounded safe e.afterRounds := by
    have htransmission : Grounded safe e.transmission.devices :=
      grounded.congr (map_transmissionAt ⟨fun _ _ => rfl, fun _ _ => rfl, fun _ _ => rfl⟩
        (fun _ => rfl) e _)
    refine htransmission.congr ?_
    rw [afterRounds, Array.map_map]
    refine Array.map_congr_left fun d _ => ?_
    obtain ⟨_, _, _, _, _, h⟩ := d.computeIfDue_eq e.time
    rw [Function.comp_apply, h]
  intro d hd hguarded
  rw [Engine.afterActuation, actuations, actuationPhase, Array.map_map] at hd
  obtain ⟨source, hsource, rfl⟩ := Array.mem_map.mp hd
  refine source.actuate_isFinite _ _ (hrounds source hsource ?_)
  obtain ⟨_, _, h⟩ := source.actuate_eq e.settings.dynamics.speedLimit
    (if e.settings.dynamics.bounded then some e.settings.population.volume else none)
  rwa [Function.comp_apply, h] at hguarded

private theorem Sound.clones_isFinite (sound : Sound b e) (hvalid : b.settings.validate = .ok ())
    (hsafe : b.settings.lifecycle.cloneOffset < safeOffset)
    (hfinite : ∀ d ∈ e.afterActuation, d.position.isFinite = true) :
    ∀ clone ∈ e.clonesInTick, clone.position.isFinite = true := by
  intro clone hclone
  obtain ⟨k, hk⟩ := List.mem_iff_getElem?.mp hclone
  rw [clonesInTick, getElem?_clones] at hk
  obtain ⟨⟨parent, offset⟩, hzip, rfl⟩ := Option.map_eq_some_iff.mp hk
  obtain ⟨hparent, hoffset⟩ := List.getElem?_zip_eq_some.mp hzip
  have hparent : parent ∈ e.afterActuation :=
    mem_afterActuation_of_mem_parentsInTick (List.mem_iff_getElem?.mpr ⟨k, hparent⟩)
  have hoffset : offset ∈ e.offsetsInTick.1 := List.mem_iff_getElem?.mpr ⟨k, hoffset⟩
  have hdistance := (Settings.accepted_of_validate hvalid).cloneOffset
  rw [isFiniteNonnegative, Bool.and_eq_true, decide_eq_true_iff] at hdistance
  obtain ⟨hdistanceFinite, hnonneg⟩ := hdistance
  rw [le_iff isFinite_zero hdistanceFinite, toRat_zero] at hnonneg
  rw [offsetsInTick, sound.settings] at hoffset
  exact Vec3.add_isFinite (hfinite parent hparent)
    (cloneOffsets_within hdistanceFinite hnonneg _ _ _ offset hoffset)
    (toRat_lt_of_lt_safeOffset hdistanceFinite hsafe)

omit [Processor U P] in
private theorem parent_of_mem_clones {program : P} {time cloneDelay : Float} {present : Nat}
    [Processor U P] {parents : List (Device U)} {offsets : List Vec3} {clone : Device U}
    (h : clone ∈ clones program time cloneDelay present parents offsets) : clone.parent ≠ none := by
  obtain ⟨k, hk⟩ := List.mem_iff_getElem?.mp h
  rw [getElem?_clones] at hk
  obtain ⟨source, -, rfl⟩ := Option.map_eq_some_iff.mp hk
  exact Option.some_ne_none _

private theorem Sound.grounded_runTick (sound : Sound b e) (hvalid : b.settings.validate = .ok ())
    (grounded : Grounded (b.settings.lifecycle.cloneOffset < safeOffset) e.devices) :
    Grounded (b.settings.lifecycle.cloneOffset < safeOffset) e.runTick.engine.devices := by
  rw [sound.devices_runTick]
  intro d hd hguarded
  rcases Array.mem_append.mp hd with hd | hd
  · have hsettled : Grounded (b.settings.lifecycle.cloneOffset < safeOffset)
        (e.afterActuation.map (Device.settled e.settings.lifecycle.cloneDelay)) := by
      refine grounded.afterActuation.congr ?_
      rw [Array.map_map]
      refine Array.map_congr_left fun d _ => ?_
      obtain ⟨_, _, h⟩ := d.settled_eq e.settings.lifecycle.cloneDelay
      rw [Function.comp_apply, h]
    exact hsettled d hd hguarded
  · have hd := List.mem_toArray.mp hd
    have hsafe := hguarded.resolve_left (parent_of_mem_clones hd)
    exact sound.clones_isFinite hvalid hsafe
      (fun d hd => grounded.afterActuation d hd (Or.inr hsafe)) d hd

/-! ### Every reachable engine -/

private structure Contained (b : Blueprint P) (e : Engine U P) : Prop where
  valid : b.settings.validate = .ok ()
  sound : Sound b e
  grounded : Grounded (b.settings.lifecycle.cloneOffset < safeOffset) e.devices

private theorem Contained.step {e' : Engine U P} (contained : Contained b e) (h : Step e e') :
    Contained b e' := by
  refine ⟨contained.valid, contained.sound.step h, ?_⟩
  have grounded := contained.grounded
  cases h with
  | tick => exact contained.sound.grounded_runTick contained.valid grounded
  | setPaused paused => exact grounded
  | setSensor i sensor value => exact grounded.withDevice i fun _ => rfl
  | setRadius i radius => exact grounded.withDevice i fun _ => rfl
  | request i raise => exact grounded.withDevice i fun _ => rfl
  | query i => exact grounded.congr (NeighborIndex.map_neighborsOf (fun _ _ => rfl) e.index e.devices i)

/-- In every reachable engine the initial devices stand at finite places, whatever the program asks for and whatever is done with the engine, and the clones do so as well if they are displaced by less than the safe distance. -/
theorem positions_finite (reachable : Reachable b e) : ∀ d ∈ e.devices,
    d.parent = none ∨ b.settings.lifecycle.cloneOffset < safeOffset →
      d.position.isFinite = true := by
  have contained : Contained b e := by
    refine reachable.invariant (fun e events h => ?_) fun e e' contained h => contained.step h
    have built := Blueprint.built_of_build h
    exact ⟨built.valid, .of_built built, fun d hd _ => Blueprint.position_isFinite_of_build h d hd⟩
  exact contained.grounded

def farDevice (cloneOffset : Float) : Blueprint Program where
  settings := {
    engine := { seed := some 2 }
    population := {
      size := 1
      radius := 1
      volume := { min := ⟨0, 0, 0⟩, max := ⟨10, 10, 0⟩ }
      distribution := .explicit [⟨1.7e308, 1.7e308, 0⟩] }
    lifecycle := { cloneOffset := cloneOffset } }
  program := .idle

/-- The device in the corner and a clone that is displaced by a safe distance both stand at finite places. -/
theorem positions_finite_farDevice : ∃ e : Engine ScriptedProcessor Program,
    Reachable (farDevice 9e291) e ∧ (9e291 : Float) < safeOffset ∧
      e.devices.map Device.parent = #[none, some 1] ∧
      ∀ d ∈ e.devices, d.position.isFinite = true := by
  have hparents : (afterHistory (farDevice 9e291) [.requestClone 1, .tick]).map
      (fun e : Engine ScriptedProcessor Program => e.devices.map Device.parent) =
        some #[none, some 1] := by
    decide +kernel
  have hsafe : (9e291 : Float) < safeOffset := by decide +kernel
  obtain ⟨e, he, hparents⟩ := Option.map_eq_some_iff.mp hparents
  have reachable : Reachable (farDevice 9e291) e := .of_afterHistory he
  exact ⟨e, reachable, hsafe, hparents, fun d hd => positions_finite reachable d hd (.inr hsafe)⟩

/-- A clone of the device in the corner that is displaced by as much again leaves the range of doubles. -/
theorem clone_not_finite_farDevice : ∃ e : Engine ScriptedProcessor Program,
    Reachable (farDevice 1.7e308) e ∧ ∃ d ∈ e.devices, d.position.isFinite = false := by
  have hfacts : (afterHistory (farDevice 1.7e308) [.requestClone 1, .tick]).map
      (fun e : Engine ScriptedProcessor Program => e.devices[1]?.map (·.position.isFinite)) =
        some (some false) := by
    decide +kernel
  obtain ⟨e, he, hfacts⟩ := Option.map_eq_some_iff.mp hfacts
  obtain ⟨d, hd, hinfinite⟩ := Option.map_eq_some_iff.mp hfacts
  exact ⟨e, .of_afterHistory he, d, Array.mem_of_getElem? hd, hinfinite⟩

end Engine

end SpatialComputer
