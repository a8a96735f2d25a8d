import SpatialComputer.Program.Scripted
import SpatialComputer.Proofs.Engine.Invariant

/-!
# Caches of an engine that tests every device

With the strategy that tests every device, a cache that is in use holds what the distance test finds among the devices as they are. So it makes no difference to a query whether the caches are asked, between two ticks and at every turn of a transmit phase.
-/

namespace SpatialComputer

namespace Engine

variable {U P : Type} [Processor U P] {b : Blueprint P} {e : Engine U P}

private theorem served_bruteForce (sound : Sound b e)
    (bruteForce : b.settings.index.strategy = .bruteForce) (n i : Nat) :
    (e.transmissionAt n).served i = neighborsWithin (e.transmissionAt n).devices i := by
  rw [sound.served_transmissionAt, bruteForce, transmissionAt,
    neighborsWithin_congr (Transmission.sites_upTo _ _ _ _),
    neighborsWithin_congr (NeighborIndex.sites_beginTick _ _)]
  rfl

omit [Processor U P] in
private theorem neighborsOf_eq_neighborsUncached (sound : Sound b e)
    (bruteForce : b.settings.index.strategy = .bruteForce) {id : DeviceId}
    (hid : id ∈ e.population.ids) :
    ∃ ids e', e.neighborsOf id = .ok (ids, e') ∧ e.neighborsUncached id = .ok ids := by
  obtain ⟨d, hd, rfl⟩ := List.mem_map.mp hid
  obtain ⟨i, hi⟩ := Array.mem_iff_getElem?.mp (Array.mem_toList_iff.mp hd)
  have hfound : e.population.indexOf d.id = some i := Population.indexIn_id sound.numbered hi
  refine ⟨neighborsWithin e.devices i, e.afterQuery i, ?_, ?_⟩
  · rw [neighborsOf_of_found hfound, NeighborIndex.neighborsOf_fst sound.coherent,
      NeighborIndex.answer_of_bruteForce (sound.strategy.trans bruteForce)]
  · unfold neighborsUncached indexOf
    rw [hfound]
    rfl

/-- While the flag is down every cache holds the neighbours by distance; every registered device has the same neighbours with and without caches; and at every turn of the next tick a device is served the neighbours by distance. -/
theorem caches_hold_neighborsWithin (bruteForce : b.settings.index.strategy = .bruteForce)
    (reachable : Reachable b e) :
    (e.topologyDirty = false → ∀ (i : Nat) (d : Device U) (ids : List DeviceId),
      e.devices[i]? = some d → d.neighborCache = some ids → ids = neighborsWithin e.devices i) ∧
    (∀ id ∈ e.population.ids, ∃ ids e',
      e.neighborsOf id = .ok (ids, e') ∧ e.neighborsUncached id = .ok ids) ∧
    ∀ (i : Nat) (d : Device U), (e.transmissionAt i).devices[i]? = some d →
      d.transmitDue e.time = true →
      (e.transmissionAt i).served i = neighborsWithin (e.transmissionAt i).devices i := by
  have sound := reachable.sound
  refine ⟨?_, fun id hid => neighborsOf_eq_neighborsUncached sound bruteForce hid,
    fun i _ _ _ => served_bruteForce sound bruteForce i i⟩
  intro hclean i d ids hd hids
  have h := sound.coherent.cache hclean i d ids hd hids
  rwa [sound.strategy, bruteForce] at h

/-- Two idle devices at a distance of one, within reach of each other. -/
def idlePair : Blueprint Program where
  settings := { population := {
    size := 2
    radius := 1
    distribution := .explicit [⟨1, 0, 0⟩, ⟨2, 0, 0⟩] } }
  program := .idle

/-- After a tick of two idle devices the flag is down and each cache holds the other device. -/
theorem caches_hold_neighborsWithin_idlePair : ∃ e : Engine ScriptedProcessor Program,
    Reachable idlePair e ∧ idlePair.settings.index.strategy = .bruteForce ∧
      e.topologyDirty = false ∧ e.devices.map Device.neighborCache = #[some [2], some [1]] ∧
      [2] = neighborsWithin e.devices 0 ∧ [1] = neighborsWithin e.devices 1 := by
  have hfacts : (afterHistory idlePair [.tick]).map (fun e : Engine ScriptedProcessor Program =>
      (e.topologyDirty, e.devices.map Device.neighborCache)) =
        some (false, #[some [2], some [1]]) := by
    decide +kernel
  obtain ⟨e, he, hfacts⟩ := Option.map_eq_some_iff.mp hfacts
  obtain ⟨hclean, hcaches⟩ := Prod.mk.inj hfacts
  have hcache : ∀ (i : Nat) (ids : List DeviceId), (#[some [2], some [1]] : Array _)[i]? = some (some ids) →
      ids = neighborsWithin e.devices i := by
    intro i ids hids
    rw [← hcaches, Array.getElem?_map] at hids
    obtain ⟨d, hd, hids⟩ := Option.map_eq_some_iff.mp hids
    exact (caches_hold_neighborsWithin rfl (Reachable.of_afterHistory he)).1 hclean i d ids hd hids
  exact ⟨e, .of_afterHistory he, rfl, hclean, hcaches, hcache 0 [2] rfl, hcache 1 [1] rfl⟩

end Engine

end SpatialComputer
