import SpatialComputer.Proofs.Tick.Stages

/-!
# Caches in the course of a tick

A query takes no cache away and fills none but that of the device it is about. So a cache that is in use when a transmit phase begins is kept through all of its turns, and with the flag down a device that has had its turn has a cache. Neither rounds nor displacements touch a cache.
-/

namespace SpatialComputer

variable {U P : Type} [Processor U P]

/-- What is in the cache of the device at `i`, if there is one and its cache is in use. -/
def cacheAt {U : Type} (devices : Array (Device U)) (i : Nat) : Option (List DeviceId) :=
  devices[i]?.bind Device.neighborCache

omit [Processor U P] in
theorem cacheAt_congr {devices devices' : Array (Device U)}
    (same : devices'.map Device.neighborCache = devices.map Device.neighborCache) (i : Nat) :
    cacheAt devices' i = cacheAt devices i := by
  have h := congrArg (fun caches => caches[i]?.bind id) same
  simp only [Array.getElem?_map, Option.bind_map] at h
  exact h

namespace NeighborIndex

variable {U : Type} {index : NeighborIndex} {devices : Array (Device U)} {i j : Nat} {d : Device U}
  {ids : List DeviceId}

theorem neighborsOf_of_cached (hclean : index.dirty = false) (hcached : cacheAt devices i = some ids) :
    index.neighborsOf devices i = (ids, index, devices) := by
  unfold neighborsOf
  rw [hclean, if_neg Bool.false_ne_true]
  unfold cacheAt at hcached
  rw [hcached]

theorem cacheAt_neighborsOf_self (hclean : index.dirty = false) (hd : devices[i]? = some d) :
    cacheAt (index.neighborsOf devices i).2.2 i = some (index.neighborsOf devices i).1 := by
  cases hcached : cacheAt devices i with
  | some ids =>
    rw [neighborsOf_of_cached hclean hcached]
    exact hcached
  | none =>
    unfold cacheAt at hcached
    unfold neighborsOf cacheAt
    rw [hclean, if_neg Bool.false_ne_true, hcached]
    simp only [Array.getElem?_modify, hd]
    rfl

/-- No query takes a cache away. -/
theorem cacheAt_neighborsOf_of_cached (hcached : cacheAt devices j = some ids) (i : Nat) :
    cacheAt (index.neighborsOf devices i).2.2 j = some ids := by
  cases hclean : index.dirty with
  | true =>
    unfold neighborsOf
    rw [hclean]
    exact hcached
  | false =>
    by_cases hij : i = j
    · subst hij
      rw [neighborsOf_of_cached hclean hcached]
      exact hcached
    · unfold cacheAt at hcached ⊢
      rw [getElem?_neighborsOf_of_ne index devices hij, hcached]

end NeighborIndex

namespace Transmission

variable {time : Float} {index : NeighborIndex} {devices : Array (Device U)} {s : Transmission U}
  {i j n : Nat} {d : Device U} {ids : List DeviceId}

private theorem cacheAt_step_of_due (hd : s.devices[i]? = some d) (hdue : d.transmitDue time = true)
    (j : Nat) : cacheAt (s.step time i).devices j = cacheAt (s.index.neighborsOf s.devices i).2.2 j := by
  rw [step_of_due hd hdue]
  exact cacheAt_congr (map_pull (fun _ _ => rfl) (fun _ _ => rfl) time i _ _) j

private theorem cacheAt_step_of_cached (hcached : cacheAt s.devices j = some ids) (i : Nat) :
    cacheAt (s.step time i).devices j = some ids := by
  rcases step_cases time s i with hidle | ⟨d, hd, hdue⟩
  · rwa [hidle]
  · rw [cacheAt_step_of_due hd hdue]
    exact NeighborIndex.cacheAt_neighborsOf_of_cached hcached i

/-- A cache that is in use when the phase begins is kept at every turn. -/
theorem cacheAt_upTo_of_cached (hcached : cacheAt devices j = some ids) (n : Nat) :
    cacheAt (upTo time index devices n).devices j = some ids := by
  induction n with
  | zero => exact hcached
  | succ n ih =>
    rw [upTo_succ]
    exact cacheAt_step_of_cached ih n

theorem cacheAt_upTo_of_due (hclean : index.dirty = false) (hd : devices[i]? = some d)
    (hdue : d.transmitDue time = true) (hi : i < n) :
    cacheAt (upTo time index devices n).devices i = some ((upTo time index devices i).served i) := by
  have hturn := (getElem?_upTo_of_le time index devices (Nat.le_refl i)).trans hd
  have hclean : (upTo time index devices i).index.dirty = false :=
    (upTo_sameSetup time index devices i).dirty.trans hclean
  have hafter : cacheAt (upTo time index devices n).devices i =
      cacheAt ((upTo time index devices i).step time i).devices i :=
    congrArg (Option.bind · Device.neighborCache) (getElem?_upTo_of_lt time index devices hi)
  rw [hafter, cacheAt_step_of_due hturn hdue]
  exact NeighborIndex.cacheAt_neighborsOf_self hclean hturn

end Transmission

namespace Engine

theorem cacheAt_afterRounds (e : Engine U P) (i : Nat) :
    cacheAt e.afterRounds i = cacheAt e.transmission.devices i := by
  refine cacheAt_congr ?_ i
  rw [afterRounds, Array.map_map]
  refine Array.map_congr_left fun d _ => ?_
  obtain ⟨_, _, _, _, _, h⟩ := d.computeIfDue_eq e.time
  rw [Function.comp_apply, h]

theorem cacheAt_afterActuation (e : Engine U P) (i : Nat) :
    cacheAt e.afterActuation i = cacheAt e.transmission.devices i :=
  cacheAt_congr (caches_afterActuation e) i

end Engine

end SpatialComputer
