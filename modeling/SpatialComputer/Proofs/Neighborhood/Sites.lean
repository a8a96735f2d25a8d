import SpatialComputer.Neighborhood.Index

/-!
# What neighbour discovery reads

Whether by testing every device or by way of the cells, neighbours are found from the ids, the positions and the radii of the devices alone. Everything here says that two populations which agree on these have the same neighbours, so whatever changes only processors, timers, requests or caches leaves every list of neighbours as it was.
-/

namespace SpatialComputer

variable {U : Type}

/-- What neighbour discovery reads of a device. -/
structure Site where
  id : DeviceId
  position : Vec3
  radius : Float

def Device.site (d : Device U) : Site where
  id := d.id
  position := d.position
  radius := d.radius

def sites (devices : Array (Device U)) : Array Site := devices.map Device.site

@[simp] theorem size_sites (devices : Array (Device U)) : (sites devices).size = devices.size :=
  Array.size_map

theorem getElem?_sites (devices : Array (Device U)) (i : Nat) :
    (sites devices)[i]? = devices[i]?.map Device.site :=
  Array.getElem?_map

theorem sites_map {f : Device U → Device U} (hf : ∀ d, (f d).site = d.site)
    (devices : Array (Device U)) : sites (devices.map f) = sites devices := by
  rw [sites, Array.map_map]
  exact Array.map_congr_left fun d _ => hf d

theorem size_eq_of_sites {devices devices' : Array (Device U)} (same : sites devices' = sites devices) :
    devices'.size = devices.size := by
  rw [← size_sites, same, size_sites]

theorem map_id_eq_of_sites {devices devices' : Array (Device U)}
    (same : sites devices' = sites devices) : devices'.map Device.id = devices.map Device.id := by
  have hids : ∀ ds : Array (Device U), ds.map Device.id = (sites ds).map Site.id := by
    intro ds
    rw [sites, Array.map_map]
    rfl
  rw [hids, hids, same]

private theorem isNeighbor_eq (devices : Array (Device U)) (i j : Nat) :
    isNeighbor devices i j = match (sites devices)[i]?, (sites devices)[j]? with
      | some d, some e => i != j && withinRadius d.position e.position d.radius
      | _, _ => false := by
  rw [isNeighbor, getElem?_sites, getElem?_sites]
  cases devices[i]? <;> cases devices[j]? <;> rfl

private theorem idsAt_eq (devices : Array (Device U)) (indices : List Nat) :
    idsAt devices indices = indices.filterMap fun i => (sites devices)[i]?.map Site.id := by
  unfold idsAt
  congr 1
  funext i
  rw [getElem?_sites, Option.map_map]
  rfl

theorem positions_eq (devices : Array (Device U)) :
    devices.toList.map Device.position = (sites devices).toList.map Site.position := by
  rw [sites, Array.toList_map, List.map_map]
  rfl

variable {devices devices' : Array (Device U)}

theorem isNeighbor_congr (same : sites devices' = sites devices) (i j : Nat) :
    isNeighbor devices' i j = isNeighbor devices i j := by
  rw [isNeighbor_eq, isNeighbor_eq, same]

theorem idsAt_congr (same : sites devices' = sites devices) (indices : List Nat) :
    idsAt devices' indices = idsAt devices indices := by
  rw [idsAt_eq, idsAt_eq, same]

theorem positions_congr (same : sites devices' = sites devices) :
    devices'.toList.map Device.position = devices.toList.map Device.position := by
  rw [positions_eq, positions_eq, same]

theorem neighborsWithin_congr (same : sites devices' = sites devices) (i : Nat) :
    neighborsWithin devices' i = neighborsWithin devices i := by
  have htest : isNeighbor devices' i = isNeighbor devices i :=
    funext fun j => isNeighbor_congr same i j
  rw [neighborsWithin, neighborsWithin, idsAt_congr same, size_eq_of_sites same, htest]

theorem gridNeighbors_congr (same : sites devices' = sites devices) (grid : CellGrid) (i : Nat) :
    NeighborIndex.gridNeighbors grid devices' i = NeighborIndex.gridNeighbors grid devices i := by
  have hdevice : devices'[i]?.map Device.site = devices[i]?.map Device.site := by
    rw [← getElem?_sites, same, getElem?_sites]
  have htest : isNeighbor devices' i = isNeighbor devices i :=
    funext fun j => isNeighbor_congr same i j
  unfold NeighborIndex.gridNeighbors
  cases h' : devices'[i]? with
  | none =>
    cases h : devices[i]? with
    | none => rfl
    | some d => simp [h, h'] at hdevice
  | some d' =>
    cases h : devices[i]? with
    | none => simp [h, h'] at hdevice
    | some d =>
      rw [h, h', Option.map_some, Option.map_some, Option.some.injEq] at hdevice
      have hposition : d'.position = d.position := congrArg Site.position hdevice
      have hradius : d'.radius = d.radius := congrArg Site.radius hdevice
      simp only [hposition, hradius, size_eq_of_sites same, neighborsWithin_congr same, htest,
        idsAt_congr same]

end SpatialComputer
