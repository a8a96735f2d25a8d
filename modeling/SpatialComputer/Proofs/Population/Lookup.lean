import SpatialComputer.Proofs.Population.Frame

/-!
# Looking up devices

In a population that was built by handing out ids one after another, the id of a device is its place counted from one. On such a population the binary search is exact: it finds every id from one to the number of devices, and no other.
-/

namespace SpatialComputer

variable {U : Type}

/-- Whether the ids are the places of the devices, counted from one. -/
def Numbered (devices : Array (Device U)) : Prop :=
  ∀ (i : Nat) (d : Device U), devices[i]? = some d → d.id = i + 1

theorem Numbered.empty : Numbered (#[] : Array (Device U)) := by
  intro i d hd
  simp at hd

theorem Numbered.of_map_id {devices devices' : Array (Device U)} (numbered : Numbered devices)
    (same : devices'.map Device.id = devices.map Device.id) : Numbered devices' := by
  intro i d hd
  have hid : (devices.map Device.id)[i]? = some d.id := by
    rw [← same, Array.getElem?_map, hd]
    rfl
  rw [Array.getElem?_map, Option.map_eq_some_iff] at hid
  obtain ⟨d', hd', hid⟩ := hid
  rw [← hid]
  exact numbered i d' hd'

theorem Numbered.push {devices : Array (Device U)} (numbered : Numbered devices) {d : Device U}
    (hid : d.id = devices.size + 1) : Numbered (devices.push d) := by
  intro i d' hd'
  rw [Array.getElem?_push] at hd'
  split at hd'
  · rename_i hi
    rw [← Option.some.inj hd', hid, hi]
  · exact numbered i d' hd'

theorem Numbered.append {devices added : Array (Device U)} (numbered : Numbered devices)
    (hadded : ∀ (k : Nat) (d : Device U), added[k]? = some d → d.id = devices.size + k + 1) :
    Numbered (devices ++ added) := by
  intro i d hd
  rw [Array.getElem?_append] at hd
  split at hd
  · exact numbered i d hd
  · have hid := hadded _ d hd
    grind

theorem Numbered.map_id {devices : Array (Device U)} (numbered : Numbered devices) :
    devices.toList.map Device.id = List.range' 1 devices.size := by
  apply List.ext_getElem?
  intro i
  rw [List.getElem?_map, Array.getElem?_toList]
  by_cases hi : i < devices.size
  · have hid := numbered i devices[i] (Array.getElem?_eq_getElem hi)
    rw [Array.getElem?_eq_getElem hi, List.getElem?_range' hi, Option.map_some, hid, Nat.one_mul,
      Nat.add_comm]
  · simp [hi]

namespace Population

private theorem search_eq {devices : Array (Device U)} (numbered : Numbered devices) (id : DeviceId)
    (low high : Nat) (hhigh : high ≤ devices.size) :
    indexIn.search devices id low high = if low < id ∧ id ≤ high then some (id - 1) else none := by
  -- The id `i + 1` is at place `i`, so the search among places is one among ids.
  induction low, high using indexIn.search.induct devices id with
  | case1 low high hlt middle hnone =>
    rw [Array.getElem?_eq_none_iff] at hnone
    omega
  | case2 low high hlt middle d hd heq =>
    have hmiddle := numbered middle d hd
    rw [indexIn.search, if_pos hlt]
    simp only [middle] at hd
    simp only [hd, heq, if_true]
    rw [if_pos (by grind)]
    exact congrArg some (by grind)
  | case3 low high hlt middle d hd hne hless ih =>
    have hmiddle := numbered middle d hd
    rw [indexIn.search, if_pos hlt]
    simp only [middle] at hd
    simp only [hd, hne, if_false, hless, if_true]
    rw [ih hhigh]
    grind
  | case4 low high hlt middle d hd hne hless ih =>
    have hmiddle := numbered middle d hd
    rw [indexIn.search, if_pos hlt]
    simp only [middle] at hd
    simp only [hd, hne, if_false, hless]
    rw [ih (by omega)]
    grind
  | case5 low high hge =>
    rw [indexIn.search, if_neg hge, if_neg (by grind)]

/-- The search finds the ids from one to the number of devices, and no other. -/
theorem indexIn_eq {devices : Array (Device U)} (numbered : Numbered devices) (id : DeviceId) :
    indexIn devices id = if 0 < id ∧ id ≤ devices.size then some (id - 1) else none :=
  search_eq numbered id 0 devices.size (Nat.le_refl _)

theorem indexIn_eq_some_iff {devices : Array (Device U)} (numbered : Numbered devices)
    {id : DeviceId} {i : Nat} : indexIn devices id = some i ↔ i < devices.size ∧ id = i + 1 := by
  rw [indexIn_eq numbered]
  grind

theorem indexIn_cases {devices : Array (Device U)} (numbered : Numbered devices) (id : DeviceId) :
    indexIn devices id = none ∨
      ∃ i d, indexIn devices id = some i ∧ devices[i]? = some d ∧ d.id = id := by
  cases hi : indexIn devices id with
  | none => exact Or.inl rfl
  | some i =>
    obtain ⟨hlt, hid⟩ := (indexIn_eq_some_iff numbered).mp hi
    refine Or.inr ⟨i, devices[i], rfl, Array.getElem?_eq_getElem hlt, ?_⟩
    rw [numbered i _ (Array.getElem?_eq_getElem hlt), hid]

private theorem search_congr {devices devices' : Array (Device U)}
    (same : devices'.map Device.id = devices.map Device.id) (id : DeviceId) (low high : Nat) :
    indexIn.search devices' id low high = indexIn.search devices id low high := by
  have hread : ∀ {i : Nat} {d : Device U}, devices[i]? = some d →
      ∃ d', devices'[i]? = some d' ∧ d'.id = d.id := exists_of_map_eq same
  induction low, high using indexIn.search.induct devices id with
  | case1 low high hlt middle hnone =>
    have hnone' : devices'[middle]? = none := by
      rw [Array.getElem?_eq_none_iff] at hnone ⊢
      rwa [← Array.size_map (f := Device.id), same, Array.size_map]
    rw [indexIn.search, indexIn.search, if_pos hlt, if_pos hlt]
    simp only [middle] at hnone hnone'
    simp only [hnone, hnone']
  | case2 low high hlt middle d hd heq =>
    obtain ⟨d', hd', hid⟩ := hread hd
    rw [indexIn.search, indexIn.search, if_pos hlt, if_pos hlt]
    simp only [middle] at hd hd'
    simp only [hd, hd', hid, heq, if_true]
  | case3 low high hlt middle d hd hne hless ih =>
    obtain ⟨d', hd', hid⟩ := hread hd
    rw [indexIn.search, indexIn.search, if_pos hlt, if_pos hlt]
    simp only [middle] at hd hd' ih
    simp only [hd, hd', hid, hne, hless, if_false, if_true, ih]
  | case4 low high hlt middle d hd hne hless ih =>
    obtain ⟨d', hd', hid⟩ := hread hd
    rw [indexIn.search, indexIn.search, if_pos hlt, if_pos hlt]
    simp only [middle] at hd hd' ih
    simp only [hd, hd', hid, hne, hless, if_false, ih]
  | case5 low high hge => rw [indexIn.search, indexIn.search, if_neg hge, if_neg hge]

theorem indexIn_congr {devices devices' : Array (Device U)}
    (same : devices'.map Device.id = devices.map Device.id) : indexIn devices' = indexIn devices := by
  have hsize : devices'.size = devices.size := by
    have h := congrArg Array.size same
    rwa [Array.size_map, Array.size_map] at h
  funext id
  rw [indexIn, indexIn, hsize, search_congr same]

theorem indexIn_id {devices : Array (Device U)} (numbered : Numbered devices) {i : Nat}
    {d : Device U} (hd : devices[i]? = some d) : indexIn devices d.id = some i := by
  have hi : i < devices.size := (Array.getElem?_eq_some_iff.mp hd).1
  exact (indexIn_eq_some_iff numbered).mpr ⟨hi, numbered i d hd⟩

/-- What a projection shows of the device with the given id. -/
def lookUp {β : Type} (g : Device U → β) (devices : Array (Device U)) (id : DeviceId) : Option β :=
  (indexIn devices id).bind fun i => devices[i]?.map g

theorem lookUp_congr {β : Type} {g : Device U → β} {devices devices' : Array (Device U)}
    (hids : devices'.map Device.id = devices.map Device.id)
    (same : devices'.map g = devices.map g) : lookUp g devices' = lookUp g devices := by
  funext id
  unfold lookUp
  rw [indexIn_congr hids]
  congr 1
  funext i
  rw [← Array.getElem?_map, same, Array.getElem?_map]

theorem find?_id {p : Population U} (numbered : Numbered p.devices) {i : Nat} {d : Device U}
    (hd : p.devices[i]? = some d) : p.find? d.id = some d := by
  rw [find?, indexOf, indexIn_id numbered hd]
  exact hd

end Population

end SpatialComputer
