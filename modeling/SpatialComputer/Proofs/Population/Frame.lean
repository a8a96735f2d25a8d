import SpatialComputer.Population

/-!
# Changing devices one at a time

The phases of a tick visit devices by their place and change one at a time. What a change does not touch is stated by a projection: if the change leaves the projection of every device alone, then the array of projections is the same before and after. A pass over distinct places changes exactly the devices at these places.
-/

namespace SpatialComputer

variable {α β : Type}

theorem modify_eq_self (devices : Array α) (i : Nat) {f : α → α} (hf : ∀ d, f d = d) :
    devices.modify i f = devices := by
  apply Array.ext_getElem?
  intro j
  rw [Array.getElem?_modify]
  split
  · rw [funext hf]
    exact Option.map_id'
  · rfl

theorem modify_modify (devices : Array α) (i : Nat) (f g : α → α) :
    (devices.modify i f).modify i g = devices.modify i fun d => g (f d) := by
  apply Array.ext_getElem?
  intro j
  simp only [Array.getElem?_modify]
  split
  · rw [Option.map_map]
    rfl
  · rfl

theorem setIfInBounds_eq_modify {devices : Array α} {i : Nat} {d : α} (hd : devices[i]? = some d)
    (f : α → α) : devices.setIfInBounds i (f d) = devices.modify i f := by
  have hi : i < devices.size := (Array.getElem?_eq_some_iff.mp hd).1
  apply Array.ext_getElem?
  intro j
  rw [Array.getElem?_setIfInBounds, Array.getElem?_modify]
  by_cases hij : i = j
  · rw [if_pos hij, if_pos hij, if_pos hi, ← hij, hd, Option.map_some]
  · rw [if_neg hij, if_neg hij]

/-- A change that a projection does not see. -/
theorem map_modify (devices : Array α) (i : Nat) {f : α → α} {g : α → β} (hg : ∀ d, g (f d) = g d) :
    (devices.modify i f).map g = devices.map g := by
  apply Array.ext_getElem?
  intro j
  rw [Array.getElem?_map, Array.getElem?_map, Array.getElem?_modify]
  split
  · rw [Option.map_map]
    exact Option.map_congr fun d _ => hg d
  · rfl

/-- A change that a projection turns into another change. -/
theorem map_modify_comm {f : α → α} {g : α → β} {h : β → β} (hg : ∀ d, g (f d) = h (g d))
    (devices : Array α) (i : Nat) : (devices.modify i f).map g = (devices.map g).modify i h := by
  apply Array.ext_getElem?
  intro j
  rw [Array.getElem?_map, Array.getElem?_modify, Array.getElem?_modify, Array.getElem?_map]
  split
  · rw [Option.map_map, Option.map_map]
    exact Option.map_congr fun d _ => hg d
  · rfl

/-- What is true of a projection stays true as long as the projection is the same. -/
theorem forall_of_map_eq {g : α → β} {p : β → Prop} {devices devices' : Array α}
    (same : devices'.map g = devices.map g) (h : ∀ d ∈ devices, p (g d)) : ∀ d ∈ devices', p (g d) := by
  intro d' hd'
  have hmem : g d' ∈ devices.map g := same ▸ Array.mem_map_of_mem hd'
  obtain ⟨d, hd, hg⟩ := Array.mem_map.mp hmem
  exact hg ▸ h d hd

/-- What is seen at an index of one array is seen there of the other, too. -/
theorem exists_of_map_eq {g : α → β} {devices devices' : Array α}
    (same : devices'.map g = devices.map g) {i : Nat} {d : α} (hd : devices[i]? = some d) :
    ∃ d', devices'[i]? = some d' ∧ g d' = g d := by
  have hsame := congrArg (·[i]?) same
  simpa only [Array.getElem?_map, hd, Option.map_some, Option.map_eq_some_iff] using hsame

theorem map_foldl {γ : Type} (g : α → β) (step : Array α → γ → Array α)
    (hstep : ∀ devices c, (step devices c).map g = devices.map g) (order : List γ) :
    ∀ devices : Array α, (order.foldl step devices).map g = devices.map g := by
  induction order with
  | nil => intro devices; rfl
  | cons c order ih =>
    intro devices
    rw [List.foldl_cons, ih, hstep]

/-- A pass over distinct places changes the devices at these places, each once. -/
theorem getElem?_foldl_modify (f : Nat → α → α) {order : List Nat} (hnodup : order.Nodup) (i : Nat) :
    ∀ devices : Array α, (order.foldl (fun devices j => devices.modify j (f j)) devices)[i]? =
      if i ∈ order then devices[i]?.map (f i) else devices[i]? := by
  induction order with
  | nil => intro devices; rfl
  | cons j order ih =>
    intro devices
    obtain ⟨hj, horder⟩ := List.nodup_cons.mp hnodup
    rw [List.foldl_cons, ih horder, Array.getElem?_modify]
    by_cases hij : j = i
    · subst hij
      simp [hj]
    · simp [hij, Ne.symm hij]

end SpatialComputer
