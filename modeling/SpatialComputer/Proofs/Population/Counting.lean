import SpatialComputer.Engine.Tick
import SpatialComputer.Proofs.Population.Lookup

/-!
# Counting devices

How many devices have a property is counted over the population, and how many of them are due is also the length of a list of places. Both counts are the same, and counts add up as the properties do at every single device. A device that is asked for by its id is found at one place at most.
-/

namespace SpatialComputer

variable {α : Type}

private theorem countP_toList_add {p q r : α → Bool} {l : List α}
    (h : ∀ a ∈ l, (p a).toNat + (q a).toNat = (r a).toNat) :
    l.countP p + l.countP q = l.countP r := by
  induction l with
  | nil => rfl
  | cons a l ih =>
    have ha := h a List.mem_cons_self
    have hl := ih fun a' ha' => h a' (List.mem_cons_of_mem a ha')
    simp only [List.countP_cons]
    cases hp : p a <;> cases hq : q a <;> cases hr : r a <;> simp_all <;> omega

theorem countP_add {p q r : α → Bool} {devices : Array α}
    (h : ∀ d ∈ devices, (p d).toNat + (q d).toNat = (r d).toNat) :
    devices.countP p + devices.countP q = devices.countP r := by
  simp only [← Array.countP_toList]
  exact countP_toList_add fun d hd => h d (Array.mem_toList_iff.mp hd)

theorem countP_of_map_eq {β : Type} {g : α → β} {devices devices' : Array α}
    (same : devices'.map g = devices.map g) (p : β → Bool) :
    devices'.countP (fun d => p (g d)) = devices.countP fun d => p (g d) := by
  have hcount := congrArg (Array.countP p) same
  rwa [Array.countP_map, Array.countP_map] at hcount

/-- Counting over the places of a list is counting over the list. -/
theorem countP_range (p : α → Bool) (l : List α) :
    ((List.range l.length).countP fun i => l[i]?.any p) = l.countP p := by
  induction l with
  | nil => rfl
  | cons a l ih =>
    rw [List.length_cons, List.range_succ_eq_map, List.countP_cons, List.countP_map, List.countP_cons, ← ih]
    rfl

theorem filter_range (p : α → Bool) (l : List α) :
    (((List.range l.length).filter fun i => l[i]?.any p).filterMap fun i => l[i]?) = l.filter p := by
  induction l with
  | nil => rfl
  | cons a l ih =>
    have hrest : ((((List.range l.length).map Nat.succ).filter fun i => (a :: l)[i]?.any p).filterMap
        fun i => (a :: l)[i]?) = l.filter p := by
      rw [List.filter_map, List.filterMap_map]
      exact ih
    rw [List.length_cons, List.range_succ_eq_map, List.filter_cons, List.filter_cons]
    cases hp : p a with
    | false => simpa [hp] using hrest
    | true => simpa [hp] using hrest

theorem dueIndices_eq {U : Type} (time : Float) (devices : Array (Device U)) :
    dueIndices time devices =
      (List.range devices.size).filter fun i => devices[i]?.any (·.computeDue time) := by
  refine List.filter_congr fun i _ => ?_
  cases devices[i]? <;> rfl

theorem filterMap_dueIndices {U : Type} (time : Float) (devices : Array (Device U)) :
    ((dueIndices time devices).filterMap fun i => devices[i]?) =
      devices.toList.filter (·.computeDue time) := by
  rw [dueIndices_eq, ← filter_range _ devices.toList, Array.length_toList]
  simp only [Array.getElem?_toList]

theorem length_dueIndices {U : Type} (time : Float) (devices : Array (Device U)) :
    (dueIndices time devices).length = devices.countP (·.computeDue time) := by
  rw [dueIndices_eq, ← List.countP_eq_length_filter, ← Array.countP_toList,
    ← countP_range _ devices.toList, Array.length_toList]
  simp only [Array.getElem?_toList]

/-- As the ids count the places, at most one device is counted that is asked for by its id. -/
theorem countP_place {U : Type} {devices : Array (Device U)} (numbered : Numbered devices)
    (p : Device U → Bool) (j : Nat) :
    devices.countP (fun d => p d && d.id = j + 1) = (devices[j]?.any p).toNat := by
  have hplace : ∀ i : Nat, devices.toList[i]?.any (fun d => p d && d.id = j + 1) =
      (i == j && devices[j]?.any p) := by
    intro i
    rw [Array.getElem?_toList]
    cases hd : devices[i]? with
    | none =>
      by_cases hij : i = j
      · subst hij
        simp [hd]
      · simp [hij]
    | some d =>
      have hid : d.id = j + 1 ↔ i = j := by rw [numbered i d hd, Nat.add_right_cancel_iff]
      by_cases hij : i = j
      · subst hij
        simp [hd, hid]
      · simp [hid, hij]
  rw [← Array.countP_toList, ← countP_range]
  simp only [hplace, Array.length_toList]
  cases hany : devices[j]?.any p with
  | false => simp
  | true =>
    obtain ⟨d, hd, -⟩ := (Option.any_eq_true p _).mp hany
    have hj : j < devices.size := (Array.getElem?_eq_some_iff.mp hd).1
    simp only [Bool.and_true]
    exact List.nodup_range.count.trans (if_pos (List.mem_range.mpr hj))

end SpatialComputer
