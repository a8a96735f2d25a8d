import SpatialComputer.Engine.Tick
import SpatialComputer.Proofs.Neighborhood.Coherence

/-!
# The transmit phase

The phase is followed turn by turn. A turn changes processors, due times and caches, so ids, positions and radii stay as they were when the phase began. Hence an index that is coherent at the start is coherent at every turn, and every device is served the list that would be found at the start.
-/

namespace SpatialComputer

variable {U P : Type} [Processor U P]

/-- A projection that sees nothing of what the transmit phase changes. -/
structure Unheard {β : Type} (g : Device U → β) : Prop where
  receive : ∀ source d, g (Device.receive source d) = g d
  advance : ∀ time d, g (Device.advanceTransmit time d) = g d
  remember : ∀ ids d, g (Device.remember ids d) = g d

theorem Unheard.site : Unheard (Device.site (U := U)) :=
  ⟨fun _ _ => rfl, fun _ _ => rfl, fun _ _ => rfl⟩

theorem map_deliverFrom {β : Type} {g : Device U → β}
    (hg : ∀ source d, g (Device.receive source d) = g d) (receiver : Nat)
    (devices : Array (Device U)) (id : DeviceId) :
    (deliverFrom receiver devices id).map g = devices.map g := by
  unfold deliverFrom
  split
  · rfl
  · exact map_modify devices receiver fun d => hg _ d

private theorem getElem?_deliverFrom_of_ne {receiver j : Nat} (hne : receiver ≠ j)
    (devices : Array (Device U)) (id : DeviceId) :
    (deliverFrom receiver devices id)[j]? = devices[j]? := by
  unfold deliverFrom
  split
  · rfl
  · rw [Array.getElem?_modify, if_neg hne]

private theorem getElem?_foldl_deliverFrom_of_ne {receiver j : Nat} (hne : receiver ≠ j)
    (ids : List DeviceId) : ∀ devices : Array (Device U),
    (ids.foldl (deliverFrom receiver) devices)[j]? = devices[j]? := by
  induction ids with
  | nil => intro devices; rfl
  | cons id ids ih =>
    intro devices
    rw [List.foldl_cons, ih, getElem?_deliverFrom_of_ne hne]

namespace Transmission

/-- The list that the device at `i` is served if it has its turn now. -/
def served (s : Transmission U) (i : Nat) : List DeviceId :=
  (s.index.neighborsOf s.devices i).1

/-- Whether the device at `i` transmits. -/
def isDue {U : Type} (time : Float) (devices : Array (Device U)) (i : Nat) : Bool :=
  devices[i]?.any fun d => d.transmitDue time

/-- The phase when the turn of the device at `n` comes. -/
def upTo (time : Float) (index : NeighborIndex) (devices : Array (Device U)) (n : Nat) :
    Transmission U :=
  (List.range n).foldl (Transmission.step time) { devices := devices, index := index }

variable {time : Float} {index : NeighborIndex} {devices : Array (Device U)} {s : Transmission U}
  {i : Nat} {d : Device U}

theorem transmitPhase_eq_upTo (time : Float) (index : NeighborIndex) (devices : Array (Device U)) :
    transmitPhase time index devices = upTo time index devices devices.size :=
  rfl

theorem upTo_succ (time : Float) (index : NeighborIndex) (devices : Array (Device U)) (n : Nat) :
    upTo time index devices (n + 1) = (upTo time index devices n).step time n := by
  rw [upTo, List.range_succ, List.foldl_append]
  rfl

/-! ### One turn -/

theorem step_of_not_due (hd : s.devices[i]? = some d) (hdue : d.transmitDue time = false) :
    s.step time i = s := by
  simp [step, hd, hdue]

theorem step_of_due (hd : s.devices[i]? = some d) (hdue : d.transmitDue time = true) :
    s.step time i = {
      devices := ((s.served i).foldl (deliverFrom i) (s.index.neighborsOf s.devices i).2.2).modify i
        (Device.advanceTransmit time)
      index := (s.index.neighborsOf s.devices i).2.1
      transmitted := s.transmitted + 1 } := by
  simp [step, served, hd, hdue]

theorem step_cases (time : Float) (s : Transmission U) (i : Nat) :
    s.step time i = s ∨ ∃ d, s.devices[i]? = some d ∧ d.transmitDue time = true := by
  cases hd : s.devices[i]? with
  | none => exact Or.inl (by simp [step, hd])
  | some d =>
    cases hdue : d.transmitDue time with
    | false => exact Or.inl (step_of_not_due hd hdue)
    | true => exact Or.inr ⟨d, rfl, hdue⟩

theorem map_pull {β : Type} {g : Device U → β}
    (hreceive : ∀ source d, g (Device.receive source d) = g d)
    (hadvance : ∀ time d, g (Device.advanceTransmit time d) = g d) (time : Float) (i : Nat)
    (ids : List DeviceId) (devices : Array (Device U)) :
    ((ids.foldl (deliverFrom i) devices).modify i (Device.advanceTransmit time)).map g =
      devices.map g := by
  rw [map_modify _ _ fun d => hadvance time d, map_foldl g _ (map_deliverFrom hreceive i)]

theorem map_step {β : Type} {g : Device U → β} (unheard : Unheard g) (time : Float)
    (s : Transmission U) (i : Nat) : (s.step time i).devices.map g = s.devices.map g := by
  rcases step_cases time s i with h | ⟨d, hd, hdue⟩
  · rw [h]
  · rw [step_of_due hd hdue]
    exact (map_pull unheard.receive unheard.advance time i _ _).trans
      (NeighborIndex.map_neighborsOf unheard.remember _ _ _)

private theorem getElem?_step_of_ne (time : Float) (s : Transmission U) {i j : Nat} (hne : i ≠ j) :
    (s.step time i).devices[j]? = s.devices[j]? := by
  rcases step_cases time s i with h | ⟨d, hd, hdue⟩
  · rw [h]
  · rw [step_of_due hd hdue, Array.getElem?_modify, if_neg hne,
      getElem?_foldl_deliverFrom_of_ne hne, NeighborIndex.getElem?_neighborsOf_of_ne _ _ hne]

private theorem step_sameSetup (time : Float) (s : Transmission U) (i : Nat) :
    NeighborIndex.SameSetup s.index (s.step time i).index := by
  rcases step_cases time s i with h | ⟨d, hd, hdue⟩
  · rw [h]
    exact NeighborIndex.SameSetup.refl _
  · rw [step_of_due hd hdue]
    exact NeighborIndex.neighborsOf_sameSetup _ _ _

private theorem step_coherent (coherent : s.index.Coherent s.devices) (time : Float) (i : Nat) :
    (s.step time i).index.Coherent (s.step time i).devices := by
  rcases step_cases time s i with h | ⟨d, hd, hdue⟩
  · rwa [h]
  · rw [step_of_due hd hdue]
    exact (NeighborIndex.neighborsOf_coherent coherent i).congr
      (map_pull (fun _ _ => rfl) (fun _ _ => rfl) time i _ _)
      (map_pull (fun _ _ => rfl) (fun _ _ => rfl) time i _ _)

/-! ### The whole phase -/

/-- What the phase does not touch is at every turn as it was at the start. -/
theorem map_upTo {β : Type} {g : Device U → β} (unheard : Unheard g) (time : Float)
    (index : NeighborIndex) (devices : Array (Device U)) (n : Nat) :
    (upTo time index devices n).devices.map g = devices.map g := by
  induction n with
  | zero => rfl
  | succ n ih => rw [upTo_succ, map_step unheard, ih]

theorem getElem?_upTo_of_le (time : Float) (index : NeighborIndex) (devices : Array (Device U))
    {n i : Nat} (h : n ≤ i) : (upTo time index devices n).devices[i]? = devices[i]? := by
  induction n with
  | zero => rfl
  | succ n ih => rw [upTo_succ, getElem?_step_of_ne _ _ (by omega), ih (by omega)]

theorem getElem?_upTo_of_lt (time : Float) (index : NeighborIndex) (devices : Array (Device U))
    {n i : Nat} (h : i < n) :
    (upTo time index devices n).devices[i]? =
      ((upTo time index devices i).step time i).devices[i]? := by
  induction n with
  | zero => omega
  | succ n ih =>
    rw [upTo_succ]
    by_cases hn : n = i
    · rw [hn]
    · rw [getElem?_step_of_ne _ _ hn, ih (by omega)]

theorem device_upTo_of_not_due (hd : devices[i]? = some d) (hdue : d.transmitDue time = false) (n : Nat) :
    (upTo time index devices n).devices[i]? = some d := by
  rcases Nat.lt_or_ge i n with hlt | hge
  · have hturn := (getElem?_upTo_of_le time index devices (Nat.le_refl i)).trans hd
    rw [getElem?_upTo_of_lt time index devices hlt, step_of_not_due hturn hdue, hturn]
  · rw [getElem?_upTo_of_le time index devices hge, hd]

theorem sites_upTo (time : Float) (index : NeighborIndex) (devices : Array (Device U)) (n : Nat) :
    sites (upTo time index devices n).devices = sites devices :=
  map_upTo Unheard.site time index devices n

theorem upTo_sameSetup (time : Float) (index : NeighborIndex) (devices : Array (Device U)) (n : Nat) :
    NeighborIndex.SameSetup index (upTo time index devices n).index := by
  induction n with
  | zero => exact NeighborIndex.SameSetup.refl index
  | succ n ih =>
    rw [upTo_succ]
    exact ih.trans (step_sameSetup time _ n)

theorem upTo_coherent (coherent : index.Coherent devices) (time : Float) (n : Nat) :
    (upTo time index devices n).index.Coherent (upTo time index devices n).devices := by
  induction n with
  | zero => exact coherent
  | succ n ih =>
    rw [upTo_succ]
    exact step_coherent ih time n

/-- Every device is served what would be found when the phase began. -/
theorem served_upTo (coherent : index.Coherent devices) (time : Float) (n i : Nat) :
    (upTo time index devices n).served i = index.answer devices i := by
  rw [served, NeighborIndex.neighborsOf_fst (upTo_coherent coherent time n),
    (upTo_sameSetup time index devices n).answer (sites_upTo time index devices n)]

end Transmission

end SpatialComputer
