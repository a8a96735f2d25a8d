import Mathlib.Data.Finset.Basic
import SpatialComputer.Proofs.Population.Lookup
import SpatialComputer.Proofs.Program.Rounds
import SpatialComputer.Proofs.Tick.Transmission

/-!
# Hearing hop counts

A message is read from the hop count of its sender and written to the best count that its receiver has heard, and no message changes a hop count. So while devices transmit there is always the same to hear, and who has heard everyone in a list knows the smallest of the counts, whatever the order of the list and whoever else has had a turn before.
-/

namespace SpatialComputer

namespace ScriptedProcessor

/-- The processor after it heard a hop count, if there is one to hear. -/
def hearing (heard : Option Nat) (u : ScriptedProcessor) : ScriptedProcessor :=
  match heard with
  | some hops => { u with bestHeard := some (hear u.bestHeard hops) }
  | none => u

theorem deliver_eq_hearing (source u : ScriptedProcessor) : deliver source u = u.hearing source.hops := by
  unfold deliver hearing
  cases source.hops <;> rfl

theorem hops_deliver (source u : ScriptedProcessor) : (deliver source u).hops = u.hops := by
  obtain ⟨heard, h⟩ := deliver_eq source u
  rw [h]

/-- The processor when the smallest of the given counts and of what it has heard so far is the best it has heard. -/
def told (counts : List Nat) (u : ScriptedProcessor) : ScriptedProcessor :=
  { u with bestHeard := (u.bestHeard.toList ++ counts).min? }

private theorem told_nil (u : ScriptedProcessor) : u.told [] = u := by
  have hmin : (u.bestHeard.toList ++ []).min? = u.bestHeard := by
    cases u.bestHeard <;> rfl
  rw [told, hmin]

private theorem told_hearing (count : Nat) (counts : List Nat) (u : ScriptedProcessor) :
    (u.hearing (some count)).told counts = u.told (count :: counts) := by
  have hmin : ((hear u.bestHeard count) :: counts).min? = (u.bestHeard.toList ++ count :: counts).min? := by
    cases u.bestHeard <;> rfl
  exact congrArg (fun best => { u with bestHeard := best }) hmin

theorem foldl_hearing {α : Type} (hops : α → Option Nat) (ids : List α) : ∀ u : ScriptedProcessor,
    ids.foldl (fun u id => u.hearing (hops id)) u = u.told (ids.filterMap hops) := by
  induction ids with
  | nil => exact fun u => u.told_nil.symm
  | cons id ids ih =>
    intro u
    rw [List.foldl_cons, ih]
    cases hid : hops id with
    | none => rw [List.filterMap_cons_none hid, hearing]
    | some count => rw [List.filterMap_cons_some hid, told_hearing]

theorem told_perm {counts counts' : List Nat} (h : counts.Perm counts') (u : ScriptedProcessor) :
    u.told counts = u.told counts' := by
  have hmin : (u.bestHeard.toList ++ counts).min? = (u.bestHeard.toList ++ counts').min? := by
    refine Option.ext fun best => ?_
    simp only [List.min?_eq_some_iff, (h.append_left _).mem_iff]
  rw [told, told, hmin]

end ScriptedProcessor

open ScriptedProcessor

/-! ### Messages -/

/-- The hop count of the device with the given id, if there is one. -/
def hopsAt (devices : Array (Device ScriptedProcessor)) (id : DeviceId) : Option Nat :=
  (Population.lookUp (fun d => d.processor.hops) devices id).join

theorem hopsAt_congr {devices devices' : Array (Device ScriptedProcessor)}
    (hids : devices'.map Device.id = devices.map Device.id)
    (hhops : devices'.map (fun d => d.processor.hops) = devices.map fun d => d.processor.hops) :
    hopsAt devices' = hopsAt devices := by
  funext id
  rw [hopsAt, hopsAt, Population.lookUp_congr hids hhops]

private theorem map_processor_deliverFrom (receiver : Nat) (devices : Array (Device ScriptedProcessor))
    (id : DeviceId) :
    (deliverFrom receiver devices id).map Device.processor =
      (devices.map Device.processor).modify receiver (hearing (hopsAt devices id)) := by
  have hread : hopsAt devices id = (((Population.indexIn devices id).bind fun i =>
      devices[i]?).map fun d => d.processor.hops).join := by
    rw [hopsAt, Population.lookUp, Option.map_bind]
    rfl
  unfold deliverFrom
  rw [hread]
  cases (Population.indexIn devices id).bind fun i => devices[i]? with
  | none => exact (modify_eq_self _ _ fun _ => rfl).symm
  | some source =>
    exact map_modify_comm (fun d => deliver_eq_hearing source.processor d.processor) devices receiver

private theorem hopsAt_deliverFrom (receiver : Nat) (devices : Array (Device ScriptedProcessor))
    (id : DeviceId) : hopsAt (deliverFrom receiver devices id) = hopsAt devices :=
  hopsAt_congr (map_deliverFrom (fun _ _ => rfl) receiver devices id)
    (map_deliverFrom (fun source d => hops_deliver source d.processor) receiver devices id)

private theorem map_processor_foldl_deliverFrom (receiver : Nat) (ids : List DeviceId) :
    ∀ devices : Array (Device ScriptedProcessor),
      (ids.foldl (deliverFrom receiver) devices).map Device.processor =
        (devices.map Device.processor).modify receiver (told (ids.filterMap (hopsAt devices))) := by
  induction ids with
  | nil => exact fun devices => (modify_eq_self _ _ told_nil).symm
  | cons id ids ih =>
    intro devices
    rw [List.foldl_cons, ih, hopsAt_deliverFrom, map_processor_deliverFrom, modify_modify]
    refine congrArg ((devices.map Device.processor).modify receiver) (funext fun u => ?_)
    rw [← foldl_hearing, ← foldl_hearing, List.foldl_cons]

/-! ### Turns -/

section

variable {U P : Type} [Processor U P]

/-- The turn of the device at `i`: it pulls the state of those in its list, and is given its next due time. -/
def pullTurn (time : Float) (lists : Nat → List DeviceId) (devices : Array (Device U)) (i : Nat) :
    Array (Device U) :=
  ((lists i).foldl (deliverFrom i) devices).modify i (Device.advanceTransmit time)

/-- The devices after those at the given places had their turns, one after another. -/
def pullInOrder (time : Float) (lists : Nat → List DeviceId) (order : List Nat)
    (devices : Array (Device U)) : Array (Device U) :=
  order.foldl (pullTurn time lists) devices

end

/-- The processors as they are told, one place after another, the hop counts of those in a list. -/
private def tellInOrder (hops : DeviceId → Option Nat) (lists : Nat → List DeviceId) (order : List Nat)
    (processors : Array ScriptedProcessor) : Array ScriptedProcessor :=
  order.foldl (fun processors i => processors.modify i (told ((lists i).filterMap hops))) processors

/-- The processors when those at the places in `due` have been told the hop counts of everyone in their lists. -/
def processorsTold (due : Finset Nat) (lists : Nat → List DeviceId)
    (devices : Array (Device ScriptedProcessor)) : Array ScriptedProcessor :=
  devices.mapIdx fun i d =>
    if i ∈ due then d.processor.told ((lists i).filterMap (hopsAt devices)) else d.processor

private theorem tellInOrder_eq {due : Finset Nat} {order : List Nat} (hnodup : order.Nodup)
    (lists : Nat → List DeviceId) (devices : Array (Device ScriptedProcessor))
    (hdue : ∀ i < devices.size, i ∈ order ↔ i ∈ due) :
    tellInOrder (hopsAt devices) lists order (devices.map Device.processor) =
      processorsTold due lists devices := by
  apply Array.ext_getElem?
  intro i
  rw [tellInOrder, getElem?_foldl_modify _ hnodup, processorsTold, Array.getElem?_mapIdx,
    Array.getElem?_map]
  cases hd : devices[i]? with
  | none => simp
  | some d =>
    have hi := hdue i (Array.getElem?_eq_some_iff.mp hd).1
    by_cases hmem : i ∈ due
    · simp [hi.mpr hmem, hmem]
    · simp [mt hi.mp hmem, hmem]

private theorem processorsTold_congr {due : Finset Nat} {lists lists' : Nat → List DeviceId}
    {devices : Array (Device ScriptedProcessor)} (h : ∀ i ∈ due, (lists i).Perm (lists' i)) :
    processorsTold due lists devices = processorsTold due lists' devices := by
  unfold processorsTold
  congr 1
  funext i d
  split
  · rename_i hi
    exact told_perm ((h i hi).filterMap _) d.processor
  · rfl

private theorem map_processor_pullTurn (time : Float) (lists : Nat → List DeviceId)
    (devices : Array (Device ScriptedProcessor)) (i : Nat) :
    (pullTurn time lists devices i).map Device.processor =
      (devices.map Device.processor).modify i (told ((lists i).filterMap (hopsAt devices))) := by
  rw [pullTurn, map_modify (f := Device.advanceTransmit time) _ _ fun _ => rfl,
    map_processor_foldl_deliverFrom]

private theorem hopsAt_pullTurn (time : Float) (lists : Nat → List DeviceId)
    (devices : Array (Device ScriptedProcessor)) (i : Nat) :
    hopsAt (pullTurn time lists devices i) = hopsAt devices :=
  hopsAt_congr (Transmission.map_pull (fun _ _ => rfl) (fun _ _ => rfl) time i _ _)
    (Transmission.map_pull (fun source d => hops_deliver source d.processor) (fun _ _ => rfl) time i _ _)

private theorem map_processor_pullInOrder (time : Float) (lists : Nat → List DeviceId) (order : List Nat) :
    ∀ devices : Array (Device ScriptedProcessor),
      (pullInOrder time lists order devices).map Device.processor =
        tellInOrder (hopsAt devices) lists order (devices.map Device.processor) := by
  induction order with
  | nil => exact fun devices => rfl
  | cons i order ih =>
    intro devices
    have hrest := ih (pullTurn time lists devices i)
    rw [hopsAt_pullTurn, map_processor_pullTurn] at hrest
    exact hrest

/-! ### The transmit phase -/

namespace Transmission

variable {devices : Array (Device ScriptedProcessor)}

private theorem map_processor_step (time : Float) (s : Transmission ScriptedProcessor) (i : Nat) :
    (s.step time i).devices.map Device.processor =
      if isDue time s.devices i then
        (s.devices.map Device.processor).modify i (told ((s.served i).filterMap (hopsAt s.devices)))
      else s.devices.map Device.processor := by
  cases hd : s.devices[i]? with
  | none => simp [step, isDue, hd]
  | some d =>
    cases hdue : d.transmitDue time with
    | false => simp [step_of_not_due hd hdue, isDue, hd, hdue]
    | true =>
      let asked := (s.index.neighborsOf s.devices i).2.2
      have hasked : asked.map Device.processor = s.devices.map Device.processor :=
        NeighborIndex.map_neighborsOf (fun _ _ => rfl) _ _ _
      have hhops : hopsAt asked = hopsAt s.devices :=
        hopsAt_congr (map_id_eq_of_sites (NeighborIndex.sites_neighborsOf _ _ _))
          (NeighborIndex.map_neighborsOf (fun _ _ => rfl) _ _ _)
      have hturn := map_processor_pullTurn time (fun _ => s.served i) asked i
      rw [hasked, hhops] at hturn
      have hyes : isDue time s.devices i = true := by simp [isDue, hd, hdue]
      rw [step_of_due hd hdue, if_pos hyes]
      exact hturn

private theorem hopsAt_upTo (time : Float) (index : NeighborIndex) (n : Nat) :
    hopsAt (upTo time index devices n).devices = hopsAt devices :=
  hopsAt_congr (map_id_eq_of_sites (sites_upTo time index devices n))
    (map_upTo ⟨fun source d => hops_deliver source d.processor, fun _ _ => rfl, fun _ _ => rfl⟩
      time index devices n)

private theorem map_processor_upTo (time : Float) (index : NeighborIndex) (n : Nat) :
    (upTo time index devices n).devices.map Device.processor =
      tellInOrder (hopsAt devices) (fun i => (upTo time index devices i).served i)
        ((List.range n).filter (isDue time devices)) (devices.map Device.processor) := by
  induction n with
  | zero => rfl
  | succ n ih =>
    have hdue : isDue time (upTo time index devices n).devices n = isDue time devices n := by
      rw [isDue, getElem?_upTo_of_le time index devices (Nat.le_refl n), isDue]
    -- What is heard are hop counts, and no turn of the phase changes one.
    rw [upTo_succ, map_processor_step, hdue, hopsAt_upTo, ih, List.range_succ, List.filter_append]
    unfold tellInOrder
    rw [List.foldl_append]
    cases hn : isDue time devices n with
    | false =>
      rw [List.filter_cons_of_neg (by simp [hn])]
      rfl
    | true =>
      rw [List.filter_cons_of_pos hn]
      rfl

/-- The places of the devices that transmit. -/
def due {U : Type} (time : Float) (devices : Array (Device U)) : Finset Nat :=
  (Finset.range devices.size).filter fun i => isDue time devices i = true

theorem mem_due {U : Type} {time : Float} {devices : Array (Device U)} {i : Nat} :
    i ∈ due time devices ↔ ∃ d, devices[i]? = some d ∧ d.transmitDue time = true := by
  rw [due, Finset.mem_filter, Finset.mem_range, isDue, Option.any_eq_true]
  constructor
  · exact fun h => h.2
  · rintro ⟨d, hd, hdue⟩
    exact ⟨(Array.getElem?_eq_some_iff.mp hd).1, d, hd, hdue⟩

/-- After the phase the due devices have been told what they were served. -/
theorem map_processor_transmitPhase (time : Float) (index : NeighborIndex)
    (devices : Array (Device ScriptedProcessor)) :
    (transmitPhase time index devices).devices.map Device.processor =
      processorsTold (due time devices) (fun i => (upTo time index devices i).served i) devices := by
  rw [transmitPhase_eq_upTo, map_processor_upTo]
  refine tellInOrder_eq (List.nodup_range.filter _) _ _ fun i hi => ?_
  simp only [due, List.mem_filter, List.mem_range, Finset.mem_filter, Finset.mem_range]

end Transmission

/-- In whatever order the due devices have their turns, and in whatever order each of them pulls, the processors come out the same: the best count that a due device has heard is the smallest of what it had heard before and of the hop counts in its list, and nothing else changes. A transmit phase that serves these lists comes to the same. -/
theorem transmit_order_irrelevant (time : Float) (devices : Array (Device ScriptedProcessor))
    (due : Finset Nat) (neighbors : Nat → List DeviceId) (order : List Nat)
    (lists : Nat → List DeviceId) (hnodup : order.Nodup) (hdue : ∀ i, i ∈ order ↔ i ∈ due)
    (hlists : ∀ i, (lists i).Perm (neighbors i)) :
    (pullInOrder time lists order devices).map Device.processor = processorsTold due neighbors devices ∧
    ∀ index : NeighborIndex, Transmission.due time devices = due →
      (∀ i ∈ due, (Transmission.upTo time index devices i).served i = neighbors i) →
        (transmitPhase time index devices).devices.map Device.processor =
          processorsTold due neighbors devices := by
  refine ⟨?_, fun index hsame hserved => ?_⟩
  · rw [map_processor_pullInOrder, tellInOrder_eq hnodup lists devices fun i _ => hdue i]
    exact processorsTold_congr fun i _ => hlists i
  · rw [Transmission.map_processor_transmitPhase, hsame]
    exact processorsTold_congr fun i hi => .of_eq (hserved i hi)

def countingDevice (id : DeviceId) (hops : Option Nat) : Device ScriptedProcessor where
  id := id
  parent := none
  position := .zero
  radius := 1
  processor := { program := .hopGradient 0, position := .zero, hops := hops }
  schedule := {}
  nextTransmit := 0
  nextCompute := 0

/-- Of three devices the third and the first have their turns, in this order, and hear the others from the greatest id to the least. -/
theorem transmit_order_irrelevant_three :
    (pullInOrder 0 (fun i => if i = 0 then [3, 2] else [2, 1]) [2, 0]
      #[countingDevice 1 (some 4), countingDevice 2 none, countingDevice 3 (some 2)]).map
        (fun d => d.processor.bestHeard) = #[some 2, none, some 4] := by
  have h := (transmit_order_irrelevant 0
    #[countingDevice 1 (some 4), countingDevice 2 none, countingDevice 3 (some 2)] {0, 2}
    (fun i => if i = 0 then [2, 3] else [1, 2]) [2, 0] (fun i => if i = 0 then [3, 2] else [2, 1])
    (by decide) (by simp [or_comm]) fun i => by split <;> exact .swap _ _ _).1
  have hheard := congrArg (Array.map ScriptedProcessor.bestHeard) h
  rw [Array.map_map] at hheard
  exact hheard.trans (by decide +kernel)

end SpatialComputer
