import SpatialComputer.Proofs.Engine.CacheCoherence
import SpatialComputer.Proofs.Engine.Radii
import SpatialComputer.Proofs.Engine.Schedules
import SpatialComputer.Proofs.Population.Counting
import SpatialComputer.Proofs.Tick.Deliveries

/-!
# Deliveries in a tick

In every tick the due devices have their turns in the order of their ids, and each of them is handed every device in its list of neighbours once, in the order of the ids, and no other device. No lookup fails and none is passed over, however the list came about: from a cache, by way of the cells or by testing every device.
-/

namespace SpatialComputer

namespace Engine

variable {U P : Type} [Processor U P] {b : Blueprint P} {e : Engine U P} {i : Nat} {d : Device U}

/-- The transmit phase of the next tick, with every lookup checked and with a record of its turns. -/
def recordedTransmission (e : Engine U P) : Option (RecordedPhase U) :=
  transmitPhase? e.time (e.index.beginTick e.devices).2.1 (e.index.beginTick e.devices).2.2

/-- The turns of the next tick. -/
def turnsInTick (e : Engine U P) : List Turn :=
  Transmission.turnsUpTo e.time (e.index.beginTick e.devices).2.1 (e.index.beginTick e.devices).2.2
    e.size

omit [Processor U P] in
private theorem Sound.numbered_beginTick (sound : Sound b e) :
    Numbered (e.index.beginTick e.devices).2.2 :=
  sound.numbered.of_map_id (map_id_eq_of_sites (NeighborIndex.sites_beginTick e.index e.devices))

private theorem recordedTransmission_eq (reachable : Reachable b e) :
    e.recordedTransmission = some ⟨e.transmission, e.turnsInTick⟩ := by
  have sound := reachable.sound
  have hcell : Binary64.FinitePositive (e.index.beginTick e.devices).2.1.grid.cellSize := by
    rw [NeighborIndex.beginTick_cellSize]
    exact reachable.finitePositive_cellSize
  have hradius : ∀ d ∈ (e.index.beginTick e.devices).2.2, Binary64.FinitePositive d.radius := by
    have hsame := NeighborIndex.map_beginTick (fun _ => rfl) e.index e.devices (g := Device.radius)
    exact forall_of_map_eq hsame reachable.finitePositive_radius
  rw [recordedTransmission, Transmission.transmitPhase?_eq
    (NeighborIndex.beginTick_coherent sound.coherent) hcell sound.numbered_beginTick hradius,
    transmitPhase_eq_transmission, NeighborIndex.size_beginTick]
  rfl

omit [Processor U P] in
private theorem exists_begun (hd : e.devices[i]? = some d) :
    ∃ cache, (e.index.beginTick e.devices).2.2[i]? = some { d with neighborCache := cache } :=
  exists_cache_of_map_eq (NeighborIndex.map_beginTick (fun _ => rfl) e.index e.devices) hd

private theorem Sound.answer_beginTick (sound : Sound b e) (i : Nat) :
    (e.index.beginTick e.devices).2.1.answer (e.index.beginTick e.devices).2.2 i = e.servedInTick i :=
  (Transmission.served_upTo (NeighborIndex.beginTick_coherent sound.coherent) e.time i i).symm

/-! ### Who has a turn -/

omit [Processor U P] in
private theorem isDue_beginTick (e : Engine U P) (i : Nat) :
    Transmission.isDue e.time (e.index.beginTick e.devices).2.2 i =
      e.devices[i]?.any fun d => d.nextTransmit ≤ e.time := by
  rw [Transmission.isDue]
  cases hd : e.devices[i]? with
  | none =>
    have hsize := NeighborIndex.size_beginTick e.index e.devices
    rw [Array.getElem?_eq_none_iff, ← hsize, ← Array.getElem?_eq_none_iff] at hd
    rw [hd]
    rfl
  | some d =>
    obtain ⟨cache, hbegun⟩ := exists_begun hd
    rw [hbegun]
    rfl

omit [Processor U P] in
private theorem Sound.map_id_filter (sound : Sound b e) (keep : Device U → Bool) :
    (e.devices.toList.filter keep).map Device.id =
      ((List.range e.size).filter fun i => e.devices[i]?.any keep).map (· + 1) := by
  have hplaces := filter_range keep e.devices.toList
  simp only [Array.length_toList, Array.getElem?_toList] at hplaces
  rw [← hplaces, List.map_filterMap, ← idsAt_numbered sound.numbered]
  · rfl
  · exact fun j hj => List.mem_range.mp (List.mem_filter.mp hj).1

omit [Processor U P] in
private theorem Sound.map_receiver_turnsInTick (sound : Sound b e) :
    e.turnsInTick.map Turn.receiver =
        (e.devices.toList.filter fun d => d.nextTransmit ≤ e.time).map Device.id ∧
      (e.turnsInTick.map Turn.receiver).Pairwise (· < ·) := by
  have hreceivers : e.turnsInTick.map Turn.receiver =
      ((List.range e.size).filter fun i => e.devices[i]?.any fun d => d.nextTransmit ≤ e.time).map (· + 1) := by
    rw [turnsInTick, Transmission.turnsUpTo, List.map_map, funext (isDue_beginTick e)]
    rfl
  refine ⟨hreceivers.trans (sound.map_id_filter _).symm, ?_⟩
  rw [hreceivers, List.pairwise_map]
  exact (List.pairwise_lt_range.filter _).imp Nat.succ_lt_succ

private theorem Sound.pulling_mem_turnsInTick (sound : Sound b e) (hd : e.devices[i]? = some d)
    (hdue : d.nextTransmit ≤ e.time) : .pulling d.id (e.servedInTick i) ∈ e.turnsInTick := by
  have hi : i < e.size := (Array.getElem?_eq_some_iff.mp hd).1
  refine List.mem_map.mpr ⟨i, List.mem_filter.mpr ⟨List.mem_range.mpr hi, ?_⟩, ?_⟩
  · rw [isDue_beginTick, hd]
    exact decide_eq_true hdue
  · rw [sound.answer_beginTick, sound.numbered i d hd]

/-! ### What becomes of a device -/

private theorem Sound.transmission_of_due (sound : Sound b e) (hd : e.devices[i]? = some d)
    (hdue : d.nextTransmit ≤ e.time) : ∃ sources cache,
      (e.servedInTick i).map (Population.lookUp Device.processor (e.transmissionAt i).devices) =
        sources.map some ∧
      e.transmission.devices[i]? = some { d with
        processor := deliverAll sources d.processor
        nextTransmit := d.schedule.transmit.next e.time
        neighborCache := cache } := by
  obtain ⟨begun, hbegun⟩ := exists_begun hd
  have hi : i < e.devices.size := (Array.getElem?_eq_some_iff.mp hd).1
  have hdue' : Device.transmitDue { d with neighborCache := begun } e.time = true := decide_eq_true hdue
  obtain ⟨sources, cache, hsources, hafter⟩ := Transmission.device_upTo_of_due
    (NeighborIndex.beginTick_coherent sound.coherent) sound.numbered_beginTick hbegun hdue' hi
  rw [sound.answer_beginTick] at hsources
  exact ⟨sources, cache, hsources, hafter⟩

private theorem transmission_of_not_due (hd : e.devices[i]? = some d)
    (hdue : ¬d.nextTransmit ≤ e.time) :
    ∃ cache, e.transmission.devices[i]? = some { d with neighborCache := cache } := by
  obtain ⟨begun, hbegun⟩ := exists_begun hd
  have hdue' : Device.transmitDue { d with neighborCache := begun } e.time = false := decide_eq_false hdue
  exact ⟨begun, Transmission.device_upTo_of_not_due hbegun hdue' _⟩

private theorem Sound.nextTransmit_runTick (sound : Sound b e) (hd : e.devices[i]? = some d) :
    ∃ after, e.runTick.engine.devices[i]? = some after ∧ after.nextTransmit =
      if d.nextTransmit ≤ e.time then d.schedule.transmit.next e.time else d.nextTransmit := by
  obtain ⟨after, hafter, halarm⟩ := sound.alarm_runTick hd
  have hnext := congrArg Alarm.due (halarm .transmit)
  refine ⟨after, hafter, ?_⟩
  by_cases hdue : d.nextTransmit ≤ e.time
  · have hreached : (d.alarm .transmit).due ≤ e.time := hdue
    rw [Alarm.after_of_due hreached] at hnext
    rw [if_pos hdue]
    exact hnext
  · have hnotReached : ¬(d.alarm .transmit).due ≤ e.time := hdue
    rw [Alarm.after_of_not_due hnotReached] at hnext
    rw [if_neg hdue]
    exact hnext

/-! ### Lists -/

/-- Whether a list ascends strictly and names registered devices only, and not the device that it is made for. -/
structure Addressable (e : Engine U P) (own : DeviceId) (ids : List DeviceId) : Prop where
  ascending : ids.Pairwise (· < ·)
  foreign : own ∉ ids
  registered : ∀ id ∈ ids, ∃ j other, e.population.indexOf id = some j ∧ e.devices[j]? = some other ∧
    other.id = id

private theorem Sound.addressable_served (sound : Sound b e) (hd : e.devices[i]? = some d) :
    Addressable e d.id (e.servedInTick i) := by
  have hserved : e.servedInTick i = findNeighbors b.settings.index.strategy b.cellSize e.devices i :=
    sound.served_transmissionAt i i
  rw [hserved]
  refine ⟨pairwise_findNeighbors sound.numbered _ _ hd, fun hself => ?_, fun id hid => ?_⟩
  · obtain ⟨j, other, hne, hother, hid, -⟩ := exists_of_mem_findNeighbors sound.numbered hd hself
    rw [sound.numbered j other hother, sound.numbered i d hd] at hid
    exact hne (Nat.succ_injective hid)
  · obtain ⟨j, other, -, hother, hid, hindex⟩ := exists_of_mem_findNeighbors sound.numbered hd hid
    exact ⟨j, other, hindex, hother, hid⟩

/-! ### The whole phase -/

/-- In every tick of a reachable engine the transmit phase passes all of its checks: what it looks up is there, the boxes of cells can be counted, every id in a list is found, and every pair that is asked for is one of two different devices. The due devices and no others have a turn, in the order of their ids, and in its turn a device is handed each device in its list once, in the order of the ids. The list is what the strategy finds; it ascends strictly, names registered devices only, and not the device itself. A due device is delivered the state of all devices in its list, as it is at its turn, and is given its next due time; a device that is not due is left alone but for its cache. -/
theorem transmit_delivers_once (reachable : Reachable b e) :
    ∃ turns, e.recordedTransmission = some ⟨e.transmission, turns⟩ ∧
      turns.map Turn.receiver =
        (e.devices.toList.filter fun d => d.nextTransmit ≤ e.time).map Device.id ∧
      (turns.map Turn.receiver).Pairwise (· < ·) ∧
      ∀ (i : Nat) (d : Device U), e.devices[i]? = some d →
        let ids := e.servedInTick i
        ids = findNeighbors b.settings.index.strategy b.cellSize e.devices i ∧
        Addressable e d.id ids ∧
        (d.nextTransmit ≤ e.time → .pulling d.id ids ∈ turns ∧ ∃ sources cache,
          ids.map (Population.lookUp Device.processor (e.transmissionAt i).devices) = sources.map some ∧
          e.transmission.devices[i]? = some { d with
            processor := deliverAll sources d.processor
            nextTransmit := d.schedule.transmit.next e.time
            neighborCache := cache }) ∧
        (¬d.nextTransmit ≤ e.time →
          ∃ cache, e.transmission.devices[i]? = some { d with neighborCache := cache }) ∧
        ∃ after, e.runTick.engine.devices[i]? = some after ∧ after.nextTransmit =
          if d.nextTransmit ≤ e.time then d.schedule.transmit.next e.time else d.nextTransmit := by
  have sound := reachable.sound
  obtain ⟨hreceivers, hascending⟩ := sound.map_receiver_turnsInTick
  refine ⟨e.turnsInTick, recordedTransmission_eq reachable, hreceivers, hascending, fun i d hd => ?_⟩
  exact ⟨sound.served_transmissionAt i i, sound.addressable_served hd,
    fun hdue => ⟨sound.pulling_mem_turnsInTick hd hdue, sound.transmission_of_due hd hdue⟩,
    transmission_of_not_due hd, sound.nextTransmit_runTick hd⟩

/-- After a tick in which the first of two idle devices is cloned, all three are due and hear each other. -/
theorem transmit_delivers_once_cloned : ∃ (e : Engine ScriptedProcessor Program) (turns : List Turn),
    Reachable idlePair e ∧
      e.recordedTransmission = some ⟨e.transmission, turns⟩ ∧ turns.map Turn.receiver = [1, 2, 3] ∧
      .pulling 1 [2, 3] ∈ turns ∧ .pulling 2 [1, 3] ∈ turns := by
  have hfacts : (afterHistory idlePair [.requestClone 1, .tick]).bind
      (fun e : Engine ScriptedProcessor Program => e.devices[0]?.bind fun d => e.devices[1]?.map fun other =>
        ((e.devices.toList.filter fun d => d.nextTransmit ≤ e.time).map Device.id,
          (d.id, e.servedInTick 0, decide (d.nextTransmit ≤ e.time)),
          other.id, e.servedInTick 1, decide (other.nextTransmit ≤ e.time))) =
        some ([1, 2, 3], (1, [2, 3], true), 2, [1, 3], true) := by
    decide +kernel
  obtain ⟨e, he, hfacts⟩ := Option.bind_eq_some_iff.mp hfacts
  obtain ⟨d, hd, hfacts⟩ := Option.bind_eq_some_iff.mp hfacts
  obtain ⟨other, hother, hfacts⟩ := Option.map_eq_some_iff.mp hfacts
  simp only [Prod.mk.injEq, decide_eq_true_eq] at hfacts
  obtain ⟨hreceivers, ⟨hid, hids, hdue⟩, hid', hids', hdue'⟩ := hfacts
  have reachable : Reachable idlePair e := .of_afterHistory he
  obtain ⟨turns, hrecorded, hturns, -, hdevices⟩ := transmit_delivers_once reachable
  obtain ⟨-, -, hpulls, -⟩ := hdevices 0 d hd
  obtain ⟨-, -, hpulls', -⟩ := hdevices 1 other hother
  have hturn := (hpulls hdue).1
  have hturn' := (hpulls' hdue').1
  rw [hid, hids] at hturn
  rw [hid', hids'] at hturn'
  exact ⟨e, turns, reachable, hrecorded, hturns.trans hreceivers, hturn, hturn'⟩

end Engine

end SpatialComputer
