import SpatialComputer.Proofs.Engine.DeviceInvariant
import SpatialComputer.Proofs.Engine.Schedules
import SpatialComputer.Proofs.Program.Rounds
import SpatialComputer.Proofs.Tick.Actuation

/-!
# Mirrors and actuators

A scripted processor keeps a copy of the position, the radius and the id of its device, and a displacement that it asks for. Between two ticks the copies are right and no displacement is left over. In a tick only a round can ask for one, and whether it is applied, suppressed or without effect, it is dropped when it has been looked at. So a device is where the displacements of its rounds have led it, each applied once.
-/

namespace SpatialComputer

/-! ### What a device keeps -/

/-- Whether the processor knows the position, the radius and the id of its device. -/
structure Device.Mirrored (d : Device ScriptedProcessor) : Prop where
  position : d.processor.position = d.position
  radius : d.processor.radius = d.radius
  id : d.processor.id = d.id

/-- Whether the processor knows its device and has no displacement left to ask for. -/
structure Device.InOrder (d : Device ScriptedProcessor) : Prop extends d.Mirrored where
  still : d.processor.actuators.isZero = true

namespace ScriptedProcessor

def mirror (u : ScriptedProcessor) : Vec3 × Float × DeviceId := (u.position, u.radius, u.id)

private theorem mirror_executeRound (time : Float) (u : ScriptedProcessor) :
    (executeRound time u).mirror = u.mirror := by
  unfold executeRound
  dsimp only
  split
  · rfl
  · rfl
  · rfl
  · split <;> rfl
  · rfl

end ScriptedProcessor

namespace Device

variable {d : Device ScriptedProcessor}

private theorem Mirrored.of_mirror {d' : Device ScriptedProcessor} (mirrored : d.Mirrored)
    (hmirror : d'.processor.mirror = d.processor.mirror) (hposition : d'.position = d.position)
    (hradius : d'.radius = d.radius) (hid : d'.id = d.id) : d'.Mirrored := by
  obtain ⟨hp, hmirror⟩ := Prod.mk.inj hmirror
  obtain ⟨hr, hi⟩ := Prod.mk.inj hmirror
  refine ⟨?_, ?_, ?_⟩
  · rw [hp, hposition, mirrored.position]
  · rw [hr, hradius, mirrored.radius]
  · rw [hi, hid, mirrored.id]

private theorem InOrder.receive (inOrder : d.InOrder) (source : ScriptedProcessor) :
    (d.receive source).InOrder := by
  obtain ⟨heard, h⟩ := d.receive_eq source
  rw [h]
  exact ⟨⟨inOrder.position, inOrder.radius, inOrder.id⟩, inOrder.still⟩

private theorem Mirrored.runRound (mirrored : d.Mirrored) (time : Float) : (d.runRound time).Mirrored := by
  refine mirrored.of_mirror ?_ rfl rfl rfl
  refine (ScriptedProcessor.mirror_executeRound time d.prepared).trans ?_
  show (d.position, _, _) = _
  rw [← mirrored.position]
  rfl

private theorem Mirrored.actuate (mirrored : d.Mirrored) (speedLimit : Option Float)
    (bounds : Option Volume) : (d.actuate speedLimit bounds).2.InOrder := by
  have hradius : d.processor.radius = d.radius := mirrored.radius
  have hid : d.processor.id = d.id := mirrored.id
  unfold Device.actuate
  dsimp only
  split
  · rename_i hzero
    exact ⟨⟨rfl, hradius, hid⟩, hzero⟩
  · split
    · exact ⟨⟨rfl, hradius, hid⟩, Vec3.isZero_zero⟩
    · split <;> exact ⟨⟨rfl, hradius, hid⟩, Vec3.isZero_zero⟩

/-- Every device is created in order, and every phase of a tick leaves it so, but for the displacements that its round asks for. -/
theorem inOrder_handedOn (program : Program) :
    HandedOn program Device.InOrder Device.Mirrored Device.InOrder where
  cache _ _ inOrder := ⟨⟨inOrder.position, inOrder.radius, inOrder.id⟩, inOrder.still⟩
  receive source _ inOrder := inOrder.receive source
  advance _ _ inOrder := ⟨⟨inOrder.position, inOrder.radius, inOrder.id⟩, inOrder.still⟩
  round time d inOrder := by
    unfold computeIfDue
    split
    · exact inOrder.toMirrored.runRound time
    · exact inOrder.toMirrored
  actuate limit bounds _ mirrored := mirrored.actuate limit bounds
  settle delay d inOrder := by
    obtain ⟨timer, elapsed, h⟩ := d.settled_eq delay
    rw [h]
    exact ⟨⟨inOrder.position, inOrder.radius, inOrder.id⟩, inOrder.still⟩
  clone _ _ _ _ _ _ _ := ⟨⟨rfl, rfl, rfl⟩, Vec3.isZero_zero⟩

theorem inOrder_keptBetween : KeptBetween Device.InOrder where
  setSensor _ _ _ inOrder := ⟨⟨inOrder.position, inOrder.radius, inOrder.id⟩, inOrder.still⟩
  setRadius _ _ inOrder := ⟨⟨inOrder.position, rfl, inOrder.id⟩, inOrder.still⟩
  request _ _ inOrder := ⟨⟨inOrder.position, inOrder.radius, inOrder.id⟩, inOrder.still⟩

end Device

theorem Engine.Reachable.inOrder {b : Blueprint Program} {e : Engine ScriptedProcessor Program}
    (reachable : Reachable b e) : ∀ d ∈ e.devices, d.InOrder := by
  refine reachable.forall_devices (Device.inOrder_handedOn _) Device.inOrder_keptBetween fun d created => ?_
  obtain ⟨position, schedule, firstDue, h⟩ := created
  rw [h]
  exact ⟨⟨rfl, rfl, rfl⟩, Vec3.isZero_zero⟩

/-! ### Displacements -/

section

variable {U P : Type} [Processor U P]

namespace Engine

/-- The displacement that the device at an index asks for by a round of the next tick. -/
def displacementInTick (e : Engine U P) (i : Nat) : Option Vec3 :=
  (e.transmission.devices[i]?.filter (·.computeDue e.time)).map fun heard =>
    Processor.actuators (heard.runRound e.time).processor

end Engine

end

namespace Engine

variable {b : Blueprint Program} {e e' : Engine ScriptedProcessor Program} {i : Nat}
  {d : Device ScriptedProcessor}

private theorem Reachable.heard (reachable : Reachable b e) (hd : e.devices[i]? = some d) :
    ∃ heard, e.transmission.devices[i]? = some heard ∧ heard.position = d.position ∧ heard.InOrder := by
  obtain ⟨heard, hheard, hsite⟩ := exists_of_map_eq (sites_transmission e) hd
  have hinOrder := forall_transmissionAt (Device.inOrder_handedOn b.program) reachable.inOrder e.devices.size
  exact ⟨heard, hheard, congrArg Site.position hsite, hinOrder heard (Array.mem_of_getElem? hheard)⟩

private theorem idle_of_not_due {heard : Device ScriptedProcessor} (inOrder : heard.InOrder) {time : Float}
    (hdue : heard.computeDue time = false) (speedLimit : Option Float) (bounds : Option Volume) :
    ((heard.computeIfDue time).actuate speedLimit bounds).1 = .idle := by
  rw [Device.computeIfDue, hdue, if_neg Bool.false_ne_true]
  exact Device.actuate_of_isZero inOrder.still

private theorem Reachable.ran_of_acted (reachable : Reachable b e) {outcome : Actuation}
    {acted : Device ScriptedProcessor} (hacted : e.actuations[i]? = some (outcome, acted))
    (houtcome : outcome ≠ .idle) : e.runsInTick .compute i = 1 := by
  rw [actuations_eq, Array.getElem?_map] at hacted
  obtain ⟨heard', hheard', hsame⟩ := Option.map_eq_some_iff.mp hacted
  obtain ⟨d, hd, -⟩ := exists_of_map_eq (sites_transmission e).symm hheard'
  obtain ⟨heard, hheard, halarm⟩ := computeAlarm_transmission hd
  obtain ⟨_, hfound, -, inOrder⟩ := reachable.heard hd
  obtain rfl := Option.some.inj (hheard.symm.trans hheard')
  obtain rfl := Option.some.inj (hheard.symm.trans hfound)
  rw [reachable.sound.runsInTick_eq hd, ← halarm]
  refine if_pos (Device.computeDue_iff.mp ?_)
  by_contra hdue
  rw [Bool.not_eq_true] at hdue
  have hidle := idle_of_not_due inOrder hdue e.settings.dynamics.speedLimit e.settings.bounds
  rw [hsame] at hidle
  exact houtcome hidle

private theorem Reachable.moved_add_suppressed_le (reachable : Reachable b e) :
    e.runTick.report.moved + e.runTick.report.suppressed ≤ e.runTick.report.computed := by
  have hreport : e.runTick.report = e.reportOfTick := by rw [runTick_eq]
  have hsum : e.reportOfTick.moved + e.reportOfTick.suppressed = _ :=
    countP_moved_add_suppressed e.actuations
  rw [hreport, hsum, reportOfTick, length_dueIndices, actuations_eq, Array.countP_map]
  apply Array.countP_mono_left
  intro heard hheard houtcome
  have inOrder := forall_transmissionAt (Device.inOrder_handedOn b.program) reachable.inOrder
    e.devices.size heard hheard
  by_contra hdue
  rw [Bool.not_eq_true] at hdue
  have hidle := idle_of_not_due inOrder hdue e.settings.dynamics.speedLimit e.settings.bounds
  simp [hidle] at houtcome

private theorem Reachable.position_runTick (reachable : Reachable b e) (hd : e.devices[i]? = some d) :
    ∃ d', e.runTick.engine.devices[i]? = some d' ∧ d'.position =
      (e.displacementInTick i).toList.foldl b.settings.destination d.position := by
  obtain ⟨heard, hheard, hposition, inOrder⟩ := reachable.heard hd
  obtain ⟨acted, hacted, -, hd'⟩ := reachable.sound.device_runTick hd
  obtain ⟨timer, elapsed, hsettled⟩ := acted.settled_eq e.settings.lifecycle.cloneDelay
  refine ⟨_, hd', ?_⟩
  rw [hsettled]
  rw [afterActuation, actuations_eq, Array.map_map, Array.getElem?_map, hheard] at hacted
  obtain rfl := Option.some.inj hacted
  show ((heard.computeIfDue e.time).actuate _ _).2.position = _
  rw [Device.position_actuate_eq, displacementInTick, hheard, reachable.sound.settings, ← hposition]
  unfold Device.computeIfDue
  -- Without a round the displacement is still the zero that was left over, and moves nothing.
  cases hdue : heard.computeDue e.time with
  | true =>
    rw [if_pos rfl, Option.filter_some, hdue]
    rfl
  | false =>
    rw [if_neg Bool.false_ne_true, Option.filter_some, hdue]
    exact if_pos inOrder.still

private theorem Course.position_eq {ticks : List (Engine ScriptedProcessor Program)}
    (course : Course e ticks e') : (∀ s ∈ ticks, Reachable b s) → ∀ {d : Device ScriptedProcessor},
    e.devices[i]? = some d → ∃ d', e'.devices[i]? = some d' ∧ d'.position =
      (ticks.filterMap fun s => s.displacementInTick i).foldl b.settings.destination d.position := by
  induction course with
  | done e => exact fun _ d hd => ⟨d, hd, rfl⟩
  | @tick e _ _ _ ih =>
    intro reachable d hd
    obtain ⟨d₁, hd₁, hfirst⟩ := (reachable e List.mem_cons_self).position_runTick hd
    obtain ⟨d', hd', hrest⟩ := ih (fun s hs => reachable s (List.mem_cons_of_mem e hs)) hd₁
    refine ⟨d', hd', ?_⟩
    rw [hrest, hfirst, List.filterMap_cons]
    cases e.displacementInTick i <;> rfl
  | between h _ ih =>
    intro reachable d hd
    obtain ⟨d₁, hd₁, hsame⟩ := h.device Lasting.position hd
    obtain ⟨d', hd', hrest⟩ := ih reachable hd₁
    exact ⟨d', hd', hsame ▸ hrest⟩

/-- In every reachable engine of scripted processors each processor knows the position, the radius and the id of its device and has no displacement left to ask for. A round of the next tick begins with the position at which the device is, and it is no news to the processor. A device is moved or suppressed only in a tick in which it runs a round, so no more devices are than run one. From any tick of a history on a device is where the displacements of its rounds have led it, each applied once. -/
theorem mirrors_in_order (reachable : Reachable b e) :
    (∀ d ∈ e.devices, d.processor.position = d.position ∧ d.processor.radius = d.radius ∧
      d.processor.id = d.id ∧ d.processor.actuators.isZero = true) ∧
    (∀ (i : Nat) (d : Device ScriptedProcessor), e.devices[i]? = some d → d.computeDue e.time = true →
      ∃ heard, e.transmission.devices[i]? = some heard ∧ heard.position = d.position ∧
        heard.prepared.position = heard.position ∧
        heard.prepared = Processor.resetActuators heard.processor ∧
        e.afterRounds[i]?.map Device.processor =
          some (Processor.takeRequests (Processor.executeRound e.time heard.prepared)).2) ∧
    (∀ (i : Nat) (outcome : Actuation) (acted : Device ScriptedProcessor),
      e.actuations[i]? = some (outcome, acted) → outcome = .moved ∨ outcome = .suppressed →
        e.runsInTick .compute i = 1) ∧
    e.runTick.report.moved + e.runTick.report.suppressed ≤ e.runTick.report.computed ∧
    ∀ (ops : List Operation) (before rest : List (Engine ScriptedProcessor Program)),
      e.ticksIn ops = before ++ rest → ∀ (i : Nat) (d : Device ScriptedProcessor),
        (e.afterTicks before).devices[i]? = some d →
          ∃ d', (e.performAll ops).devices[i]? = some d' ∧ d'.position =
            (rest.filterMap fun s => s.displacementInTick i).foldl b.settings.destination d.position := by
  refine ⟨fun d hd => ?_, fun i d hd hdue => ?_, fun i outcome acted hacted houtcome => ?_,
    reachable.moved_add_suppressed_le, fun ops before rest hticks i d hd => ?_⟩
  · have inOrder := reachable.inOrder d hd
    exact ⟨inOrder.position, inOrder.radius, inOrder.id, inOrder.still⟩
  · obtain ⟨heard, hheard, hposition, inOrder⟩ := reachable.heard hd
    obtain ⟨_, hfound, halarm⟩ := computeAlarm_transmission hd
    obtain rfl := Option.some.inj (hheard.symm.trans hfound)
    -- Hearing others does not touch the compute alarm, so the device is still due when its turn comes.
    have hheardDue : heard.computeDue e.time = true := by
      rwa [Device.computeDue_iff, halarm, ← Device.computeDue_iff]
    refine ⟨heard, hheard, hposition, rfl, ?_, ?_⟩
    · rw [Device.prepared, ← inOrder.position]
      rfl
    · rw [afterRounds, Array.getElem?_map, hheard, Option.map_some, Option.map_some, Device.computeIfDue,
        if_pos hheardDue]
      rfl
  · refine reachable.ran_of_acted hacted fun hidle => ?_
    rcases houtcome with h | h <;> cases h.symm.trans hidle
  · refine (course_afterTicks hticks).position_eq (fun s hs => ?_) hd
    exact reachable.of_mem_ticksIn ops (by simp [hticks, hs])

def strider : Blueprint Program where
  settings := {
    engine := { seed := some 4 }
    population := { size := 1, distribution := .explicit [⟨0, 0, 0⟩] } }
  program := .drift ⟨1, 0, 0⟩
  schedule := some { transmit := .interval 1, compute := .interval 2 }

/-- In four ticks the strider runs two rounds and takes two steps. -/
theorem mirrors_in_order_strider : ∃ e : Engine ScriptedProcessor Program, Reachable strider e ∧
    (e.ticksIn [.tick, .run 3]).map (fun s => s.displacementInTick 0) =
      [some ⟨1, 0, 0⟩, none, some ⟨1, 0, 0⟩, none] ∧
    (e.performAll [.tick, .run 3]).devices[0]?.map Device.position = some ⟨2, 0, 0⟩ ∧
    ∀ s ∈ e.ticksIn [.tick, .run 3], s.runTick.report.moved ≤ s.runTick.report.computed := by
  have hfacts : (afterHistory strider []).map (fun e : Engine ScriptedProcessor Program =>
      ((e.ticksIn [.tick, .run 3]).map (fun s => s.displacementInTick 0),
        e.devices[0]?.map Device.position)) =
        some ([some ⟨1, 0, 0⟩, none, some ⟨1, 0, 0⟩, none], some ⟨0, 0, 0⟩) := by
    decide +kernel
  obtain ⟨e, he, hfacts⟩ := Option.map_eq_some_iff.mp hfacts
  obtain ⟨hasked, hstart⟩ := Prod.mk.inj hfacts
  obtain ⟨d, hd, hposition⟩ := Option.map_eq_some_iff.mp hstart
  have reachable : Reachable strider e := .of_afterHistory he
  refine ⟨e, reachable, hasked, ?_, fun s hs => ?_⟩
  · obtain ⟨d', hd', hled⟩ :=
      (mirrors_in_order reachable).2.2.2.2 [.tick, .run 3] [] (e.ticksIn [.tick, .run 3]) rfl 0 d hd
    have hsteps := congrArg (List.filterMap id) hasked
    rw [List.filterMap_map, Function.id_comp] at hsteps
    rw [hd', Option.map_some, hled, hsteps, hposition]
    decide +kernel
  · have hmoved := (mirrors_in_order (reachable.of_mem_ticksIn _ hs)).2.2.2.1
    omega

end Engine

end SpatialComputer
