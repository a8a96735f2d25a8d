import SpatialComputer.Program.Scripted
import SpatialComputer.Proofs.Engine.Invariant

/-!
# What a tick adds to the population

A tick answers every clone request that is due when the mutation phase begins: with a clone as long as there is room, in the order of the ids, and with a count of the rest. The devices that were there stay, in their order, and the clones follow them.
-/

namespace SpatialComputer

namespace Engine

variable {U P : Type} [Processor U P] {b : Blueprint P} {e : Engine U P}

/-- Whether a device is a fresh clone of another one, displaced by the given offset. -/
structure IsClone (cloneDelay : Float) (source : Device U) (offset : Vec3) (clone : Device U) :
    Prop where
  parent : clone.parent = some source.id
  position : clone.position = source.position + offset
  radius : clone.radius = source.radius
  schedule : clone.schedule = source.schedule
  nextTransmit : clone.nextTransmit = source.nextTransmit
  nextCompute : clone.nextCompute = source.nextCompute
  cloneTimer : clone.cloneTimer = cloneDelay
  lastCompute : clone.lastCompute = none

theorem report_runTick (sound : Sound b e) :
    e.runTick.report.spawned = e.parentsInTick.length ∧
      e.runTick.report.droppedClones = e.askingInTick.length - e.parentsInTick.length := by
  rw [runTick_eq, reportOfTick, sound.mutation_eq]
  exact ⟨rfl, rfl⟩

omit [Processor U P] in
private theorem whileRoom_eq_take {α : Type} (limit : Option Nat) (present : Nat)
    (asking : List α) :
    whileRoom limit present asking = asking.take (whileRoom limit present asking).length := by
  cases limit with
  | none => exact (List.take_length).symm
  | some limit =>
    rw [whileRoom, List.length_take]
    grind

omit [Processor U P] in
private theorem length_whileRoom {α : Type} (limit : Option Nat) (present : Nat) (asking : List α) :
    (whileRoom limit present asking).length = match limit with
      | none => asking.length
      | some limit => min asking.length (limit - present) := by
  cases limit with
  | none => rfl
  | some limit => rw [whileRoom, List.length_take, Nat.min_comm]

private theorem device_runTick (sound : Sound b e) {i : Nat} {d : Device U}
    (hd : e.devices[i]? = some d) :
    ∃ d' acted, e.runTick.engine.devices[i]? = some d' ∧ d'.identity = d.identity ∧
      e.afterActuation[i]? = some acted ∧ d' = acted.settled e.settings.lifecycle.cloneDelay := by
  obtain ⟨acted, hacted, hidentity, hd'⟩ := sound.device_runTick hd
  exact ⟨_, acted, hd', (acted.identity_settled _).trans hidentity, hacted, rfl⟩

private theorem clone_runTick (sound : Sound b e) {k : Nat} {parent : Device U}
    (hparent : e.parentsInTick[k]? = some parent) :
    ∃ offset child, e.offsetsInTick.1[k]? = some offset ∧
      e.runTick.engine.devices[e.size + k]? = some child ∧ child.id = e.size + k + 1 ∧
      IsClone e.settings.lifecycle.cloneDelay parent offset child := by
  obtain ⟨offset, hoffset, hclone⟩ := getElem?_clonesInTick hparent
  refine ⟨offset, cloneDevice e.program e.time e.settings.lifecycle.cloneDelay (e.size + k + 1) parent
    offset, hoffset, ?_, rfl, ?_⟩
  · rw [sound.devices_runTick, Array.getElem?_append, Array.size_map, size_afterActuation,
      if_neg (by omega), Nat.add_sub_cancel_left, List.getElem?_toArray, hclone]
  · exact ⟨rfl, rfl, rfl, rfl, rfl, rfl, rfl, rfl⟩

theorem requests_runTick (sound : Sound b e) {d : Device U}
    (hd : d ∈ e.runTick.engine.devices) : d.requests.clone = false := by
  rw [sound.devices_runTick, Array.mem_append] at hd
  rcases hd with hd | hd
  · obtain ⟨acted, -, rfl⟩ := Array.mem_map.mp hd
    exact acted.settled_clone _
  · rw [List.mem_toArray] at hd
    obtain ⟨k, hk⟩ := List.mem_iff_getElem?.mp hd
    rw [clonesInTick, getElem?_clones] at hk
    obtain ⟨clone, -, rfl⟩ := Option.map_eq_some_iff.mp hk
    rfl

/-- Of the devices that ask when the mutation phase begins, the first that there is room for get one clone each and the rest are counted as dropped. The devices stay in their places, the clones follow in the order of their parents, no request outlives the tick, and the population is within its limit. -/
theorem tick_clones_exactly (reachable : Reachable b e) :
    (e.runTick.report.spawned = match e.settings.lifecycle.maxPopulation with
      | none => e.askingInTick.length
      | some limit => min e.askingInTick.length (limit - e.size)) ∧
    e.parentsInTick = e.askingInTick.take e.runTick.report.spawned ∧
    e.runTick.report.spawned + e.runTick.report.droppedClones = e.askingInTick.length ∧
    e.runTick.engine.size = e.size + e.runTick.report.spawned ∧
    (∀ (i : Nat) (d : Device U), e.devices[i]? = some d →
      ∃ d' acted, e.runTick.engine.devices[i]? = some d' ∧ d'.identity = d.identity ∧
        e.afterActuation[i]? = some acted ∧ d' = acted.settled e.settings.lifecycle.cloneDelay) ∧
    (∀ (k : Nat) (parent : Device U), e.parentsInTick[k]? = some parent →
      ∃ offset child, e.offsetsInTick.1[k]? = some offset ∧
        e.runTick.engine.devices[e.size + k]? = some child ∧ child.id = e.size + k + 1 ∧
        IsClone e.settings.lifecycle.cloneDelay parent offset child) ∧
    (∀ d ∈ e.runTick.engine.devices, d.requests.clone = false) ∧
    ∀ limit, e.settings.lifecycle.maxPopulation = some limit → e.size ≤ limit := by
  have sound := reachable.sound
  obtain ⟨hspawned, hdropped⟩ := report_runTick sound
  refine ⟨?_, ?_, ?_, ?_, fun i d hd => device_runTick sound hd,
    fun k parent hparent => clone_runTick sound hparent, fun d hd => requests_runTick sound hd, ?_⟩
  · rw [hspawned]
    exact length_whileRoom _ _ _
  · rw [hspawned]
    exact whileRoom_eq_take _ _ _
  · rw [hspawned, hdropped]
    exact Nat.add_sub_cancel' (length_whileRoom_le _ _ _)
  · rw [hspawned]
    exact sound.size_runTick
  · intro limit hlimit
    rw [sound.settings] at hlimit
    exact sound.limit limit hlimit

/-- Two idle devices with room for one more. -/
def crowdedPair : Blueprint Program where
  settings := {
    population := { size := 2, radius := 1, distribution := .explicit [⟨1, 0, 0⟩, ⟨2, 0, 0⟩] }
    lifecycle := { maxPopulation := some 3 } }
  program := .idle

/-- When both devices of the pair ask, the first gets a clone and the second is dropped. -/
theorem tick_clones_exactly_crowdedPair : ∃ e : Engine ScriptedProcessor Program,
    Reachable crowdedPair e ∧ e.askingInTick.map Device.id = [1, 2] ∧
      e.runTick.report.spawned = 1 ∧ e.runTick.report.droppedClones = 1 ∧
      ∃ child, e.runTick.engine.devices[2]? = some child ∧ child.id = 3 ∧ child.parent = some 1 := by
  have hfacts : (afterHistory crowdedPair [.requestClone 1, .requestClone 2]).map
      (fun e : Engine ScriptedProcessor Program => (e.askingInTick.map Device.id, e.size,
        e.settings.lifecycle.maxPopulation)) = some ([1, 2], 2, some 3) := by
    decide +kernel
  obtain ⟨e, he, hfacts⟩ := Option.map_eq_some_iff.mp hfacts
  obtain ⟨hasking, hsize, hlimit⟩ : e.askingInTick.map Device.id = [1, 2] ∧ e.size = 2 ∧
      e.settings.lifecycle.maxPopulation = some 3 := by
    simpa only [Prod.mk.injEq] using hfacts
  have reachable : Reachable crowdedPair e := .of_afterHistory he
  obtain ⟨hspawned, hparents, hdropped, -, -, hclones, -⟩ := tick_clones_exactly reachable
  have hlength : e.askingInTick.length = 2 := by rw [← List.length_map Device.id, hasking]; rfl
  have hone : e.runTick.report.spawned = 1 := by rw [hspawned, hlimit, hlength, hsize]; rfl
  have hfirst : (e.parentsInTick.map Device.id)[0]? = some 1 := by
    rw [hparents, hone, List.map_take, hasking]
    rfl
  rw [List.getElem?_map, Option.map_eq_some_iff] at hfirst
  obtain ⟨parent, hparent, hid⟩ := hfirst
  obtain ⟨_, child, -, hchild, hchildId, hclone⟩ := hclones 0 parent hparent
  rw [hsize] at hchild hchildId
  exact ⟨e, reachable, hasking, hone, by omega, child, hchild, hchildId, hid ▸ hclone.parent⟩

end Engine

end SpatialComputer
