import SpatialComputer.Proofs.Engine.Accounting

/-!
# What an observer is told

An observer is told of the configuration, of every device that is created, of the start of every tick, and of every round. When an engine is built the devices are created one after another, and the first one that cannot be created ends the building. A tick tells of the rounds in the order of the ids and then of the clones, which take the next ids.
-/

namespace SpatialComputer

open Sampling

variable {U P : Type} [Processor U P]

/-! ### Building -/

namespace Blueprint

/-- The population and the stream when the turn of the device at an index comes, if the devices before it can be created. -/
def atTurn (U : Type) [Processor U P] (b : Blueprint P) : Nat → Option (Population U × Keystream)
  | 0 => some ({}, .ofSeed (.ofNat b.seed))
  | index + 1 =>
    (b.atTurn U index).bind fun (p, stream) =>
      match (b.createDevice p.size p.allocateId.1).run.run stream with
      | (.ok d, stream) => some (p.allocateId.2.insert d, stream)
      | (.error _, _) => none

/-- Where the device at an index is placed, if its turn comes. -/
def placed? (U : Type) [Processor U P] (b : Blueprint P) (index : Nat) : Option Vec3 :=
  (b.atTurn U index).bind fun (_, stream) => ((b.position index).run.run stream).1.toOption

/-- Why a draw for the device at an index fails, if its turn comes and one does. -/
def faultAt? (U : Type) [Processor U P] (b : Blueprint P) (index : Nat) : Option Fault :=
  (b.atTurn U index).bind fun (p, stream) =>
    match ((b.createDevice (U := U) p.size p.allocateId.1).run.run stream).1 with
    | .error (.fault cause) => some cause
    | _ => none

inductive Ending (U : Type) [Processor U P] (b : Blueprint P) {α : Type} (created : Nat) :
    Except BuildError α → Prop where
  | complete {result : α} : created = b.settings.population.size → Ending U b created (.ok result)
  /-- The next device is placed where it cannot be. -/
  | stray {position : Vec3} : created < b.settings.population.size →
    b.placed? U created = some position → position.isFinite = false →
    Ending U b created (.error (.rejected (.distribution (.placedNotFinite created position))))
  /-- A draw for the next device fails, and nothing is built. -/
  | fault {cause : Fault} : created < b.settings.population.size →
    b.faultAt? U created = some cause →
    (∀ position, b.placed? U created = some position → position.isFinite = true) →
    Ending U b created (.error (.fault cause))

private theorem createDevice_cases (b : Blueprint P) (index : Nat) (id : DeviceId) (stream : Keystream) :
    (∃ (d : Device U) (next : Keystream), (b.createDevice index id).run.run stream = (.ok d, next) ∧
      ((b.position index).run.run stream).1 = .ok d.position) ∨
    (∃ position next, (b.createDevice (U := U) index id).run.run stream =
        (.error (.rejected (.distribution (.placedNotFinite index position))), next) ∧
      ((b.position index).run.run stream).1 = .ok position ∧ position.isFinite = false) ∨
    ∃ cause next, (b.createDevice (U := U) index id).run.run stream = (.error (.fault cause), next) ∧
      ∀ position, ((b.position index).run.run stream).1 = .ok position → position.isFinite = true := by
  unfold createDevice
  rcases attempt_cases (b.position index) stream with
    ⟨position, s₁, hposition, hattempt⟩ | ⟨cause, s₁, hposition, hattempt⟩
  · rw [run_bind_of_ok hattempt, hposition]
    cases hfinite : position.isFinite with
    | false => exact .inr (.inl ⟨position, s₁, rfl, rfl, hfinite⟩)
    | true =>
      have hplaced : ∀ other : Vec3, Except.ok (ε := Fault) position = .ok other → other.isFinite = true :=
        fun other h => Except.ok.inj h ▸ hfinite
      rcases attempt_cases b.deviceSchedule s₁ with
        ⟨schedule, s₂, -, hschedule⟩ | ⟨cause, s₂, -, hschedule⟩
      · rcases attempt_cases (startLag b.settings schedule) s₂ with
          ⟨lag, s₃, -, hlag⟩ | ⟨cause, s₃, -, hlag⟩
        · exact .inl ⟨_, s₃, (run_bind_of_ok hschedule).trans (run_bind_of_ok hlag), rfl⟩
        · exact .inr (.inr ⟨cause, s₃, (run_bind_of_ok hschedule).trans (run_bind_of_error hlag), hplaced⟩)
      · exact .inr (.inr ⟨cause, s₂, run_bind_of_error hschedule, hplaced⟩)
  · rw [hposition]
    exact .inr (.inr ⟨cause, s₁, run_bind_of_error hattempt, fun _ h => nomatch h⟩)

structure Raised (b : Blueprint P) (p : Population U) : Prop where
  populated : b.Populated p
  placed : ∀ (i : Nat) (d : Device U), p.devices[i]? = some d →
    b.placed? U i = some d.position ∧ d.position.isFinite = true

variable {b : Blueprint P}

private theorem placed?_eq_some {index : Nat} {p : Population U} {stream : Keystream}
    (hturn : b.atTurn U index = some (p, stream)) {position : Vec3} :
    b.placed? U index = some position ↔ ((b.position index).run.run stream).1 = .ok position := by
  rw [placed?, hturn, Option.bind_some]
  dsimp only
  cases ((b.position index).run.run stream).1 <;> simp [Except.toOption]

private theorem Raised.insert {p : Population U} {stream next : Keystream} {d : Device U}
    (raised : b.Raised p) (hturn : b.atTurn U p.size = some (p, stream))
    (hd : (b.createDevice p.size p.allocateId.1).run.run stream = (.ok d, next))
    (hposition : ((b.position p.size).run.run stream).1 = .ok d.position) :
    b.Raised (p.allocateId.2.insert d) := by
  obtain ⟨hid, hcreated, hfinite⟩ := createDevice_created hd
  refine ⟨raised.populated.insert hid hcreated, fun i d' hd' => ?_⟩
  change (p.devices.push d)[i]? = some d' at hd'
  rw [Array.getElem?_push] at hd'
  split at hd'
  · rename_i hi
    obtain rfl := Option.some.inj hd'
    rw [hi]
    exact ⟨(placed?_eq_some hturn).mpr hposition, hfinite⟩
  · exact raised.placed i d' hd'

private theorem populate_ending (count : Nat) : ∀ (p : Population U) (stream : Keystream),
    b.atTurn U p.size = some (p, stream) → b.Raised p → p.size + count = b.settings.population.size →
      ∃ outcome p' stream', b.populate count p stream = (outcome, p', stream') ∧ b.Raised p' ∧
        b.Ending U p'.size outcome ∧ (outcome = .ok () ∨ b.atTurn U (p'.size + 1) = none) := by
  induction count with
  | zero => exact fun p stream _ raised hsize => ⟨_, p, stream, rfl, raised, .complete hsize, .inl rfl⟩
  | succ count ih =>
    intro p stream hturn raised hsize
    have hnext : b.atTurn U (p.size + 1) =
        match (b.createDevice p.size p.allocateId.1).run.run stream with
        | (.ok d, stream) => some (p.allocateId.2.insert d, stream)
        | (.error _, _) => none := by
      rw [atTurn, hturn, Option.bind_some]
    -- A turn places a device, finds a place that is not finite, or breaks off with a fault; only
    -- the first goes on.
    rcases createDevice_cases (U := U) b p.size p.allocateId.1 stream with
      ⟨d, next, hd, hposition⟩ | ⟨position, next, hstray, hposition, hnot⟩ | ⟨cause, next, hfault, hfinite⟩
    · rw [hd] at hnext
      rw [populate_succ_of_ok hd]
      refine ih _ next ?_ (raised.insert hturn hd hposition) ?_
      · rw [size_insert, hnext]
      · rw [size_insert]
        omega
    · rw [hstray] at hnext
      have hplaced := (placed?_eq_some hturn).mpr hposition
      exact ⟨_, p, next, populate_succ_of_error hstray count, raised, .stray (by omega) hplaced hnot,
        .inr hnext⟩
    · rw [hfault] at hnext
      have hplaced : ∀ position, b.placed? U p.size = some position → position.isFinite = true :=
        fun position h => hfinite position ((placed?_eq_some hturn).mp h)
      have hcause : b.faultAt? U p.size = some cause := by
        rw [faultAt?, hturn, Option.bind_some]
        dsimp only
        rw [hfault]
      exact ⟨_, p, next, populate_succ_of_error hfault count, raised,
        .fault (by omega) hcause hplaced, .inr hnext⟩

private theorem atTurn_eq_none {index : Nat} (h : b.atTurn U index = none) (later : Nat) :
    b.atTurn U (index + later) = none := by
  induction later with
  | zero => exact h
  | succ later ih => rw [← Nat.add_assoc, atTurn, ih, Option.bind_none]

private theorem Raised.eq_size_of_stray {p : Population U} {outcome : Except BuildError Unit}
    (raised : b.Raised p) (ending : b.Ending U p.size outcome)
    (stop : outcome = .ok () ∨ b.atTurn U (p.size + 1) = none) {index : Nat}
    (hindex : index < b.settings.population.size) {position : Vec3}
    (hposition : b.placed? U index = some position) (hnot : position.isFinite = false) :
    index = p.size := by
  -- Before the end every place is finite, and past it there is no turn that could find one.
  rcases Nat.lt_trichotomy index p.size with hbefore | heq | hafter
  · have hd := raised.placed index p.devices[index] (Array.getElem?_eq_getElem hbefore)
    obtain rfl := Option.some.inj (hposition.symm.trans hd.1)
    rw [hd.2] at hnot
    cases hnot
  · exact heq
  · rcases stop with rfl | stop
    · cases ending with
      | complete hsize => omega
    · obtain ⟨later, rfl⟩ := Nat.exists_eq_add_of_lt hafter
      have hnone := atTurn_eq_none stop later
      rw [placed?, Nat.add_right_comm, hnone] at hposition
      cases hposition

private theorem Ending.map {α β : Type} {created : Nat} {outcome : Except BuildError α}
    (ending : b.Ending U created outcome) (f : α → β) : b.Ending U created (outcome.map f) := by
  cases ending with
  | complete hsize => exact .complete hsize
  | stray hlt hplaced hnot => exact .stray hlt hplaced hnot
  | fault hlt hcause hfinite => exact .fault hlt hcause hfinite

/-- What is told of the building of an accepted configuration. -/
structure BuildTrace (b : Blueprint P) (created : List (Device U)) : Prop where
  events : b.build.2 = .preInit b.settings :: created.map .deviceInit
  numbered : created.map Device.id = List.range' 1 created.length
  placed : ∀ (i : Nat) (d : Device U), created[i]? = some d →
    b.placed? U i = some d.position ∧ d.position.isFinite = true
  ending : b.Ending U created.length (b.build (U := U)).1
  devices : ∀ e : Engine U P, b.build.1 = .ok e → e.devices.toList = created
  /-- The first device that is placed where it cannot be is not created. -/
  first_stray : ∀ index < b.settings.population.size, ∀ position, b.placed? U index = some position →
    position.isFinite = false → index = created.length

theorem exists_buildTrace (U : Type) [Processor U P] (hvalid : b.settings.validate = .ok ()) :
    ∃ created : List (Device U), b.BuildTrace created := by
  have hempty : b.Raised ({} : Population U) := ⟨.empty b, fun i d hd => by simp at hd⟩
  obtain ⟨outcome, p, stream, hpopulate, raised, hending, hstop⟩ :=
    populate_ending (U := U) b.settings.population.size {} (.ofSeed (.ofNat b.seed)) rfl hempty
      (Nat.zero_add _)
  have hplaced : ∀ (i : Nat) (d : Device U), p.devices.toList[i]? = some d →
      b.placed? U i = some d.position ∧ d.position.isFinite = true := by
    intro i d hd
    rw [Array.getElem?_toList] at hd
    exact raised.placed i d hd
  have hbuild := build_of_populate hvalid hpopulate
  refine ⟨p.devices.toList, congrArg Prod.snd hbuild, ?_, hplaced, ?_, fun e he => ?_, ?_⟩
  · rw [raised.populated.numbered.map_id, Array.length_toList]
  · rw [Array.length_toList]
    rw [hbuild]
    exact hending.map _
  · rw [hbuild] at he
    cases outcome with
    | error cause => cases he
    | ok =>
      obtain rfl := Except.ok.inj he
      rfl
  · intro index hindex position hposition hnot
    rw [Array.length_toList]
    exact raised.eq_size_of_stray hending hstop hindex hposition hnot

end Blueprint

/-! ### Ticks -/

namespace Engine

variable {b : Blueprint P} {e : Engine U P}

def executedInTick (e : Engine U P) : List (Device U) :=
  (e.transmission.devices.toList.filter (·.computeDue e.time)).map (Device.runRound e.time)

private theorem filterMap_afterRounds (e : Engine U P) :
    ((dueIndices e.time e.transmission.devices).filterMap fun i =>
      e.afterRounds[i]?.map Event.deviceExecuted) = e.executedInTick.map .deviceExecuted := by
  have hround : ∀ i : Nat, e.afterRounds[i]?.map Event.deviceExecuted =
      e.transmission.devices[i]?.map (Event.deviceExecuted ∘ Device.computeIfDue e.time) := by
    intro i
    rw [afterRounds, Array.getElem?_map, Option.map_map]
  simp only [hround]
  rw [← List.map_filterMap, filterMap_dueIndices, executedInTick, List.map_map]
  refine List.map_congr_left fun d hd => ?_
  have hdue : d.computeDue e.time = true := (List.mem_filter.mp hd).2
  rw [Function.comp_apply, Function.comp_apply, Device.computeIfDue, if_pos hdue]

private theorem map_id_executedInTick (e : Engine U P) :
    e.executedInTick.map Device.id = (e.devices.toList.filter (·.computeDue e.time)).map Device.id := by
  let timed : Device U → DeviceId × Float := fun d => (d.id, d.nextCompute)
  have hsame : e.transmission.devices.toList.map timed = e.devices.toList.map timed := by
    have h := map_transmissionAt (g := timed) ⟨fun _ _ => rfl, fun _ _ => rfl, fun _ _ => rfl⟩
      (fun _ => rfl) e e.devices.size
    rw [← Array.toList_map, ← Array.toList_map]
    exact congrArg Array.toList h
  have hdue : ∀ l : List (Device U), (l.filter (·.computeDue e.time)).map Device.id =
      ((l.map timed).filter fun due => decide (due.2 ≤ e.time)).map (·.1) := by
    intro l
    rw [List.filter_map, List.map_map]
    rfl
  have hids : e.executedInTick.map Device.id =
      (e.transmission.devices.toList.filter (·.computeDue e.time)).map Device.id := by
    rw [executedInTick, List.map_map]
    rfl
  rw [hids, hdue, hsame, ← hdue]

/-- What is told of a tick. -/
structure TickTrace (e : Engine U P) (executed born : List (Device U)) : Prop where
  events : e.runTick.events = .preUpdate e.time :: executed.map .deviceExecuted ++ born.map .deviceInit
  /-- A round is told of for every device that is there and due when the tick begins, and for no other. -/
  due : executed.map Device.id = (e.devices.toList.filter (·.computeDue e.time)).map Device.id
  ascending : (executed.map Device.id).Pairwise (· < ·)
  seen : ∀ d ∈ executed, d.lastCompute = some e.time
  computed : executed.length = e.runTick.report.computed
  /-- The devices that are there after the tick and were not before. -/
  added : e.runTick.engine.devices.toList.drop e.size = born
  parents : ∀ d ∈ born, ∃ parent ∈ e.devices, d.parent = some parent.id
  numbered : born.map Device.id = List.range' (e.size + 1) born.length
  spawned : born.length = e.runTick.report.spawned

private theorem Sound.drop_devices_runTick (sound : Sound b e) :
    e.runTick.engine.devices.toList.drop e.size = e.clonesInTick := by
  have hsize : (e.afterActuation.map (Device.settled e.settings.lifecycle.cloneDelay)).toList.length =
      e.size := by
    rw [Array.length_toList, Array.size_map, size_afterActuation]
  rw [sound.devices_runTick, Array.toList_append, ← hsize]
  exact List.drop_left

private theorem Sound.events_runTick (sound : Sound b e) :
    e.runTick.events = .preUpdate e.time :: e.executedInTick.map .deviceExecuted ++
      e.clonesInTick.map .deviceInit := by
  have hborn : e.mutation.population.devices.toList.drop e.devices.size = e.clonesInTick := by
    have h := sound.drop_devices_runTick
    rwa [runTick_eq] at h
  rw [runTick_eq]
  dsimp only
  rw [hborn, filterMap_afterRounds]

private theorem Sound.parent_of_mem_clonesInTick (sound : Sound b e) {d : Device U}
    (hd : d ∈ e.clonesInTick) : ∃ parent ∈ e.devices, d.parent = some parent.id := by
  have hparent : d.parent ∈ e.clonesInTick.map Device.parent := List.mem_map_of_mem hd
  rw [map_clonesInTick (h := fun parent => some parent.id) fun _ _ _ _ => rfl] at hparent
  obtain ⟨parent, hparent, heq⟩ := List.mem_map.mp hparent
  obtain ⟨j, hj, -, hid⟩ := sound.place_of_parent hparent
  obtain ⟨source, hsource⟩ : ∃ source, e.devices[j]? = some source := ⟨_, Array.getElem?_eq_getElem hj⟩
  refine ⟨source, Array.mem_of_getElem? hsource, ?_⟩
  rw [← heq, hid, sound.numbered j source hsource]

private theorem Sound.tickTrace (sound : Sound b e) : e.TickTrace e.executedInTick e.clonesInTick := by
  refine ⟨sound.events_runTick, map_id_executedInTick e, ?_, fun d hd => ?_, ?_,
    sound.drop_devices_runTick, fun d hd => sound.parent_of_mem_clonesInTick hd, ?_, ?_⟩
  · have hsorted : (e.devices.toList.map Device.id).Pairwise (· < ·) := by
      rw [sound.numbered.map_id]
      exact List.pairwise_lt_range'
    rw [map_id_executedInTick]
    exact hsorted.sublist (List.filter_sublist.map Device.id)
  · obtain ⟨_, -, rfl⟩ := List.mem_map.mp hd
    rfl
  · rw [executedInTick, List.length_map, ← List.countP_eq_length_filter, Array.countP_toList,
      ← length_dueIndices, runTick_eq, reportOfTick]
  · have hlater := (sound.step .tick).numbered.map_id
    rw [← sound.drop_devices_runTick, List.map_drop, hlater, List.length_drop, Array.length_toList,
      List.drop_range', Nat.mul_one, Nat.add_comm]
  · rw [length_clonesInTick, (report_runTick sound).1]

end Engine

/-! ### Building and running -/

namespace Blueprint

/-- Nothing is told of a rejected configuration. Of an accepted one the configuration is told and then the devices in the order of their ids, up to the last or to the first that cannot be created. Of every history that follows the ticks are told, one after another: the start of the tick with its clock, the rounds that were due, and the clones. -/
theorem told_in_order (U : Type) [Processor U P] (b : Blueprint P) :
    (∀ cause, b.settings.validate = .error cause → b.build (U := U) = (.error (.rejected cause), [])) ∧
    (b.settings.validate = .ok () → ∃ created : List (Device U), b.BuildTrace created) ∧
    ∀ (start : Engine U P) (events : List (Event U)), b.build = (.ok start, events) →
      ∀ ops : List Operation,
        Engine.Course start (start.ticksIn ops) (start.performAll ops) ∧
        (start.answers ops).flatMap (·.2) = (start.ticksIn ops).flatMap (·.runTick.events) ∧
        start.reports ops = (start.ticksIn ops).map (·.runTick.report) ∧
        ∀ e ∈ start.ticksIn ops, ∃ executed born, e.TickTrace executed born := by
  refine ⟨fun cause => build_of_rejected, exists_buildTrace U, fun start events hbuild ops => ?_⟩
  have reachable : Engine.Reachable b start := .built hbuild
  refine ⟨Engine.course_performAll ops start, Engine.events_answers ops start,
    Engine.reports_eq ops start, fun e he => ?_⟩
  exact ⟨_, _, (reachable.of_mem_ticksIn ops he).sound.tickTrace⟩

/-- A pair whose second device is placed infinitely far away. -/
def strayPair : Blueprint Program :=
  { Engine.crowdedPair with placement := some fun index => ⟨1 / Float.ofNat (1 - index), 0, 0⟩ }

def bothAsk : List Operation := [.requestClone 1, .requestClone 2, .tick]

/-- The first device of the stray pair is told of and the second is not. When both devices of the crowded pair ask for a clone, a tick tells of the rounds of both and of one clone. -/
theorem told_in_order_pairs :
    (∃ created : List (Device ScriptedProcessor), strayPair.BuildTrace created ∧
      created.map Device.id = [1]) ∧
    ∃ start e : Engine ScriptedProcessor Program, Engine.crowdedPair.build.1 = .ok start ∧
      e ∈ start.ticksIn bothAsk ∧
      ∃ executed born, e.TickTrace executed born ∧ executed.map Device.id = [1, 2] ∧
        born.map Device.id = [3] := by
  constructor
  · have hvalid : strayPair.settings.validate = .ok () := by decide +kernel
    have hstray : (strayPair.placed? ScriptedProcessor 1).map Vec3.isFinite = some false := by
      decide +kernel
    obtain ⟨-, hcreated, -⟩ := told_in_order ScriptedProcessor strayPair
    obtain ⟨created, trace⟩ := hcreated hvalid
    obtain ⟨position, hposition, hnot⟩ := Option.map_eq_some_iff.mp hstray
    have hlength : 1 = created.length := trace.first_stray 1 (by decide) position hposition hnot
    refine ⟨created, trace, ?_⟩
    rw [trace.numbered, ← hlength]
    rfl
  · have hfacts : (Engine.afterHistory Engine.crowdedPair []).map
        (fun start : Engine ScriptedProcessor Program => (start.ticksIn bothAsk).map fun e => (e.size,
          (e.devices.toList.filter (·.computeDue e.time)).map Device.id, e.runTick.report.spawned)) =
        some [(2, [1, 2], 1)] := by
      decide +kernel
    obtain ⟨start, hstart, hfacts⟩ := Option.map_eq_some_iff.mp hfacts
    obtain ⟨_, events, hbuild, rfl⟩ := Engine.afterHistory_eq_some hstart
    obtain ⟨e, hticks, hfacts⟩ := List.map_eq_singleton_iff.mp hfacts
    obtain ⟨hsize, hdue, hspawned⟩ : e.size = 2 ∧
        (e.devices.toList.filter (·.computeDue e.time)).map Device.id = [1, 2] ∧
        e.runTick.report.spawned = 1 := by
      simpa only [Prod.mk.injEq] using hfacts
    have he : e ∈ start.ticksIn bothAsk := by
      rw [hticks]
      exact List.mem_singleton_self e
    obtain ⟨-, -, htold⟩ := told_in_order ScriptedProcessor Engine.crowdedPair
    obtain ⟨-, -, -, htraces⟩ := htold start events hbuild bothAsk
    obtain ⟨executed, born, trace⟩ := htraces e he
    refine ⟨start, e, congrArg Prod.fst hbuild, he, executed, born, trace, trace.due.trans hdue, ?_⟩
    rw [trace.numbered, trace.spawned, hsize, hspawned]
    rfl

end Blueprint

end SpatialComputer
