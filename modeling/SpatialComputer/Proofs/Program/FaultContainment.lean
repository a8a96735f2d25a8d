import SpatialComputer.Proofs.Binary64.Order
import SpatialComputer.Proofs.Engine.CacheCoherence
import SpatialComputer.Proofs.Engine.GuisedHistories
import SpatialComputer.Proofs.Population.Counting
import SpatialComputer.Proofs.Program.Rounds
import SpatialComputer.Proofs.Tick.Displacement

/-!
# Fault containment

A device that drifts with a velocity which is not finite asks for an impossible displacement in every round. Each time the displacement is suppressed and dropped, and nothing of it is left: not in the copy of the position, not for the next tick, not in a clone. So a whole population of such devices does what idle ones do, and an observer can only tell the two apart by the count of suppressed displacements.
-/

namespace SpatialComputer

open Binary64

/-! ### Impossible displacements -/

theorem Vec3.isZero_of_not_isFinite {a : Vec3} (hfaulty : a.isFinite = false) : a.isZero = false := by
  by_contra hzero
  rw [Bool.not_eq_false, isZero, Bool.and_eq_true, Bool.and_eq_true] at hzero
  obtain ⟨⟨hx, hy⟩, hz⟩ := hzero
  have hfinite : a.isFinite = true := (isFinite_iff a).mpr
    ⟨isFinite_of_beq_zero hx, isFinite_of_beq_zero hy, isFinite_of_beq_zero hz⟩
  rw [hfinite] at hfaulty
  cases hfaulty

theorem displaced_of_not_isFinite {delta : Vec3} (hfaulty : delta.isFinite = false)
    (speedLimit : Option Float) (bounds : Option Volume) (position : Vec3) :
    displaced speedLimit bounds position delta = none := by
  rw [displaced, hfaulty]
  rfl

/-! ### Single devices -/

/-- The guise in which a drifting device is idle and its faults do not show. -/
def Guise.calm : Guise ScriptedProcessor Program where
  processor u := { u with program := .idle, actuators := .zero }
  program _ := .idle
  hidesFaults := true

namespace Device

variable {velocity : Vec3} {d : Device ScriptedProcessor}

/-- Whether a device drifts, and asks for nothing else than its velocity. -/
structure Drifting (velocity : Vec3) (d : Device ScriptedProcessor) : Prop where
  program : d.processor.program = .drift velocity
  actuators : d.processor.actuators = .zero ∨ d.processor.actuators = velocity

/-- Whether a device drifts and asks for nothing at the moment. -/
structure Resting (velocity : Vec3) (d : Device ScriptedProcessor) : Prop where
  program : d.processor.program = .drift velocity
  actuators : d.processor.actuators = .zero

private theorem Resting.receive (resting : d.Resting velocity) (source : ScriptedProcessor) :
    (d.receive source).Resting velocity := by
  obtain ⟨heard, h⟩ := d.receive_eq source
  rw [h]
  exact ⟨resting.program, resting.actuators⟩

private theorem runRound_drift (hprogram : d.processor.program = .drift velocity) (time : Float) :
    (d.runRound time).processor = { d.processor with
      position := d.position
      rounds := d.processor.rounds + 1
      actuators := velocity
      color := .off
      requests := {} } := by
  rw [processor_runRound, prepared_eq, ScriptedProcessor.executeRound]
  simp only [hprogram]

private theorem Resting.computeIfDue (resting : d.Resting velocity) (time : Float) :
    (d.computeIfDue time).Drifting velocity := by
  unfold Device.computeIfDue
  split
  · have hround := runRound_drift resting.program time
    exact ⟨by rw [hround, resting.program], .inr (by rw [hround])⟩
  · exact ⟨resting.program, .inl resting.actuators⟩

private theorem Drifting.actuate (hfaulty : velocity.isFinite = false) (drifting : d.Drifting velocity)
    (speedLimit : Option Float) (bounds : Option Volume) :
    d.actuate speedLimit bounds =
      (if d.processor.actuators = velocity then .suppressed else .idle,
        { d with processor := { d.processor with actuators := .zero, position := d.position } }) := by
  have hzero := Vec3.isZero_of_not_isFinite hfaulty
  have hsuppressed := displaced_of_not_isFinite hfaulty speedLimit bounds d.position
  have hne : Vec3.zero ≠ velocity := by
    rintro rfl
    cases hzero
  unfold Device.actuate
  rcases drifting.actuators with hactuators | hactuators
  · have hasked : (Processor.actuators d.processor).isZero = true := by
      show d.processor.actuators.isZero = true
      rw [hactuators, Vec3.isZero_zero]
    rw [if_pos hasked, hactuators, if_neg hne, ← hactuators]
    rfl
  · have hasked : Processor.actuators d.processor = velocity := hactuators
    simp only [hasked, hzero, hsuppressed, hactuators, if_true]
    rfl

private theorem drifting_handedOn (hfaulty : velocity.isFinite = false) :
    HandedOn (.drift velocity) (Device.Resting velocity) (Device.Drifting velocity)
      (Device.Resting velocity) where
  cache _ _ resting := ⟨resting.program, resting.actuators⟩
  receive source _ resting := resting.receive source
  advance _ _ resting := ⟨resting.program, resting.actuators⟩
  round time _ resting := resting.computeIfDue time
  actuate speedLimit bounds _ drifting := by
    rw [drifting.actuate hfaulty]
    exact ⟨drifting.program, rfl⟩
  settle delay d resting := by
    obtain ⟨timer, elapsed, h⟩ := d.settled_eq delay
    rw [h]
    exact ⟨resting.program, resting.actuators⟩
  clone _ _ _ _ _ _ _ := ⟨rfl, rfl⟩

private theorem resting_keptBetween : KeptBetween (Device.Resting velocity) where
  setSensor _ _ _ resting := ⟨resting.program, resting.actuators⟩
  setRadius _ _ resting := ⟨resting.program, resting.actuators⟩
  request _ _ resting := ⟨resting.program, resting.actuators⟩

private theorem Resting.computeIfDue_calm (resting : d.Resting velocity) (time : Float) :
    (Guise.calm.device d).computeIfDue time = Guise.calm.device (d.computeIfDue time) := by
  have hdue : (Guise.calm.device d).computeDue time = d.computeDue time := rfl
  unfold Device.computeIfDue
  rw [hdue]
  split
  · obtain ⟨hprogram, -⟩ := resting
    obtain ⟨id, parent, position, radius, u, schedule, _, _, _, _, _, _, _⟩ := d
    obtain ⟨program, _, _, _, _, _, _, _, _, _, _, _⟩ := u
    obtain rfl : program = .drift velocity := hprogram
    rfl
  · rfl

private theorem Drifting.actuate_calm (hfaulty : velocity.isFinite = false)
    (drifting : d.Drifting velocity) (speedLimit : Option Float) (bounds : Option Volume) :
    (Guise.calm.device d).actuate speedLimit bounds =
      (Guise.calm.actuation (d.actuate speedLimit bounds).1,
        Guise.calm.device (d.actuate speedLimit bounds).2) := by
  have hidle : (Guise.calm.device d).actuate speedLimit bounds =
      (.idle, (Guise.calm.device d).refreshPosition) := if_pos Vec3.isZero_zero
  rw [hidle, drifting.actuate hfaulty]
  by_cases hasks : d.processor.actuators = velocity
  · rw [if_pos hasks]
    rfl
  · rw [if_neg hasks]
    rfl

end Device

/-- To be idle comes to the same as to drift with a velocity that is not finite. -/
theorem Guise.calm_faithful {velocity : Vec3} (hfaulty : velocity.isFinite = false) (known : Nat) :
    Guise.calm.Faithful (.drift velocity) known (Device.Resting velocity) (Device.Drifting velocity)
      (Device.Resting velocity) where
  handed := Device.drifting_handedOn hfaulty
  kept := Device.resting_keptBetween
  color _ := rfl
  sensor _ := rfl
  sensorCount _ := rfl
  deliver source u := by
    cases hhops : source.hops <;> simp [Processor.deliver, ScriptedProcessor.deliver, calm, hhops]
  setSensor _ _ _ := rfl
  setRadius _ _ := rfl
  requestClone _ _ _ := rfl
  requestDeath _ _ := rfl
  round time _ resting := resting.computeIfDue_calm time
  actuate speedLimit bounds _ drifting := drifting.actuate_calm hfaulty speedLimit bounds
  clone _ _ _ _ _ _ _ := rfl

/-! ### Whole runs -/

def Blueprint.running (program : Program) (b : Blueprint Program) : Blueprint Program :=
  { b with program := program }

/-- The device without its processor. -/
def Device.outline {U : Type} (d : Device U) : Device Unit := { d with processor := () }

/-- What an observer sees without looking into a processor. -/
def Event.outline {U : Type} : Event U → Event Unit
  | .preInit settings => .preInit settings
  | .deviceInit d => .deviceInit d.outline
  | .preUpdate time => .preUpdate time
  | .deviceExecuted d => .deviceExecuted d.outline

private theorem outline_calm (event : Event ScriptedProcessor) :
    (Guise.calm.event event).outline = event.outline := by
  cases event <;> rfl

private theorem map_outline_calm (events : List (Event ScriptedProcessor)) :
    (events.map Guise.calm.event).map Event.outline = events.map Event.outline := by
  rw [List.map_map]
  exact List.map_congr_left fun event _ => outline_calm event

namespace Engine

variable {b : Blueprint Program} {e : Engine ScriptedProcessor Program} {velocity : Vec3}

private theorem Reachable.resting (hfaulty : velocity.isFinite = false)
    (reachable : Reachable (b.running (.drift velocity)) e) :
    ∀ d ∈ e.devices, d.Resting velocity := by
  refine reachable.forall_devices (Device.drifting_handedOn hfaulty) Device.resting_keptBetween
    fun d created => ?_
  obtain ⟨position, schedule, firstDue, h⟩ := created
  rw [h]
  exact ⟨rfl, rfl⟩

private theorem Reachable.fitting (hfaulty : velocity.isFinite = false)
    (reachable : Reachable (b.running (.drift velocity)) e) :
    Guise.Fitting (b.running (.drift velocity)) 0 (Device.Resting velocity) e :=
  ⟨reachable.sound, reachable.resting hfaulty, Nat.zero_le _⟩

private theorem Reachable.suppressed_eq_computed (hfaulty : velocity.isFinite = false)
    (reachable : Reachable (b.running (.drift velocity)) e) :
    e.runTick.report.suppressed = e.runTick.report.computed := by
  have hreport : e.runTick.report = e.reportOfTick := by rw [runTick_eq]
  have hresting := forall_transmissionAt (Device.drifting_handedOn hfaulty)
    (reachable.resting hfaulty) e.devices.size
  have hne : Vec3.zero ≠ velocity := by
    rintro rfl
    cases hfaulty
  rw [hreport]
  show e.actuations.countP (fun (outcome, _) => outcome = .suppressed) =
    (dueIndices e.time e.transmission.devices).length
  rw [length_dueIndices, actuations_eq, Array.countP_map]
  refine Array.countP_congr fun heard hheard => ?_
  have resting := hresting heard hheard
  rw [Function.comp_apply, (resting.computeIfDue e.time).actuate hfaulty]
  unfold Device.computeIfDue
  cases heard.computeDue e.time with
  | true => simp [Device.runRound_drift resting.program]
  | false => simp [resting.actuators, hne]

end Engine

/-- For a velocity with a coordinate that is a NaN or infinite, drifting is built exactly if being idle is, and the building looks the same. Through every history the two engines answer alike and show an observer the same, but for what is in the processors and for the suppressed displacements. They have the same snapshots and the same neighbours after every history, and in each of its ticks the same report, except that the idle engine suppresses nothing and the drifting one as many displacements as it runs rounds. -/
theorem faults_contained {velocity : Vec3} (hfaulty : velocity.isFinite = false)
    (b : Blueprint Program) :
    (b.running .idle).build (U := ScriptedProcessor) =
      (((b.running (.drift velocity)).build (U := ScriptedProcessor)).1.map Guise.calm.engine,
        (b.running (.drift velocity)).build.2.map Guise.calm.event) ∧
    ∀ (drift : Engine ScriptedProcessor Program) (events : List (Event ScriptedProcessor)),
      (b.running (.drift velocity)).build = (.ok drift, events) →
        ∃ (idle : Engine ScriptedProcessor Program) (events' : List (Event ScriptedProcessor)),
          (b.running .idle).build = (.ok idle, events') ∧
          events'.map Event.outline = events.map Event.outline ∧
          ∀ ops,
            idle.answers ops = (drift.answers ops).map Guise.calm.given ∧
            ((idle.answers ops).map fun given => given.2.map Event.outline) =
              ((drift.answers ops).map fun given => given.2.map Event.outline) ∧
            (idle.performAll ops).snapshot = (drift.performAll ops).snapshot ∧
            (∀ id, ((idle.performAll ops).perform (.neighborsOf id)).answer =
                ((drift.performAll ops).perform (.neighborsOf id)).answer ∧
              (idle.performAll ops).neighborsUncached id = (drift.performAll ops).neighborsUncached id) ∧
            ((idle.ticksIn ops).map fun s => s.runTick.report) =
              ((drift.ticksIn ops).map fun s => { s.runTick.report with suppressed := 0 }) ∧
            ∀ s ∈ drift.ticksIn ops, s.runTick.report.suppressed = s.runTick.report.computed := by
  have hbuild : (b.running .idle).build (U := ScriptedProcessor) =
      (((b.running (.drift velocity)).build (U := ScriptedProcessor)).1.map Guise.calm.engine,
        (b.running (.drift velocity)).build.2.map Guise.calm.event) :=
    Guise.build_blueprint (g := Guise.calm) (b := b.running (.drift velocity))
      fun _ _ _ _ _ _ => rfl
  refine ⟨hbuild, fun drift events hdrift => ?_⟩
  have reachable : Engine.Reachable (b.running (.drift velocity)) drift := .built hdrift
  -- Being idle is a guise of drifting; what is left is to read off what the guise hides.
  have faithful : Guise.calm.Faithful (b.running (.drift velocity)).program 0
      (Device.Resting velocity) (Device.Drifting velocity) (Device.Resting velocity) :=
    Guise.calm_faithful hfaulty 0
  have fitting := reachable.fitting hfaulty
  refine ⟨Guise.calm.engine drift, events.map Guise.calm.event, ?_, map_outline_calm events, fun ops => ?_⟩
  · rw [hbuild, hdrift]
    rfl
  obtain ⟨hanswers, hengine⟩ := Guise.Fitting.answers_engine faithful ops fitting
  have fitting' := Guise.Fitting.performAll faithful ops fitting
  refine ⟨hanswers, ?_, ?_, fun id => ⟨?_, ?_⟩, ?_, fun s hs => ?_⟩
  · rw [hanswers, List.map_map]
    exact List.map_congr_left fun given _ => map_outline_calm given.2
  · rw [hengine, Guise.snapshot_engine faithful]
    exact congrArg (PopulationSnapshot.mk _ _ _) (List.map_id _)
  · rw [hengine, fitting'.neighborsOf_answer faithful]
  · rw [hengine, Guise.neighborsUncached_engine]
  · rw [Guise.Fitting.ticksIn_engine faithful ops fitting, List.map_map]
    refine List.map_congr_left fun s hs => ?_
    have fitting'' := (reachable.of_mem_ticksIn ops hs).fitting hfaulty
    rw [Function.comp_apply, fitting''.runTick faithful]
    rfl
  · exact (reachable.of_mem_ticksIn ops hs).suppressed_eq_computed hfaulty

def lost : Vec3 := ⟨0 / 0, 1, 0⟩

/-- Of two devices that drift so, one is cloned. All of their rounds are suppressed, and none of the idle ones. -/
theorem faults_contained_idlePair : lost.isFinite = false ∧
    ∃ drift idle : Engine ScriptedProcessor Program,
      ((Engine.idlePair.running (.drift lost)).build).1 = .ok drift ∧
      ((Engine.idlePair.running .idle).build).1 = .ok idle ∧
      (drift.ticksIn [.requestClone 1, .run 2]).map (fun s => s.runTick.report.suppressed) = [2, 3] ∧
      (drift.performAll [.requestClone 1, .run 2]).size = 3 ∧
      (idle.ticksIn [.requestClone 1, .run 2]).map (fun s => s.runTick.report) =
        (drift.ticksIn [.requestClone 1, .run 2]).map
          (fun s => { s.runTick.report with suppressed := 0 }) ∧
      (idle.performAll [.requestClone 1, .run 2]).snapshot =
        (drift.performAll [.requestClone 1, .run 2]).snapshot := by
  have hfaulty : lost.isFinite = false := by decide +kernel
  have hfacts : (Engine.afterHistory (Engine.idlePair.running (.drift lost)) []).map
      (fun drift : Engine ScriptedProcessor Program =>
        ((drift.ticksIn [.requestClone 1, .run 2]).map fun s => s.runTick.report.suppressed,
          (drift.performAll [.requestClone 1, .run 2]).size)) = some ([2, 3], 3) := by
    decide +kernel
  obtain ⟨drift, hdrift, hfacts⟩ := Option.map_eq_some_iff.mp hfacts
  obtain ⟨hsuppressed, hsize⟩ := Prod.mk.inj hfacts
  obtain ⟨_, events, hbuild, rfl⟩ := Engine.afterHistory_eq_some hdrift
  obtain ⟨-, hcontained⟩ := faults_contained hfaulty Engine.idlePair
  obtain ⟨idle, events', hidle, -, hops⟩ := hcontained _ events hbuild
  obtain ⟨-, -, hsnapshot, -, hreports, -⟩ := hops [.requestClone 1, .run 2]
  exact ⟨hfaulty, drift, idle, congrArg Prod.fst hbuild, congrArg Prod.fst hidle, hsuppressed, hsize,
    hreports, hsnapshot⟩

end SpatialComputer
