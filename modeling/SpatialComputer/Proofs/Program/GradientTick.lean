import SpatialComputer.Proofs.Engine.Invariant
import SpatialComputer.Proofs.Program.Hearing

/-!
# A tick of the hop gradient

Hop counts change in rounds only, so during a transmit phase everyone hears the counts of the previous tick, in whatever order the devices have their turns. Before a round a processor knows the smallest count among those it was served, and the round forgets it. Since nothing moves and nothing is cloned, the next tick finds the same neighbours.
-/

namespace SpatialComputer

open ScriptedProcessor

/-! ### Rounds -/

/-- Whether a device runs the hop gradient, has heard nothing since its latest round and does not ask for a clone. -/
structure Device.Tuned (sensor : Nat) (d : Device ScriptedProcessor) : Prop where
  program : d.processor.program = .hopGradient sensor
  silent : d.processor.bestHeard = none
  content : d.processor.requests.clone = false
  unasked : d.requests.clone = false

/-- The hop count after a round in which the given count was the smallest heard. -/
def nextHops (isSource : Bool) (heard : Option Nat) : Option Nat :=
  if isSource then some 0 else heard.map succHops

private theorem actuate_runRound (speedLimit : Option Float) (bounds : Option Volume) (time : Float)
    {sensor : Nat} {d : Device ScriptedProcessor} (hprogram : d.processor.program = .hopGradient sensor) :
    (d.runRound time).actuate speedLimit bounds = (.idle, (d.runRound time).refreshPosition) := by
  have hactuators : Processor.actuators (d.runRound time).processor = Vec3.zero := by
    show (d.runRound time).processor.actuators = _
    rw [Device.processor_runRound, Device.prepared_eq]
    simp only [executeRound, hprogram, gradientRound]
  have hzero : Vec3.zero.isZero = true := by decide +kernel
  simp only [Device.actuate, hactuators, hzero, if_true]

private theorem runRound_gradient (time : Float) {sensor : Nat} {d : Device ScriptedProcessor}
    (hprogram : d.processor.program = .hopGradient sensor)
    (hcontent : d.processor.requests.clone = false) (hunasked : d.requests.clone = false) :
    ((d.runRound time).refreshPosition).Tuned sensor ∧
      (d.runRound time).refreshPosition.processor.sensors = d.processor.sensors ∧
      (d.runRound time).refreshPosition.processor.hops =
        nextHops (d.processor.sensor sensor) d.processor.bestHeard := by
  have hround : executeRound time d.prepared =
      ({ d.prepared with rounds := d.processor.rounds + 1 } : ScriptedProcessor).gradientRound sensor := by
    rw [Device.prepared_eq]
    simp only [executeRound, hprogram]
  have hprocessor := d.processor_runRound time
  have hrequests := d.requests_runRound time
  refine ⟨⟨?_, ?_, ?_, ?_⟩, ?_, ?_⟩
  · show (d.runRound time).processor.program = _
    rw [hprocessor, hround]
    exact hprogram
  · show (d.runRound time).processor.bestHeard = _
    rw [hprocessor, hround]
    rfl
  · show (d.runRound time).processor.requests.clone = _
    rw [hprocessor]
  · show (d.runRound time).requests.clone = _
    rw [hrequests, hround]
    show (d.requests.clone || d.processor.requests.clone) = false
    rw [hcontent, hunasked]
    rfl
  · show (d.runRound time).processor.sensors = _
    rw [hprocessor, hround]
    rfl
  · show (d.runRound time).processor.hops = _
    rw [hprocessor, hround]
    rfl

namespace Engine

variable {b : Blueprint Program} {e : Engine ScriptedProcessor Program} {i : Nat}
  {d : Device ScriptedProcessor}

private theorem processor_transmission (hd : e.devices[i]? = some d)
    (hdue : d.transmitDue e.time = true) (hnone : d.processor.bestHeard = none) :
    e.transmission.devices[i]?.map Device.processor =
      some { d.processor with
        bestHeard := ((e.servedInTick i).filterMap (hopsAt e.devices)).min? } := by
  let begun := (e.index.beginTick e.devices).2.2
  obtain ⟨d', hd', hsame⟩ := exists_of_map_eq (NeighborIndex.map_beginTick
    (g := fun d : Device ScriptedProcessor => (d.processor, d.nextTransmit)) (fun _ => rfl)
    e.index e.devices) hd
  obtain ⟨hprocessor, htime⟩ := Prod.mk.inj hsame
  have hhops : hopsAt begun = hopsAt e.devices :=
    hopsAt_congr (map_id_eq_of_sites (NeighborIndex.sites_beginTick _ _))
      (NeighborIndex.map_beginTick (fun _ => rfl) _ _)
  have hmem : i ∈ Transmission.due e.time begun :=
    Transmission.mem_due.mpr ⟨d', hd', by rwa [Device.transmitDue, htime]⟩
  have htold := Transmission.map_processor_transmitPhase e.time (e.index.beginTick e.devices).2.1 begun
  rw [transmitPhase_eq_transmission] at htold
  rw [← Array.getElem?_map, htold, processorsTold, Array.getElem?_mapIdx, hd', Option.map_some,
    if_pos hmem, hhops, hprocessor, told, hnone]
  rfl

/-- Whether every device transmits and computes in the next tick. -/
def Lockstep (e : Engine ScriptedProcessor Program) : Prop :=
  ∀ d ∈ e.devices, d.transmitDue e.time = true ∧ d.computeDue e.time = true

private theorem device_transmission (lockstep : e.Lockstep)
    (hd : e.devices[i]? = some d) (hnone : d.processor.bestHeard = none) :
    ∃ t, e.transmission.devices[i]? = some t ∧ t.site = d.site ∧ t.requests = d.requests ∧
      t.computeDue e.time = true ∧
      t.processor = { d.processor with
        bestHeard := ((e.servedInTick i).filterMap (hopsAt e.devices)).min? } := by
  obtain ⟨htransmit, hcompute⟩ := lockstep d (Array.mem_of_getElem? hd)
  have hprocessor := processor_transmission hd htransmit hnone
  obtain ⟨t, ht, hprocessor⟩ := Option.map_eq_some_iff.mp hprocessor
  have hrest := congrArg (·[i]?) (map_transmissionAt
    (g := fun d : Device ScriptedProcessor => (d.site, d.requests, d.nextCompute))
    ⟨fun _ _ => rfl, fun _ _ => rfl, fun _ _ => rfl⟩ (fun _ => rfl) e e.devices.size)
  have ht' : (e.transmissionAt e.devices.size).devices[i]? = some t := ht
  simp only [Array.getElem?_map, hd, ht', Option.map_some, Option.some.injEq, Prod.mk.injEq] at hrest
  obtain ⟨hsite, hrequests, htime⟩ := hrest
  exact ⟨t, ht, hsite, hrequests, by rwa [Device.computeDue, htime], hprocessor⟩

private theorem device_afterActuation (lockstep : e.Lockstep) {sensor : Nat}
    (hd : e.devices[i]? = some d) (tuned : d.Tuned sensor) :
    ∃ d', e.afterActuation[i]? = some d' ∧ d'.Tuned sensor ∧ d'.site = d.site ∧
      d'.processor.sensors = d.processor.sensors ∧
      d'.processor.hops = nextHops (d.processor.sensor sensor)
        ((e.servedInTick i).filterMap (hopsAt e.devices)).min? := by
  obtain ⟨t, ht, hsite, hrequests, hcompute, hprocessor⟩ :=
    device_transmission lockstep hd tuned.silent
  have hprogram : t.processor.program = .hopGradient sensor := by
    rw [hprocessor]
    exact tuned.program
  have hcontent : t.processor.requests.clone = false := by
    rw [hprocessor]
    exact tuned.content
  have hunasked : t.requests.clone = false := by
    rw [hrequests]
    exact tuned.unasked
  obtain ⟨htuned, hsensors, hhops⟩ := runRound_gradient e.time hprogram hcontent hunasked
  refine ⟨(t.runRound e.time).refreshPosition, ?_, htuned, hsite, ?_, ?_⟩
  · rw [afterActuation, actuations, actuationPhase, afterRounds, Array.getElem?_map,
      Array.getElem?_map, Array.getElem?_map, ht]
    simp only [Option.map_some, Device.computeIfDue, hcompute, if_true,
      actuate_runRound _ _ e.time hprogram]
  · rw [hsensors, hprocessor]
  · rw [hhops, hprocessor]
    rfl

/-- A tick in which every device transmits and computes: the devices stay, their sensors stay, and everyone counts one hop more than the smallest count among those it was served. -/
theorem gradient_tick (sound : Sound b e) (lockstep : e.Lockstep) {sensor : Nat}
    (tuned : ∀ d ∈ e.devices, d.Tuned sensor) :
    e.runTick.engine.devices.size = e.devices.size ∧
      ∀ (i : Nat) (d : Device ScriptedProcessor), e.devices[i]? = some d →
        ∃ d', e.runTick.engine.devices[i]? = some d' ∧ d'.Tuned sensor ∧ d'.site = d.site ∧
          d'.processor.sensors = d.processor.sensors ∧
          d'.processor.hops = nextHops (d.processor.sensor sensor)
            ((e.servedInTick i).filterMap (hopsAt e.devices)).min? := by
  -- Nobody asks for a clone, so the tick ends with the devices as they are after acting.
  have hunasked : ∀ d ∈ e.afterActuation, d.requests.clone = false := by
    intro acted hacted
    obtain ⟨i, hi, rfl⟩ := Array.mem_iff_getElem.mp hacted
    have hsize : i < e.devices.size := by
      have h := size_afterActuation e
      rw [h] at hi
      exact hi
    obtain ⟨d', hd', htuned, -⟩ := device_afterActuation lockstep
      (Array.getElem?_eq_getElem hsize) (tuned _ (Array.getElem_mem hsize))
    rw [Array.getElem?_eq_getElem hi] at hd'
    rw [Option.some.inj hd']
    exact htuned.unasked
  have hparents : e.parentsInTick = [] := by
    rw [parentsInTick, askingInTick, cloners_eq_nil hunasked, whileRoom_nil]
  have hclones : e.clonesInTick = [] := by
    rw [← List.length_eq_zero_iff, length_clonesInTick, hparents]
    rfl
  refine ⟨by rw [sound.size_runTick, hparents]; rfl, fun i d hd => ?_⟩
  obtain ⟨d', hd', htuned, hrest⟩ :=
    device_afterActuation lockstep hd (tuned d (Array.mem_of_getElem? hd))
  refine ⟨d', ?_, htuned, hrest⟩
  rw [sound.devices_runTick, hclones, Array.append_empty, Array.getElem?_map, hd', Option.map_some,
    Device.settled_of_unasked _ htuned.unasked]

end Engine

end SpatialComputer
