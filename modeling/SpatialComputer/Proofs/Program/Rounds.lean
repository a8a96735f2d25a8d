import SpatialComputer.Device.Basic
import SpatialComputer.Program.Scripted

/-!
# Messages and rounds of scripted processors

A message reaches nothing of a scripted processor but the best hop count that it has heard. A round finds the processor with the position of its device, dark and without a displacement, and leaves it without requests, as these are handed over to the device.
-/

namespace SpatialComputer

/-- The processor of a device at the start of a round. -/
def Device.prepared {U P : Type} [Processor U P] (d : Device U) : U :=
  Processor.resetActuators (Processor.setPosition d.position d.processor)

theorem ScriptedProcessor.deliver_eq (source u : ScriptedProcessor) :
    ∃ heard, deliver source u = { u with bestHeard := heard } := by
  unfold deliver
  split <;> exact ⟨_, rfl⟩

namespace Device

theorem receive_eq (source : ScriptedProcessor) (d : Device ScriptedProcessor) :
    ∃ heard, d.receive source = { d with processor := { d.processor with bestHeard := heard } } := by
  obtain ⟨heard, h⟩ := ScriptedProcessor.deliver_eq source d.processor
  exact ⟨heard, congrArg (fun processor => { d with processor := processor }) h⟩

theorem prepared_eq (d : Device ScriptedProcessor) : d.prepared =
    { d.processor with position := d.position, actuators := .zero, color := .off } :=
  rfl

theorem processor_runRound (time : Float) (d : Device ScriptedProcessor) :
    (d.runRound time).processor =
      { ScriptedProcessor.executeRound time d.prepared with requests := {} } :=
  rfl

theorem requests_runRound (time : Float) (d : Device ScriptedProcessor) :
    (d.runRound time).requests =
      d.requests.merge (ScriptedProcessor.executeRound time d.prepared).requests :=
  rfl

end Device

end SpatialComputer
