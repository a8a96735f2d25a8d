import SpatialComputer.Proofs.Engine.History

/-!
# Invariants of single devices

In a tick a device is handed on from phase to phase, and nothing but messages comes to it from other devices. So what single devices keep the whole population keeps: it is enough to look at one message, one round, one actuation, one settlement and one clone.
-/

namespace SpatialComputer

variable {U P : Type} [Processor U P]

/-- What a device hands on in a tick: `p` up to its round, `q` from there to its actuation and `r` from there on, until `p` holds again when its request is settled. A clone starts with `p` as well. -/
structure HandedOn (program : P) (p q r : Device U → Prop) : Prop where
  cache : ∀ cached d, p d → p { d with neighborCache := cached }
  receive : ∀ source d, p d → p (Device.receive source d)
  advance : ∀ time d, p d → p (Device.advanceTransmit time d)
  round : ∀ time d, p d → q (Device.computeIfDue time d)
  actuate : ∀ limit bounds d, q d → r (Device.actuate limit bounds d).2
  settle : ∀ delay d, r d → p (Device.settled delay d)
  clone : ∀ time delay id parent offset, r parent → parent.requests.clone = true →
    p (cloneDevice program time delay id parent offset)

/-- What a device keeps when something is done to it between two ticks. -/
structure KeptBetween (p : Device U → Prop) : Prop where
  setSensor : ∀ sensor value d, p d →
    p { d with processor := Processor.setSensor sensor value d.processor }
  setRadius : ∀ radius d, p d → p (Device.setRadius radius d)
  request : ∀ (raise : LifecycleRequests → LifecycleRequests) d, p d →
    p { d with requests := raise d.requests }

section

variable {p q r : Device U → Prop} {devices : Array (Device U)}

omit [Processor U P] in
theorem forall_modify (h : ∀ d ∈ devices, p d) {f : Device U → Device U} (hf : ∀ d, p d → p (f d))
    (i : Nat) : ∀ d ∈ devices.modify i f, p d := by
  intro d' hd'
  obtain ⟨j, hj⟩ := Array.mem_iff_getElem?.mp hd'
  rw [Array.getElem?_modify] at hj
  split at hj
  · obtain ⟨d, hd, rfl⟩ := Option.map_eq_some_iff.mp hj
    exact hf d (h d (Array.mem_of_getElem? hd))
  · exact h d' (Array.mem_of_getElem? hj)

omit [Processor U P] in
private theorem forall_map {f : Device U → Device U} (h : ∀ d ∈ devices, p d)
    (hf : ∀ d, p d → q (f d)) : ∀ d ∈ devices.map f, q d := by
  intro d' hd'
  obtain ⟨d, hd, rfl⟩ := Array.mem_map.mp hd'
  exact hf d (h d hd)

omit [Processor U P] in
theorem forall_neighborsOf (cache : ∀ cached d, p d → p { d with neighborCache := cached })
    (index : NeighborIndex) (h : ∀ d ∈ devices, p d) (i : Nat) :
    ∀ d ∈ (index.neighborsOf devices i).2.2, p d := by
  unfold NeighborIndex.neighborsOf
  split
  · exact h
  · split
    · exact h
    · exact forall_modify h (cache _) i

namespace HandedOn

variable {program : P}

private theorem deliverFrom (handed : HandedOn program p q r) (h : ∀ d ∈ devices, p d)
    (receiver : Nat) (id : DeviceId) : ∀ d ∈ deliverFrom receiver devices id, p d := by
  unfold SpatialComputer.deliverFrom
  split
  · exact h
  · exact forall_modify h (handed.receive _) receiver

private theorem foldl_deliverFrom (handed : HandedOn program p q r) (receiver : Nat)
    (ids : List DeviceId) : ∀ {devices : Array (Device U)}, (∀ d ∈ devices, p d) →
      ∀ d ∈ ids.foldl (SpatialComputer.deliverFrom receiver) devices, p d := by
  induction ids with
  | nil => exact fun h => h
  | cons id ids ih => exact fun h => ih (handed.deliverFrom h receiver id)

private theorem step (handed : HandedOn program p q r) (time : Float) {s : Transmission U}
    (h : ∀ d ∈ s.devices, p d) (i : Nat) : ∀ d ∈ (s.step time i).devices, p d := by
  unfold Transmission.step
  split
  · exact h
  · split
    · have hasked := forall_neighborsOf handed.cache s.index h i
      exact forall_modify (handed.foldl_deliverFrom i _ hasked) (handed.advance time) i
    · exact h

private theorem upTo (handed : HandedOn program p q r) (time : Float) (index : NeighborIndex)
    (h : ∀ d ∈ devices, p d) (n : Nat) : ∀ d ∈ (Transmission.upTo time index devices n).devices, p d := by
  induction n with
  | zero => exact h
  | succ n ih =>
    rw [Transmission.upTo_succ]
    exact handed.step time ih n

private theorem beginTick (handed : HandedOn program p q r) (index : NeighborIndex)
    (h : ∀ d ∈ devices, p d) : ∀ d ∈ (index.beginTick devices).2.2, p d := by
  unfold NeighborIndex.beginTick
  split
  · exact forall_map h (handed.cache none)
  · exact h

end HandedOn

end

namespace Engine

variable {b : Blueprint P} {e : Engine U P} {p q r : Device U → Prop}

/-! ### Ticks -/

theorem forall_transmissionAt {program : P} (handed : HandedOn program p q r)
    (h : ∀ d ∈ e.devices, p d) (n : Nat) : ∀ d ∈ (e.transmissionAt n).devices, p d :=
  handed.upTo e.time _ (handed.beginTick e.index h) n

theorem forall_afterRounds {program : P} (handed : HandedOn program p q r)
    (h : ∀ d ∈ e.devices, p d) : ∀ d ∈ e.afterRounds, q d :=
  forall_map (forall_transmissionAt handed h _) (handed.round e.time)

theorem forall_afterActuation {program : P} (handed : HandedOn program p q r)
    (h : ∀ d ∈ e.devices, p d) : ∀ d ∈ e.afterActuation, r d := by
  intro acted hacted
  obtain ⟨⟨outcome, acted⟩, houtcome, rfl⟩ := Array.mem_map.mp hacted
  obtain ⟨d, hd, hsame⟩ := Array.mem_map.mp houtcome
  have hacts := handed.actuate e.settings.dynamics.speedLimit
    (if e.settings.dynamics.bounded then some e.settings.population.volume else none) d
    (forall_afterRounds handed h d hd)
  rwa [hsame] at hacts

theorem Sound.forall_runTick (sound : Sound b e) (handed : HandedOn b.program p q r)
    (h : ∀ d ∈ e.devices, p d) : ∀ d ∈ e.runTick.engine.devices, p d := by
  have hacted := forall_afterActuation handed h
  intro d' hd'
  obtain ⟨i, hi⟩ := Array.mem_iff_getElem?.mp hd'
  rcases sound.device_runTick_cases hi with ⟨d, hd⟩ | ⟨k, parent, offset, rfl, hparent, -, rfl⟩
  · obtain ⟨acted, hfound, -, hsettled⟩ := sound.device_runTick hd
    obtain rfl := Option.some.inj (hi.symm.trans hsettled)
    exact handed.settle _ acted (hacted acted (Array.mem_of_getElem? hfound))
  · have hmem := List.mem_of_getElem? hparent
    rw [sound.program]
    exact handed.clone _ _ _ parent offset
      (hacted parent (mem_afterActuation_of_mem_parentsInTick hmem)) (mem_parentsInTick_clone hmem)

/-! ### Histories -/

theorem Sound.forall_step {e' : Engine U P} (sound : Sound b e) (handed : HandedOn b.program p q r)
    (kept : KeptBetween p) (hstep : Step e e') (h : ∀ d ∈ e.devices, p d) : ∀ d ∈ e'.devices, p d := by
  cases hstep with
  | tick => exact sound.forall_runTick handed h
  | setPaused paused => exact h
  | setSensor i sensor value => exact forall_modify h (kept.setSensor sensor value) i
  | setRadius i radius => exact forall_modify h (kept.setRadius radius) i
  | request i raise => exact forall_modify h (kept.request raise) i
  | query i => exact forall_neighborsOf handed.cache e.index h i

/-- What every device has when it is created and hands on in every tick holds of all devices of every reachable engine. -/
theorem Reachable.forall_devices (reachable : Reachable b e) (handed : HandedOn b.program p q r)
    (kept : KeptBetween p) (created : ∀ d, b.Created d → p d) : ∀ d ∈ e.devices, p d := by
  let holds : Engine U P → Prop := fun e => Sound b e ∧ ∀ d ∈ e.devices, p d
  have h : holds e := by
    refine reachable.invariant (fun start events hbuild => ?_) fun e e' h hstep => ?_
    · have built := Blueprint.built_of_build hbuild
      exact ⟨.of_built built, fun d hd => created d (built.created d hd)⟩
    · exact ⟨h.1.step hstep, h.1.forall_step handed kept hstep h.2⟩
  exact h.2

end Engine

end SpatialComputer
