import SpatialComputer.Proofs.Binary64.Bounds
import SpatialComputer.Proofs.Binary64.Order
import SpatialComputer.Proofs.Engine.DeviceInvariant

/-!
# Radii

Every radius in an engine is finite and positive: the one in the configuration was checked when it was accepted, one that is set later is checked before, and a clone has the radius of its parent. So every sphere that neighbours are looked for in is a proper one. The cells, whose size comes from the configuration, are proper as well.
-/

namespace SpatialComputer

open Binary64

theorem finitePositive_of_isFinitePositive {x : Float} (h : isFinitePositive x = true) :
    FinitePositive x := by
  obtain ⟨hfinite, hpos⟩ := Bool.and_eq_true_iff.mp h
  rw [decide_eq_true_iff, lt_iff isFinite_zero hfinite, toRat_zero] at hpos
  exact ⟨hfinite, hpos⟩

variable {U P : Type} [Processor U P]

/-- Whether the radius of a device is finite and positive. -/
def Device.Senses (d : Device U) : Prop := isFinitePositive d.radius = true

private theorem handedOn_senses (program : P) :
    HandedOn program Device.Senses (Device.Senses (U := U)) Device.Senses where
  cache _ _ h := h
  receive _ _ h := h
  advance _ _ h := h
  round time d h := by
    obtain ⟨_, _, _, _, _, hround⟩ := d.computeIfDue_eq time
    rw [hround]
    exact h
  actuate limit bounds d h := by
    obtain ⟨_, _, hacted⟩ := d.actuate_eq limit bounds
    rw [hacted]
    exact h
  settle delay d h := by
    obtain ⟨_, _, hsettled⟩ := d.settled_eq delay
    rw [hsettled]
    exact h
  clone _ _ _ _ _ h _ := h

namespace Engine

variable {b : Blueprint P} {e : Engine U P}

omit [Processor U P] in
private theorem senses_withDevice (h : ∀ d ∈ e.devices, d.Senses) (i : Nat) {f : Device U → Device U}
    (hf : ∀ d, d.Senses → (f d).Senses) : ∀ d ∈ (e.withDevice i f).devices, d.Senses :=
  forall_modify h hf i

private theorem TickChain.senses {starts : List (Engine U P)} {e' : Engine U P}
    (chain : TickChain e starts e') : Reachable b e → (∀ d ∈ e.devices, d.Senses) →
      ∀ d ∈ e'.devices, d.Senses := by
  induction chain with
  | nil e => exact fun _ h => h
  | cons _ ih =>
    intro reachable h
    exact ih (reachable.performed .tick) (reachable.sound.forall_runTick (handedOn_senses _) h)

private theorem Intervention.senses {op : Operation} {e' : Engine U P} (h : Intervention e op e')
    (senses : ∀ d ∈ e.devices, d.Senses) : ∀ d ∈ e'.devices, d.Senses := by
  cases h with
  | pause | resume => exact senses
  | setSensor _ _ _ | requestClone _ | requestDeath _ => exact senses_withDevice senses _ fun _ hd => hd
  | setRadius hradius _ =>
    exact senses_withDevice senses _ (f := Device.setRadius _) fun _ _ => hradius
  | query _ => exact forall_neighborsOf (fun _ _ hd => hd) e.index senses _

private theorem Reachable.senses (reachable : Reachable b e) : ∀ d ∈ e.devices, d.Senses := by
  induction reachable with
  | built h =>
    have built := Blueprint.built_of_build h
    intro d hd
    obtain ⟨position, schedule, firstDue, hcreated⟩ := built.created d hd
    rw [hcreated]
    exact (Settings.accepted_of_validate built.valid).radius
  | @performed e op reachable ih =>
    rcases perform_cases e op with chain | ⟨-, intervention⟩
    · exact chain.senses reachable ih
    · exact intervention.senses ih

/-- In every reachable engine every radius is finite and positive. -/
theorem Reachable.finitePositive_radius (reachable : Reachable b e) :
    ∀ d ∈ e.devices, FinitePositive d.radius :=
  fun d hd => finitePositive_of_isFinitePositive (reachable.senses d hd)

theorem Reachable.finitePositive_cellSize (reachable : Reachable b e) :
    FinitePositive e.index.grid.cellSize := by
  rw [reachable.sound.cellSize]
  exact finitePositive_of_isFinitePositive (Settings.isFinitePositive_cellSize reachable.valid)

end Engine

end SpatialComputer
