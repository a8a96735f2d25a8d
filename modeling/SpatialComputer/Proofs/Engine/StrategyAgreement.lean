import SpatialComputer.Program.Scripted
import SpatialComputer.Proofs.Engine.Simulation
import SpatialComputer.Proofs.Engine.Twins

/-!
# When both strategies agree

An engine that goes by the cells and one that tests every device, built from the same blueprint, answer every history alike exactly if in every population that is reached the cells cover the neighbours of every device. They need not: the distance test and the cells round differently, and two devices are enough for a neighbour that the cells leave out.
-/

namespace SpatialComputer

variable {U P : Type} [Processor U P]

namespace Engine

variable {b : Blueprint P} {e e' : Engine U P}

/-- Whether the cells cover the neighbours of every device in every population that is reached. -/
def AlwaysCovered (U : Type) [Processor U P] (b : Blueprint P) : Prop :=
  ∀ e : Engine U P, Reachable (b.withStrategy .bruteForce) e → ∀ i, Covered b.cellSize e.devices i

/-! ### Operations on twins -/

/-- As long as the cells cover the neighbours, twins do not only look alike, they give away the same. -/
private def twinship (covered : AlwaysCovered U b) : Simulation U P where
  view := .plain
  view' := .plain
  known e e' := Reachable (b.withStrategy .bruteForce) e ∧ Reachable (b.withStrategy .grid) e'
  related e e' := e' = e.twin e'.index ∧ e'.index.dirty = e.index.dirty
  clear := View.plain_clear
  clear' := View.plain_clear
  performed op := fun ⟨reachable, reachable'⟩ => ⟨reachable.performed op, reachable'.performed op⟩
  alike {e e'} := fun _ ⟨htwin, _⟩ => by
    rw [htwin]
    exact ⟨rfl, rfl, rfl, rfl, rfl⟩
  tick {e e'} := fun ⟨reachable, reachable'⟩ ⟨htwin, hdirty⟩ => by
    have twins : Twins b e e' := ⟨reachable, reachable', htwin, hdirty⟩
    obtain ⟨twins, hreport, hevents⟩ := twins.runTick (covered e reachable)
    exact ⟨⟨twins.twin, twins.dirty⟩, hreport, congrArg (List.map _) hevents⟩
  query {e e'} i := fun ⟨reachable, reachable'⟩ ⟨htwin, hdirty⟩ => by
    have twins : Twins b e e' := ⟨reachable, reachable', htwin, hdirty⟩
    have hdevices : e'.devices = e.devices := by rw [devices, twins.population, devices]
    obtain ⟨hfound, hasked, hpaired⟩ := twins.paired.neighborsOf (covered e reachable i)
    rw [afterQuery, afterQuery, hdevices, hasked, twins.population]
    refine ⟨hfound, ?_, hpaired.dirty⟩
    conv_lhs => rw [htwin]
    rfl
  setPaused {e e'} paused := fun ⟨htwin, hdirty⟩ => by
    refine ⟨?_, hdirty⟩
    conv_lhs => rw [htwin]
    rfl
  change {e e' f} i _ := fun ⟨htwin, hdirty⟩ => by
    refine ⟨?_, hdirty⟩
    conv_lhs => rw [htwin]
    rfl
  markDirty {e e'} := fun ⟨htwin, _⟩ => by
    refine ⟨?_, rfl⟩
    conv_lhs => rw [htwin]
    rfl

private theorem Twins.history (covered : AlwaysCovered U b) (twins : Twins b e e') (ops : List Operation) :
    e'.answers ops = e.answers ops ∧ Twins b (e.performAll ops) (e'.performAll ops) := by
  obtain ⟨hanswers, ⟨hreachable, hreachable'⟩, htwin, hdirty⟩ :=
    (twinship covered).history ops ⟨twins.reachable, twins.reachable'⟩ ⟨twins.twin, twins.dirty⟩
  refine ⟨?_, hreachable, hreachable', htwin, hdirty⟩
  rw [← View.map_given_plain (e'.answers ops), ← View.map_given_plain (e.answers ops)]
  exact hanswers

/-- While the flag is down, a query shows whether the cells cover the neighbours of the device. -/
theorem Twins.neighborsOf_answer_iff (twins : Twins b e e') (hclean : e.topologyDirty = false)
    {id : DeviceId} {i : Nat} (hi : e.population.indexOf id = some i) :
    (e'.perform (.neighborsOf id)).answer = (e.perform (.neighborsOf id)).answer ↔
      Covered b.cellSize e.devices i := by
  have hdirty' : e'.index.dirty = false := twins.dirty.trans hclean
  have hi' : e'.population.indexOf id = some i := by rwa [twins.population]
  have hdevices : e'.devices = e.devices := by rw [devices, twins.population, devices]
  have hanswer : e.index.answer e.devices i = neighborsWithin e.devices i :=
    NeighborIndex.answer_of_bruteForce twins.paired.bruteForce _ _
  have hanswer' : e'.index.answer e.devices i =
      NeighborIndex.gridNeighbors (currentGrid b.cellSize e.devices) e.devices i := by
    rw [NeighborIndex.answer, hdirty', twins.paired.grid, twins.paired.cellSize]
    rfl
  rw [← gridNeighbors_eq_iff, ← hanswer, ← hanswer']
  simp only [Engine.perform, neighborsOf_of_found hi, neighborsOf_of_found hi', Answer.neighbors.injEq,
    hdevices, NeighborIndex.neighborsOf_fst twins.paired.coherent,
    NeighborIndex.neighborsOf_fst twins.paired.coherent']

end Engine

/-! ### From the blueprint on -/

namespace Blueprint

variable {b : Blueprint P}

/-- The answers that an engine built from a blueprint gives to a history. -/
def answersTo (U : Type) [Processor U P] (b : Blueprint P) (ops : List Operation) :
    Except BuildError (List (Answer U × List (Event U))) :=
  (b.build (U := U)).1.map fun e => e.answers ops

private theorem build_twins (U : Type) [Processor U P] (b : Blueprint P) :
    (∃ cause, ((b.withStrategy .bruteForce).build (U := U)).1 = .error cause ∧
      ((b.withStrategy .grid).build (U := U)).1 = .error cause) ∨
    ∃ (e e' : Engine U P), ((b.withStrategy .bruteForce).build (U := U)).1 = .ok e ∧
      ((b.withStrategy .grid).build (U := U)).1 = .ok e' ∧ Engine.Twins b e e' := by
  have hcreate : ∀ (strategy : IndexStrategy) (index : Nat) (id : DeviceId),
      (b.withStrategy strategy).createDevice (U := U) index id = b.createDevice index id :=
    fun _ _ _ => rfl
  cases hvalid : b.settings.validate with
  | error cause =>
    refine Or.inl ⟨.rejected cause, ?_, ?_⟩
    · rw [build_of_rejected (b := b.withStrategy .bruteForce) hvalid]
    · rw [build_of_rejected (b := b.withStrategy .grid) hvalid]
  | ok =>
    rcases hpopulate : populate b b.settings.population.size ({} : Population U)
      (.ofSeed (.ofNat b.seed)) with ⟨outcome, p, stream⟩
    have hbuild : ∀ strategy, ((b.withStrategy strategy).build (U := U)).1 =
        outcome.map fun _ => (b.withStrategy strategy).freshEngine p stream := fun strategy =>
      congrArg Prod.fst (build_of_populate (b := b.withStrategy strategy) hvalid
        ((populate_congr (hcreate strategy) _ _ _).trans hpopulate))
    cases outcome with
    | error cause => exact Or.inl ⟨cause, hbuild .bruteForce, hbuild .grid⟩
    | ok =>
      refine Or.inr ⟨_, _, hbuild .bruteForce, hbuild .grid, ?_⟩
      exact ⟨.built (Prod.ext (hbuild .bruteForce) rfl), .built (Prod.ext (hbuild .grid) rfl), rfl, rfl⟩

private theorem answersTo_eq (covered : Engine.AlwaysCovered U b) (ops : List Operation) :
    (b.withStrategy .grid).answersTo U ops = (b.withStrategy .bruteForce).answersTo U ops := by
  unfold answersTo
  rcases build_twins U b with ⟨cause, h, h'⟩ | ⟨e, e', h, h', twins⟩
  · rw [h, h']
  · rw [h, h']
    exact congrArg Except.ok (twins.history covered ops).1

private theorem exists_twin (covered : Engine.AlwaysCovered U b) {e' : Engine U P}
    (reachable' : Engine.Reachable (b.withStrategy .grid) e') : ∃ e, Engine.Twins b e e' := by
  induction reachable' with
  | built hbuild =>
    rcases build_twins U b with ⟨cause, -, h'⟩ | ⟨e, e', -, h', twins⟩
    · rw [hbuild] at h'
      cases h'
    · rw [hbuild] at h'
      exact ⟨e, Except.ok.inj h' ▸ twins⟩
  | performed op _ ih =>
    obtain ⟨e, twins⟩ := ih
    exact ⟨_, (twins.history covered [op]).2⟩

private theorem covered_of_reachable (covered : Engine.AlwaysCovered U b) (strategy : IndexStrategy)
    {e : Engine U P} (reachable : Engine.Reachable (b.withStrategy strategy) e) (i : Nat) :
    Covered b.cellSize e.devices i := by
  cases strategy with
  | bruteForce => exact covered e reachable i
  | grid =>
    obtain ⟨e', twins⟩ := exists_twin covered reachable
    have hdevices : e.devices = e'.devices := by
      rw [Engine.devices, twins.population, Engine.devices]
    rw [hdevices]
    exact covered e' twins.reachable i

/-- Going by the cells and testing every device amount to the same, in every answer to every history and in the neighbours of every device of every population that either reaches, exactly if the cells always cover the neighbours. -/
theorem grid_agrees_iff_covered (U : Type) [Processor U P] (b : Blueprint P) :
    ((∀ ops, (b.withStrategy .grid).answersTo U ops = (b.withStrategy .bruteForce).answersTo U ops) ∧
      ∀ (strategy : IndexStrategy) (e : Engine U P),
        Engine.Reachable (b.withStrategy strategy) e → ∀ i,
          NeighborIndex.gridNeighbors (currentGrid b.cellSize e.devices) e.devices i =
            neighborsWithin e.devices i) ↔
    Engine.AlwaysCovered U b := by
  constructor
  · rintro ⟨-, hsame⟩ e reachable i
    exact (gridNeighbors_eq_iff _ _ _).mp (hsame .bruteForce e reachable i)
  · intro covered
    refine ⟨answersTo_eq covered, fun strategy e reachable i => ?_⟩
    exact (gridNeighbors_eq_iff _ _ _).mpr (covered_of_reachable covered strategy reachable i)

/-- Two idle devices whose rounded distance is the radius, with an edge of a cell between the second and the corner of the box around the first. -/
def edgePair : Blueprint Program where
  settings := {
    engine := { seed := some 1 }
    population := {
      size := 2
      radius := 1
      volume := { min := ⟨-10, -10, 0⟩, max := ⟨10, 10, 0⟩ }
      distribution := .explicit [⟨1, 0, 0⟩, ⟨-1e-20, 0, 0⟩] }
    index := { strategy := .grid, cellSize := some 1 } }
  program := .idle

private theorem edgePair_facts :
    (match ((edgePair.withStrategy .bruteForce).build (U := ScriptedProcessor)).1 with
      | .ok e => some (e.topologyDirty, e.population.indexOf 1,
          e.devices[0]?.bind (searchBox? edgePair.cellSize e.devices), isNeighbor e.devices 0 1,
          e.devices[1]?.bind fun d => CellGrid.cellOf edgePair.cellSize d.position)
      | .error _ => none) =
    some (false, some 0, some ⟨⟨0, -1, -1⟩, ⟨2, 1, 1⟩⟩, true, some ⟨-1, 0, 0⟩) := by
  decide +kernel

/-- Asked for the neighbours of the first device, an engine that goes by the cells misses the second one. -/
theorem grid_disagrees_edgePair : edgePair.settings.validate = .ok () ∧
    (edgePair.withStrategy .grid).answersTo ScriptedProcessor [.neighborsOf 1] ≠
      (edgePair.withStrategy .bruteForce).answersTo ScriptedProcessor [.neighborsOf 1] := by
  refine ⟨rfl, fun hsame => ?_⟩
  have hfacts := edgePair_facts
  rcases build_twins ScriptedProcessor edgePair with ⟨cause, h, -⟩ | ⟨e, e', h, h', twins⟩
  · rw [h] at hfacts
    cases hfacts
  · rw [h] at hfacts
    simp only [Option.some.injEq, Prod.mk.injEq] at hfacts
    obtain ⟨hclean, hfound, hbox, htest, hcell⟩ := hfacts
    obtain ⟨d, hd, hbox⟩ := Option.bind_eq_some_iff.mp hbox
    obtain ⟨other, hother, hcell⟩ := Option.bind_eq_some_iff.mp hcell
    have hanswer : (e'.perform (.neighborsOf 1)).answer = (e.perform (.neighborsOf 1)).answer := by
      rw [answersTo, answersTo, h, h'] at hsame
      exact congrArg Prod.fst (List.cons.inj (Except.ok.inj hsame)).1
    have hcovered := (twins.neighborsOf_answer_iff hclean hfound).mp hanswer
    obtain ⟨cell, hfiled, hcontains⟩ := hcovered d _ hd hbox 1 other hother htest
    rw [hcell] at hfiled
    rw [← Option.some.inj hfiled] at hcontains
    exact absurd hcontains (by decide)

end Blueprint

end SpatialComputer
