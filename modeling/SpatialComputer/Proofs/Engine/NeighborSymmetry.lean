import SpatialComputer.Proofs.Binary64.Square
import SpatialComputer.Proofs.Engine.CacheCoherence
import SpatialComputer.Proofs.Engine.Radii
import SpatialComputer.Proofs.Engine.StrategyAgreement
import SpatialComputer.Proofs.Neighborhood.Found

/-!
# Neighbours in both directions

Two devices with the same radius pass the distance test in both directions or in neither. So if one of them finds the other and is not found by it, then not the test but the cells are to blame: the box around the one holds the cell of the other, and the box around the other leaves out the cell of the one. Where every device is tested this cannot happen, and neither can it where the coordinates of the two differ by no more than the radius: only a difference that is larger and is rounded down to the radius gets past the test and past the box.
-/

namespace SpatialComputer

theorem Vec3.distanceSquared_comm (p q : Vec3) : p.distanceSquared q = q.distanceSquared p := by
  show (p.x - q.x) * (p.x - q.x) + (p.y - q.y) * (p.y - q.y) + (p.z - q.z) * (p.z - q.z) =
    (q.x - p.x) * (q.x - p.x) + (q.y - p.y) * (q.y - p.y) + (q.z - p.z) * (q.z - p.z)
  rw [Binary64.square_sub_swap p.x, Binary64.square_sub_swap p.y, Binary64.square_sub_swap p.z]

theorem withinRadius_comm (p q : Vec3) (radius : Float) :
    withinRadius p q radius = withinRadius q p radius := by
  rw [withinRadius, withinRadius, Vec3.distanceSquared_comm]

namespace Engine

variable {U P : Type} [Processor U P] {b : Blueprint P} {e : Engine U P} {i j : Nat} {d other : Device U}

/-- Whether an engine looks at a device when it is asked for the neighbours of `d`. While the topology flag is up it looks at all devices. -/
def looksAt (e : Engine U P) (d other : Device U) : Bool :=
  e.topologyDirty ||
    SpatialComputer.looksAt e.index.strategy e.index.grid.cellSize e.devices d other

omit [Processor U P] in
private theorem looksAt_of_dirty (hdirty : e.topologyDirty = true) : e.looksAt d other = true := by
  rw [looksAt, hdirty, Bool.true_or]

omit [Processor U P] in
private theorem looksAt_of_bruteForce (sound : Sound b e) (h : b.settings.index.strategy = .bruteForce) :
    e.looksAt d other = true := by
  rw [looksAt, sound.strategy, h]
  exact Bool.or_true _

private theorem looksAt_of_near (reachable : Reachable b e) (hd : d ∈ e.devices)
    (hother : other ∈ e.devices) (hnear : other.position.InCube d.position d.radius) :
    e.looksAt d other = true := by
  have hradius := (reachable.finitePositive_radius d hd).isFinite
  rw [looksAt, looksAt_of_inCube reachable.finitePositive_cellSize hradius hother hnear, Bool.or_true]

omit [Processor U P] in
theorem Sound.neighborsOf_device (sound : Sound b e) (hd : e.devices[i]? = some d) :
    e.neighborsOf d.id = .ok (e.index.answer e.devices i, e.afterQuery i) := by
  have hfound : e.population.indexOf d.id = some i := Population.indexIn_id sound.numbered hd
  rw [neighborsOf_of_found hfound, NeighborIndex.neighborsOf_fst sound.coherent]

omit [Processor U P] in
/-- A device finds those it looks at that pass the distance test. -/
theorem Sound.mem_answer_iff (sound : Sound b e) (hd : e.devices[i]? = some d)
    (hother : e.devices[j]? = some other) :
    other.id ∈ e.index.answer e.devices i ↔
      d.id ≠ other.id ∧ withinRadius d.position other.position d.radius = true ∧
        e.looksAt d other = true := by
  have hids : d.id ≠ other.id ↔ i ≠ j := by
    rw [sound.numbered i d hd, sound.numbered j other hother, ne_eq, ne_eq, Nat.add_right_cancel_iff]
  unfold NeighborIndex.answer looksAt topologyDirty
  rw [hids]
  cases e.index.dirty with
  | true =>
    have hall : other.id ∈ findNeighbors .bruteForce b.cellSize e.devices i ↔ _ :=
      mem_findNeighbors_iff sound.numbered hd hother
    exact hall
  | false => exact mem_findNeighbors_iff sound.numbered hd hother

/-- Two registered devices with the same radius find each other or miss each other, unless they are within the radius and the engine looks from one of them at the other but not back. It looks both ways if it tests every device, by strategy or because the topology flag is up, and it looks both ways if no coordinate of the one differs from that of the other by more than the radius. -/
theorem neighbors_symmetric_iff (reachable : Reachable b e) (hd : d ∈ e.devices)
    (hother : other ∈ e.devices) (hradius : d.radius = other.radius) :
    ∃ ids ids' e₁ e₂, e.neighborsOf d.id = .ok (ids, e₁) ∧ e.neighborsOf other.id = .ok (ids', e₂) ∧
      ((other.id ∈ ids ↔ d.id ∈ ids') ↔
        (d.id ≠ other.id → withinRadius d.position other.position d.radius = true →
          e.looksAt d other = e.looksAt other d)) ∧
      (b.settings.index.strategy = .bruteForce ∨ e.topologyDirty = true ∨
          other.position.InCube d.position d.radius →
        (other.id ∈ ids ↔ d.id ∈ ids')) := by
  have sound := reachable.sound
  obtain ⟨i, hi⟩ := Array.mem_iff_getElem?.mp hd
  obtain ⟨j, hj⟩ := Array.mem_iff_getElem?.mp hother
  have hforth := sound.mem_answer_iff hi hj
  have hback := sound.mem_answer_iff hj hi
  rw [withinRadius_comm, ← hradius, ne_comm] at hback
  refine ⟨_, _, _, _, sound.neighborsOf_device hi, sound.neighborsOf_device hj, ?_, fun hboth => ?_⟩
  · rw [hforth, hback]
    simp only [and_congr_right_iff, ← Bool.eq_iff_iff]
  · have hlooks : e.looksAt d other = true ∧ e.looksAt other d = true := by
      rcases hboth with hbruteForce | hdirty | hnear
      · exact ⟨looksAt_of_bruteForce sound hbruteForce, looksAt_of_bruteForce sound hbruteForce⟩
      · exact ⟨looksAt_of_dirty hdirty, looksAt_of_dirty hdirty⟩
      · exact ⟨looksAt_of_near reachable hd hother hnear,
          looksAt_of_near reachable hother hd (hradius ▸ hnear.symm)⟩
    rw [hforth, hback, hlooks.1, hlooks.2]

private theorem exists_firstTwo {β : Type} (b : Blueprint P)
    (see : Engine U P → Device U → Device U → β) (seen : β) (h : (afterHistory b []).bind (fun e =>
      e.devices[0]?.bind fun d => e.devices[1]?.map fun other => see e d other) = some seen) :
    ∃ e d other, Reachable b e ∧ e.devices[0]? = some d ∧ e.devices[1]? = some other ∧
      see e d other = seen := by
  obtain ⟨e, he, h⟩ := Option.bind_eq_some_iff.mp h
  obtain ⟨d, hd, h⟩ := Option.bind_eq_some_iff.mp h
  obtain ⟨other, hother, h⟩ := Option.map_eq_some_iff.mp h
  exact ⟨e, d, other, .of_afterHistory he, hd, hother, h⟩

/-- Two idle devices at a distance of the radius find each other by way of the cells. -/
theorem neighbors_symmetric_idlePair : ∃ (e : Engine ScriptedProcessor Program) (ids ids' : List DeviceId)
    (e₁ e₂ : Engine ScriptedProcessor Program), Reachable (idlePair.withStrategy .grid) e ∧
      e.neighborsOf 1 = .ok (ids, e₁) ∧ e.neighborsOf 2 = .ok (ids', e₂) ∧ (2 ∈ ids ↔ 1 ∈ ids') := by
  obtain ⟨e, d, other, reachable, hd, hother, hseen⟩ := exists_firstTwo
    (idlePair.withStrategy .grid) (fun (e : Engine ScriptedProcessor Program) d other => (d.id, other.id,
      decide (d.radius = other.radius), e.looksAt d other, e.looksAt other d))
    (1, 2, true, true, true) (by decide +kernel)
  simp only [Prod.mk.injEq, decide_eq_true_eq] at hseen
  obtain ⟨hid, hid', hradius, hforth, hback⟩ := hseen
  obtain ⟨ids, ids', e₁, e₂, hids, hids', hsymmetric, -⟩ := neighbors_symmetric_iff reachable
    (Array.mem_of_getElem? hd) (Array.mem_of_getElem? hother) hradius
  have hboth := hsymmetric.mpr fun _ _ => hforth.trans hback.symm
  rw [hid] at hids hboth
  rw [hid'] at hids' hboth
  exact ⟨e, ids, ids', e₁, e₂, reachable, hids, hids', hboth⟩

/-- Of two devices with the same radius, which is also their rounded distance, the second finds the first and is not found by it. -/
theorem neighbors_asymmetric_edgePair : Blueprint.edgePair.settings.validate = .ok () ∧
    ∃ (e : Engine ScriptedProcessor Program) (d other : Device ScriptedProcessor),
      Reachable Blueprint.edgePair e ∧ d ∈ e.devices ∧ d.id = 1 ∧ other ∈ e.devices ∧ other.id = 2 ∧
      d.radius = other.radius ∧ ∃ ids ids' e₁ e₂,
        e.neighborsOf 1 = .ok (ids, e₁) ∧ e.neighborsOf 2 = .ok (ids', e₂) ∧ 2 ∉ ids ∧ 1 ∈ ids' := by
  obtain ⟨e, d, other, reachable, hd, hother, hseen⟩ := exists_firstTwo
    Blueprint.edgePair (fun (e : Engine ScriptedProcessor Program) d other => (d.id, other.id,
      decide (d.radius = other.radius), e.looksAt d other,
      withinRadius other.position d.position other.radius, e.looksAt other d))
    (1, 2, true, false, true, true) (by decide +kernel)
  simp only [Prod.mk.injEq, decide_eq_true_eq] at hseen
  obtain ⟨hid, hid', hradius, hforth, hwithin, hback⟩ := hseen
  have sound := reachable.sound
  have hforth := (sound.mem_answer_iff hd hother).not.mpr fun h => by simp [hforth] at h
  have hback := (sound.mem_answer_iff hother hd).mpr ⟨by simp [hid, hid'], hwithin, hback⟩
  have hids := sound.neighborsOf_device hd
  have hids' := sound.neighborsOf_device hother
  rw [hid] at hids hback
  rw [hid'] at hids' hforth
  exact ⟨rfl, e, d, other, reachable, Array.mem_of_getElem? hd, hid, Array.mem_of_getElem? hother,
    hid', hradius, _, _, _, _, hids, hids', hforth, hback⟩

end Engine

end SpatialComputer
