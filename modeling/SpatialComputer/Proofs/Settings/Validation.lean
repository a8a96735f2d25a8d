import SpatialComputer.Settings.Basic

/-!
# Accepted configurations

A configuration is accepted if every check passes, one section after another. What later proofs need of an accepted one is read off here once, as facts about its settings.
-/

namespace SpatialComputer

theorem except_bind_eq_ok {ε α β : Type} {x : Except ε α} {f : α → Except ε β} {value : β}
    (h : (x >>= f) = .ok value) : ∃ a, x = .ok a ∧ f a = .ok value := by
  cases x with
  | error cause => cases h
  | ok a => exact ⟨a, rfl, h⟩

theorem require_eq_ok {condition : Bool} {cause : SettingError} :
    require condition cause = .ok () ↔ condition = true := by
  cases condition <;> simp [require]

namespace Settings

theorem requireIfSet_eq_ok {α : Type} {value : Option α} {condition : α → Bool}
    {cause : α → SettingError} :
    requireIfSet value condition cause = .ok () ↔ ∀ v, value = some v → condition v = true := by
  cases value with
  | none => simp [requireIfSet]
  | some v => simp [requireIfSet, require_eq_ok]

/-- The checks that an accepted configuration has passed, section by section. -/
structure Accepted (s : Settings) : Prop where
  engine : validateEngine s.engine = .ok ()
  population : validatePopulation s.population = .ok ()
  transmit : s.schedule.transmit.validate "transmit" = .ok ()
  compute : s.schedule.compute.validate "compute" = .ok ()
  lifecycle : validateLifecycle s.lifecycle s.population.size = .ok ()

variable {s : Settings}

theorem accepted_of_validate (h : s.validate = .ok ()) : s.Accepted := by
  unfold validate at h
  obtain ⟨_, hengine, h⟩ := except_bind_eq_ok h
  obtain ⟨_, hpopulation, h⟩ := except_bind_eq_ok h
  obtain ⟨_, htransmit, h⟩ := except_bind_eq_ok h
  obtain ⟨_, hcompute, h⟩ := except_bind_eq_ok h
  obtain ⟨_, -, h⟩ := except_bind_eq_ok h
  obtain ⟨_, hlifecycle, -⟩ := except_bind_eq_ok h
  exact ⟨hengine, hpopulation, htransmit, hcompute, hlifecycle⟩

namespace Accepted

variable (accepted : s.Accepted)

include accepted

theorem cloneOffset : isFiniteNonnegative s.lifecycle.cloneOffset = true := by
  have h := accepted.lifecycle
  unfold validateLifecycle at h
  obtain ⟨_, hoffset, -⟩ := except_bind_eq_ok h
  exact require_eq_ok.mp hoffset

theorem stepSize : isFinitePositive s.engine.stepSize = true := by
  have h := accepted.engine
  unfold validateEngine at h
  obtain ⟨_, hstep, -⟩ := except_bind_eq_ok h
  exact require_eq_ok.mp hstep

theorem cloneDelay : isFiniteNonnegative s.lifecycle.cloneDelay = true := by
  have h := accepted.lifecycle
  unfold validateLifecycle at h
  obtain ⟨_, -, h⟩ := except_bind_eq_ok h
  obtain ⟨_, hdelay, -⟩ := except_bind_eq_ok h
  exact require_eq_ok.mp hdelay

theorem size_le {limit : Nat} (hlimit : s.lifecycle.maxPopulation = some limit) :
    s.population.size ≤ limit := by
  have h := accepted.lifecycle
  unfold validateLifecycle at h
  obtain ⟨_, -, h⟩ := except_bind_eq_ok h
  obtain ⟨_, -, h⟩ := except_bind_eq_ok h
  exact of_decide_eq_true (requireIfSet_eq_ok.mp h limit hlimit)

theorem size_pos : 0 < s.population.size := by
  have h := accepted.population
  unfold validatePopulation at h
  obtain ⟨_, hsize, -⟩ := except_bind_eq_ok h
  exact of_decide_eq_true (require_eq_ok.mp hsize)

theorem radius : isFinitePositive s.population.radius = true := by
  have h := accepted.population
  unfold validatePopulation at h
  obtain ⟨_, -, h⟩ := except_bind_eq_ok h
  obtain ⟨_, hradius, -⟩ := except_bind_eq_ok h
  exact require_eq_ok.mp hradius

theorem distribution :
    s.population.distribution.validate s.population.volume s.population.size = .ok () := by
  have h := accepted.population
  unfold validatePopulation at h
  obtain ⟨_, -, h⟩ := except_bind_eq_ok h
  obtain ⟨_, -, h⟩ := except_bind_eq_ok h
  exact h

end Accepted

theorem isFinitePositive_cellSize (h : s.validate = .ok ()) :
    isFinitePositive (s.index.effectiveCellSize s.population.radius) = true := by
  have hradius := (accepted_of_validate h).radius
  unfold validate at h
  obtain ⟨_, -, h⟩ := except_bind_eq_ok h
  obtain ⟨_, -, h⟩ := except_bind_eq_ok h
  obtain ⟨_, -, h⟩ := except_bind_eq_ok h
  obtain ⟨_, -, h⟩ := except_bind_eq_ok h
  obtain ⟨_, -, h⟩ := except_bind_eq_ok h
  obtain ⟨_, -, h⟩ := except_bind_eq_ok h
  unfold IndexSettings.effectiveCellSize
  cases hsize : s.index.cellSize with
  | none => exact hradius
  | some size => exact requireIfSet_eq_ok.mp h size hsize

end Settings

theorem TimerPolicy.validate_eq_ok {phase : String} {policy : TimerPolicy}
    (h : policy.validate phase = .ok ()) :
    (policy.nominalPeriod.isFinite = true ∧ ¬policy.nominalPeriod < 0) ∧
      (policy.spread.isFinite = true ∧ ¬policy.spread < 0) ∧
      (policy.nominalPeriod + policy.spread).isFinite = true := by
  unfold validate at h
  obtain ⟨_, hperiod, h⟩ := except_bind_eq_ok h
  obtain ⟨_, hspread, h⟩ := except_bind_eq_ok h
  have hperiod := require_eq_ok.mp hperiod
  have hspread := require_eq_ok.mp hspread
  simp only [Bool.and_eq_true, Bool.not_eq_true', decide_eq_false_iff_not] at hperiod hspread
  exact ⟨hperiod, hspread, require_eq_ok.mp h⟩

end SpatialComputer
