import SpatialComputer.Engine.Control

/-!
# Runs

A run either rests where it is or takes a tick and goes on from there, and whatever holds of runs is proved along these two cases. In particular a run may be cut into slices: two runs, the second from where the first ended, come to what one run of both lengths comes to, also where the stop condition or a pause has cut the first one short. For this it matters that a run looks at the condition and at the pause flag before it looks at the number of ticks.
-/

namespace SpatialComputer

variable {U P : Type}

/-- A tick, and the run that goes on from it. -/
def TickOutcome.followedBy (outcome : TickOutcome U P) (rest : RunOutcome U P) : RunOutcome U P where
  engine := rest.engine
  reason := rest.reason
  reports := #[outcome.report] ++ rest.reports
  events := outcome.events.toArray ++ rest.events

namespace Engine

/-! ### The two cases of a run -/

/-- Why a run ends that takes no tick. -/
def verdict (e : Engine U P) : StopReason :=
  if e.shouldStop then .condition else if e.paused then .paused else .tickLimit

/-- Whether a run of at most the given number of ticks takes none. -/
def Rests (e : Engine U P) (maxTicks : Nat) : Prop :=
  maxTicks = 0 ∨ e.shouldStop = true ∨ e.paused = true

def standstill (e : Engine U P) : RunOutcome U P := ⟨e, e.verdict, #[], #[]⟩

variable [Processor U P] {e : Engine U P}

theorem run_of_rests {n : Nat} (h : e.Rests n) : e.run n = e.standstill := by
  unfold run runOn standstill verdict
  cases hstop : e.shouldStop with
  | true => rfl
  | false =>
    cases hpaused : e.paused with
    | true => rfl
    | false =>
      obtain rfl : n = 0 := h.resolve_right (by simp [hstop, hpaused])
      rfl

private theorem runOn_eq_run (n : Nat) : ∀ (e : Engine U P) (reports : Array TickReport)
    (events : Array (Event U)), e.runOn reports events n =
      ⟨(e.run n).engine, (e.run n).reason, reports ++ (e.run n).reports, events ++ (e.run n).events⟩ := by
  induction n with
  | zero =>
    intro e reports events
    unfold run runOn
    cases e.shouldStop <;> cases e.paused <;> simp
  | succ n ih =>
    intro e reports events
    unfold run runOn
    cases e.shouldStop with
    | true => simp
    | false =>
      cases e.paused with
      | true => simp
      | false =>
        have hevents (seen : List (Event U)) (more : Array (Event U)) :
            events ++ seen ++ more = events ++ ((#[] : Array (Event U)) ++ seen ++ more) := by
          apply Array.ext'
          simp
        simp only [ih _ (reports.push _), ih _ (Array.push _ _), hevents]
        simp

theorem run_succ (hstop : e.shouldStop = false) (hpaused : e.paused = false) (n : Nat) :
    e.run (n + 1) = e.runTick.followedBy (e.runTick.engine.run n) := by
  rw [run, runOn, hstop, hpaused]
  simp [runOn_eq_run n e.runTick.engine, TickOutcome.followedBy]

/-- What holds of every run: it holds of those that rest, and with a run also of the tick before it. -/
theorem run_induction {motive : Engine U P → Nat → RunOutcome U P → Prop}
    (rest : ∀ e n, e.Rests n → motive e n e.standstill)
    (tick : ∀ e n, e.shouldStop = false → e.paused = false →
      motive e.runTick.engine n (e.runTick.engine.run n) →
        motive e (n + 1) (e.runTick.followedBy (e.runTick.engine.run n)))
    (n : Nat) : ∀ e : Engine U P, motive e n (e.run n) := by
  induction n with
  | zero =>
    intro e
    rw [run_of_rests (.inl rfl)]
    exact rest e 0 (.inl rfl)
  | succ n ih =>
    intro e
    by_cases hhalted : e.shouldStop = true ∨ e.paused = true
    · rw [run_of_rests (.inr hhalted)]
      exact rest e (n + 1) (.inr hhalted)
    · obtain ⟨hstop, hpaused⟩ := not_or.mp hhalted
      rw [Bool.not_eq_true] at hstop hpaused
      rw [run_succ hstop hpaused]
      exact tick e n hstop hpaused (ih e.runTick.engine)

theorem advance_eq_some {outcome : TickOutcome U P} (h : e.advance = some outcome) :
    outcome = e.runTick := by
  unfold advance at h
  split at h
  · cases h
  · exact (Option.some.inj h).symm

/-! ### Slices -/

/-- A run of two lengths together, taken apart at the end of the first. -/
theorem run_add (a b : Nat) : ∀ e : Engine U P, e.run (a + b) = {
    engine := ((e.run a).engine.run b).engine
    reason := ((e.run a).engine.run b).reason
    reports := (e.run a).reports ++ ((e.run a).engine.run b).reports
    events := (e.run a).events ++ ((e.run a).engine.run b).events } := by
  refine run_induction (motive := fun e a first => e.run (a + b) =
    ⟨(first.engine.run b).engine, (first.engine.run b).reason,
      first.reports ++ (first.engine.run b).reports, first.events ++ (first.engine.run b).events⟩)
    (fun e a hrests => ?_) (fun e a hstop hpaused ih => ?_) a
  · -- If not for want of ticks, the run of both lengths rests as well.
    rcases hrests with rfl | hhalted
    · simp [standstill]
    · simp [run_of_rests (.inr hhalted), standstill]
  · rw [Nat.add_right_comm, run_succ hstop hpaused, ih]
    simp only [TickOutcome.followedBy, Array.append_assoc]

/-- The engine after the given number of ticks, whether or not it is paused or meant to stop. -/
def ticked (e : Engine U P) : Nat → Engine U P
  | 0 => e
  | n + 1 => e.runTick.engine.ticked n

/-- What a run of at most the given number of ticks comes to: it ticks for as long as the limit allows and the engine is ready, and then says why it does not go on. -/
structure Ran (e : Engine U P) (maxTicks : Nat) (outcome : RunOutcome U P) : Prop where
  ticks_le : outcome.reports.size ≤ maxTicks
  engine : outcome.engine = e.ticked outcome.reports.size
  ready : ∀ i < outcome.reports.size, (e.ticked i).shouldStop = false ∧ (e.ticked i).paused = false
  reports : outcome.reports.toList =
    (List.range outcome.reports.size).map fun i => (e.ticked i).runTick.report
  events : outcome.events.toList =
    (List.range outcome.reports.size).flatMap fun i => (e.ticked i).runTick.events
  reason : outcome.reason = outcome.engine.verdict
  exhausted : outcome.reason = .tickLimit → outcome.reports.size = maxTicks

private theorem ran_standstill {n : Nat} (h : e.Rests n) : Ran e n e.standstill := by
  refine ⟨Nat.zero_le n, rfl, nofun, rfl, rfl, rfl, fun hreason => ?_⟩
  rcases h with rfl | hhalted
  · rfl
  · rw [standstill, verdict] at hreason
    rcases hhalted with hstop | hpaused
    · simp [hstop] at hreason
    · cases hstop : e.shouldStop <;> simp [hstop, hpaused] at hreason

private theorem Ran.after_tick {n : Nat} {rest : RunOutcome U P} (hstop : e.shouldStop = false)
    (hpaused : e.paused = false) (ran : Ran e.runTick.engine n rest) :
    Ran e (n + 1) (e.runTick.followedBy rest) := by
  have hsize : (e.runTick.followedBy rest).reports.size = rest.reports.size + 1 := by
    simp [TickOutcome.followedBy, Nat.add_comm]
  constructor
  case ticks_le =>
    rw [hsize]
    exact Nat.succ_le_succ ran.ticks_le
  case engine =>
    rw [hsize]
    exact ran.engine
  case ready =>
    rintro (_ | i) hi
    · exact ⟨hstop, hpaused⟩
    · rw [hsize] at hi
      exact ran.ready i (Nat.lt_of_succ_lt_succ hi)
  case reports =>
    rw [hsize, List.range_succ_eq_map, TickOutcome.followedBy, Array.toList_append, ran.reports]
    simp [ticked]
  case events =>
    rw [hsize, List.range_succ_eq_map, TickOutcome.followedBy, Array.toList_append, ran.events]
    simp [ticked, List.flatMap_map]
  case reason => exact ran.reason
  case exhausted =>
    intro hreason
    rw [hsize, ran.exhausted hreason]

/-- Two runs, one after the other, come to what one run of both lengths comes to: the same engine, for the same reason, with the ticks of the two put together. A run ticks no more often than it may, and never once the stop condition holds or while the engine is paused. -/
theorem runs_compose (e : Engine U P) :
    (∀ a b : Nat,
      let first := e.run a
      let second := first.engine.run b
      let whole := e.run (a + b)
      second.engine = whole.engine ∧
        second.reason = whole.reason ∧
        first.summary.ticks + second.summary.ticks = whole.summary.ticks ∧
        first.reports ++ second.reports = whole.reports ∧
        first.events ++ second.events = whole.events) ∧
    ∀ n : Nat, Ran e n (e.run n) := by
  refine ⟨fun a b => ?_, fun n =>
    run_induction (fun _ _ => ran_standstill) (fun _ _ => Ran.after_tick) n e⟩
  dsimp only
  rw [run_add]
  exact ⟨rfl, rfl, Array.size_append.symm, rfl, rfl⟩

end Engine

end SpatialComputer
