import SpatialComputer.Proofs.Document.Json
import SpatialComputer.Proofs.Engine.Runs
import SpatialComputer.Proofs.Headless.Drivers

/-!
# What a runner dumps

A run of a runner dumps a snapshot of the engine as it finds it, and one after each of its ticks whose number the dump period divides. Runs follow one another in the dump, so where one ends and the next begins the same tick may be dumped twice.
-/

namespace SpatialComputer

/-- The numbers of those out of the given number of ticks from `start` on that the period divides. -/
def dueTicks (period start ticks : Nat) : List Nat :=
  (List.range' (start + 1) ticks).filter (period ∣ ·)

theorem mem_dueTicks {period start ticks m : Nat} :
    m ∈ dueTicks period start ticks ↔ start < m ∧ m ≤ start + ticks ∧ period ∣ m := by
  rw [dueTicks, List.mem_filter, List.mem_range'_1, decide_eq_true_eq]
  omega

@[simp]
theorem dueTicks_zero (period start : Nat) : dueTicks period start 0 = [] := rfl

theorem dueTicks_succ (period start ticks : Nat) : dueTicks period start (ticks + 1) =
    (if period ∣ start + 1 then [start + 1] else []) ++ dueTicks period (start + 1) ticks := by
  rw [dueTicks, List.range'_succ, List.filter_cons]
  split <;> simp_all [dueTicks]

namespace Engine

variable {U P : Type} [Processor U P]

def lineAfter (e : Engine U P) (tick : Nat) : String := (e.ticked (tick - e.tick)).snapshot.line

theorem lineAfter_succ (e : Engine U P) :
    e.lineAfter (e.tick + 1) = e.runTick.engine.snapshot.line := by
  rw [lineAfter, Nat.add_sub_cancel_left]
  rfl

theorem lineAfter_runTick {e : Engine U P} {tick : Nat} (h : e.tick < tick) :
    e.runTick.engine.lineAfter tick = e.lineAfter tick := by
  have hnext : e.runTick.engine.tick = e.tick + 1 := rfl
  have hcount : tick - e.tick = tick - (e.tick + 1) + 1 := by omega
  rw [lineAfter, lineAfter, hnext, hcount, ticked]

end Engine

namespace Runner

/-- Whether a runner has dumped the given lines. -/
structure Dumped (r : Runner) (lines : List String) : Prop where
  dump : r.dump = some lines.toArray
  count : r.dumpCount = lines.length
  single : ∀ line ∈ lines, '\n' ∉ line.toList

/-! ### The dump period -/

@[simp]
theorem dumpPeriod_dumpState (r : Runner) : r.dumpState.dumpPeriod = r.dumpPeriod := by
  unfold dumpState
  split <;> rfl

@[simp]
theorem dumpPeriod_dumpIfDue (r : Runner) : r.dumpIfDue.dumpPeriod = r.dumpPeriod := by
  unfold dumpIfDue
  split
  · exact r.dumpPeriod_dumpState
  · rfl

namespace Dumped

variable {r : Runner} {before : List String}

theorem withEngine (h : r.Dumped before) (e : Engine ScriptedProcessor Program) :
    Dumped { r with engine := e } before :=
  ⟨h.dump, h.count, h.single⟩

theorem dumpState (h : r.Dumped before) :
    r.dumpState.Dumped (before ++ [r.engine.snapshot.line]) := by
  rw [Runner.dumpState, h.dump]
  refine ⟨by simp, by simp [h.count], List.forall_mem_append.mpr ⟨h.single, ?_⟩⟩
  rw [List.forall_mem_singleton, PopulationSnapshot.line, String.toList_ofList]
  exact (Json.isLine_text _).newline_notMem

theorem dumpIfDue (h : r.Dumped before) : r.dumpIfDue.Dumped (before ++
    if r.dumpPeriod ∣ r.engine.tick then [r.engine.snapshot.line] else []) := by
  rw [Runner.dumpIfDue]
  by_cases hdue : r.dumpPeriod ∣ r.engine.tick
  · rw [if_pos hdue, if_pos (Nat.mod_eq_zero_of_dvd hdue)]
    exact h.dumpState
  · rw [if_neg hdue, if_neg fun hmod => hdue (Nat.dvd_of_mod_eq_zero hmod), List.append_nil]
    exact h

end Dumped

private theorem dumped_tickOn (n : Nat) : ∀ (r : Runner) (ticks : Nat) (before : List String),
    r.Dumped before → (r.tickOn ticks n).1.Dumped (before ++
      (dueTicks r.dumpPeriod r.engine.tick (r.engine.advances n).2.length).map
        r.engine.lineAfter) := by
  induction n with
  | zero =>
    intro r ticks before h
    rw [Engine.advances, List.length_nil, dueTicks_zero, List.map_nil, List.append_nil]
    exact h
  | succ n ih =>
    intro r ticks before h
    rw [tickOn, Engine.advances]
    cases hadvance : r.engine.advance with
    | none =>
      rw [List.length_nil, dueTicks_zero, List.map_nil, List.append_nil]
      exact h
    | some outcome =>
      obtain rfl := Engine.advance_eq_some hadvance
      have hrest := ih _ (ticks + 1) _ (h.withEngine r.engine.runTick.engine).dumpIfDue
      rw [dumpPeriod_dumpIfDue, engine_dumpIfDue] at hrest
      -- Lines are counted from the engine at the start, so those of the later ticks are the same one tick on.
      have hlater : (dueTicks r.dumpPeriod (r.engine.tick + 1)
            (r.engine.runTick.engine.advances n).2.length).map r.engine.runTick.engine.lineAfter =
          (dueTicks r.dumpPeriod (r.engine.tick + 1)
            (r.engine.runTick.engine.advances n).2.length).map r.engine.lineAfter :=
        List.map_congr_left fun m hm => Engine.lineAfter_runTick
          (Nat.lt_of_succ_lt (mem_dueTicks.mp hm).1)
      have hnow : (if r.dumpPeriod ∣ r.engine.tick + 1 then [r.engine.tick + 1] else []).map
          r.engine.lineAfter = if r.dumpPeriod ∣ r.engine.tick + 1 then
            [r.engine.runTick.engine.snapshot.line] else [] := by
        split
        · rw [List.map_singleton, Engine.lineAfter_succ]
        · rfl
      rw [List.length_cons, dueTicks_succ, List.map_append, hnow, ← hlater, ← List.append_assoc]
      exact hrest

/-- What a run of the given length dumps. -/
def linesOfRun (r : Runner) (n : Nat) : List String :=
  r.engine.snapshot.line ::
    (dueTicks r.dumpPeriod r.engine.tick (r.run n).2.ticks).map r.engine.resume.lineAfter

theorem Dumped.run {r : Runner} {before : List String} (h : r.Dumped before) (n : Nat) :
    (r.run n).1.Dumped (before ++ r.linesOfRun n) := by
  have hrun := dumped_tickOn n _ 0 _ (h.withEngine r.engine.resume).dumpState
  rw [engine_dumpState, dumpPeriod_dumpState, List.append_assoc] at hrun
  rw [linesOfRun, (r.run_eq_advances n).2]
  exact hrun

theorem Dumped.afterRuns (lengths : List Nat) : ∀ {r : Runner} {before : List String},
    r.Dumped before → ∃ lines, (r.afterRuns lengths).Dumped lines := by
  induction lengths with
  | nil => exact fun h => ⟨_, h⟩
  | cons n lengths ih => exact fun h => ih (h.run n)

end Runner

end SpatialComputer
