import SpatialComputer.Headless.Runner
import SpatialComputer.Proofs.Engine.Runs

/-!
# Three ways to drive an engine

An engine can be run, it can be advanced by a caller one tick after another, and a runner can drive it and dump snapshots on the way. Each of the three looks at the stop condition, the pause flag and the limit on the ticks in an order of its own. An engine that is not paused takes the same ticks under all three and ends up the same. What differs is the reason given when the condition comes to hold with the last tick that the limit allows: a run looks at the condition first, a runner at the limit.
-/

namespace SpatialComputer

namespace Engine

variable {U P : Type} [Processor U P] {e : Engine U P}

/-- One `advance` after another until one is refused or the given number have succeeded: the engine then, and what came of each. -/
def advances (e : Engine U P) : Nat → Engine U P × List (TickOutcome U P)
  | 0 => (e, [])
  | n + 1 =>
    match e.advance with
    | none => (e, [])
    | some outcome =>
      let (last, outcomes) := outcome.engine.advances n
      (last, outcome :: outcomes)

def afterRuns (e : Engine U P) (lengths : List Nat) : Engine U P :=
  lengths.foldl (fun e n => (e.resume.run n).engine) e

private theorem advance_of_stop (hstop : e.shouldStop = true) : e.advance = none := by
  simp [advance, hstop]

private theorem advance_of_ready (hpaused : e.paused = false) (hstop : e.shouldStop = false) :
    e.advance = some e.runTick := by
  simp [advance, hpaused, hstop]

theorem advances_of_stop (hstop : e.shouldStop = true) (n : Nat) : e.advances n = (e, []) := by
  cases n with
  | zero => rfl
  | succ n => rw [advances, advance_of_stop hstop]

theorem advances_succ_of_ready (hpaused : e.paused = false) (hstop : e.shouldStop = false) (n : Nat) :
    e.advances (n + 1) =
      ((e.runTick.engine.advances n).1, e.runTick :: (e.runTick.engine.advances n).2) := by
  rw [advances, advance_of_ready hpaused hstop]

private theorem shouldStop_advances (n : Nat) : ∀ e : Engine U P, e.paused = false →
    (e.advances n).2.length = n ∨ (e.advances n).1.shouldStop = true := by
  induction n with
  | zero => exact fun _ _ => .inl rfl
  | succ n ih =>
    intro e hpaused
    cases hstop : e.shouldStop with
    | true =>
      rw [advances_of_stop hstop]
      exact .inr hstop
    | false =>
      rw [advances_succ_of_ready hpaused hstop]
      exact (ih e.runTick.engine hpaused).imp_left (congrArg (· + 1))

/-- A run of an engine that is not paused is what advancing it comes to. -/
theorem run_eq_advances (hpaused : e.paused = false) (n : Nat) :
    e.run n = {
      engine := (e.advances n).1
      reason := if (e.advances n).1.shouldStop then .condition else .tickLimit
      reports := ((e.advances n).2.map (·.report)).toArray
      events := ((e.advances n).2.flatMap (·.events)).toArray } := by
  refine run_induction (motive := fun (e : Engine U P) n outcome => e.paused = false → outcome = {
      engine := (e.advances n).1
      reason := if (e.advances n).1.shouldStop then .condition else .tickLimit
      reports := ((e.advances n).2.map (·.report)).toArray
      events := ((e.advances n).2.flatMap (·.events)).toArray })
    (fun e n hrests hpaused => ?_) (fun e n hstop _ ih hpaused => ?_) n e hpaused
  · have hnone : e.advances n = (e, []) := by
      rcases hrests with rfl | hstop | hpaused'
      · rfl
      · exact advances_of_stop hstop n
      · exact absurd hpaused' (by simp [hpaused])
    rw [hnone, standstill, verdict, hpaused]
    rfl
  · rw [advances_succ_of_ready hpaused hstop, TickOutcome.followedBy, ih hpaused]
    simp

end Engine

namespace Runner

def afterRuns (r : Runner) (lengths : List Nat) : Runner :=
  lengths.foldl (fun r n => (r.run n).1) r

@[simp]
theorem engine_dumpState (r : Runner) : r.dumpState.engine = r.engine := by
  unfold dumpState
  split <;> rfl

@[simp]
theorem engine_dumpIfDue (r : Runner) : r.dumpIfDue.engine = r.engine := by
  unfold dumpIfDue
  split
  · exact r.engine_dumpState
  · rfl

private theorem tickOn_eq_advances (n : Nat) : ∀ (r : Runner) (ticks : Nat),
    (r.tickOn ticks n).1.engine = (r.engine.advances n).1 ∧
      (r.tickOn ticks n).2 = {
        ticks := ticks + (r.engine.advances n).2.length
        time := (r.engine.advances n).1.time
        reason := if (r.engine.advances n).2.length = n then .tickLimit else .condition } := by
  induction n with
  | zero => exact fun _ _ => ⟨rfl, rfl⟩
  | succ n ih =>
    intro r ticks
    rw [tickOn, Engine.advances]
    cases r.engine.advance with
    | none => simp
    | some outcome =>
      obtain ⟨hengine, hsummary⟩ := ih ({ r with engine := outcome.engine }).dumpIfDue (ticks + 1)
      rw [engine_dumpIfDue] at hengine hsummary
      refine ⟨hengine, hsummary.trans ?_⟩
      simp [Nat.add_assoc, Nat.add_comm 1]

theorem run_eq_advances (r : Runner) (n : Nat) :
    (r.run n).1.engine = (r.engine.resume.advances n).1 ∧
      (r.run n).2 = {
        ticks := (r.engine.resume.advances n).2.length
        time := (r.engine.resume.advances n).1.time
        reason :=
          if (r.engine.resume.advances n).2.length = n then .tickLimit else .condition } := by
  have h := tickOn_eq_advances n ({ r with engine := r.engine.resume }).dumpState 0
  rwa [engine_dumpState, Nat.zero_add] at h

theorem engine_run (r : Runner) (n : Nat) :
    (r.run n).1.engine = (r.engine.resume.run n).engine := by
  rw [(r.run_eq_advances n).1, Engine.run_eq_advances rfl]

theorem engine_afterRuns (lengths : List Nat) :
    ∀ r : Runner, (r.afterRuns lengths).engine = r.engine.afterRuns lengths := by
  induction lengths with
  | nil => exact fun _ => rfl
  | cons n lengths ih =>
    intro r
    have h := ih (r.run n).1
    rw [engine_run] at h
    exact h

private theorem run_agrees (r : Runner) (n : Nat) :
    let driven := r.run n
    let outcome := r.engine.resume.run n
    driven.1.engine = outcome.engine ∧
      driven.2.ticks = outcome.summary.ticks ∧
      driven.2.time = outcome.summary.time ∧
      if outcome.summary.ticks = n ∧ outcome.engine.shouldStop then
        outcome.summary.reason = .condition ∧ driven.2.reason = .tickLimit
      else driven.2.reason = outcome.summary.reason := by
  dsimp only
  obtain ⟨hengine, hsummary⟩ := r.run_eq_advances n
  have houtcome := Engine.run_eq_advances (e := r.engine.resume) rfl n
  have hticks : (r.engine.resume.run n).summary.ticks = (r.engine.resume.advances n).2.length := by
    simp [houtcome, RunOutcome.summary]
  have hreason : (r.engine.resume.run n).summary.reason =
      if (r.engine.resume.advances n).1.shouldStop then .condition else .tickLimit := by
    rw [houtcome]
    rfl
  refine ⟨r.engine_run n, ?_, ?_, ?_⟩
  · rw [hsummary, hticks]
  · rw [hsummary, houtcome]
    rfl
  · rw [hsummary, hticks, hreason, houtcome]
    -- Either the limit was reached or the condition holds, and the two differ only if both is the case.
    rcases Engine.shouldStop_advances n r.engine.resume rfl with hlimit | hstop
    · cases hstop : (r.engine.resume.advances n).1.shouldStop <;> simp [hlimit]
    · by_cases hlimit : (r.engine.resume.advances n).2.length = n <;> simp [hlimit, hstop]

end Runner

theorem Runner.create_of_build {setup : RunSetup} {entropy : Nat}
    {e : Engine ScriptedProcessor Program} {events : List (Event ScriptedProcessor)} (dumps : Bool)
    (h : (setup.blueprint entropy).build = (.ok e, events)) :
    ∃ start, Runner.create setup dumps entropy = .ok start ∧ start.engine = e := by
  unfold Runner.create
  rw [h]
  exact ⟨_, rfl, rfl⟩

/-- Advancing an engine that is not paused takes the ticks of a run and leaves its engine. For a setup whose engine can be built there is a runner, with or without a dump. Whatever it has run before, it takes as many ticks as a run of its resumed engine and leaves the engine of that run; the two name the same reason, unless the limit is reached while the stop condition holds: then the run names the condition and the runner the limit. -/
theorem drivers_agree {U P : Type} [Processor U P] :
    (∀ (e : Engine U P) (n : Nat), e.paused = false →
      (e.run n).engine = (e.advances n).1 ∧
        (e.run n).reports.toList = (e.advances n).2.map (·.report) ∧
        (e.run n).events.toList = (e.advances n).2.flatMap (·.events)) ∧
    ∀ (setup : RunSetup) (dumps : Bool) (entropy : Nat) (built : Engine ScriptedProcessor Program)
      (events : List (Event ScriptedProcessor)),
      (setup.blueprint entropy).build = (.ok built, events) →
        ∃ start, Runner.create setup dumps entropy = .ok start ∧
          ∀ (earlier : List Nat) (n : Nat),
            let runner := start.afterRuns earlier
            let driven := runner.run n
            let outcome := runner.engine.resume.run n
            runner.engine = built.afterRuns earlier ∧
              driven.1.engine = outcome.engine ∧
              driven.2.ticks = outcome.summary.ticks ∧
              driven.2.time = outcome.summary.time ∧
              if outcome.summary.ticks = n ∧ outcome.engine.shouldStop then
                outcome.summary.reason = .condition ∧ driven.2.reason = .tickLimit
              else driven.2.reason = outcome.summary.reason := by
  refine ⟨fun e n hpaused => ?_, fun setup dumps entropy built events hbuild => ?_⟩
  · rw [Engine.run_eq_advances hpaused]
    exact ⟨rfl, rfl, rfl⟩
  · obtain ⟨start, hcreate, rfl⟩ := Runner.create_of_build dumps hbuild
    exact ⟨start, hcreate, fun earlier n => ⟨Runner.engine_afterRuns earlier start, Runner.run_agrees _ n⟩⟩

def brief : RunSetup where
  settings := {
    engine := { stopAt := some 2, startPaused := true }
    population := { size := 1, radius := 1, distribution := .explicit [⟨1, 0, 0⟩] } }

/-- After a run of one tick the clock comes to 2 with the next one: then a run of one more tick names the condition, and the runner the limit. -/
theorem drivers_agree_brief : ∃ start : Runner, Runner.create brief true 0 = .ok start ∧
    (start.engine.resume.run 1).engine = (start.engine.resume.advances 1).1 ∧
    ((start.afterRuns [1]).engine.resume.run 1).summary = ⟨1, 2, .condition⟩ ∧
    ((start.afterRuns [1]).run 1).2 = ⟨1, 2, .tickLimit⟩ := by
  have hfacts : ((brief.blueprint 0).build (U := ScriptedProcessor)).1.toOption.map (fun e =>
      ((e.afterRuns [1]).resume.run 1).summary) = some ⟨1, 2, .condition⟩ ∧
      ((brief.blueprint 0).build (U := ScriptedProcessor)).1.toOption.map (fun e =>
        ((e.afterRuns [1]).resume.run 1).engine.shouldStop) = some true := by
    decide +kernel
  obtain ⟨hadvances, hrunners⟩ := drivers_agree (U := ScriptedProcessor) (P := Program)
  rcases hbuild : (brief.blueprint 0).build (U := ScriptedProcessor) with ⟨_ | built, events⟩
  · rw [hbuild] at hfacts
    exact nomatch hfacts.1
  · rw [hbuild] at hfacts
    obtain ⟨hsummary, hstop⟩ : ((built.afterRuns [1]).resume.run 1).summary = ⟨1, 2, .condition⟩ ∧
        ((built.afterRuns [1]).resume.run 1).engine.shouldStop = true :=
      ⟨Option.some.inj hfacts.1, Option.some.inj hfacts.2⟩
    obtain ⟨start, hcreate, hruns⟩ := hrunners brief true 0 built events hbuild
    obtain ⟨hengine, -, hticks, htime, hreason⟩ := hruns [1] 1
    rw [hengine, hsummary] at hticks htime hreason
    rw [if_pos ⟨rfl, hstop⟩] at hreason
    refine ⟨start, hcreate, (hadvances start.engine.resume 1 rfl).1, hengine ▸ hsummary, ?_⟩
    calc ((start.afterRuns [1]).run 1).2
        = ⟨((start.afterRuns [1]).run 1).2.ticks, ((start.afterRuns [1]).run 1).2.time,
            ((start.afterRuns [1]).run 1).2.reason⟩ := rfl
      _ = ⟨1, 2, .tickLimit⟩ := by rw [hticks, htime, hreason.2]

end SpatialComputer
