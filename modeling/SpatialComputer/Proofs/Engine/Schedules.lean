import Mathlib.Algebra.BigOperators.Group.Finset.Basic
import SpatialComputer.Program.Scripted
import SpatialComputer.Proofs.Engine.History
import SpatialComputer.Proofs.Tick.Alarms

/-!
# Schedules

The times at which a device transmits and computes are a greedy selection from the times of the ticks, made by its two alarms alone. The phase runs once in each tick that finds its alarm due, the alarm is then set anew, and nothing else in the engine has a say: two devices with the same alarm run the phase at the same times, in whatever engines they are, if the clocks of these show the same times.
-/

namespace SpatialComputer

variable {U P : Type} [Processor U P]

/-- How many devices have run a phase in a tick. -/
def TickReport.runs (phase : Phase) (r : TickReport) : Nat :=
  match phase with
  | .transmit => r.transmitted
  | .compute => r.computed

namespace Engine

variable {b : Blueprint P} {e e' : Engine U P} {i : Nat} {d : Device U}

/-! ### One tick -/

/-- How often the device at an index runs a phase in the next tick: its turn of the transmit phase if it is counted, and its rounds that an observer is told of. -/
def runsInTick (phase : Phase) (e : Engine U P) (i : Nat) : Nat :=
  match phase with
  | .transmit => (e.transmissionAt (i + 1)).transmitted - (e.transmissionAt i).transmitted
  | .compute => (executed e.runTick.events).countP fun d => d.id = i + 1

def timesIn (phase : Phase) (ticks : List (Engine U P)) (i : Nat) : List Float :=
  ticks.flatMap fun s => List.replicate (s.runsInTick phase i) s.time

theorem Sound.rounds_eq_count (sound : Sound b e) (i : Nat) :
    e.runsInTick .compute i = (dueIndices e.time e.transmission.devices).count i := by
  have hnumbered : Numbered e.afterRounds := sound.numbered.of_map_id (map_id_afterRounds e)
  rw [runsInTick, executed_runTick, List.countP_filterMap, List.count]
  refine List.countP_congr fun j hj => ?_
  obtain ⟨d, hd, -⟩ := mem_dueIndices.mp hj
  have hafter : e.afterRounds[j]? = some (d.computeIfDue e.time) := by
    rw [afterRounds, Array.getElem?_map, hd, Option.map_some]
  simp [hafter, hnumbered j _ hafter]

theorem Sound.runsInTick_eq (sound : Sound b e) (hd : e.devices[i]? = some d) (phase : Phase) :
    e.runsInTick phase i = if (d.alarm phase).due ≤ e.time then 1 else 0 := by
  cases phase with
  | transmit => rw [runsInTick, transmitted_atTurn hd, Nat.add_sub_cancel_left]
  | compute =>
    -- The due devices are listed after the transmit phase, but their alarms are those from before it.
    obtain ⟨heard, hheard, hsame⟩ := computeAlarm_transmission hd
    have hdue : i ∈ dueIndices e.time e.transmission.devices ↔ (d.alarm .compute).due ≤ e.time := by
      rw [mem_dueIndices, hheard, ← hsame, ← Device.computeDue_iff]
      simp
    rw [sound.rounds_eq_count, (nodup_dueIndices _ _).count]
    simp only [hdue]

/-- The compute phase itself, parallel or not, runs one round of a device whose alarm is due and leaves every other device as it has it from the transmit phase. -/
theorem round_computePhase (hd : e.devices[i]? = some d) :
    ∃ heard, e.transmission.devices[i]? = some heard ∧
      (computePhase e.settings.engine.parallelCompute e.time e.transmission.devices).2[i]? =
        some (if (d.alarm .compute).due ≤ e.time then heard.runRound e.time else heard) := by
  obtain ⟨heard, hheard, hsame⟩ := computeAlarm_transmission hd
  refine ⟨heard, hheard, ?_⟩
  rw [computePhase_eq, Array.getElem?_map, hheard, Option.map_some, Device.computeIfDue, ← hsame]
  simp only [Device.computeDue_iff]

private theorem transmitted_eq_sum (n : Nat) : n ≤ e.devices.size →
    (e.transmissionAt n).transmitted = ∑ i ∈ Finset.range n, e.runsInTick .transmit i := by
  induction n with
  | zero => exact fun _ => rfl
  | succ n ih =>
    intro hn
    have hturn := transmitted_atTurn (Array.getElem?_eq_getElem (show n < e.devices.size from hn))
    rw [Finset.sum_range_succ, ← ih (Nat.le_of_lt hn), runsInTick]
    omega

theorem Sound.sum_runsInTick (sound : Sound b e) (phase : Phase) :
    ∑ i ∈ Finset.range e.size, e.runsInTick phase i = e.runTick.report.runs phase := by
  have hreport : e.runTick.report = e.reportOfTick := by rw [runTick_eq]
  rw [hreport]
  cases phase with
  | transmit => exact (transmitted_eq_sum e.size (Nat.le_refl _)).symm
  | compute =>
    simp only [sound.rounds_eq_count, ← Multiset.coe_count]
    rw [Multiset.sum_count_eq_card]
    · rfl
    · intro i hi
      obtain ⟨d, hd, -⟩ := mem_dueIndices.mp (Multiset.mem_coe.mp hi)
      have hsize : e.transmission.devices.size = e.size := by
        have h := congrArg Array.size (sites_transmission e)
        rwa [sites, sites, Array.size_map, Array.size_map] at h
      rw [Finset.mem_range, ← hsize]
      exact (Array.getElem?_eq_some_iff.mp hd).1

theorem Sound.alarm_runTick (sound : Sound b e) (hd : e.devices[i]? = some d) :
    ∃ d', e.runTick.engine.devices[i]? = some d' ∧
      ∀ phase, d'.alarm phase = (d.alarm phase).after e.time := by
  obtain ⟨acted, hacted, -, hd'⟩ := sound.device_runTick hd
  refine ⟨_, hd', fun phase => ?_⟩
  rw [Device.alarm_settled, alarm_afterActuation hd hacted]

/-! ### Many ticks -/

theorem lasting_alarm (phase : Phase) : Lasting (Device.alarm (U := U) phase) := by
  cases phase <;> exact ⟨fun _ _ => rfl, fun _ _ _ => rfl, fun _ _ => rfl, fun _ _ => rfl⟩

namespace Course

variable {ticks : List (Engine U P)}

private theorem alarm_induction {motive : Alarm → List (Engine U P) → Prop} {phase : Phase}
    (done : ∀ a, motive a [])
    (tick : ∀ a (s : Engine U P) ticks,
      s.runsInTick phase i = (if a.due ≤ s.time then 1 else 0) →
      motive (a.after s.time) ticks → motive a (s :: ticks))
    (course : Course e ticks e') : ∀ {d : Device U}, Sound b e → e.devices[i]? = some d →
      motive (d.alarm phase) ticks := by
  induction course with
  | done e => exact fun _ _ => done _
  | @tick e _ _ _ ih =>
    intro d sound hd
    obtain ⟨d', hd', halarm⟩ := sound.alarm_runTick hd
    refine tick _ e _ (sound.runsInTick_eq hd phase) ?_
    rw [← halarm]
    exact ih (sound.step .tick) hd'
  | between h _ ih =>
    intro d sound hd
    obtain ⟨d', hd', hsame⟩ := h.device (lasting_alarm phase) hd
    rw [← hsame]
    exact ih (sound.step h.step) hd'

/-- The runs of a phase are the greedy selection from the times of the ticks that its alarm makes. -/
theorem timesIn_eq_runs (course : Course e ticks e') (sound : Sound b e)
    (hd : e.devices[i]? = some d) (phase : Phase) :
    timesIn phase ticks i = (d.alarm phase).runs (ticks.map Engine.time) := by
  refine alarm_induction (motive := fun a ticks => timesIn phase ticks i = a.runs (ticks.map Engine.time))
    (fun _ => rfl) (fun a s ticks hruns ih => ?_) course sound hd
  rw [List.map_cons, Alarm.runs_cons, ← ih, ← hruns]
  rfl

theorem find?_runs (course : Course e ticks e') (sound : Sound b e)
    (hd : e.devices[i]? = some d) (phase : Phase) :
    (ticks.find? fun s => s.runsInTick phase i ≠ 0) =
      ticks.find? fun s => decide ((d.alarm phase).due ≤ s.time) := by
  refine alarm_induction (motive := fun a ticks =>
    (ticks.find? fun s : Engine U P => s.runsInTick phase i ≠ 0) =
      ticks.find? fun s => decide (a.due ≤ s.time))
    (fun _ => rfl) (fun a s ticks hruns ih => ?_) course sound hd
  by_cases hdue : a.due ≤ s.time
  · rw [List.find?_cons_of_pos (by simp [hruns, hdue]), List.find?_cons_of_pos (by simpa using hdue)]
  · rw [List.find?_cons_of_neg (by simp [hruns, hdue]), List.find?_cons_of_neg (by simpa using hdue),
      ih, Alarm.after_of_not_due hdue]

theorem find?_runs_later {s : Engine U P} {later : List (Engine U P)} {phase : Phase}
    (course : Course s.runTick.engine later e') (sound : Sound b s) (hd : s.devices[i]? = some d)
    (hran : s.runsInTick phase i ≠ 0) :
    (later.find? fun t => t.runsInTick phase i ≠ 0) =
      later.find? fun t => decide ((d.alarm phase).timer.next s.time ≤ t.time) := by
  have hdue : (d.alarm phase).due ≤ s.time := by
    rw [sound.runsInTick_eq hd] at hran
    simpa using hran
  obtain ⟨d', hd', halarm⟩ := sound.alarm_runTick hd
  rw [course.find?_runs (sound.step .tick) hd' phase, halarm, Alarm.after_of_due hdue]

end Course

/-- In every reachable engine the runs of a phase are what the alarms of the devices tell. A tick runs the phase of a device once if its alarm is due and sets the alarm anew, and does neither otherwise; its report counts these runs, and a due round is one round of what the device has heard. An observer of a history sees what happens in its ticks. From any of these on in which a device is there, and from the one after its creation in particular, the times of its runs are the greedy selection from the times of the ticks; after a run the next one is in the first later tick from the new due time on. Another device has its runs at the same times if it has the same alarm and its engine runs its ticks at the same times, whatever else may be different. -/
theorem runs_follow_alarms (reachable : Reachable b e) (phase : Phase) :
    (∑ i ∈ Finset.range e.size, e.runsInTick phase i = e.runTick.report.runs phase) ∧
    (∀ (i : Nat) (d : Device U), e.devices[i]? = some d → ∃ heard,
      e.transmission.devices[i]? = some heard ∧
        (computePhase e.settings.engine.parallelCompute e.time e.transmission.devices).2[i]? =
          some (if (d.alarm .compute).due ≤ e.time then heard.runRound e.time else heard)) ∧
    (∀ (i : Nat) (d : Device U), e.devices[i]? = some d → ∃ d',
      e.runTick.engine.devices[i]? = some d' ∧
      if (d.alarm phase).due ≤ e.time then
        e.runsInTick phase i = 1 ∧
          d'.alarm phase = ⟨(d.alarm phase).timer, (d.alarm phase).timer.next e.time⟩
      else e.runsInTick phase i = 0 ∧ d'.alarm phase = d.alarm phase) ∧
    ∀ ops : List Operation,
      (e.answers ops).flatMap (·.2) = ((e.ticksIn ops).flatMap fun s => s.runTick.events) ∧
      ∀ before rest : List (Engine U P), e.ticksIn ops = before ++ rest →
        (∀ (i : Nat) (d : Device U), (e.afterTicks before).devices[i]? = some d →
          timesIn phase rest i = (d.alarm phase).runs (rest.map Engine.time)) ∧
        (∀ (s : Engine U P) (later : List (Engine U P)) (i : Nat) (d : Device U),
          rest = s :: later → s.devices[i]? = some d → s.runsInTick phase i ≠ 0 →
          (later.find? fun t => t.runsInTick phase i ≠ 0) =
            later.find? fun t => decide ((d.alarm phase).timer.next s.time ≤ t.time)) ∧
        ∀ (U' P' : Type) [Processor U' P'] (b' : Blueprint P') (e' : Engine U' P')
          (ops' : List Operation) (before' rest' : List (Engine U' P')) (i i' : Nat) (d : Device U)
          (d' : Device U'), Reachable b' e' → e'.ticksIn ops' = before' ++ rest' →
          (e.afterTicks before).devices[i]? = some d → (e'.afterTicks before').devices[i']? = some d' →
          d'.alarm phase = d.alarm phase → rest'.map Engine.time = rest.map Engine.time →
            timesIn phase rest' i' = timesIn phase rest i := by
  refine ⟨reachable.sound.sum_runsInTick phase, fun i d hd => round_computePhase hd, ?_, ?_⟩
  · intro i d hd
    obtain ⟨d', hd', halarm⟩ := reachable.sound.alarm_runTick hd
    refine ⟨d', hd', ?_⟩
    rw [reachable.sound.runsInTick_eq hd, halarm]
    split
    · rename_i hdue
      exact ⟨rfl, Alarm.after_of_due hdue⟩
    · rename_i hdue
      exact ⟨rfl, Alarm.after_of_not_due hdue⟩
  · refine fun ops => ⟨events_answers ops e, fun before rest hticks => ?_⟩
    -- What follows the first ticks of a history is a course of its own, so the selection starts
    -- from the alarm that the device then has.
    have course : Course (e.afterTicks before) rest (e.performAll ops) :=
      course_afterTicks hticks
    have sound : Sound b (e.afterTicks before) := (reachable.afterTicks hticks).sound
    refine ⟨fun i d hd => course.timesIn_eq_runs sound hd phase, ?_, ?_⟩
    · rintro s later i d rfl hd hran
      have hs : Sound b s := (reachable.of_mem_ticksIn ops (by simp [hticks])).sound
      exact (course.tail rfl).find?_runs_later hs hd hran
    · intro U' P' _ b' e' ops' before' rest' i i' d d' reachable' hticks' hd hd' halarm htimes
      have course' : Course (e'.afterTicks before') rest' (e'.performAll ops') :=
        course_afterTicks hticks'
      -- The selection knows nothing of an engine but the alarm and the times.
      rw [course.timesIn_eq_runs sound hd,
        course'.timesIn_eq_runs (reachable'.afterTicks hticks').sound hd', halarm, htimes]

/-- A lone idle device with a transmit timer that never names a time, and rounds every one and a half. -/
def offbeat : Blueprint Program where
  settings := {
    engine := { seed := some 1 }
    population := { size := 1, distribution := .explicit [⟨0, 0, 0⟩] } }
  program := .idle
  schedule := some { transmit := .custom fun _ => 0 / 0, compute := .interval 1.5 }

/-- Five ticks one apart: rounds take place in every second one, and a message is sent in each. -/
theorem runs_follow_alarms_offbeat : ∃ e : Engine ScriptedProcessor Program, Reachable offbeat e ∧
    timesIn .compute (e.ticksIn [.tick, .run 4]) 0 = [0, 2, 4] ∧
    timesIn .transmit (e.ticksIn [.tick, .run 4]) 0 = [0, 1, 2, 3, 4] := by
  have hfacts : (afterHistory offbeat []).map (fun e : Engine ScriptedProcessor Program =>
      ((e.ticksIn [.tick, .run 4]).map Engine.time, e.devices[0]?.map fun d =>
        ((d.alarm .compute).runs [0, 1, 2, 3, 4], (d.alarm .transmit).runs [0, 1, 2, 3, 4]))) =
      some ([0, 1, 2, 3, 4], some ([0, 2, 4], [0, 1, 2, 3, 4])) := by
    decide +kernel
  obtain ⟨e, he, hfacts⟩ := Option.map_eq_some_iff.mp hfacts
  obtain ⟨htimes, hfacts⟩ := Prod.mk.inj hfacts
  obtain ⟨d, hd, hfacts⟩ := Option.map_eq_some_iff.mp hfacts
  obtain ⟨hrounds, hmessages⟩ := Prod.mk.inj hfacts
  have reachable : Reachable offbeat e := .of_afterHistory he
  have hruns : ∀ phase, timesIn phase (e.ticksIn [.tick, .run 4]) 0 =
      (d.alarm phase).runs [0, 1, 2, 3, 4] := by
    intro phase
    rw [← htimes]
    exact (((runs_follow_alarms reachable phase).2.2.2 _).2 [] _ rfl).1 0 d hd
  exact ⟨e, reachable, (hruns .compute).trans hrounds, (hruns .transmit).trans hmessages⟩

end Engine

end SpatialComputer
