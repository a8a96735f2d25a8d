import SpatialComputer.Proofs.Tick.Spawning

/-!
# Alarms

Two phases of a tick wait for a time: a device transmits, and runs a round, when the clock has reached the due time that its timer gave. The two due times of a device are followed through the stages of a tick. Each is looked at once and set anew if it was reached, and nothing else in a tick touches it: not the messages, not the rounds of the other phase, not the displacements.
-/

namespace SpatialComputer

/-- The phases of a tick that a device takes part in when it is due. -/
inductive Phase where
  | transmit
  | compute
deriving DecidableEq

/-- A timer and the time from which on it lets its phase run next. -/
structure Alarm where
  timer : Timer
  due : Float

namespace Alarm

/-- The alarm after a tick at the given time: set anew if it was due. -/
def after (a : Alarm) (time : Float) : Alarm :=
  if a.due ≤ time then { a with due := a.timer.next time } else a

/-- The times at which the phase runs, of those at which the clock is looked at: the first one from the due time on, and after a run at `time` the first later one from `timer.next time` on. -/
def runs (a : Alarm) : List Float → List Float
  | [] => []
  | time :: times =>
    if a.due ≤ time then time :: runs { a with due := a.timer.next time } times else runs a times

theorem after_of_due {a : Alarm} {time : Float} (hdue : a.due ≤ time) :
    a.after time = { a with due := a.timer.next time } :=
  if_pos hdue

theorem after_of_not_due {a : Alarm} {time : Float} (hdue : ¬a.due ≤ time) : a.after time = a :=
  if_neg hdue

theorem runs_cons (a : Alarm) (time : Float) (times : List Float) :
    a.runs (time :: times) =
      List.replicate (if a.due ≤ time then 1 else 0) time ++ (a.after time).runs times := by
  rw [runs]
  by_cases hdue : a.due ≤ time
  · rw [if_pos hdue, if_pos hdue, after_of_due hdue]
    rfl
  · rw [if_neg hdue, if_neg hdue, after_of_not_due hdue]
    rfl

end Alarm

variable {U P : Type} [Processor U P]

def Device.alarm (phase : Phase) (d : Device U) : Alarm :=
  match phase with
  | .transmit => ⟨d.schedule.transmit, d.nextTransmit⟩
  | .compute => ⟨d.schedule.compute, d.nextCompute⟩

omit [Processor U P] in
/-- Two devices wait for the same in both phases if and only if they have the same timers and the same due times. -/
theorem Device.alarm_eq_iff {d d' : Device U} :
    (∀ phase, d'.alarm phase = d.alarm phase) ↔
      d'.schedule = d.schedule ∧ d'.nextTransmit = d.nextTransmit ∧ d'.nextCompute = d.nextCompute := by
  constructor
  · intro h
    obtain ⟨htransmit, hnextTransmit⟩ := Alarm.mk.inj (h .transmit)
    obtain ⟨hcompute, hnextCompute⟩ := Alarm.mk.inj (h .compute)
    refine ⟨?_, hnextTransmit, hnextCompute⟩
    cases hd : d.schedule
    cases hd' : d'.schedule
    rw [hd, hd'] at htransmit hcompute
    exact congrArg₂ Schedule.mk htransmit hcompute
  · rintro ⟨hschedule, hnextTransmit, hnextCompute⟩ phase
    cases phase with
    | transmit => exact congrArg₂ Alarm.mk (congrArg Schedule.transmit hschedule) hnextTransmit
    | compute => exact congrArg₂ Alarm.mk (congrArg Schedule.compute hschedule) hnextCompute

omit [Processor U P] in
theorem Device.transmitDue_iff {d : Device U} {time : Float} :
    d.transmitDue time = true ↔ (d.alarm .transmit).due ≤ time :=
  decide_eq_true_iff

omit [Processor U P] in
theorem Device.computeDue_iff {d : Device U} {time : Float} :
    d.computeDue time = true ↔ (d.alarm .compute).due ≤ time :=
  decide_eq_true_iff

theorem Device.alarm_computeIfDue (time : Float) (d : Device U) :
    (d.computeIfDue time).alarm .compute = (d.alarm .compute).after time := by
  by_cases hdue : (d.alarm .compute).due ≤ time
  · rw [Alarm.after_of_due hdue, Device.computeIfDue, if_pos (Device.computeDue_iff.mpr hdue)]
    rfl
  · rw [Alarm.after_of_not_due hdue, Device.computeIfDue,
      if_neg fun h => hdue (Device.computeDue_iff.mp h)]

theorem Device.alarm_transmit_computeIfDue (time : Float) (d : Device U) :
    (d.computeIfDue time).alarm .transmit = d.alarm .transmit := by
  obtain ⟨_, _, _, _, _, h⟩ := d.computeIfDue_eq time
  rw [h]
  rfl

theorem Device.alarm_actuate (phase : Phase) (speedLimit : Option Float) (bounds : Option Volume)
    (d : Device U) : (d.actuate speedLimit bounds).2.alarm phase = d.alarm phase := by
  obtain ⟨_, _, h⟩ := d.actuate_eq speedLimit bounds
  rw [h]
  cases phase <;> rfl

theorem Device.alarm_settled (phase : Phase) (cloneDelay : Float) (d : Device U) :
    (d.settled cloneDelay).alarm phase = d.alarm phase := by
  obtain ⟨_, _, h⟩ := d.settled_eq cloneDelay
  rw [h]
  cases phase <;> rfl

/-! ### The transmit phase -/

namespace Transmission

/-- A turn looks at the transmit alarm of its device once, and is counted if the alarm was due. -/
theorem step_alarm (time : Float) {s : Transmission U} {i : Nat} {d : Device U}
    (hd : s.devices[i]? = some d) :
    (s.step time i).devices[i]?.map (Device.alarm .transmit) =
        some ((d.alarm .transmit).after time) ∧
      (s.step time i).transmitted =
        s.transmitted + if (d.alarm .transmit).due ≤ time then 1 else 0 := by
  by_cases hdue : (d.alarm .transmit).due ≤ time
  · -- Neither the query nor what is heard touches an alarm; only the last change of a turn does.
    have hasked := NeighborIndex.map_neighborsOf (g := Device.alarm .transmit) (fun _ _ => rfl)
      s.index s.devices i
    have hheard := map_foldl (Device.alarm .transmit) (deliverFrom i)
      (map_deliverFrom (fun _ _ => rfl) i) (s.served i) (s.index.neighborsOf s.devices i).2.2
    have hset := map_modify_comm (g := Device.alarm .transmit)
      (h := fun a : Alarm => { a with due := a.timer.next time })
      (fun d => (rfl : (Device.advanceTransmit time d).alarm .transmit = _))
      ((s.served i).foldl (deliverFrom i) (s.index.neighborsOf s.devices i).2.2) i
    rw [step_of_due hd (Device.transmitDue_iff.mpr hdue), Alarm.after_of_due hdue, if_pos hdue]
    refine ⟨?_, rfl⟩
    rw [← Array.getElem?_map, hset, hheard, hasked, Array.getElem?_modify, if_pos rfl,
      Array.getElem?_map, hd]
    rfl
  · have hnot : d.transmitDue time = false :=
      Bool.eq_false_iff.mpr fun h => hdue (Device.transmitDue_iff.mp h)
    rw [step_of_not_due hd hnot, hd, Alarm.after_of_not_due hdue, if_neg hdue]
    exact ⟨rfl, rfl⟩

end Transmission

namespace Engine

variable {e : Engine U P} {i : Nat} {d : Device U}

private theorem transmissionAt_succ (e : Engine U P) (n : Nat) :
    e.transmissionAt (n + 1) = (e.transmissionAt n).step e.time n :=
  Transmission.upTo_succ _ _ _ n

theorem transmitted_atTurn (hd : e.devices[i]? = some d) :
    (e.transmissionAt (i + 1)).transmitted = (e.transmissionAt i).transmitted +
      if (d.alarm .transmit).due ≤ e.time then 1 else 0 := by
  obtain ⟨d', hd', hsame⟩ := device_atTurn (g := Device.alarm .transmit) (fun _ => rfl) hd
  rw [transmissionAt_succ, (Transmission.step_alarm e.time hd').2, hsame]

theorem transmitAlarm_transmission (hd : e.devices[i]? = some d) :
    ∃ d', e.transmission.devices[i]? = some d' ∧
      d'.alarm .transmit = (d.alarm .transmit).after e.time := by
  have hi : i < e.devices.size := (Array.getElem?_eq_some_iff.mp hd).1
  obtain ⟨atTurn, hturn, hsame⟩ := device_atTurn (g := Device.alarm .transmit) (fun _ => rfl) hd
  have hstep := (Transmission.step_alarm e.time hturn).1
  rw [hsame] at hstep
  obtain ⟨d', hd', halarm⟩ := Option.map_eq_some_iff.mp hstep
  refine ⟨d', ?_, halarm⟩
  rw [transmission, transmissionAt, Transmission.getElem?_upTo_of_lt _ _ _ hi]
  exact hd'

theorem computeAlarm_transmission (hd : e.devices[i]? = some d) :
    ∃ d', e.transmission.devices[i]? = some d' ∧ d'.alarm .compute = d.alarm .compute :=
  exists_of_map_eq (map_transmissionAt ⟨fun _ _ => rfl, fun _ _ => rfl, fun _ _ => rfl⟩
    (fun _ => rfl) e e.devices.size) hd

/-! ### The whole tick -/

/-- When the mutation phase begins both alarms of a device have been looked at once. -/
theorem alarm_afterActuation (hd : e.devices[i]? = some d) {acted : Device U}
    (hacted : e.afterActuation[i]? = some acted) (phase : Phase) :
    acted.alarm phase = (d.alarm phase).after e.time := by
  rw [afterActuation, actuations, actuationPhase, afterRounds, Array.getElem?_map,
    Array.getElem?_map, Array.getElem?_map] at hacted
  cases phase with
  | transmit =>
    obtain ⟨t, ht, halarm⟩ := transmitAlarm_transmission hd
    rw [ht] at hacted
    obtain rfl := Option.some.inj hacted
    rw [Device.alarm_actuate, Device.alarm_transmit_computeIfDue, halarm]
  | compute =>
    obtain ⟨t, ht, halarm⟩ := computeAlarm_transmission hd
    rw [ht] at hacted
    obtain rfl := Option.some.inj hacted
    rw [Device.alarm_actuate, Device.alarm_computeIfDue, halarm]

end Engine

end SpatialComputer
