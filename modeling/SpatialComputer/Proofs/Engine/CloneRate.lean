import SpatialComputer.Proofs.Device.Countdown
import SpatialComputer.Proofs.Engine.Offspring
import SpatialComputer.Proofs.Engine.Schedules

/-!
# The rate of clones

The countdown of a device is told by its rounds and its requests: each tick enters the round of the device, if it runs one, and then its clone request, if one is pending. So what holds of a countdown after all sequences of rounds and requests holds of every device after every history, up to the rounding of its three numbers.
-/

namespace SpatialComputer

open Countdown (Ledger ledger)

variable {U P : Type} [Processor U P]

theorem lasting_countdown : Lasting (Device.countdown (U := U)) :=
  ⟨fun _ _ => rfl, fun _ _ _ => rfl, fun _ _ => rfl, fun _ _ => rfl⟩

theorem Device.countdown_computeIfDue (time : Float) (d : Device U) :
    (d.computeIfDue time).countdown =
      if (d.alarm .compute).due ≤ time then d.countdown.round time else d.countdown := by
  rw [computeIfDue, apply_ite Device.countdown, countdown_runRound]
  simp only [computeDue_iff]

theorem Device.countdown_settled (delay : Float) (d : Device U) :
    (d.settled delay).countdown =
      if d.requests.clone then (d.countdown.request delay).2 else d.countdown := by
  rw [settled, settleCloneRequest, apply_ite Prod.snd, apply_ite Device.countdown,
    (countdown_settleCloneTimer _ _).2]
  rfl

namespace Engine

variable {b : Blueprint P} {e : Engine U P} {i : Nat} {d : Device U}

/-- Whether the device at an index is granted a clone request in the next tick, whether or not there is room for a clone. -/
def grantsAt (e : Engine U P) (i : Nat) : Bool :=
  e.afterActuation[i]?.any (Device.mayClone e.settings.lifecycle.cloneDelay)

/-- What happens to the countdown of the device at an index in the next tick. -/
def countdownInTick (i : Nat) (e : Engine U P) : List (Countdown.Action Float) :=
  List.replicate (e.runsInTick .compute i) (.round e.time) ++
    List.replicate (e.claimsAt i).toNat .request

theorem countdown_afterActuation (hd : e.devices[i]? = some d) {acted : Device U}
    (hacted : e.afterActuation[i]? = some acted) :
    acted.countdown =
      if (d.alarm .compute).due ≤ e.time then d.countdown.round e.time else d.countdown := by
  have hunheard : Unheard fun d : Device U => (d.countdown, d.alarm .compute) :=
    ⟨fun _ _ => rfl, fun _ _ => rfl, fun _ _ => rfl⟩
  obtain ⟨heard, hheard, hsame⟩ :=
    exists_of_map_eq (map_transmissionAt hunheard (fun _ => rfl) e e.devices.size) hd
  obtain ⟨hcountdown, halarm⟩ := Prod.mk.inj hsame
  have hheard : e.transmission.devices[i]? = some heard := hheard
  rw [afterActuation, actuations, actuationPhase, afterRounds, Array.getElem?_map,
    Array.getElem?_map, Array.getElem?_map, hheard] at hacted
  obtain rfl := Option.some.inj hacted
  obtain ⟨processor, position, h⟩ := (heard.computeIfDue e.time).actuate_eq e.settings.dynamics.speedLimit
    (if e.settings.dynamics.bounded then some e.settings.population.volume else none)
  have hsame : (Device.actuate e.settings.dynamics.speedLimit
      (if e.settings.dynamics.bounded then some e.settings.population.volume else none)
      (heard.computeIfDue e.time)).2.countdown = (heard.computeIfDue e.time).countdown := by
    rw [h]
    rfl
  rw [hsame, Device.countdown_computeIfDue, hcountdown, halarm]

theorem Sound.countdown_runTick (sound : Sound b e) (hd : e.devices[i]? = some d) {l : Ledger Float}
    (hl : l.toCountdown = d.countdown) :
    let l' := (e.countdownInTick i).foldl (Ledger.enter e.settings.lifecycle.cloneDelay) l
    ∃ d', e.runTick.engine.devices[i]? = some d' ∧ d'.countdown = l'.toCountdown ∧
      l'.granted = l.granted + (e.grantsAt i).toNat := by
  intro l'
  obtain ⟨acted, hacted, -, hsettled⟩ := sound.device_runTick hd
  have hcountdown := countdown_afterActuation hd hacted
  have hround : ((List.replicate (e.runsInTick .compute i) (.round e.time)).foldl
      (Ledger.enter e.settings.lifecycle.cloneDelay) l) = { l with toCountdown := acted.countdown } := by
    rw [sound.runsInTick_eq hd, hcountdown, ← hl]
    split <;> rfl
  have hl' : l' = (List.replicate (e.claimsAt i).toNat .request).foldl
      (Ledger.enter e.settings.lifecycle.cloneDelay) { l with toCountdown := acted.countdown } := by
    rw [← hround, ← List.foldl_append]
    rfl
  have hclaims : e.claimsAt i = acted.requests.clone := by rw [claimsAt, hacted, Option.any_some]
  have hgrants : e.grantsAt i = acted.mayClone e.settings.lifecycle.cloneDelay := by
    rw [grantsAt, hacted, Option.any_some]
  refine ⟨_, hsettled, ?_⟩
  rw [Device.countdown_settled, hl', hclaims, hgrants, Device.mayClone,
    (acted.countdown_settleCloneTimer _).1]
  cases acted.requests.clone with
  | false => exact ⟨rfl, rfl⟩
  | true => exact ⟨rfl, rfl⟩

theorem afterActuation_of_absent (habsent : e.devices[i]? = none) :
    e.afterActuation[i]? = none := by
  have hids := congrArg Array.size (map_id_afterActuation e)
  rw [Array.size_map, Array.size_map] at hids
  rw [Array.getElem?_eq_none_iff] at habsent ⊢
  omega

private theorem Sound.countdownInTick_of_absent (sound : Sound b e) (habsent : e.devices[i]? = none) :
    e.countdownInTick i = [] ∧ e.grantsAt i = false := by
  have hheard : e.transmission.devices[i]? = none := by
    have hids := congrArg Array.size (sites_transmission e)
    rw [sites, sites, Array.size_map, Array.size_map] at hids
    rw [Array.getElem?_eq_none_iff] at habsent ⊢
    omega
  have hruns : e.runsInTick .compute i = 0 := by
    rw [sound.rounds_eq_count, List.count_eq_zero, mem_dueIndices, hheard]
    simp
  rw [countdownInTick, hruns, claimsAt, grantsAt, afterActuation_of_absent habsent]
  exact ⟨rfl, rfl⟩

/-- How the countdown of the device at an index stands after some ticks. As long as there is no such device nothing has happened to it. -/
private structure Told (b : Blueprint P) (i : Nat) (past : List (Engine U P)) (e : Engine U P) : Prop where
  countdown : ∀ d, e.devices[i]? = some d →
    d.countdown = (ledger b.settings.lifecycle.cloneDelay (past.flatMap (countdownInTick i))).toCountdown
  absent : e.devices[i]? = none → past.flatMap (countdownInTick i) = []
  granted : (ledger b.settings.lifecycle.cloneDelay (past.flatMap (countdownInTick i))).granted =
    past.countP (grantsAt · i)

namespace Told

variable {past : List (Engine U P)}

private theorem of_built {events : List (Event U)} (h : b.build = (.ok e, events)) (i : Nat) :
    Told b i [] e := by
  refine ⟨fun d hd => ?_, fun _ => rfl, rfl⟩
  have built := Blueprint.built_of_build h
  obtain ⟨position, schedule, firstDue, hcreated⟩ := built.created d (Array.mem_of_getElem? hd)
  rw [hcreated]
  rfl

private theorem runTick (told : Told b i past e) (sound : Sound b e) :
    Told b i (past ++ [e]) e.runTick.engine := by
  have hactions : (past ++ [e]).flatMap (countdownInTick i) =
      past.flatMap (countdownInTick i) ++ e.countdownInTick i := by simp
  have hcount : (past ++ [e]).countP (grantsAt · i) = past.countP (grantsAt · i) + (e.grantsAt i).toNat := by
    rw [List.countP_append, List.countP_singleton]
    cases e.grantsAt i <;> rfl
  cases hd : e.devices[i]? with
  | some d =>
    obtain ⟨d', hd', hcountdown, hgranted⟩ :=
      sound.countdown_runTick hd (told.countdown d hd).symm
    rw [sound.settings, ledger, ← List.foldl_append, ← hactions] at hcountdown hgranted
    refine ⟨fun d'' hd'' => ?_, fun hnone => ?_, ?_⟩
    · rwa [← Option.some.inj (hd'.symm.trans hd'')]
    · rw [hd'] at hnone
      cases hnone
    · rw [hcount, ← told.granted]
      exact hgranted
  | none =>
    -- A clone of this tick has a fresh countdown, which is what nothing told so far amounts to.
    obtain ⟨hnothing, hrefused⟩ := sound.countdownInTick_of_absent hd
    rw [told.absent hd, hnothing, List.append_nil] at hactions
    refine ⟨fun d' hd' => ?_, fun _ => hactions, ?_⟩
    · rw [hactions]
      rcases sound.device_runTick_cases hd' with ⟨d, hpresent⟩ | ⟨_, parent, offset, -, -, -, rfl⟩
      · rw [hd] at hpresent
        cases hpresent
      · rw [← sound.settings]
        rfl
    · have hgranted := told.granted
      rw [told.absent hd] at hgranted
      rw [hactions, hcount, ← hgranted, hrefused]
      rfl

private theorem between {e' : Engine U P} (told : Told b i past e) (h : Between e e') : Told b i past e' := by
  refine ⟨fun d' hd' => ?_, fun hnone => told.absent ?_, told.granted⟩
  · obtain ⟨d, hd, hsame⟩ := h.device_before lasting_countdown hd'
    rw [← hsame, told.countdown d hd]
  · cases hd : e.devices[i]? with
    | none => rfl
    | some d =>
      obtain ⟨d', hd', -⟩ := h.device lasting_countdown hd
      rw [hd'] at hnone
      cases hnone

end Told

/-- After every history the countdown of every device is the one that its rounds and requests tell, and as many requests were granted as this countdown grants. -/
theorem countdown_performAll {start : Engine U P} {events : List (Event U)}
    (hbuild : b.build = (.ok start, events)) (ops : List Operation)
    (hd : (start.performAll ops).devices[i]? = some d) :
    let l := ledger b.settings.lifecycle.cloneDelay ((start.ticksIn ops).flatMap (countdownInTick i))
    d.countdown = l.toCountdown ∧ l.granted = (start.ticksIn ops).countP (grantsAt · i) := by
  have told : Told b i ([] ++ start.ticksIn ops) (start.performAll ops) :=
    (course_performAll ops start).accumulate (Told b i) (fun sound told => told.runTick sound)
      (fun h told => told.between h) (Reachable.built hbuild).sound (.of_built hbuild i)
  exact ⟨told.countdown d hd, told.granted⟩

/-- The countdown of a device is the one that its rounds and requests tell, over doubles. Read over the rationals, with any delay, rounds at any times that do not decrease and requests at any points in between, it grants no more requests than there are delays between the first and the latest round, after every step. What the requests were charged with and what is not charged yet together are no more than that time, a second request with no round in between is refused and changes nothing, and the timer holds more than nothing and no more than one delay. -/
theorem clone_rate_bounded :
    (∀ {U P : Type} [Processor U P] {b : Blueprint P} {start : Engine U P} {events : List (Event U)},
      b.build = (.ok start, events) → ∀ (ops : List Operation) (i : Nat) (d : Device U),
        (start.performAll ops).devices[i]? = some d →
        let l := ledger b.settings.lifecycle.cloneDelay
          ((start.ticksIn ops).flatMap (countdownInTick i))
        d.countdown = l.toCountdown ∧ l.granted = (start.ticksIn ops).countP (grantsAt · i)) ∧
    ∀ delay : ℚ, 0 < delay → ∀ actions : List (Countdown.Action ℚ),
      (Countdown.times actions).Pairwise (· ≤ ·) →
      let l := ledger delay actions
      l.granted * delay ≤ Countdown.span (Countdown.times actions) ∧
      l.charges.sum + l.elapsed ≤ Countdown.span (Countdown.times actions) ∧
      (∀ earlier, actions = earlier ++ [.request] →
        l.toCountdown.charge = 0 ∧ l.toCountdown.request delay = (false, l.toCountdown)) ∧
      0 < l.timer ∧ l.timer ≤ delay := by
  refine ⟨fun hbuild ops i d hd => countdown_performAll hbuild ops hd, ?_⟩
  intro delay hdelay actions hsorted l
  have solvent := Countdown.solvent_ledger hdelay actions hsorted
  have hpaid := solvent.paid
  have honce := solvent.once
  have htimer := solvent.timer_le
  have helapsed := solvent.elapsed_nonneg
  refine ⟨?_, honce, ?_, solvent.timer_pos, htimer⟩
  · linarith
  · rintro earlier rfl
    rw [Countdown.times_append_request] at hsorted
    exact Countdown.request_again hdelay hsorted

/-- Rounds every half time unit, each with a request, as one device makes them in eleven ticks. -/
def halfSteps : List (Countdown.Action ℚ) :=
  (List.range 11).flatMap fun k => [.round (k / 2), .request]

def patient : Blueprint Program where
  settings := {
    engine := { seed := some 1 }
    population := { size := 1, distribution := .explicit [⟨0, 0, 0⟩] }
    lifecycle := { cloneDelay := 1.5 } }
  program := .idle

/-- With a delay of one and a half, three of the eleven requests in five time units are granted. A device that asks in three ticks, one time unit apart, has one time unit left to wait. -/
theorem clone_rate_bounded_halfSteps :
    ((Countdown.times halfSteps).Pairwise (· ≤ ·) ∧ (ledger (3 / 2 : ℚ) halfSteps).granted = 3 ∧
      (3 : ℚ) * (3 / 2) ≤ 5 ∧ (ledger (3 / 2 : ℚ) halfSteps).timer = 1) ∧
    ∃ (start : Engine ScriptedProcessor Program) (events : List (Event ScriptedProcessor))
      (ops : List Operation) (d : Device ScriptedProcessor), patient.build = (.ok start, events) ∧
      (start.performAll ops).devices[0]? = some d ∧ d.cloneTimer = 1 ∧
      (ledger patient.settings.lifecycle.cloneDelay
        ((start.ticksIn ops).flatMap (countdownInTick 0))).timer = 1 := by
  have hfacts : (Countdown.times halfSteps).Pairwise (· ≤ ·) ∧
      (ledger (3 / 2 : ℚ) halfSteps).granted = 3 ∧ Countdown.span (Countdown.times halfSteps) = 5 ∧
      (ledger (3 / 2 : ℚ) halfSteps).timer = 1 := by decide +kernel
  obtain ⟨hsorted, hgranted, hspan, htimer⟩ := hfacts
  have hrate := (clone_rate_bounded.2 (3 / 2) (by norm_num) halfSteps hsorted).1
  rw [hgranted, hspan] at hrate
  refine ⟨⟨hsorted, hgranted, mod_cast hrate, htimer⟩, ?_⟩
  let ops : List Operation := (List.range 3).flatMap fun _ => [.requestClone 1, .tick]
  have hseen : (afterHistory patient ops).bind (fun e : Engine ScriptedProcessor Program =>
      e.devices[0]?.map fun d => decide (d.cloneTimer = 1)) = some true := by
    decide +kernel
  obtain ⟨e, he, hseen⟩ := Option.bind_eq_some_iff.mp hseen
  obtain ⟨d, hd, hleft⟩ := Option.map_eq_some_iff.mp hseen
  obtain ⟨start, events, hbuild, rfl⟩ := afterHistory_eq_some he
  have hleft : d.cloneTimer = 1 := of_decide_eq_true hleft
  have htold := (clone_rate_bounded.1 hbuild ops 0 d hd).1
  exact ⟨start, events, ops, d, hbuild, hd, hleft, (congrArg Countdown.timer htold).symm.trans hleft⟩

end Engine

end SpatialComputer
