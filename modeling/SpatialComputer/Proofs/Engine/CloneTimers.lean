import Mathlib.Data.List.Infix
import SpatialComputer.Proofs.Device.Rearming
import SpatialComputer.Proofs.Engine.CloneRate
import SpatialComputer.Proofs.Engine.Radii

/-!
# Clone timers

Clone timers in a running engine. If a device asks for clones only after moderate gaps between its rounds, its timer stays finite, is never negative and holds at most one delay; what it holds after a clone was granted is more than nothing unless the remainder was lost in rounding, and it is used up after a bounded number of requests. Nothing in an accepted configuration makes the gaps moderate, though, and without that a timer may be left at zero or at infinity.
-/

namespace SpatialComputer

open Binary64 Countdown

variable {U P : Type} [Processor U P]

/-- What a device owes when its clone timer has run out. -/
def Device.owed (d : Device U) : Float := -d.countdown.charged

namespace Engine

variable {b : Blueprint P} {e : Engine U P} {i : Nat} {d : Device U} {delay : Float}
  {past : List (Engine U P)}

/-- Whether the clone requests of the device at an index in some ticks are made after moderate gaps. -/
def ModerateGaps (delay : Float) (i : Nat) (ticks : List (Engine U P)) : Prop :=
  ∀ s ∈ ticks, ∀ acted, s.afterActuation[i]? = some acted → acted.requests.clone = true →
    Moderate delay acted.roundElapsed

/-- Whether the device at an index asks for a clone in the next tick, after a gap of at least the given length. -/
def asksAfter (i : Nat) (gap : ℚ) (e : Engine U P) : Bool :=
  e.afterActuation[i]?.any fun acted => acted.requests.clone && decide (gap ≤ toRat acted.roundElapsed)

/-- Whether a granted request leaves the timer of the device at an index as it should: within the delay, above zero exactly if the remainder is not lost in rounding, and above zero after a gap of at most two delays. -/
def RearmsAt (delay : Float) (i : Nat) (e : Engine U P) : Prop :=
  ∃ acted d, e.afterActuation[i]? = some acted ∧ e.runTick.engine.devices[i]? = some d ∧
    WithinDelay delay d.cloneTimer ∧
    (0 < d.cloneTimer ↔ acted.owed < delay * (floor (acted.owed / delay) + 1)) ∧
    (toRat acted.roundElapsed ≤ 2 * toRat delay → 0 < d.cloneTimer)

/-! ### One tick -/

private theorem Sound.paced_runTick (sound : Sound b e) (hdelay : FinitePositive delay)
    (hcloneDelay : e.settings.lifecycle.cloneDelay = delay)
    (hstep : FinitePositive e.settings.engine.stepSize) (hd : e.devices[i]? = some d)
    (paced : Paced delay e.time d.countdown) (hgaps : ModerateGaps delay i [e]) :
    ∃ d', e.runTick.engine.devices[i]? = some d' ∧ Paced delay e.runTick.engine.time d'.countdown ∧
      (e.grantsAt i = true → RearmsAt delay i e) ∧
      (e.grantsAt i = false → toRat d'.cloneTimer ≤ toRat d.cloneTimer ∧
        ∀ gap, 2 ^ (-48 : ℤ) * toRat delay ≤ gap → e.asksAfter i gap = true →
          toRat d'.cloneTimer ≤ toRat d.cloneTimer - gap / 2) := by
  obtain ⟨acted, hacted, -, hsettled⟩ := sound.device_runTick hd
  rw [hcloneDelay] at hsettled
  have hcountdown := countdown_afterActuation hd hacted
  have htimer : acted.cloneTimer = d.cloneTimer := by
    show acted.countdown.timer = d.countdown.timer
    rw [hcountdown]
    split <;> rfl
  have hpaced : Paced delay e.time acted.countdown := by
    rw [hcountdown]
    split
    · exact paced.round
    · exact paced
  have htime : e.runTick.engine.time = e.time + e.settings.engine.stepSize := by rw [runTick_eq]
  have hgrants : e.grantsAt i = (acted.requests.clone && (acted.countdown.request delay).1) := by
    rw [grantsAt, hacted, Option.any_some, hcloneDelay, Device.mayClone,
      (acted.countdown_settleCloneTimer _).1]
  have hasks : ∀ gap, e.asksAfter i gap =
      (acted.requests.clone && decide (gap ≤ toRat acted.roundElapsed)) := by
    intro gap
    rw [asksAfter, hacted, Option.any_some]
  refine ⟨_, hsettled, ?_⟩
  have hafter := acted.countdown_settled delay
  have hleft : (acted.settled delay).cloneTimer = (acted.settled delay).countdown.timer := rfl
  -- Settling charges the timer only if a clone is asked for.
  cases hclone : acted.requests.clone with
  | false =>
    rw [hclone, Bool.false_and] at hgrants
    rw [hclone, if_neg Bool.false_ne_true] at hafter
    rw [hgrants, hleft, hafter, htime]
    refine ⟨hpaced.later hstep, fun h => absurd h Bool.false_ne_true,
      fun _ => ⟨htimer ▸ le_rfl, fun gap _ hask => ?_⟩⟩
    rw [hasks, hclone] at hask
    cases hask
  | true =>
    have hgap : Moderate delay acted.countdown.elapsed :=
      hgaps e List.mem_cons_self acted hacted hclone
    rw [hclone, Bool.true_and] at hgrants
    rw [hclone, if_pos rfl] at hafter
    rw [hgrants, hleft, hafter, htime]
    have hrequest := hpaced.request hdelay hgap
    refine ⟨hrequest.later hstep, fun hgranted => ?_, fun hrefused => ?_⟩
    · obtain ⟨hiff, hfew⟩ := request_of_granted hdelay hpaced hgap hgranted
      refine ⟨acted, _, hacted, hsettled, ?_⟩
      rw [hleft, hafter]
      exact ⟨hrequest.timer, hiff, hfew⟩
    · obtain ⟨hle, hless⟩ := request_of_refused hdelay hpaced hgap hrefused
      have hsame : toRat d.cloneTimer = toRat acted.countdown.timer := congrArg toRat htimer.symm
      rw [hsame]
      refine ⟨hle, fun gap hlow hask => hless gap hlow ?_⟩
      rw [hasks, hclone, Bool.true_and, decide_eq_true_iff] at hask
      exact hask

/-! ### Many ticks -/

/-- Whether the requests in a stretch of ticks, counted if they come after a gap of a given length, have used up no more than was there to begin with. -/
def UsedUp (delay : Float) (i : Nat) (stretch : List (Engine U P)) (left : ℚ) : Prop :=
  (∀ s ∈ stretch, s.grantsAt i = false) → ∀ gap, 2 ^ (-48 : ℤ) * toRat delay ≤ gap →
    stretch.countP (asksAfter i gap) * gap ≤ 2 * (toRat delay * (1 + tolerance) - left)

private theorem usedUp_of_silent {stretch : List (Engine U P)} {left : ℚ}
    (hsilent : ∀ s ∈ stretch, ∀ gap, s.asksAfter i gap = false)
    (hleft : left ≤ toRat delay * (1 + tolerance)) : UsedUp delay i stretch left := by
  intro _ gap _
  have hnone : stretch.countP (asksAfter i gap) = 0 :=
    List.countP_eq_zero.mpr fun s hs => Bool.not_eq_true _ ▸ hsilent s hs gap
  rw [hnone, Nat.cast_zero, zero_mul]
  linarith

private theorem UsedUp.mono {stretch : List (Engine U P)} {left left' : ℚ}
    (h : UsedUp delay i stretch left) (hle : left' ≤ left) : UsedUp delay i stretch left' := by
  intro hquiet gap hgap
  have := h hquiet gap hgap
  linarith

private theorem UsedUp.snoc {stretch : List (Engine U P)} {left left' : ℚ}
    (h : UsedUp delay i stretch left) (hrefused : e.grantsAt i = false → left' ≤ left ∧
      ∀ gap, 2 ^ (-48 : ℤ) * toRat delay ≤ gap → e.asksAfter i gap = true → left' ≤ left - gap / 2) :
    UsedUp delay i (stretch ++ [e]) left' := by
  intro hquiet gap hgap
  have hused := h (fun s hs => hquiet s (List.mem_append_left _ hs)) gap hgap
  obtain ⟨hle, hless⟩ := hrefused (hquiet e (List.mem_append_right _ List.mem_cons_self))
  rw [List.countP_append, List.countP_singleton]
  cases hasks : e.asksAfter i gap with
  | false =>
    rw [if_neg Bool.false_ne_true, Nat.add_zero]
    linarith
  | true =>
    have hless := hless gap hgap hasks
    rw [if_pos rfl, Nat.cast_add, Nat.cast_one]
    linarith

/-- How the device at an index stands after some ticks. -/
private structure Timed (delay : Float) (i : Nat) (past : List (Engine U P)) (e : Engine U P) : Prop where
  paced : ∀ d, e.devices[i]? = some d → Paced delay e.time d.countdown
  absent : e.devices[i]? = none → ∀ s ∈ past, ∀ gap, s.asksAfter i gap = false
  rearms : ∀ s ∈ past, s.grantsAt i = true → RearmsAt delay i s
  used : ∀ stretch, stretch <:+ past → ∀ d, e.devices[i]? = some d →
    UsedUp delay i stretch (toRat d.cloneTimer)
  bounded : ∀ stretch, stretch <:+: past → UsedUp delay i stretch 0

namespace Timed

private theorem of_fresh (hdelay : FinitePositive delay)
    (hfresh : ∀ d, e.devices[i]? = some d → d.countdown = .fresh delay)
    (hsilent : ∀ s ∈ past, ∀ gap, s.asksAfter i gap = false)
    (hrearms : ∀ s ∈ past, s.grantsAt i = true → RearmsAt delay i s) : Timed delay i past e := by
  have hpaced := Paced.fresh hdelay e.time
  have hwithin : WithinDelay delay delay := hpaced.timer
  refine ⟨fun d hd => ?_, fun _ => hsilent, hrearms, fun stretch hstretch d hd => ?_,
    fun stretch hstretch => ?_⟩
  · rw [hfresh d hd]
    exact hpaced
  · have htimer : d.cloneTimer = delay := congrArg Countdown.timer (hfresh d hd)
    rw [htimer]
    exact usedUp_of_silent (fun s hs => hsilent s (hstretch.subset hs)) hwithin.le
  · exact usedUp_of_silent (fun s hs => hsilent s (hstretch.subset hs)) (hwithin.nonneg.trans hwithin.le)

private theorem of_built (hdelay : FinitePositive delay) (hcloneDelay : b.settings.lifecycle.cloneDelay = delay)
    {events : List (Event U)} (h : b.build = (.ok e, events)) (i : Nat) : Timed delay i [] e := by
  refine of_fresh hdelay (fun d hd => ?_) (fun s hs => absurd hs List.not_mem_nil)
    fun s hs => absurd hs List.not_mem_nil
  have built := Blueprint.built_of_build h
  obtain ⟨position, schedule, firstDue, hcreated⟩ := built.created d (Array.mem_of_getElem? hd)
  rw [hcreated, ← hcloneDelay]
  rfl

private theorem runTick (timed : Timed delay i past e) (sound : Sound b e) (hdelay : FinitePositive delay)
    (hcloneDelay : b.settings.lifecycle.cloneDelay = delay)
    (hstep : FinitePositive b.settings.engine.stepSize) (hgaps : ModerateGaps delay i [e]) :
    Timed delay i (past ++ [e]) e.runTick.engine := by
  rw [← sound.settings] at hcloneDelay hstep
  cases hd : e.devices[i]? with
  | some d =>
    obtain ⟨d', hd', hpaced, hgranted, hrefused⟩ :=
      sound.paced_runTick hdelay hcloneDelay hstep hd (timed.paced d hd) hgaps
    -- A stretch that ends with this tick has it added to a stretch that ended before it, or is empty.
    have hused : ∀ stretch, stretch <:+ past ++ [e] → UsedUp delay i stretch (toRat d'.cloneTimer) := by
      intro stretch hstretch
      rcases List.suffix_concat_iff.mp hstretch with rfl | ⟨earlier, rfl, hearlier⟩
      · exact usedUp_of_silent (fun s hs => absurd hs List.not_mem_nil) hpaced.timer.le
      · exact (timed.used earlier hearlier d hd).snoc hrefused
    refine ⟨fun d'' hd'' => ?_, fun hnone => ?_, fun s hs => ?_, fun stretch hstretch d'' hd'' => ?_,
      fun stretch hstretch => ?_⟩
    · obtain rfl := Option.some.inj (hd'.symm.trans hd'')
      exact hpaced
    · rw [hd'] at hnone
      cases hnone
    · rcases List.mem_append.mp hs with hs | hs
      · exact timed.rearms s hs
      · obtain rfl := List.mem_singleton.mp hs
        exact hgranted
    · obtain rfl := Option.some.inj (hd'.symm.trans hd'')
      exact hused stretch hstretch
    · rcases List.infix_concat_iff.mp hstretch with hsuffix | hinfix
      · exact (hused stretch hsuffix).mono hpaced.timer.nonneg
      · exact timed.bounded stretch hinfix
  | none =>
    -- The device is missing, or it is a clone of this tick and as fresh as one that was just built.
    have hacted := afterActuation_of_absent hd
    have hsilent : ∀ s ∈ past ++ [e], ∀ gap, s.asksAfter i gap = false := by
      intro s hs gap
      rcases List.mem_append.mp hs with hs | hs
      · exact timed.absent hd s hs gap
      · obtain rfl := List.mem_singleton.mp hs
        rw [asksAfter, hacted, Option.any_none]
    refine of_fresh hdelay (fun d' hd' => ?_) hsilent fun s hs => ?_
    · rcases sound.device_runTick_cases hd' with ⟨d, hpresent⟩ | ⟨_, parent, offset, -, -, -, rfl⟩
      · rw [hd] at hpresent
        cases hpresent
      · rw [← hcloneDelay]
        rfl
    · rcases List.mem_append.mp hs with hs | hs
      · exact timed.rearms s hs
      · obtain rfl := List.mem_singleton.mp hs
        rw [grantsAt, hacted, Option.any_none]
        exact fun h => absurd h Bool.false_ne_true

private theorem between {e' : Engine U P} (timed : Timed delay i past e) (h : Between e e') :
    Timed delay i past e' := by
  have hsame : ∀ d', e'.devices[i]? = some d' → ∃ d, e.devices[i]? = some d ∧ d'.countdown = d.countdown := by
    intro d' hd'
    obtain ⟨d, hd, hsame⟩ := h.device_before lasting_countdown hd'
    exact ⟨d, hd, hsame.symm⟩
  refine ⟨fun d' hd' => ?_, fun hnone => timed.absent ?_, timed.rearms, fun stretch hstretch d' hd' => ?_,
    timed.bounded⟩
  · obtain ⟨d, hd, hcountdown⟩ := hsame d' hd'
    rw [hcountdown, h.time]
    exact timed.paced d hd
  · cases hd : e.devices[i]? with
    | none => rfl
    | some d =>
      obtain ⟨d', hd', -⟩ := h.device lasting_countdown hd
      rw [hd'] at hnone
      cases hnone
  · obtain ⟨d, hd, hcountdown⟩ := hsame d' hd'
    have htimer : d'.cloneTimer = d.cloneTimer := congrArg Countdown.timer hcountdown
    rw [htimer]
    exact timed.used stretch hstretch d hd

end Timed

/-- A device that asks for clones only after moderate gaps has a timer that is finite, not negative and within the delay after every history. In every tick in which a request is granted the timer is armed again: what it then holds is more than nothing exactly if the remainder is not lost in rounding, which a gap of at most two delays ensures. And it runs out again: in a stretch of ticks without a grant, the requests after gaps of some length that is not negligible against the delay are no more than fit into four delays. -/
theorem clone_timer_rearmed {start : Engine U P} {events : List (Event U)}
    (hbuild : b.build = (.ok start, events)) (hdelay : 0 < b.settings.lifecycle.cloneDelay)
    (ops : List Operation) (i : Nat)
    (hgaps : ModerateGaps b.settings.lifecycle.cloneDelay i (start.ticksIn ops)) :
    (∀ d, (start.performAll ops).devices[i]? = some d →
      WithinDelay b.settings.lifecycle.cloneDelay d.cloneTimer) ∧
    (∀ s ∈ start.ticksIn ops, s.grantsAt i = true → RearmsAt b.settings.lifecycle.cloneDelay i s) ∧
    ∀ stretch, stretch <:+: start.ticksIn ops → (∀ s ∈ stretch, s.grantsAt i = false) →
      ∀ gap, 2 ^ (-48 : ℤ) * toRat b.settings.lifecycle.cloneDelay ≤ gap →
        stretch.countP (asksAfter i gap) * gap ≤ 4 * toRat b.settings.lifecycle.cloneDelay := by
  have accepted := Settings.accepted_of_validate (Blueprint.built_of_build hbuild).valid
  have hstep := finitePositive_of_isFinitePositive accepted.stepSize
  have hfinite := (Bool.and_eq_true_iff.mp accepted.cloneDelay).1
  rw [lt_iff isFinite_zero hfinite, toRat_zero] at hdelay
  have hpositive : FinitePositive b.settings.lifecycle.cloneDelay := ⟨hfinite, hdelay⟩
  -- The gaps are moderate in all ticks of the history, so the induction over the course takes that
  -- of the ticks so far as a premise.
  let holds : List (Engine U P) → Engine U P → Prop := fun past e =>
    ModerateGaps b.settings.lifecycle.cloneDelay i past → Timed b.settings.lifecycle.cloneDelay i past e
  have htick : ∀ {past : List (Engine U P)} {e : Engine U P}, Sound b e → holds past e →
      holds (past ++ [e]) e.runTick.engine := by
    intro past e sound h hgaps
    have htimed := h fun s hs => hgaps s (List.mem_append_left _ hs)
    exact htimed.runTick sound hpositive rfl hstep fun s hs => hgaps s (List.mem_append_right _ hs)
  have htimed : holds ([] ++ start.ticksIn ops) (start.performAll ops) :=
    (course_performAll ops start).accumulate holds htick (fun h timed hgaps => (timed hgaps).between h)
      (Reachable.built hbuild).sound fun _ => .of_built hpositive rfl hbuild i
  have htimed := htimed hgaps
  refine ⟨fun d hd => (htimed.paced d hd).timer, htimed.rearms, ?_⟩
  intro stretch hstretch hquiet gap hgap
  have hused := htimed.bounded stretch hstretch hquiet gap hgap
  have htolerance : 1 + tolerance ≤ 2 := by norm_num [tolerance]
  have hbound := mul_le_mul_of_nonneg_left htolerance hdelay.le
  linarith

/-- A device with a delay of one and a half that asks in the second and the third of three ticks, one time unit apart, is granted the second request and has to wait again. -/
theorem clone_timer_rearmed_patient :
    ∃ (start : Engine ScriptedProcessor Program) (events : List (Event ScriptedProcessor)) (ops : List Operation)
      (s : Engine ScriptedProcessor Program) (d : Device ScriptedProcessor),
      patient.build = (.ok start, events) ∧ 0 < patient.settings.lifecycle.cloneDelay ∧
      ModerateGaps patient.settings.lifecycle.cloneDelay 0 (start.ticksIn ops) ∧
      s ∈ start.ticksIn ops ∧ s.grantsAt 0 = true ∧ s.runTick.engine.devices[0]? = some d ∧
      0 < d.cloneTimer ∧ WithinDelay patient.settings.lifecycle.cloneDelay d.cloneTimer := by
  let ops : List Operation := [.tick, .requestClone 1, .tick, .requestClone 1, .tick]
  have hfacts : (patient.build (U := ScriptedProcessor)).1.toOption.map (fun start =>
      ((start.ticksIn ops).all fun s => s.afterActuation[0]?.all fun acted =>
        !acted.requests.clone || decide (acted.roundElapsed = 1),
      (start.ticksIn ops)[2]?.map (grantsAt · 0))) = some (true, some true) := by decide +kernel
  rcases hbuild : patient.build (U := ScriptedProcessor) with ⟨_ | start, events⟩
  · rw [hbuild] at hfacts
    cases hfacts
  · rw [hbuild] at hfacts
    obtain ⟨hgaps, hthird⟩ := Prod.mk.inj (Option.some.inj hfacts)
    obtain ⟨s, hs, hgranted⟩ := Option.map_eq_some_iff.mp hthird
    have hmem := List.mem_of_getElem? hs
    have hgap : ∀ s ∈ start.ticksIn ops, ∀ acted, s.afterActuation[0]? = some acted →
        acted.requests.clone = true → acted.roundElapsed = 1 := by
      intro s hs acted hacted hclone
      have h := List.all_eq_true.mp hgaps s hs
      rw [hacted, Option.all_some, hclone] at h
      simpa using h
    have hdelay : patient.settings.lifecycle.cloneDelay.isFinite = true ∧
        toRat patient.settings.lifecycle.cloneDelay = 3 / 2 := by
      have hvalue : value patient.settings.lifecycle.cloneDelay = .finite false (3 * 2 ^ 51) (-52) := by
        decide +kernel
      refine ⟨(toRat_of_value hvalue).1, ?_⟩
      rw [(toRat_of_value hvalue).2]
      norm_num
    have hpositive : 0 < patient.settings.lifecycle.cloneDelay := by
      rw [lt_iff isFinite_zero hdelay.1, toRat_zero, hdelay.2]
      norm_num
    have hmoderate : ModerateGaps patient.settings.lifecycle.cloneDelay 0 (start.ticksIn ops) := by
      intro s hs acted hacted hclone
      rw [hgap s hs acted hacted hclone]
      refine ⟨isFinite_one, ?_, ?_⟩
      · rw [toRat_one, hdelay.2]
        norm_num
      · rw [toRat_one]
        exact one_le_pow₀ one_le_two
    obtain ⟨acted, d, hacted, hd, hwithin, -, hfew⟩ :=
      (clone_timer_rearmed hbuild hpositive ops 0 hmoderate).2.1 s hmem hgranted
    have hclone : acted.requests.clone = true := by
      rw [grantsAt, hacted, Option.any_some] at hgranted
      exact Device.asked_of_mayClone hgranted
    refine ⟨start, events, ops, s, d, rfl, hpositive, hmoderate, hmem, hgranted, hd, hfew ?_, hwithin⟩
    rw [hgap s hmem acted hacted hclone, toRat_one, hdelay.2]
    norm_num

def stepping (delay step : Float) : Blueprint Program where
  settings := {
    engine := { seed := some 1, stepSize := step }
    population := { size := 1, distribution := .explicit [⟨0, 0, 0⟩] }
    lifecycle := { cloneDelay := delay } }
  program := .idle

private def secondTick (b : Blueprint Program) : Option (Bool × Float) :=
  (afterHistory b [.tick, .requestClone 1]).bind fun e : Engine ScriptedProcessor Program =>
    e.runTick.engine.devices[0]?.map fun d => (e.grantsAt 0, d.cloneTimer)

/-- With accepted settings a timer may be left at zero by the request that should arm it, or be armed for good. -/
theorem clone_timer_lost_stepping :
    ((stepping 1.3333333333333335 5.333333333333334).settings.validate = .ok () ∧
      ∃ (e : Engine ScriptedProcessor Program) (d : Device ScriptedProcessor),
        Reachable (stepping 1.3333333333333335 5.333333333333334) e ∧ e.grantsAt 0 = true ∧
        e.runTick.engine.devices[0]? = some d ∧ ¬0 < d.cloneTimer) ∧
    (stepping 1e-300 1e10).settings.validate = .ok () ∧
      ∃ (e : Engine ScriptedProcessor Program) (d : Device ScriptedProcessor),
        Reachable (stepping 1e-300 1e10) e ∧ e.grantsAt 0 = true ∧
        e.runTick.engine.devices[0]? = some d ∧ d.cloneTimer.isFinite = false := by
  have hseen : ∀ (b : Blueprint Program) (see : Float → Bool),
      (secondTick b).map (fun seen => (seen.1, see seen.2)) = some (true, true) →
      ∃ (e : Engine ScriptedProcessor Program) (d : Device ScriptedProcessor), Reachable b e ∧
        e.grantsAt 0 = true ∧ e.runTick.engine.devices[0]? = some d ∧ see d.cloneTimer = true := by
    intro b see h
    obtain ⟨⟨granted, timer⟩, h, hsees⟩ := Option.map_eq_some_iff.mp h
    obtain ⟨hgranted, hsees⟩ := Prod.mk.inj hsees
    obtain ⟨e, he, h⟩ := Option.bind_eq_some_iff.mp h
    obtain ⟨d, hd, h⟩ := Option.map_eq_some_iff.mp h
    obtain ⟨rfl, rfl⟩ := Prod.mk.inj h
    exact ⟨e, d, .of_afterHistory he, hgranted, hd, hsees⟩
  refine ⟨⟨by decide +kernel, ?_⟩, by decide +kernel, ?_⟩
  · obtain ⟨e, d, reachable, hgranted, hd, hnone⟩ := hseen (stepping 1.3333333333333335 5.333333333333334)
      (fun timer => !decide (0 < timer)) (by decide +kernel)
    exact ⟨e, d, reachable, hgranted, hd, by simpa using hnone⟩
  · obtain ⟨e, d, reachable, hgranted, hd, hinfinite⟩ := hseen (stepping 1e-300 1e10)
      (fun timer => !timer.isFinite) (by decide +kernel)
    exact ⟨e, d, reachable, hgranted, hd, by simpa using hinfinite⟩

end Engine

end SpatialComputer
