import SpatialComputer.Proofs.Binary64.Order
import SpatialComputer.Proofs.Engine.Identity
import SpatialComputer.Proofs.Engine.Offspring
import SpatialComputer.Proofs.Engine.Schedules
import SpatialComputer.Proofs.Program.Rounds

/-!
# Division

A device that runs the dividing program asks for a clone once, in the first of its rounds that is late enough, and remembers that it has. The clone is made of what the processor is after that round, so it remembers as well and never asks. Whether a delay or a limit eats the request makes no difference to that. So each initial device accounts for one clone or one dropped request at most, in whatever history nobody else asks for clones.
-/

namespace SpatialComputer

/-! ### Single devices -/

/-- What division depends on. -/
structure Standing where
  program : Program
  parent : Option DeviceId
  divided : Bool
  /-- Whether the processor has a request that it has not handed over. -/
  held : Bool
  asked : Bool

namespace Standing

variable {s : Standing} {atTime : Float}

/-- What holds of every device between two ticks. -/
structure Dividing (atTime : Float) (s : Standing) : Prop where
  program : s.program = .divide atTime
  held : s.held = false
  asked : s.asked = false
  heir : s.parent ≠ none → s.divided = true

/-- Whether an initial device has made its request. -/
def spent (s : Standing) : Bool := s.parent.isNone && s.divided

/-- The standing when the mutation phase begins, of a device that was or was not due. -/
def acted (atTime time : Float) (due : Bool) (s : Standing) : Standing :=
  if due && !s.divided && decide (atTime ≤ time) then { s with divided := true, asked := true } else s

def settled (s : Standing) : Standing := { s with asked := false }

/-- The standing of a clone. -/
def heir (atTime : Float) (parent : DeviceId) : Standing where
  program := .divide atTime
  parent := some parent
  divided := true
  held := false
  asked := false

theorem heir_dividing (atTime : Float) (parent : DeviceId) : (heir atTime parent).Dividing atTime :=
  ⟨rfl, rfl, rfl, fun _ => rfl⟩

@[simp] theorem parent_acted (time : Float) (due : Bool) : (s.acted atTime time due).parent = s.parent := by
  unfold acted
  split <;> rfl

theorem divided_acted_of_divided (time : Float) (due : Bool) (h : s.divided = true) :
    (s.acted atTime time due).divided = true := by
  unfold acted
  split
  · rfl
  · exact h

theorem divided_acted_of_due {time : Float} (htime : atTime ≤ time) :
    (s.acted atTime time true).divided = true := by
  cases hdivided : s.divided with
  | true => exact divided_acted_of_divided time true hdivided
  | false => simp [acted, hdivided, htime]

theorem Dividing.settled_acted (dividing : s.Dividing atTime) (time : Float) (due : Bool) :
    (s.acted atTime time due).settled.Dividing atTime := by
  unfold acted
  split
  · exact ⟨dividing.program, dividing.held, rfl, fun _ => rfl⟩
  · exact ⟨dividing.program, dividing.held, rfl, dividing.heir⟩

theorem Dividing.divided_of_asked (dividing : s.Dividing atTime) {time : Float} {due : Bool}
    (h : (s.acted atTime time due).asked = true) : (s.acted atTime time due).divided = true := by
  by_cases hasks : (due && !s.divided && decide (atTime ≤ time)) = true
  · rw [acted, if_pos hasks]
  · rw [acted, if_neg hasks, dividing.asked] at h
    cases h

theorem Dividing.spent_acted (dividing : s.Dividing atTime) (time : Float) (due : Bool) :
    s.spent.toNat + (s.acted atTime time due).asked.toNat = (s.acted atTime time due).spent.toNat := by
  unfold acted
  split
  · rename_i hasks
    have hfresh : s.divided = false := by
      rw [Bool.and_eq_true, Bool.and_eq_true, Bool.not_eq_true'] at hasks
      exact hasks.1.2
    have hinitial : s.parent = none := by
      by_contra hparent
      rw [dividing.heir hparent] at hfresh
      cases hfresh
    simp [spent, hfresh, hinitial]
  · rw [dividing.asked]
    rfl

end Standing

namespace Device

variable {d : Device ScriptedProcessor} {atTime : Float}

def standing (d : Device ScriptedProcessor) : Standing where
  program := d.processor.program
  parent := d.parent
  divided := d.processor.divided
  held := d.processor.requests.clone
  asked := d.requests.clone

theorem steady_standing : Steady standing :=
  ⟨fun _ _ => rfl, fun _ _ _ => rfl, fun _ _ => rfl, fun _ => rfl⟩

private theorem standing_receive (source : ScriptedProcessor) (d : Device ScriptedProcessor) :
    (d.receive source).standing = d.standing := by
  obtain ⟨heard, h⟩ := d.receive_eq source
  rw [h]
  rfl

private theorem standing_computeIfDue (dividing : d.standing.Dividing atTime) (time : Float) :
    (d.computeIfDue time).standing = d.standing.acted atTime time (d.computeDue time) := by
  have hprogram : d.processor.program = .divide atTime := dividing.program
  have hheld : d.processor.requests.clone = false := dividing.held
  have hasked : d.requests.clone = false := dividing.asked
  unfold computeIfDue
  cases d.computeDue time with
  | false => rfl
  | true =>
    have hround : ScriptedProcessor.executeRound time d.prepared =
        if !d.processor.divided && decide (atTime ≤ time) then
          { d.prepared with
            rounds := d.processor.rounds + 1
            divided := true
            requests := { d.processor.requests with clone := true } }
        else { d.prepared with rounds := d.processor.rounds + 1 } := by
      rw [prepared_eq, ScriptedProcessor.executeRound]
      simp only [hprogram]
    have hparent : (d.runRound time).parent = d.parent := rfl
    have hsame : d.standing.divided = d.processor.divided := rfl
    show (d.runRound time).standing = _
    rw [standing, processor_runRound, requests_runRound, hround, hparent, Standing.acted, Bool.true_and,
      hsame]
    cases !d.processor.divided && decide (atTime ≤ time) <;>
      simp [standing, LifecycleRequests.merge, hheld, prepared_eq]

private theorem standing_actuate (speedLimit : Option Float) (bounds : Option Volume)
    (d : Device ScriptedProcessor) : (d.actuate speedLimit bounds).2.standing = d.standing := by
  unfold actuate
  dsimp only
  split
  · rfl
  · split
    · rfl
    · split <;> rfl

private theorem standing_settled (delay : Float) (d : Device ScriptedProcessor) :
    (d.settled delay).standing = d.standing.settled := by
  obtain ⟨timer, elapsed, h⟩ := d.settled_eq delay
  rw [h]
  rfl

end Device

namespace Engine

variable {b : Blueprint Program} {e e' : Engine ScriptedProcessor Program} {atTime : Float}

/-- Whether all devices divide at the given time. -/
def Dividing (atTime : Float) (e : Engine ScriptedProcessor Program) : Prop :=
  ∀ d ∈ e.devices, d.standing.Dividing atTime

/-- How many initial devices have made their request. -/
def spentCount (e : Engine ScriptedProcessor Program) : Nat :=
  e.devices.countP fun d => d.standing.spent

/-- Whether there is an initial device at an index that has made its request. -/
def spentAt (e : Engine ScriptedProcessor Program) (j : Nat) : Bool :=
  e.devices[j]?.any fun d => d.standing.spent

/-! ### One tick -/

private theorem map_standing_afterActuation (dividing : e.Dividing atTime) :
    e.afterActuation.map Device.standing =
      e.devices.map fun d => d.standing.acted atTime e.time (d.computeDue e.time) := by
  let seen (d : Device ScriptedProcessor) : Standing × Float := (d.standing, d.nextCompute)
  have hheard : e.transmission.devices.map seen = e.devices.map seen :=
    map_transmissionAt ⟨fun source d => congrArg (·, d.nextCompute) (d.standing_receive source),
      fun _ _ => rfl, fun _ _ => rfl⟩ (fun _ => rfl) e _
  have hrounds : e.afterActuation.map Device.standing = e.transmission.devices.map fun d =>
      d.standing.acted atTime e.time (d.computeDue e.time) := by
    rw [afterActuation, actuations, actuationPhase, afterRounds, Array.map_map, Array.map_map,
      Array.map_map]
    refine Array.map_congr_left fun heard hmem => ?_
    have hdividing : heard.standing.Dividing atTime :=
      forall_of_map_eq (p := fun s : Standing × Float => s.1.Dividing atTime) hheard dividing heard hmem
    exact (Device.standing_actuate _ _ _).trans (Device.standing_computeIfDue hdividing e.time)
  -- Messages change neither who is due nor how a device stands, so the rounds go by what was before.
  have hsame := congrArg (Array.map fun s : Standing × Float =>
    s.1.acted atTime e.time (decide (s.2 ≤ e.time))) hheard
  rw [Array.map_map, Array.map_map] at hsame
  exact hrounds.trans hsame

private theorem divided_of_mem_parentsInTick (dividing : e.Dividing atTime)
    {parent : Device ScriptedProcessor} (h : parent ∈ e.parentsInTick) :
    parent.standing.divided = true := by
  have hmem : parent.standing ∈ e.afterActuation.map Device.standing :=
    Array.mem_map_of_mem (mem_afterActuation_of_mem_parentsInTick h)
  rw [map_standing_afterActuation dividing] at hmem
  obtain ⟨d, hd, hacted⟩ := Array.mem_map.mp hmem
  have hasked : parent.standing.asked = true := mem_parentsInTick_clone h
  rw [← hacted] at hasked ⊢
  exact (dividing d hd).divided_of_asked hasked

private theorem Sound.map_standing_runTick (sound : Sound b e) (hprogram : b.program = .divide atTime)
    (dividing : e.Dividing atTime) : e.runTick.engine.devices.map Device.standing =
      (e.devices.map fun d => (d.standing.acted atTime e.time (d.computeDue e.time)).settled) ++
        (e.parentsInTick.map fun parent => Standing.heir atTime parent.id).toArray := by
  have hsettled : (e.afterActuation.map (Device.settled e.settings.lifecycle.cloneDelay)).map
      Device.standing =
        e.devices.map fun d => (d.standing.acted atTime e.time (d.computeDue e.time)).settled := by
    have hacted := congrArg (Array.map Standing.settled) (map_standing_afterActuation dividing)
    rw [Array.map_map, Array.map_map] at hacted
    rw [Array.map_map]
    exact (Array.map_congr_left fun d _ => d.standing_settled _).trans hacted
  have hclones : e.clonesInTick.toArray.map Device.standing =
      (e.parentsInTick.map fun parent => Standing.heir atTime parent.id).toArray := by
    rw [List.map_toArray]
    refine congrArg List.toArray (map_clonesInTick fun parent hparent id offset => ?_)
    have hdivided : parent.processor.divided = true := divided_of_mem_parentsInTick dividing hparent
    rw [sound.program, hprogram]
    show Standing.mk (.divide atTime) (some parent.id) parent.processor.divided false false = _
    rw [hdivided]
    rfl
  rw [sound.devices_runTick, Array.map_append, hsettled, hclones]

section

variable (sound : Sound b e) (hprogram : b.program = .divide atTime) (dividing : e.Dividing atTime)
include sound hprogram dividing

private theorem Sound.countP_standing_runTick {p : Standing → Bool}
    (hheir : ∀ parent, p (.heir atTime parent) = false) :
    e.runTick.engine.devices.countP (fun d => p d.standing) =
      e.devices.countP fun d => p (d.standing.acted atTime e.time (d.computeDue e.time)).settled := by
  have hcount := congrArg (Array.countP p) (sound.map_standing_runTick hprogram dividing)
  have hheirs : (e.parentsInTick.map fun parent => Standing.heir atTime parent.id).toArray.countP p = 0 := by
    simp [List.countP_eq_zero, hheir]
  rwa [Array.countP_map, Array.countP_append, Array.countP_map, hheirs] at hcount

private theorem Sound.any_standing_runTick {p : Standing → Bool}
    (hheir : ∀ parent, p (.heir atTime parent) = false) (j : Nat) :
    (e.runTick.engine.devices[j]?.any fun d => p d.standing) =
      e.devices[j]?.any fun d => p (d.standing.acted atTime e.time (d.computeDue e.time)).settled := by
  have hsame := congrArg (fun standings : Array Standing => standings[j]?.any p)
    (sound.map_standing_runTick hprogram dividing)
  rw [Array.getElem?_map, Option.any_map, Array.getElem?_append] at hsame
  refine hsame.trans ?_
  split
  · rw [Array.getElem?_map, Option.any_map]
  · rename_i hj
    rw [Array.size_map, Nat.not_lt] at hj
    simp [Array.getElem?_eq_none hj, hheir, Option.any_map]

private theorem Sound.standing_runTick_cases {j : Nat} {d' : Device ScriptedProcessor}
    (hd' : e.runTick.engine.devices[j]? = some d') :
    (∃ d, e.devices[j]? = some d ∧
      d'.standing = (d.standing.acted atTime e.time (d.computeDue e.time)).settled) ∨
      ∃ parent, d'.standing = .heir atTime parent := by
  have hsame := congrArg (·[j]?) (sound.map_standing_runTick hprogram dividing)
  rw [Array.getElem?_map, hd', Option.map_some, Array.getElem?_append] at hsame
  split at hsame
  · rw [Array.getElem?_map] at hsame
    obtain ⟨d, hd, hsettled⟩ := Option.map_eq_some_iff.mp hsame.symm
    exact .inl ⟨d, hd, hsettled.symm⟩
  · rw [List.getElem?_toArray, List.getElem?_map] at hsame
    obtain ⟨parent, -, hheir⟩ := Option.map_eq_some_iff.mp hsame.symm
    exact .inr ⟨parent.id, hheir.symm⟩

private theorem Sound.dividing_runTick : e.runTick.engine.Dividing atTime := by
  intro d' hd'
  obtain ⟨j, hj⟩ := Array.mem_iff_getElem?.mp hd'
  rcases sound.standing_runTick_cases hprogram dividing hj with ⟨d, hd, hsame⟩ | ⟨parent, hsame⟩
  · rw [hsame]
    exact (dividing d (Array.mem_of_getElem? hd)).settled_acted _ _
  · rw [hsame]
    exact Standing.heir_dividing _ _

private theorem Sound.spentCount_runTick :
    e.spentCount + e.claimsInTick = e.runTick.engine.spentCount := by
  have hspent := sound.countP_standing_runTick hprogram dividing (p := Standing.spent) fun _ => rfl
  have hclaims := congrArg (Array.countP Standing.asked) (map_standing_afterActuation dividing)
  rw [Array.countP_map, Array.countP_map] at hclaims
  have hadd := countP_add (p := fun d => d.standing.spent) fun d hd =>
    (dividing d hd).spent_acted e.time (d.computeDue e.time)
  exact (congrArg (e.spentCount + ·) hclaims).trans (hadd.trans hspent.symm)

private theorem Sound.spentAt_runTick (j : Nat) :
    (e.spentAt j).toNat + (e.claimsAt j).toNat = (e.runTick.engine.spentAt j).toNat := by
  have hspent : e.runTick.engine.spentAt j = _ :=
    sound.any_standing_runTick hprogram dividing (p := Standing.spent) (fun _ => rfl) j
  have hclaims := congrArg (fun standings : Array Standing => standings[j]?.any Standing.asked)
    (map_standing_afterActuation dividing)
  rw [Array.getElem?_map, Option.any_map, Array.getElem?_map, Option.any_map] at hclaims
  have hclaimsAt : e.claimsAt j = _ := hclaims
  rw [hspent, hclaimsAt, spentAt]
  cases hd : e.devices[j]? with
  | none => rfl
  | some d => exact (dividing d (Array.mem_of_getElem? hd)).spent_acted _ _

end

/-! ### Whole histories -/

/-- What is known after some ticks: every clone and every dropped request is accounted for by an initial device that has made its request. -/
private structure Tally (b : Blueprint Program) (atTime : Float)
    (ticks : List (Engine ScriptedProcessor Program)) (e : Engine ScriptedProcessor Program) : Prop where
  dividing : e.Dividing atTime
  initial : e.devices.countP (fun d => d.standing.parent.isNone) = b.settings.population.size
  size : e.devices.size = b.settings.population.size + totalIn TickReport.spawned ticks
  answered : totalIn TickReport.spawned ticks + totalIn TickReport.droppedClones ticks ≤ e.spentCount
  children : ∀ j, e.childCount (j + 1) ≤ (e.spentAt j).toNat
  spawns : e.metrics.spawns.toNat ≤ totalIn TickReport.spawned ticks
  drops : e.metrics.droppedClones.toNat ≤ totalIn TickReport.droppedClones ticks
  ran : ∀ s ∈ ticks, atTime ≤ s.time → ∀ (i : Nat) (d : Device ScriptedProcessor),
    e.devices[i]? = some d → s.runsInTick .compute i ≠ 0 → d.standing.divided = true
  granted : b.settings.lifecycle.GrantsAll →
    e.spentCount = totalIn TickReport.spawned ticks ∧ ∀ j, e.childCount (j + 1) = (e.spentAt j).toNat

namespace Tally

variable {ticks : List (Engine ScriptedProcessor Program)}

private theorem of_built (hprogram : b.program = .divide atTime) {events : List (Event ScriptedProcessor)}
    (h : b.build = (.ok e, events)) : Tally b atTime [] e := by
  have built := Blueprint.built_of_build h
  have hmetrics : e.metrics = {} := by
    obtain ⟨-, p, stream, -, rfl⟩ := Blueprint.build_eq_ok h
    rfl
  have hfresh : ∀ d ∈ e.devices, d.standing = ⟨.divide atTime, none, false, false, false⟩ := by
    intro d hd
    obtain ⟨position, schedule, firstDue, hcreated⟩ := built.created d hd
    rw [hcreated, hprogram]
    rfl
  have hspent : e.spentCount = 0 := by
    refine Array.countP_eq_zero.mpr fun d hd => ?_
    simp [hfresh d hd, Standing.spent]
  have hchildren : ∀ id, e.childCount id = 0 := by
    intro id
    refine Array.countP_eq_zero.mpr fun d hd => ?_
    have hparent : d.parent = none := congrArg Standing.parent (hfresh d hd)
    simp [hparent]
  have hspentAt : ∀ j, e.spentAt j = false := by
    intro j
    rw [spentAt, Option.any_eq_false]
    intro d hd
    simp [hfresh d (Array.mem_of_getElem? hd), Standing.spent]
  refine ⟨fun d hd => ?_, ?_, built.size, Nat.zero_le _, fun j => ?_, ?_, ?_, fun _ hs => ?_,
    fun _ => ⟨hspent, fun j => ?_⟩⟩
  · rw [hfresh d hd]
    exact ⟨rfl, rfl, rfl, fun h => absurd rfl h⟩
  · rw [← built.size]
    refine Array.countP_eq_size.mpr fun d hd => ?_
    rw [hfresh d hd]
    rfl
  · rw [hchildren]
    exact Nat.zero_le _
  · rw [hmetrics]
    simp
  · rw [hmetrics]
    simp
  · cases hs
  · rw [hchildren, hspentAt]
    rfl

private theorem ran_runTick (hprogram : b.program = .divide atTime) (sound : Sound b e)
    (tally : Tally b atTime ticks e) :
    ∀ s ∈ ticks ++ [e], atTime ≤ s.time → ∀ (i : Nat) (d' : Device ScriptedProcessor),
      e.runTick.engine.devices[i]? = some d' → s.runsInTick .compute i ≠ 0 →
        d'.standing.divided = true := by
  intro s hs htime i d' hd' hran
  rcases sound.standing_runTick_cases hprogram tally.dividing hd' with ⟨d, hd, hsame⟩ | ⟨parent, hsame⟩
  · rw [hsame]
    rcases List.mem_append.mp hs with hs | hs
    · exact Standing.divided_acted_of_divided _ _ (tally.ran s hs htime i d hd hran)
    · obtain rfl := List.mem_singleton.mp hs
      have hdue : d.computeDue s.time = true := by
        by_contra hidle
        rw [Device.computeDue_iff] at hidle
        rw [sound.runsInTick_eq hd, if_neg hidle] at hran
        exact hran rfl
      rw [hdue]
      exact Standing.divided_acted_of_due htime
  · rw [hsame]
    rfl

private theorem runTick (hprogram : b.program = .divide atTime) (sound : Sound b e)
    (tally : Tally b atTime ticks e) : Tally b atTime (ticks ++ [e]) e.runTick.engine := by
  have hspent := sound.spentCount_runTick hprogram tally.dividing
  have hspentAt := sound.spentAt_runTick hprogram tally.dividing
  have hchildren := fun j => sound.childCount_runTick (j + 1)
  have hanswered := sound.answered_le
  obtain ⟨hspawns, hdrops⟩ := e.totals_runTick_le
  -- The requests of the tick raise `spentCount` by as much as they can raise the other counts.
  refine ⟨sound.dividing_runTick hprogram tally.dividing, ?_, ?_, ?_, fun j => ?_, ?_, ?_,
    tally.ran_runTick hprogram sound, fun grants => ?_⟩
  · have hinitial := sound.countP_standing_runTick hprogram tally.dividing
      (p := fun s => s.parent.isNone) fun _ => rfl
    simp only [Standing.settled, Standing.parent_acted] at hinitial
    exact hinitial.trans tally.initial
  · have hsize := tally.size
    rw [sound.size_runTick, totalIn_append_singleton, (report_runTick sound).1]
    omega
  · have hbefore := tally.answered
    rw [totalIn_append_singleton, totalIn_append_singleton]
    omega
  · have hbefore := tally.children j
    have hclaim := sound.countP_parentsInTick_le j
    rw [hchildren, ← hspentAt]
    omega
  · have hbefore := tally.spawns
    rw [totalIn_append_singleton]
    omega
  · have hbefore := tally.drops
    rw [totalIn_append_singleton]
    omega
  · obtain ⟨hcount, hequal⟩ := tally.granted grants
    have hgrants : e.settings.lifecycle.GrantsAll := sound.settings ▸ grants
    have hspawned := sound.spawned_of_grantsAll hgrants
    refine ⟨?_, fun j => ?_⟩
    · rw [totalIn_append_singleton]
      omega
    · have hbefore := hequal j
      have hclaim := sound.countP_parentsInTick hgrants j
      rw [hchildren, ← hspentAt]
      omega

private theorem aside (frame : Aside e e') (tally : Tally b atTime ticks e) :
    Tally b atTime ticks e' := by
  -- What is counted is read off the standings, which do not change between ticks.
  have hstanding := frame.map_devices Device.steady_standing
  have hsize : e'.devices.size = e.devices.size := by
    simpa only [Array.size_map] using congrArg Array.size hstanding
  have hspent : e'.spentCount = e.spentCount := countP_of_map_eq hstanding Standing.spent
  have hspentAt : ∀ j, e'.spentAt j = e.spentAt j := by
    intro j
    have hsame := congrArg (fun standings : Array Standing => standings[j]?.any Standing.spent) hstanding
    rwa [Array.getElem?_map, Option.any_map, Array.getElem?_map, Option.any_map] at hsame
  have hchildren : ∀ id, e'.childCount id = e.childCount id := fun id =>
    countP_of_map_eq hstanding fun s => decide (s.parent = some id)
  refine ⟨forall_of_map_eq hstanding tally.dividing, ?_, hsize.trans tally.size, ?_, fun j => ?_, ?_, ?_,
    fun s hs htime i d' hd' hran => ?_, fun grants => ?_⟩
  · exact (countP_of_map_eq hstanding fun s => s.parent.isNone).trans tally.initial
  · rw [hspent]
    exact tally.answered
  · rw [hchildren, hspentAt]
    exact tally.children j
  · rw [frame.metrics]
    exact tally.spawns
  · rw [frame.metrics]
    exact tally.drops
  · obtain ⟨d, hd, hsame⟩ := exists_of_map_eq hstanding.symm hd'
    rw [← hsame]
    exact tally.ran s hs htime i d hd hran
  · obtain ⟨hcount, hequal⟩ := tally.granted grants
    refine ⟨hspent.trans hcount, fun j => ?_⟩
    rw [hchildren, hspentAt]
    exact hequal j

private theorem spentCount_le (tally : Tally b atTime ticks e) :
    e.spentCount ≤ b.settings.population.size := by
  rw [← tally.initial]
  refine Array.countP_mono_left fun d _ hspent => ?_
  rw [Standing.spent, Bool.and_eq_true] at hspent
  exact hspent.1

private theorem spentCount_eq (tally : Tally b atTime ticks e)
    (hdivided : ∀ d ∈ e.devices, d.parent = none → d.standing.divided = true) :
    e.spentCount = b.settings.population.size := by
  rw [← tally.initial]
  refine Array.countP_congr fun d hd => ?_
  rw [Standing.spent, Bool.and_eq_true, and_iff_left_iff_imp, Option.isNone_iff_eq_none]
  exact hdivided d hd

end Tally

private theorem Sound.spentAt_of_mem (sound : Sound b e) {d : Device ScriptedProcessor}
    (hd : d ∈ e.devices) :
    ∃ j, d.id = j + 1 ∧ e.devices[j]? = some d ∧ e.spentAt j = d.standing.spent := by
  obtain ⟨j, hj⟩ := Array.mem_iff_getElem?.mp hd
  refine ⟨j, sound.numbered j d hj, hj, ?_⟩
  rw [spentAt, hj]
  rfl

namespace Tally

variable {ticks : List (Engine ScriptedProcessor Program)}

private theorem of_history {start : Engine ScriptedProcessor Program}
    {events : List (Event ScriptedProcessor)} (hprogram : b.program = .divide atTime)
    (hbuild : b.build = (.ok start, events)) {ops : List Operation}
    (hops : ∀ op ∈ ops, op.asksForClone = false) :
    Tally b atTime (start.ticksIn ops) (start.performAll ops) :=
  performAll_induction (Tally b atTime)
    (fun _ _ reachable tally => tally.runTick hprogram reachable.sound)
    (fun _ _ _ frame tally => tally.aside frame) ops hops (.built hbuild) (.of_built hprogram hbuild)

private theorem childCount_le (tally : Tally b atTime ticks e) (sound : Sound b e)
    {d : Device ScriptedProcessor} (hd : d ∈ e.devices) : e.childCount d.id ≤ d.standing.spent.toNat := by
  obtain ⟨j, hid, -, hspentAt⟩ := sound.spentAt_of_mem hd
  rw [hid, ← hspentAt]
  exact tally.children j

private theorem childCount_of_clone (tally : Tally b atTime ticks e) (sound : Sound b e)
    {d : Device ScriptedProcessor} (hd : d ∈ e.devices) (hparent : d.parent ≠ none) :
    e.childCount d.id = 0 := by
  have hchildren := tally.childCount_le sound hd
  have hclone : d.standing.spent = false := by
    rw [Standing.spent, Bool.and_eq_false_iff, Option.isNone_eq_false_iff]
    exact .inl (Option.isSome_iff_ne_none.mpr hparent)
  rw [hclone] at hchildren
  exact Nat.le_zero.mp hchildren

private theorem divided_of_ran (tally : Tally b atTime ticks e) (reachable : Reachable b e)
    (hran : ∀ i < b.settings.population.size, ∃ s ∈ ticks, atTime ≤ s.time ∧ s.runsInTick .compute i ≠ 0) :
    ∀ d ∈ e.devices, d.parent = none → d.standing.divided = true := by
  intro d hd hparent
  obtain ⟨i, hid, hi, -⟩ := reachable.sound.spentAt_of_mem hd
  have hinitial : d.id ≤ b.settings.population.size := (reachable.descends d hd).1.mp hparent
  rw [hid] at hinitial
  obtain ⟨s, hs, htime, hround⟩ := hran i hinitial
  exact tally.ran s hs htime i d hi hround

private theorem complete (tally : Tally b atTime ticks e) (sound : Sound b e)
    (grants : b.settings.lifecycle.GrantsAll)
    (hdivided : ∀ d ∈ e.devices, d.parent = none → d.standing.divided = true) :
    e.size = 2 * b.settings.population.size ∧ ∀ d ∈ e.devices, d.parent = none → e.childCount d.id = 1 := by
  obtain ⟨hcount, hequal⟩ := tally.granted grants
  have hsize : e.size = b.settings.population.size + totalIn TickReport.spawned ticks := tally.size
  have hall := tally.spentCount_eq hdivided
  refine ⟨by omega, fun d hd hparent => ?_⟩
  obtain ⟨j, hid, -, hspentAt⟩ := sound.spentAt_of_mem hd
  rw [hid, hequal j, hspentAt, Standing.spent, hdivided d hd hparent, Bool.and_true]
  show d.parent.isNone.toNat = 1
  rw [hparent]
  rfl

end Tally

/-- In a history in which nobody asks for clones from outside, an initial device has at most one child, a clone has none, there are at most as many clones and dropped requests together as initial devices, and the population at most doubles. Without a delay and a limit it has doubled exactly, and every initial device has its child, as soon as each of these has run a round at the time of division or later. -/
theorem divides_at_most_once {start : Engine ScriptedProcessor Program}
    {events : List (Event ScriptedProcessor)} (hprogram : b.program = .divide atTime)
    (hbuild : b.build = (.ok start, events)) (ops : List Operation)
    (hops : ∀ op ∈ ops, op.asksForClone = false) :
    let initial := b.settings.population.size
    let ticks := start.ticksIn ops
    let e := start.performAll ops
    (∀ d ∈ e.devices, d.parent = none → e.childCount d.id ≤ 1) ∧
    (∀ d ∈ e.devices, d.parent ≠ none → e.childCount d.id = 0) ∧
    totalIn TickReport.spawned ticks + totalIn TickReport.droppedClones ticks ≤ initial ∧
    e.metrics.spawns.toNat + e.metrics.droppedClones.toNat ≤ initial ∧
    e.size ≤ 2 * initial ∧
    ((b.settings.lifecycle.cloneDelay == 0) = true → b.settings.lifecycle.maxPopulation = none →
      (∀ i < initial, ∃ s ∈ ticks, atTime ≤ s.time ∧ s.runsInTick .compute i ≠ 0) →
      e.size = 2 * initial ∧ ∀ d ∈ e.devices, d.parent = none → e.childCount d.id = 1) := by
  intro initial ticks e
  have tally : Tally b atTime ticks e := .of_history hprogram hbuild hops
  have reachable : Reachable b e := (Reachable.built hbuild).performAll ops
  have hsize : e.size = initial + totalIn TickReport.spawned ticks := tally.size
  have hanswered := tally.answered
  have hspent : e.spentCount ≤ initial := tally.spentCount_le
  have hspawns := tally.spawns
  have hdrops := tally.drops
  refine ⟨fun d hd _ => (tally.childCount_le reachable.sound hd).trans (Bool.toNat_le _),
    fun d hd hparent => tally.childCount_of_clone reachable.sound hd hparent, by omega, by omega, by omega,
    fun hdelay hroom hran => ?_⟩
  exact tally.complete reachable.sound ⟨Binary64.le_of_beq hdelay, hroom⟩
    (tally.divided_of_ran reachable hran)

def dividers : Blueprint Program where
  settings := {
    engine := { seed := some 7 }
    population := { size := 2, distribution := .explicit [⟨0, 0, 0⟩, ⟨3, 0, 0⟩] } }
  program := .divide 1
  schedule := some { transmit := .interval 1, compute := .interval 2 }

def fourTicks : List Operation := [.run 2, .requestDeath 1, .run 2]

/-- Each of the two devices runs two rounds in four ticks and is cloned in the second of them. -/
theorem divides_at_most_once_dividers : ∃ start : Engine ScriptedProcessor Program,
    dividers.build.1 = .ok start ∧
      (start.ticksIn fourTicks).map (fun s => s.runTick.report.spawned) = [0, 0, 2, 0] ∧
      (start.performAll fourTicks).size = 4 ∧
      ∀ d ∈ (start.performAll fourTicks).devices,
        (start.performAll fourTicks).childCount d.id = if d.parent = none then 1 else 0 := by
  have hfacts : (afterHistory dividers []).map (fun start : Engine ScriptedProcessor Program =>
      ((start.ticksIn fourTicks).map fun s => s.runTick.report.spawned,
        (start.ticksIn fourTicks).map fun s =>
          (s.runsInTick .compute 0, s.runsInTick .compute 1, decide (1 ≤ s.time)))) =
          some ([0, 0, 2, 0], [(1, 1, false), (0, 0, true), (1, 1, true), (0, 0, true)]) := by
    decide +kernel
  obtain ⟨start, hstart, hfacts⟩ := Option.map_eq_some_iff.mp hfacts
  obtain ⟨hspawned, hrounds⟩ := Prod.mk.inj hfacts
  obtain ⟨_, events, hbuild, rfl⟩ := afterHistory_eq_some hstart
  have hquiet : ∀ op ∈ fourTicks, op.asksForClone = false := by decide
  obtain ⟨-, hheirs, -, -, -, hdoubled⟩ := divides_at_most_once rfl hbuild fourTicks hquiet
  have hthird : ((1, 1, true) : Nat × Nat × Bool) ∈
      [(1, 1, false), (0, 0, true), (1, 1, true), (0, 0, true)] := by decide
  rw [← hrounds] at hthird
  obtain ⟨s, hs, hthird⟩ := List.mem_map.mp hthird
  obtain ⟨hfirst, hsecond, htime⟩ : s.runsInTick .compute 0 = 1 ∧ s.runsInTick .compute 1 = 1 ∧
      (1 : Float) ≤ s.time := by
    simpa only [Prod.mk.injEq, decide_eq_true_eq] using hthird
  obtain ⟨hsize, hchildren⟩ := hdoubled (by decide +kernel) rfl fun i hi => ⟨s, hs, htime, by
    have htwo : i < 2 := hi
    interval_cases i <;> omega⟩
  refine ⟨_, congrArg Prod.fst hbuild, hspawned, hsize, fun d hd => ?_⟩
  split
  · exact hchildren d hd ‹_›
  · exact hheirs d hd ‹_›

end Engine

end SpatialComputer
