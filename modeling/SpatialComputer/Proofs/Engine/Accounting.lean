import Mathlib.Algebra.GroupWithZero.Nat
import SpatialComputer.Proofs.Engine.Offspring
import SpatialComputer.Proofs.Program.Rounds

/-!
# Accounting

Three records are kept of what happens in an engine: the report of every tick, the running totals, and the number of rounds that every scripted processor counts for itself. Every tick enters what it reports into the totals, and what it reports are the rounds that were run and the clones that were added, so the records agree after every history. The totals are words, which hold a sum as long as it fits.
-/

namespace SpatialComputer

/-! ### Counters -/

/-- What is counted in the report of a tick and over the life of an engine. -/
inductive Counter where
  | transmits
  | computes
  | moves
  | spawns
  | suppressedFaults
  | droppedClones
deriving DecidableEq, Repr

namespace Counter

def reported : Counter → TickReport → Nat
  | transmits => TickReport.transmitted
  | computes => TickReport.computed
  | moves => TickReport.moved
  | spawns => TickReport.spawned
  | suppressedFaults => TickReport.suppressed
  | droppedClones => TickReport.droppedClones

def total : Counter → Metrics → UInt64
  | transmits => Metrics.transmits
  | computes => Metrics.computes
  | moves => Metrics.moves
  | spawns => Metrics.spawns
  | suppressedFaults => Metrics.suppressedFaults
  | droppedClones => Metrics.droppedClones

def sum (counter : Counter) (reports : List TickReport) : Nat :=
  (reports.map counter.reported).sum

theorem sum_append (counter : Counter) (reports : List TickReport) (r : TickReport) :
    counter.sum (reports ++ [r]) = counter.sum reports + counter.reported r := by
  simp [sum]

theorem total_empty (counter : Counter) : counter.total {} = 0 := by
  cases counter <;> rfl

theorem total_record (counter : Counter) (m : Metrics) (r : TickReport) (devices : Nat) :
    counter.total (m.record r devices) = counter.total m + .ofNat (counter.reported r) := by
  cases counter <;> rfl

end Counter

theorem Metrics.record_tickCount (m : Metrics) (r : TickReport) (devices : Nat) :
    (m.record r devices).tickCount = m.tickCount + 1 := rfl

theorem Metrics.record_deviceCount (m : Metrics) (r : TickReport) (devices : Nat) :
    (m.record r devices).deviceCount = .ofNat devices := rfl

/-! ### Reports -/

variable {U P : Type} [Processor U P]

/-- The reports that are handed out with an answer. -/
def Answer.reports : Answer U → List TickReport
  | .report r => [r]
  | .summary _ reports => reports
  | _ => []

namespace Engine

/-- The reports of all ticks of a history. -/
def reports (e : Engine U P) (ops : List Operation) : List TickReport :=
  (e.answers ops).flatMap fun given => given.1.reports

omit [Processor U P] in
private theorem changed_reports (e : Engine U P) (result : Except OperationError (Engine U P)) :
    (e.changed result).answer.reports = [] := by
  cases result <;> rfl

omit [Processor U P] in
private theorem asked_reports {α : Type} (e : Engine U P) (result : Except OperationError α)
    {answer : α → Answer U} (h : ∀ a, (answer a).reports = []) :
    (e.asked result answer).answer.reports = [] := by
  cases result with
  | ok a => exact h a
  | error cause => rfl

private theorem reports_run (maxTicks : Nat) : ∀ e : Engine U P,
    (e.run maxTicks).reports.toList = (e.ticksOfRun maxTicks).map (·.runTick.report) := by
  refine run_induction (motive := fun (e : Engine U P) n outcome =>
    outcome.reports.toList = (e.ticksOfRun n).map (·.runTick.report))
    (fun e n hrests => ?_) (fun e n hstop hpaused ih => ?_) maxTicks
  · rw [ticksOfRun_of_rests hrests]
    rfl
  · rw [ticksOfRun_succ hstop hpaused, TickOutcome.followedBy, Array.toList_append, ih]
    rfl

theorem reports_perform (e : Engine U P) (op : Operation) :
    (e.perform op).answer.reports = (e.ticksOf op).map (·.runTick.report) := by
  cases op with
  | tick => rfl
  | advance =>
    unfold perform advance ticksOf
    cases e.paused || e.shouldStop <;> rfl
  | run maxTicks => exact reports_run maxTicks e
  | pause | resume | snapshot => rfl
  | setSensor | setRadius | requestClone | requestDeath => exact changed_reports e _
  | neighborsOf id =>
    simp only [perform]
    cases e.neighborsOf id <;> rfl
  | neighborsUncached | position | color | device => exact asked_reports e _ fun _ => rfl

theorem reports_eq (ops : List Operation) : ∀ e : Engine U P,
    e.reports ops = (e.ticksIn ops).map (·.runTick.report) := by
  induction ops with
  | nil => exact fun _ => rfl
  | cons op ops ih =>
    intro e
    have hrest := ih (e.perform op).engine
    rw [reports] at hrest ⊢
    rw [answers, List.flatMap_cons, hrest, reports_perform, ticksIn, List.map_append]

/-! ### The totals -/

variable {b : Blueprint P} {e : Engine U P}

/-- How the totals of an engine of the given initial size stand after ticks with the given reports. -/
structure Balanced (initial : Nat) (reports : List TickReport) (e : Engine U P) : Prop where
  tick : e.tick = reports.length
  numbers : reports.map (·.tick) = List.range reports.length
  totals : ∀ counter : Counter, counter.total e.metrics = .ofNat (counter.sum reports)
  tickCount : e.metrics.tickCount = .ofNat reports.length
  deviceCount : reports ≠ [] → e.metrics.deviceCount = .ofNat e.size
  size : e.size = initial + Counter.spawns.sum reports

namespace Balanced

variable {initial : Nat} {reports : List TickReport}

private theorem of_built {events : List (Event U)} (h : b.build = (.ok e, events)) :
    Balanced e.size [] e := by
  obtain ⟨-, p, stream, -, rfl⟩ := Blueprint.build_eq_ok h
  exact ⟨rfl, rfl, fun counter => counter.total_empty, rfl, fun hne => absurd rfl hne, rfl⟩

private theorem runTick (balanced : Balanced initial reports e) (sound : Sound b e) :
    Balanced initial (reports ++ [e.runTick.report]) e.runTick.engine := by
  have hmetrics : e.runTick.engine.metrics = e.metrics.record e.runTick.report e.runTick.engine.size := rfl
  have hsize : e.runTick.engine.size = e.size + e.runTick.report.spawned := by
    rw [(report_runTick sound).1]
    exact sound.size_runTick
  refine ⟨?_, ?_, fun counter => ?_, ?_, fun _ => ?_, ?_⟩
  · rw [List.length_append, ← balanced.tick]
    rfl
  · have hnumber : e.runTick.report.tick = reports.length := balanced.tick
    simp [balanced.numbers, List.range_succ, hnumber]
  · rw [hmetrics, Counter.total_record, balanced.totals, Counter.sum_append, UInt64.ofNat_add]
  · rw [hmetrics, Metrics.record_tickCount, balanced.tickCount, List.length_append, UInt64.ofNat_add]
    rfl
  · rw [hmetrics, Metrics.record_deviceCount]
  · rw [hsize, balanced.size, Counter.sum_append, Nat.add_assoc]
    rfl

omit [Processor U P] in
private theorem of_same {e' : Engine U P} (balanced : Balanced initial reports e)
    (htick : e'.tick = e.tick) (hmetrics : e'.metrics = e.metrics) (hsize : e'.size = e.size) :
    Balanced initial reports e' := by
  refine ⟨htick.trans balanced.tick, balanced.numbers, fun counter => ?_, ?_, fun hne => ?_,
    hsize.trans balanced.size⟩
  · rw [hmetrics, balanced.totals]
  · rw [hmetrics, balanced.tickCount]
  · rw [hmetrics, hsize, balanced.deviceCount hne]

private theorem between {e' : Engine U P} (balanced : Balanced initial reports e) (h : Between e e') :
    Balanced initial reports e' := by
  refine balanced.of_same h.tick h.metrics ?_
  have hids := congrArg Array.size (h.map_devices Lasting.position)
  rwa [Array.size_map, Array.size_map] at hids

private theorem of_history {start : Engine U P} {events : List (Event U)}
    (hbuild : b.build = (.ok start, events)) (ops : List Operation) :
    Balanced start.size (start.reports ops) (start.performAll ops) := by
  have sound : Sound b start := (Reachable.built hbuild).sound
  let holds : List (Engine U P) → Engine U P → Prop := fun past e =>
    Balanced start.size (past.map (·.runTick.report)) e
  have hstart : holds [] start := of_built hbuild
  have htick : ∀ {past : List (Engine U P)} {e : Engine U P}, Sound b e → holds past e →
      holds (past ++ [e]) e.runTick.engine := by
    intro past e sound balanced
    have hnext := Balanced.runTick balanced sound
    rwa [← List.map_singleton (f := fun s : Engine U P => s.runTick.report), ← List.map_append] at hnext
  rw [reports_eq]
  exact (course_performAll ops start).accumulate holds htick
    (fun h balanced => Balanced.between balanced h) sound hstart

end Balanced

end Engine

/-! ### Rounds -/

theorem ScriptedProcessor.rounds_executeRound (time : Float) (u : ScriptedProcessor) :
    (executeRound time u).rounds = u.rounds + 1 := by
  unfold executeRound
  dsimp only
  split
  · rfl
  · rfl
  · rfl
  · split <;> rfl
  · rfl

/-- The rounds that the processor of a device has counted. -/
def Device.rounds (d : Device ScriptedProcessor) : Nat := d.processor.rounds

namespace Device

theorem rounds_unheard : Unheard Device.rounds where
  receive source d := by
    obtain ⟨heard, h⟩ := d.receive_eq source
    rw [h]
    rfl
  advance _ _ := rfl
  remember _ _ := rfl

theorem rounds_lasting : Lasting Device.rounds :=
  ⟨fun _ _ => rfl, fun _ _ _ => rfl, fun _ _ => rfl, fun _ _ => rfl⟩

theorem rounds_computeIfDue (time : Float) (d : Device ScriptedProcessor) :
    (d.computeIfDue time).rounds = d.rounds + (d.computeDue time).toNat := by
  unfold computeIfDue
  cases d.computeDue time with
  | false => rfl
  | true =>
    rw [if_pos rfl, rounds, processor_runRound]
    exact ScriptedProcessor.rounds_executeRound time d.prepared

theorem rounds_actuate (speedLimit : Option Float) (bounds : Option Volume)
    (d : Device ScriptedProcessor) : (d.actuate speedLimit bounds).2.rounds = d.rounds := by
  unfold actuate
  dsimp only
  split
  · rfl
  · split
    · rfl
    · split <;> rfl

theorem rounds_settled (delay : Float) (d : Device ScriptedProcessor) :
    (d.settled delay).rounds = d.rounds := by
  obtain ⟨timer, elapsed, h⟩ := d.settled_eq delay
  rw [h]
  rfl

end Device

private theorem sum_map_add_countP {α : Type} {f g : α → Nat} {p : α → Bool}
    (h : ∀ a, g a = f a + (p a).toNat) (l : List α) :
    (l.map g).sum = (l.map f).sum + l.countP p := by
  induction l with
  | nil => rfl
  | cons a l ih =>
    simp only [List.map_cons, List.sum_cons, List.countP_cons, h, ih]
    cases p a <;> simp <;> omega

namespace Engine

variable {b : Blueprint Program} {e e' : Engine ScriptedProcessor Program}

/-- The rounds that all processors together have counted. -/
def totalRounds (e : Engine ScriptedProcessor Program) : Nat :=
  (e.devices.toList.map Device.rounds).sum

private theorem totalRounds_congr (h : e'.devices.map Device.rounds = e.devices.map Device.rounds) :
    e'.totalRounds = e.totalRounds := by
  have hlist := congrArg Array.toList h
  rw [Array.toList_map, Array.toList_map] at hlist
  rw [totalRounds, totalRounds, hlist]

private theorem sum_rounds_afterActuation (e : Engine ScriptedProcessor Program) :
    (e.afterActuation.toList.map Device.rounds).sum = e.totalRounds + e.runTick.report.computed := by
  have hacted : e.afterActuation.toList.map Device.rounds = e.afterRounds.toList.map Device.rounds := by
    rw [afterActuation, actuations, actuationPhase, Array.map_map, Array.toList_map, List.map_map]
    exact List.map_congr_left fun d _ => d.rounds_actuate _ _
  have hheard : e.transmission.devices.toList.map Device.rounds = e.devices.toList.map Device.rounds := by
    have h := map_transmissionAt Device.rounds_unheard (fun _ => rfl) e e.devices.size
    have htoList := congrArg Array.toList h
    rwa [Array.toList_map, Array.toList_map] at htoList
  have hcomputed : e.runTick.report.computed =
      e.transmission.devices.toList.countP (·.computeDue e.time) := by
    rw [Array.countP_toList, ← length_dueIndices, runTick_eq, reportOfTick]
  have hran := sum_map_add_countP (Device.rounds_computeIfDue e.time) e.transmission.devices.toList
  calc (e.afterActuation.toList.map Device.rounds).sum
      = (e.transmission.devices.toList.map fun d => (d.computeIfDue e.time).rounds).sum := by
        rw [hacted, afterRounds, Array.toList_map, List.map_map]
        rfl
    _ = e.totalRounds + e.runTick.report.computed := by
        rw [hran, hheard, hcomputed, totalRounds]

private theorem Sound.totalRounds_runTick (sound : Sound b e) :
    e.runTick.engine.totalRounds = e.totalRounds + e.runTick.report.computed := by
  -- Clones have counted no rounds yet, and settling counts none.
  have hclones : (e.clonesInTick.map Device.rounds).sum = 0 := by
    rw [map_clonesInTick (h := fun _ => 0) fun _ _ _ _ => rfl]
    simp
  have hsettled : (e.afterActuation.map (Device.settled e.settings.lifecycle.cloneDelay)).toList.map
      Device.rounds = e.afterActuation.toList.map Device.rounds := by
    rw [Array.toList_map, List.map_map]
    exact List.map_congr_left fun d _ => d.rounds_settled _
  rw [totalRounds, sound.devices_runTick, Array.toList_append, List.map_append, List.sum_append,
    hsettled, hclones, sum_rounds_afterActuation, Nat.add_zero]

private theorem totalRounds_of_built {events : List (Event ScriptedProcessor)}
    (h : b.build = (.ok e, events)) : e.totalRounds = 0 := by
  have built := Blueprint.built_of_build h
  refine List.sum_eq_zero_iff_forall_eq_nat.mpr fun count hcount => ?_
  obtain ⟨d, hd, rfl⟩ := List.mem_map.mp hcount
  obtain ⟨position, schedule, firstDue, hcreated⟩ := built.created d (Array.mem_toList_iff.mp hd)
  rw [hcreated]
  rfl

private theorem totalRounds_of_history {start : Engine ScriptedProcessor Program}
    {events : List (Event ScriptedProcessor)} (hbuild : b.build = (.ok start, events))
    (ops : List Operation) :
    (start.performAll ops).totalRounds = Counter.computes.sum (start.reports ops) := by
  have sound : Sound b start := (Reachable.built hbuild).sound
  let holds : List (Engine ScriptedProcessor Program) → Engine ScriptedProcessor Program → Prop :=
    fun past e => e.totalRounds = Counter.computes.sum (past.map (·.runTick.report))
  have hstart : holds [] start := totalRounds_of_built hbuild
  have htick : ∀ {past : List (Engine ScriptedProcessor Program)} {e : Engine ScriptedProcessor Program},
      Sound b e → holds past e → holds (past ++ [e]) e.runTick.engine := by
    intro past e sound h
    show e.runTick.engine.totalRounds = _
    rw [sound.totalRounds_runTick, h, List.map_append, List.map_singleton, Counter.sum_append]
    rfl
  rw [reports_eq]
  exact (course_performAll ops start).accumulate holds htick
    (fun h counted => (totalRounds_congr (h.map_devices Device.rounds_lasting)).trans counted) sound hstart

/-- After every history of a freshly built engine, the totals are the sums of what all reports say as long as these fit into a word, the ticks are numbered from zero on and counted, the population has grown by the clones that were reported, and the processors of all devices together have counted as many rounds as were reported. -/
theorem accounts_balance {start : Engine ScriptedProcessor Program}
    {events : List (Event ScriptedProcessor)} (hbuild : b.build = (.ok start, events))
    (ops : List Operation) :
    let reports := start.reports ops
    let e := start.performAll ops
    (∀ counter : Counter, counter.sum reports < 2 ^ 64 → (counter.total e.metrics).toNat = counter.sum reports) ∧
      (e.tick < 2 ^ 64 → e.metrics.tickCount.toNat = e.tick) ∧
      reports.map (·.tick) = List.range reports.length ∧
      e.tick = reports.length ∧
      (reports ≠ [] → e.size < 2 ^ 64 → e.metrics.deviceCount.toNat = e.size) ∧
      e.size = start.size + Counter.spawns.sum reports ∧
      Counter.computes.sum reports = e.totalRounds := by
  intro reports e
  have balanced : Balanced start.size reports e := .of_history hbuild ops
  refine ⟨fun counter hfits => ?_, fun hfits => ?_, balanced.numbers, balanced.tick, fun hticks hfits => ?_,
    balanced.size, (totalRounds_of_history hbuild ops).symm⟩
  · rw [balanced.totals, UInt64.toNat_ofNat_of_lt' hfits]
  · rw [balanced.tickCount, ← balanced.tick, UInt64.toNat_ofNat_of_lt' hfits]
  · rw [balanced.deviceCount hticks, UInt64.toNat_ofNat_of_lt' hfits]

def busyPair : List Operation := [.requestClone 1, .requestClone 2, .tick, .run 3, .neighborsOf 1, .advance]

/-- In five ticks the pair and its clone, which is there from the second tick on, run fourteen rounds, and one request is dropped. -/
theorem accounts_balance_crowdedPair : ∃ start : Engine ScriptedProcessor Program,
    crowdedPair.build.1 = .ok start ∧
      (start.performAll busyPair).metrics.tickCount.toNat = 5 ∧
      (start.performAll busyPair).metrics.deviceCount.toNat = 3 ∧
      (start.performAll busyPair).metrics.computes.toNat = 14 ∧
      (start.performAll busyPair).metrics.droppedClones.toNat = 1 ∧
      (start.performAll busyPair).totalRounds = 14 := by
  have hfacts : (afterHistory crowdedPair []).map (fun start : Engine ScriptedProcessor Program =>
      (start.size, (start.reports busyPair).length, Counter.spawns.sum (start.reports busyPair),
        Counter.computes.sum (start.reports busyPair), Counter.droppedClones.sum (start.reports busyPair))) =
      some (2, 5, 1, 14, 1) := by
    decide +kernel
  obtain ⟨start, hstart, hfacts⟩ := Option.map_eq_some_iff.mp hfacts
  simp only [Prod.mk.injEq] at hfacts
  obtain ⟨hsize, hlength, hspawns, hcomputes, hdropped⟩ := hfacts
  obtain ⟨_, events, hbuild, rfl⟩ := afterHistory_eq_some hstart
  obtain ⟨htotals, hticks, -, htick, hdevices, hgrown, hrounds⟩ := accounts_balance hbuild busyPair
  rw [htick, hlength] at hticks
  rw [hgrown, hsize, hspawns] at hdevices
  have hsome : start.reports busyPair ≠ [] := by
    intro hnil
    rw [hnil] at hlength
    cases hlength
  refine ⟨_, congrArg Prod.fst hbuild, hticks (by decide), hdevices hsome (by decide), ?_, ?_, ?_⟩
  · exact (htotals .computes (by rw [hcomputes]; decide)).trans hcomputes
  · exact (htotals .droppedClones (by rw [hdropped]; decide)).trans hdropped
  · exact hrounds.symm.trans hcomputes

end Engine

end SpatialComputer
