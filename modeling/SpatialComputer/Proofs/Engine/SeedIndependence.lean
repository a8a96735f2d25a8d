import SpatialComputer.Proofs.Engine.Backdrop
import SpatialComputer.Proofs.Engine.Spawning

/-!
# Seeds that do not matter

The random stream has four uses: it places devices, spreads their periods, makes them start at different times, and displaces clones. A configuration that has none of the four leaves nothing to chance. Then the stream stands where it begins for good, and engines that are built with different seeds cannot be told apart, but for the seed in their configuration, the stream and the fingerprint.
-/

namespace SpatialComputer

open Sampling

variable {U P : Type} [Processor U P]

/-! ### Configurations without chance -/

/-- Whether all devices of a population of the given size have a place that is not drawn. -/
def Distribution.isFixed (size : Nat) : Distribution → Bool
  | .explicit _ | .grid => true
  | .fixedPoints points => decide (size ≤ points.length)
  | _ => false

/-- Whether a configuration leaves nothing to chance. -/
structure Settings.Drawless (s : Settings) : Prop where
  placement : s.population.distribution.isFixed s.population.size = true
  transmit : (s.schedule.transmit.spread == 0) = true
  compute : (s.schedule.compute.spread == 0) = true
  sync : s.schedule.sync = true
  cloneOffset : (s.lifecycle.cloneOffset == 0) = true

theorem TimerPolicy.resolve_takesNothing {policy : TimerPolicy} (h : (policy.spread == 0) = true) :
    TakesNothing policy.resolve := by
  cases policy with
  | fixed period => exact .pure _
  | jittered period variance =>
    have hvariance : (variance == 0) = true := h
    rw [resolve, if_pos hvariance]
    exact .pure _

namespace Distribution

private theorem size_le_of_validate {points : List Vec3} {volume : Volume} {size : Nat}
    (hvalid : (explicit points).validate volume size = .ok ()) : size ≤ points.length := by
  unfold validate at hvalid
  obtain ⟨_, -, hvalid⟩ := except_bind_eq_ok hvalid
  obtain ⟨_, -, hvalid⟩ := except_bind_eq_ok hvalid
  by_contra hfew
  rw [Nat.not_le] at hfew
  rw [if_pos hfew] at hvalid
  cases hvalid

private theorem point_takesNothing {points : List Vec3} {index : Nat} (hindex : index < points.length)
    (otherwise : Draw Vec3) :
    TakesNothing (match points[index]? with
      | some point => return point
      | none => otherwise) := by
  rw [List.getElem?_eq_getElem hindex]
  exact .pure _

theorem place_takesNothing {distribution : Distribution} {volume : Volume} {size index : Nat}
    (hfixed : distribution.isFixed size = true)
    (hvalid : distribution.validate volume size = .ok ()) (hindex : index < size) :
    TakesNothing (distribution.place volume size index) := by
  cases distribution with
  | uniformRandom | xGrid | cylinder => cases hfixed
  | grid => exact ⟨_, fun _ => rfl⟩
  | fixedPoints points => exact point_takesNothing (hindex.trans_le (of_decide_eq_true hfixed)) _
  | explicit points => exact point_takesNothing (hindex.trans_le (size_le_of_validate hvalid)) _

end Distribution

namespace Blueprint

variable {b : Blueprint P}

private theorem attempt_takesNothing {α : Type} {draw : Draw α} (h : TakesNothing draw) :
    TakesNothing (attempt draw) := by
  obtain ⟨outcome, hdraw⟩ := h
  exact ⟨outcome.mapError BuildError.fault, fun s => by rw [run_attempt, hdraw]⟩

section

variable (drawless : b.settings.Drawless) (hvalid : b.settings.validate = .ok ())
include drawless

private theorem deviceSchedule_takesNothing : TakesNothing b.deviceSchedule := by
  unfold deviceSchedule
  split
  · exact .pure _
  · refine .bind (TimerPolicy.resolve_takesNothing drawless.transmit) fun transmit => ?_
    exact .bind (TimerPolicy.resolve_takesNothing drawless.compute) fun compute => .pure _

private theorem startLag_takesNothing (schedule : Schedule) :
    TakesNothing (startLag b.settings schedule) := by
  rw [startLag, if_pos drawless.sync]
  exact .pure _

include hvalid

private theorem position_takesNothing {index : Nat} (hindex : index < b.settings.population.size) :
    TakesNothing (b.position index) := by
  unfold position
  split
  · exact .pure _
  · exact Distribution.place_takesNothing drawless.placement
      (Settings.accepted_of_validate hvalid).distribution hindex

private theorem createDevice_takesNothing {index : Nat} (hindex : index < b.settings.population.size)
    (id : DeviceId) : TakesNothing (b.createDevice (U := U) index id) := by
  unfold createDevice
  refine .bind (attempt_takesNothing (position_takesNothing drawless hvalid hindex)) fun position => ?_
  refine .check _ _ (.bind (attempt_takesNothing (deviceSchedule_takesNothing drawless)) fun schedule => ?_)
  exact .bind (attempt_takesNothing (startLag_takesNothing drawless schedule)) fun lag => .pure _

private theorem populate_takesNothing (count : Nat) : ∀ p : Population U,
    p.size + count ≤ b.settings.population.size →
      ∃ outcome population, ∀ s, b.populate count p s = (outcome, population, s) := by
  induction count with
  | zero => exact fun p _ => ⟨.ok (), p, fun _ => rfl⟩
  | succ count ih =>
    intro p hroom
    have hnext : p.size < b.settings.population.size := by omega
    obtain ⟨outcome, hcreate⟩ := createDevice_takesNothing (U := U) drawless hvalid hnext p.allocateId.1
    cases outcome with
    | error cause => exact ⟨.error cause, p, fun s => populate_succ_of_error (hcreate s) count⟩
    | ok d =>
      obtain ⟨outcome, population, hrest⟩ := ih (p.allocateId.2.insert d) (by rw [size_insert]; omega)
      exact ⟨outcome, population, fun s => (populate_succ_of_ok (hcreate s) count).trans (hrest s)⟩

end

end Blueprint

/-! ### Clones without chance -/

private theorem cloneOffsets_of_none {distance : Float} (hdistance : (distance == 0) = true)
    (volume : Volume) (count : Nat) (stream : Keystream) :
    cloneOffsets distance volume count stream = (List.replicate count .zero, stream) := by
  induction count with
  | zero => rfl
  | succ count ih =>
    have hoffset : cloneOffset distance volume stream = (.zero, stream) := by
      rw [cloneOffset, if_pos hdistance]
    simp only [cloneOffsets, hoffset, ih, List.replicate_succ]

private theorem mutationPhase_of_noOffset {settings : Settings}
    (hoffset : (settings.lifecycle.cloneOffset == 0) = true) (program : P) (time : Float)
    {p : Population U} (numbered : Numbered p.devices) (hlast : p.lastId = p.devices.size)
    (hpending : p.pending = #[]) (stream stream' : Keystream) :
    mutationPhase settings program time p stream' =
      { mutationPhase settings program time p stream with stream := stream' } := by
  rw [mutationPhase_eq _ _ _ stream numbered hlast hpending,
    mutationPhase_eq _ _ _ stream' numbered hlast hpending]
  simp only [cloneOffsets_of_none hoffset]

/-! ### Seeds -/

def Settings.withSeed (seed : Option Nat) (s : Settings) : Settings :=
  { s with engine := { s.engine with seed := seed } }

/-- The blueprint with another seed, and another one to use if there is none. -/
def Blueprint.withSeed (seed : Option Nat) (entropy : Nat) (b : Blueprint P) : Blueprint P :=
  { b with settings := b.settings.withSeed seed, entropy := entropy }

/-- The backdrop with another seed, for the configuration and for the stream. -/
def Backdrop.seeded (seed : Option Nat) (entropy : Nat) (s : Settings) : Backdrop where
  seed _ := seed
  stream _ := .ofSeed (.ofNat (seed.getD entropy))
  fingerprint := (s.withSeed seed).fingerprint

/-- The backdrop without a seed, a stream and a fingerprint. -/
def Backdrop.seedless : Backdrop where
  seed _ := none
  stream _ := .ofSeed 0
  fingerprint := ""

namespace Blueprint

section

variable {b : Blueprint P} (drawless : b.settings.Drawless) (seed : Option Nat) (entropy : Nat)
include drawless

private theorem unseen_seeded {e : Engine U P} (reachable : Engine.Reachable b e) :
    (Backdrop.seeded seed entropy b.settings).Unseen e := by
  have hoffset : (e.settings.lifecycle.cloneOffset == 0) = true := by
    rw [reachable.sound.settings]
    exact drawless.cloneOffset
  have sound := reachable.sound
  have hnumbered : Numbered e.afterActuation := sound.numbered.of_map_id (Engine.map_id_afterActuation e)
  have hlast : e.population.lastId = e.afterActuation.size :=
    sound.lastId.trans (Engine.size_afterActuation e).symm
  exact mutationPhase_of_noOffset hoffset e.program e.time
    (p := { e.population with devices := e.afterActuation }) hnumbered hlast sound.pending _ _

private theorem build_withSeed (U : Type) [Processor U P] :
    (b.withSeed seed entropy).build (U := U) =
      ((b.build (U := U)).1.map (Backdrop.seeded seed entropy b.settings).engine,
        (b.build (U := U)).2.map (Backdrop.seeded seed entropy b.settings).event) := by
  refine Backdrop.build_blueprint (g := Backdrop.seeded seed entropy b.settings) rfl fun hvalid => ?_
  obtain ⟨outcome, population, hpopulate⟩ := populate_takesNothing (U := U) drawless hvalid
    b.settings.population.size {} (Nat.zero_add _).le
  exact ⟨outcome, population, _, hpopulate _, hpopulate _⟩

private theorem withSeed_seedless (U : Type) [Processor U P] :
    ((b.withSeed seed entropy).build (U := U)).1.map Backdrop.seedless.engine =
        (b.build (U := U)).1.map Backdrop.seedless.engine ∧
      ((b.withSeed seed entropy).build (U := U)).2.map Backdrop.seedless.event =
        (b.build (U := U)).2.map Backdrop.seedless.event ∧
      ∀ ops, ((b.withSeed seed entropy).answersTo U ops).map (List.map unsigned) =
          (b.answersTo U ops).map (List.map unsigned) ∧
        (Engine.afterHistory (U := U) (b.withSeed seed entropy) ops).map Backdrop.seedless.engine =
          (Engine.afterHistory (U := U) b ops).map Backdrop.seedless.engine := by
  have hbuild := build_withSeed drawless seed entropy U
  have unseen : ∀ e : Engine U P, Engine.Reachable b e →
      (Backdrop.seeded seed entropy b.settings).Unseen e :=
    fun _ reachable => unseen_seeded drawless seed entropy reachable
  refine ⟨?_, ?_, fun ops => ⟨?_, ?_⟩⟩
  · rw [hbuild]
    cases (b.build (U := U)).1 <;> rfl
  · rw [hbuild, List.map_map]
    refine List.map_congr_left fun event _ => ?_
    cases event <;> rfl
  · exact Backdrop.unsigned_answersTo_blueprint unseen hbuild ops
  · have hhistory : Engine.afterHistory (U := U) (b.withSeed seed entropy) ops = _ :=
      Backdrop.afterHistory_blueprint unseen hbuild ops
    rw [hhistory, Option.map_map]
    rfl

end

/-- If a configuration leaves nothing to chance, two engines that are built from it with different seeds, or with none, are built alike or fail alike; an observer of the building sees the same; all answers to every history are the same, but for fingerprints; and so are the engines after it, but for the seed, the stream and the fingerprint. -/
theorem seed_independent (U : Type) [Processor U P] {b : Blueprint P} (drawless : b.settings.Drawless)
    (seed seed' : Option Nat) (entropy entropy' : Nat) :
    let first := b.withSeed seed entropy
    let second := b.withSeed seed' entropy'
    (first.build (U := U)).1.map Backdrop.seedless.engine =
        (second.build (U := U)).1.map Backdrop.seedless.engine ∧
      (first.build (U := U)).2.map Backdrop.seedless.event =
        (second.build (U := U)).2.map Backdrop.seedless.event ∧
      ∀ ops, (first.answersTo U ops).map (List.map unsigned) =
          (second.answersTo U ops).map (List.map unsigned) ∧
        (Engine.afterHistory (U := U) first ops).map Backdrop.seedless.engine =
          (Engine.afterHistory (U := U) second ops).map Backdrop.seedless.engine := by
  obtain ⟨hbuild, hevents, hhistories⟩ := withSeed_seedless drawless seed entropy U
  obtain ⟨hbuild', hevents', hhistories'⟩ := withSeed_seedless drawless seed' entropy' U
  refine ⟨hbuild.trans hbuild'.symm, hevents.trans hevents'.symm, fun ops => ?_⟩
  obtain ⟨hanswers, hengine⟩ := hhistories ops
  obtain ⟨hanswers', hengine'⟩ := hhistories' ops
  exact ⟨hanswers.trans hanswers'.symm, hengine.trans hengine'.symm⟩

def sparePoints : Blueprint Program where
  settings := {
    population := {
      size := 2
      radius := 2
      distribution := .fixedPoints [⟨1, 0, 0⟩, ⟨2, 0, 0⟩, ⟨3, 0, 0⟩] }
    schedule := { transmit := .jittered 0.5 0 }
    lifecycle := { maxPopulation := some 3, cloneDelay := 1 } }
  program := .idle

def cloneTwice : List Operation :=
  [.requestClone 1, .run 2, .requestClone 1, .requestClone 2, .run 3, .neighborsOf 3, .snapshot]

/-- One engine has a seed and the other has none. Their streams differ, and yet both come to have three devices and to have dropped a clone, and answer the same. -/
theorem seed_independent_sparePoints : ∃ first second : Engine ScriptedProcessor Program,
    Engine.afterHistory (sparePoints.withSeed (some 1) 0) cloneTwice = some first ∧
      Engine.afterHistory (sparePoints.withSeed none 7) cloneTwice = some second ∧
      first.stream ≠ second.stream ∧
      second.metrics.spawns = 1 ∧ second.metrics.droppedClones = 1 ∧
      Backdrop.seedless.engine first = Backdrop.seedless.engine second ∧
      ((sparePoints.withSeed (some 1) 0).answersTo ScriptedProcessor cloneTwice).map (List.map unsigned) =
        ((sparePoints.withSeed none 7).answersTo ScriptedProcessor cloneTwice).map (List.map unsigned) := by
  have drawless : sparePoints.settings.Drawless :=
    ⟨rfl, by decide +kernel, by decide +kernel, rfl, by decide +kernel⟩
  have hfirst : (Engine.afterHistory (sparePoints.withSeed (some 1) 0) cloneTwice).map
      (fun e : Engine ScriptedProcessor Program => (e.metrics.spawns, e.metrics.droppedClones, e.stream)) =
        some (1, 1, .ofSeed 1) := by
    decide +kernel
  have hsecond : (Engine.afterHistory (sparePoints.withSeed none 7) cloneTwice).map
      (fun e : Engine ScriptedProcessor Program => e.stream) = some (.ofSeed 7) := by
    decide +kernel
  obtain ⟨first, hfirst, hfacts⟩ := Option.map_eq_some_iff.mp hfirst
  obtain ⟨second, hsecond, hstream⟩ := Option.map_eq_some_iff.mp hsecond
  simp only [Prod.mk.injEq] at hfacts
  obtain ⟨hspawns, hdropped, hstream'⟩ := hfacts
  obtain ⟨-, -, hhistories⟩ := seed_independent ScriptedProcessor drawless (some 1) none 0 7
  obtain ⟨hanswers, hengines⟩ := hhistories cloneTwice
  rw [hfirst, hsecond] at hengines
  have hsame := Option.some.inj hengines
  have hmetrics : (Backdrop.seedless.engine first).metrics = (Backdrop.seedless.engine second).metrics :=
    congrArg Engine.metrics hsame
  refine ⟨first, second, hfirst, hsecond, ?_, ?_, ?_, hsame, hanswers⟩
  · rw [hstream, hstream']
    decide +kernel
  · exact (congrArg Metrics.spawns hmetrics).symm.trans hspawns
  · exact (congrArg Metrics.droppedClones hmetrics).symm.trans hdropped

end Blueprint

end SpatialComputer
