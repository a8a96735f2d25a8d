import SpatialComputer.Proofs.Engine.Backdrop
import SpatialComputer.Proofs.Engine.CacheCoherence
import SpatialComputer.Proofs.Population.Counting

/-!
# Computing in parallel

A round changes nothing but the device that runs it, so it does not matter in which order the devices are visited, nor that a device is asked whether it is due only when its turn comes: at that moment it is as it was when the phase began. Every order leaves the same devices and runs the same rounds, and an observer is told of them in the order of the ids. So an engine that computes in parallel cannot be told from one that does not, but for the fingerprint of its configuration.
-/

namespace SpatialComputer

variable {U P : Type} [Processor U P]

/-! ### Orders of visit -/

/-- The places whose devices run a round when the devices are visited in the given order, in the order in which they do. -/
def roundsInOrder (time : Float) : List Nat → Array (Device U) → List Nat
  | [], _ => []
  | i :: order, devices =>
    let rest := roundsInOrder time order (devices.modify i (Device.computeIfDue time))
    if devices[i]?.any (·.computeDue time) then i :: rest else rest

private theorem roundsInOrder_eq (time : Float) {order : List Nat} (hnodup : order.Nodup) :
    ∀ devices : Array (Device U), roundsInOrder time order devices =
      order.filter fun i => devices[i]?.any (·.computeDue time) := by
  induction order with
  | nil => intro devices; rfl
  | cons i order ih =>
    intro devices
    obtain ⟨hi, horder⟩ := List.nodup_cons.mp hnodup
    have huntouched : ∀ j ∈ order,
        ((devices.modify i (Device.computeIfDue time))[j]?.any (·.computeDue time)) =
          devices[j]?.any (·.computeDue time) := by
      intro j hj
      have hne : i ≠ j := fun heq => hi (heq ▸ hj)
      rw [Array.getElem?_modify, if_neg hne]
    rw [roundsInOrder, ih horder, List.filter_congr huntouched, List.filter_cons]

private theorem roundsInOrder_perm (time : Float) {devices : Array (Device U)} {order : List Nat}
    (horder : order.Perm (List.range devices.size)) :
    (roundsInOrder time order devices).Perm (dueIndices time devices) := by
  rw [roundsInOrder_eq time (horder.nodup_iff.mpr List.nodup_range), dueIndices_eq]
  exact horder.filter _

private theorem computeInOrder_perm (time : Float) {devices : Array (Device U)} {order : List Nat}
    (horder : order.Perm (List.range devices.size)) :
    computeInOrder time order devices = computeInOrder time (List.range devices.size) devices := by
  apply Array.ext_getElem?
  intro i
  rw [computeInOrder, computeInOrder, getElem?_foldl_modify _ List.nodup_range,
    getElem?_foldl_modify _ (horder.nodup_iff.mpr List.nodup_range)]
  simp only [horder.mem_iff]

private theorem computeInOrder_eq_computeListed (time : Float) {devices : Array (Device U)}
    {order : List Nat} (horder : order.Perm (List.range devices.size)) :
    computeInOrder time order devices = computeListed time (dueIndices time devices) devices := by
  have hparallel := computePhase_eq true time devices
  have hlisted := computePhase_eq false time devices
  rw [computeInOrder_perm time horder]
  exact (congrArg Prod.snd hparallel).trans (congrArg Prod.snd hlisted).symm

/-! ### What an observer is told -/

namespace Engine

variable {b : Blueprint P} {e : Engine U P}

private theorem afterRounds_eq_computeInOrder {order : List Nat}
    (horder : order.Perm (List.range e.transmission.devices.size)) :
    e.afterRounds = computeInOrder e.time order e.transmission.devices := by
  rw [afterRounds, computeInOrder_eq_computeListed _ horder]
  exact (congrArg Prod.snd (computePhase_eq false e.time e.transmission.devices)).symm

omit [Processor U P] in
private theorem pairwise_id_filterMap {devices : Array (Device U)} (numbered : Numbered devices)
    {places : List Nat} (hplaces : places.Pairwise (· < ·)) :
    (places.filterMap fun i => devices[i]?).Pairwise fun d d' => d.id < d'.id := by
  refine List.Pairwise.filterMap _ (fun i j hij d hd d' hd' => ?_) hplaces
  have hid := numbered i d hd
  have hid' := numbered j d' hd'
  rw [hid, hid']
  exact Nat.succ_lt_succ hij

private theorem executed_of_order (sound : Sound b e) {order : List Nat}
    (horder : order.Perm (List.range e.transmission.devices.size)) :
    let rounds := roundsInOrder e.time order e.transmission.devices
    let devices := computeInOrder e.time order e.transmission.devices
    rounds.length = e.runTick.report.computed ∧
      (executed e.runTick.events).Perm (rounds.filterMap fun i => devices[i]?) ∧
      (executed e.runTick.events).length = rounds.length ∧
      (executed e.runTick.events).Pairwise fun d d' => d.id < d'.id := by
  dsimp only
  have hrounds := roundsInOrder_perm e.time horder
  rw [executed_runTick, ← afterRounds_eq_computeInOrder horder]
  refine ⟨?_, (hrounds.filterMap _).symm, ?_, ?_⟩
  · rw [runTick_eq, hrounds.length_eq]
    rfl
  · rw [hrounds.length_eq, List.filterMap_length_eq_length]
    intro i hi
    obtain ⟨d, hd, -⟩ := mem_dueIndices.mp hi
    rw [afterRounds, Array.getElem?_map, hd]
    rfl
  · apply pairwise_id_filterMap (sound.numbered.of_map_id (map_id_afterRounds e))
    exact List.pairwise_lt_range.filter _

/-! ### The two ways to compute -/

end Engine

def Settings.withParallel (inParallel : Bool) (s : Settings) : Settings :=
  { s with engine := { s.engine with parallelCompute := inParallel } }

/-- The blueprint with another way to compute. -/
def Blueprint.withParallel (inParallel : Bool) (b : Blueprint P) : Blueprint P :=
  { b with settings := b.settings.withParallel inParallel }

/-- What an observer sees, with the way to compute in the configuration replaced. -/
def Event.withParallel (inParallel : Bool) : Event U → Event U
  | .preInit settings => .preInit (settings.withParallel inParallel)
  | event => event

/-- The backdrop with another way to compute, under another fingerprint. -/
def Backdrop.parallel (inParallel : Bool) (fingerprint : String) : Backdrop where
  parallelCompute _ := inParallel
  fingerprint := fingerprint

/-! ### From the blueprint on -/

namespace Blueprint

variable {b : Blueprint P}

private theorem build_withParallel (U : Type) [Processor U P] (inParallel : Bool) (b : Blueprint P) :
    let g := Backdrop.parallel inParallel (b.settings.withParallel inParallel).fingerprint
    (g.blueprint b.entropy b).build (U := U) =
      ((b.build (U := U)).1.map g.engine, (b.build (U := U)).2.map g.event) :=
  Backdrop.build_blueprint rfl fun _ => ⟨_, _, _, rfl, rfl⟩

private theorem answersTo_withParallel (U : Type) [Processor U P] (inParallel : Bool)
    (b : Blueprint P) (ops : List Operation) :
    ((b.withParallel inParallel).answersTo U ops).map (List.map unsigned) =
      (b.answersTo U ops).map (List.map unsigned) := by
  have unseen : ∀ e : Engine U P, Engine.Reachable b e →
      (Backdrop.parallel inParallel (b.settings.withParallel inParallel).fingerprint).Unseen e :=
    fun _ _ => rfl
  exact Backdrop.unsigned_answersTo_blueprint unseen (build_withParallel U inParallel b) ops

/-- Visiting the devices in any order leaves what the sequential phase leaves and runs the rounds of the same devices; in a tick an observer is told of each round once, by ascending ids; and with and without parallel computing an engine is built alike and answers every history alike, but for the fingerprint. -/
theorem parallel_compute_unobservable (U : Type) [Processor U P] (b : Blueprint P) :
    (∀ (time : Float) (devices : Array (Device U)) (order : List Nat),
      order.Perm (List.range devices.size) →
        computeInOrder time order devices = computeListed time (dueIndices time devices) devices ∧
          (roundsInOrder time order devices).Perm (dueIndices time devices)) ∧
    (∀ (e : Engine U P) (order : List Nat), Engine.Reachable b e →
      order.Perm (List.range e.transmission.devices.size) →
        let rounds := roundsInOrder e.time order e.transmission.devices
        let devices := computeInOrder e.time order e.transmission.devices
        rounds.length = e.runTick.report.computed ∧
          (executed e.runTick.events).Perm (rounds.filterMap fun i => devices[i]?) ∧
          (executed e.runTick.events).length = rounds.length ∧
          (executed e.runTick.events).Pairwise fun d d' => d.id < d'.id) ∧
    (((b.withParallel true).build (U := U)).2.map (Event.withParallel false) =
      ((b.withParallel false).build (U := U)).2) ∧
    ∀ ops, ((b.withParallel true).answersTo U ops).map (List.map unsigned) =
      ((b.withParallel false).answersTo U ops).map (List.map unsigned) := by
  refine ⟨fun time devices order horder => ?_, fun e order reachable horder => ?_, ?_, fun ops => ?_⟩
  · exact ⟨computeInOrder_eq_computeListed time horder, roundsInOrder_perm time horder⟩
  · exact Engine.executed_of_order reachable.sound horder
  · exact (congrArg Prod.snd (build_withParallel U false (b.withParallel true))).symm
  · rw [answersTo_withParallel, answersTo_withParallel]

/-- When two idle devices are visited backwards, the second runs its round first, and an observer still hears of the first one first. -/
theorem parallel_compute_unobservable_backwards :
    ∃ e : Engine ScriptedProcessor Program, Engine.Reachable Engine.idlePair e ∧
      [1, 0].Perm (List.range e.transmission.devices.size) ∧
      roundsInOrder e.time [1, 0] e.transmission.devices = [1, 0] ∧
      (executed e.runTick.events).map Device.id = [1, 2] ∧
      (executed e.runTick.events).Pairwise (fun d d' => d.id < d'.id) ∧
      computeInOrder e.time [1, 0] e.transmission.devices =
        computeListed e.time (dueIndices e.time e.transmission.devices) e.transmission.devices := by
  have hfacts : (Engine.afterHistory Engine.idlePair []).map
      (fun e : Engine ScriptedProcessor Program => (e.transmission.devices.size,
        roundsInOrder e.time [1, 0] e.transmission.devices,
        (executed e.runTick.events).map Device.id)) = some (2, [1, 0], [1, 2]) := by
    decide +kernel
  obtain ⟨e, he, hfacts⟩ := Option.map_eq_some_iff.mp hfacts
  simp only [Prod.mk.injEq] at hfacts
  obtain ⟨hsize, hrounds, hids⟩ := hfacts
  have horder : [1, 0].Perm (List.range e.transmission.devices.size) := by
    rw [hsize]
    decide
  obtain ⟨hphases, hticks, -⟩ := parallel_compute_unobservable ScriptedProcessor Engine.idlePair
  have reachable := Engine.Reachable.of_afterHistory he
  exact ⟨e, reachable, horder, hrounds, hids, (hticks e _ reachable horder).2.2.2,
    (hphases _ _ _ horder).1⟩

end Blueprint

end SpatialComputer
