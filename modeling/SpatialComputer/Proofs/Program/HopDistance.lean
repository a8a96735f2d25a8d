import Mathlib.Order.Lattice.Nat
import SpatialComputer.Proofs.Engine.Offspring
import SpatialComputer.Proofs.Program.GradientTick

/-!
# Hop counts are distances

The devices and the lists they are served make a graph, and the devices whose source sensor is set are its sources. When all devices transmit and compute in every tick, the hop counts after `k` ticks are the distances to the nearest source, as far as these are below `k`; counts stop at the largest number of 32 bits. Within a tick this is one round of breadth-first search, and the graph is the same in every tick.
-/

namespace SpatialComputer

open ScriptedProcessor

/-! ### Distances -/

/-- A chain of the given length to a source, in which every link leads to a device that is served. -/
inductive Chain (served : DeviceId → List DeviceId) (isSource : DeviceId → Bool) :
    DeviceId → Nat → Prop where
  | source {id : DeviceId} : isSource id = true → Chain served isSource id 0
  | link {id next : DeviceId} {length : Nat} :
    next ∈ served id → Chain served isSource next length → Chain served isSource id (length + 1)

/-- Whether `n` is the length of the shortest chain from a device to a source. -/
def IsDistance (served : DeviceId → List DeviceId) (isSource : DeviceId → Bool) (id : DeviceId)
    (n : Nat) : Prop :=
  IsLeast {length | Chain served isSource id length} n

/-- Whether the hop counts are the distances below a bound, and none of the others. -/
def CountsBelow (served : DeviceId → List DeviceId) (isSource : DeviceId → Bool) (bound : Nat)
    (hops : DeviceId → Option Nat) : Prop :=
  ∀ id count, hops id = some count ↔
    ∃ n, IsDistance served isSource id n ∧ n < bound ∧ count = min n maxHops

variable {served : DeviceId → List DeviceId} {isSource : DeviceId → Bool} {id : DeviceId}

theorem Chain.exists_distance {length : Nat} (chain : Chain served isSource id length) :
    ∃ n ≤ length, IsDistance served isSource id n :=
  ⟨_, Nat.sInf_le chain, Nat.sInf_mem ⟨length, chain⟩, fun _ h => Nat.sInf_le h⟩

theorem isDistance_zero (hsource : isSource id = true) : IsDistance served isSource id 0 :=
  ⟨.source hsource, fun n _ => Nat.zero_le n⟩

/-- The distance of a device that is no source is one more than that of a device it is served. -/
theorem IsDistance.exists_next {n : Nat} (hdistance : IsDistance served isSource id n)
    (hsource : isSource id = false) :
    ∃ m next, n = m + 1 ∧ next ∈ served id ∧ IsDistance served isSource next m := by
  obtain ⟨hchain, hleast⟩ := hdistance
  cases hchain with
  | source h => simp [h] at hsource
  | @link _ next m hnext hrest =>
    refine ⟨m, next, rfl, hnext, hrest, fun m' hm' => ?_⟩
    exact Nat.le_of_succ_le_succ (hleast (Chain.link hnext hm'))

theorem countsBelow_zero {hops : DeviceId → Option Nat} (hnone : ∀ id, hops id = none) :
    CountsBelow served isSource 0 hops := by
  intro id count
  rw [hnone]
  constructor
  · intro h
    cases h
  · rintro ⟨n, -, hlt, -⟩
    omega

private theorem succHops_min (n : Nat) : succHops (min n maxHops) = min (n + 1) maxHops := by
  unfold succHops
  omega

/-- If everyone counts one hop more than the smallest count among those it is served, the counts become the distances below the next bound. -/
theorem CountsBelow.succ {bound : Nat} {hops hops' : DeviceId → Option Nat}
    (counts : CountsBelow served isSource bound hops)
    (hnext : ∀ id, hops' id = nextHops (isSource id) ((served id).filterMap hops).min?) :
    CountsBelow served isSource (bound + 1) hops' := by
  intro id count
  rw [hnext]
  cases hsource : isSource id with
  | true =>
    have hzero : IsDistance served isSource id 0 := isDistance_zero hsource
    constructor
    · intro h
      exact ⟨0, hzero, Nat.succ_pos _, (Option.some.inj h).symm⟩
    · rintro ⟨n, hdistance, -, rfl⟩
      have hn : n = 0 := hdistance.unique hzero
      rw [hn]
      rfl
  | false =>
    -- The distance `m + 1` below the new bound comes from a device heard with count `min m maxHops`,
    -- and no device heard has a smaller count.
    have hheard : ∀ {m next}, IsDistance served isSource id (m + 1) → next ∈ served id →
        IsDistance served isSource next m → m < bound →
        ((served id).filterMap hops).min? = some (min m maxHops) := by
      intro m next hdistance hmem hrest hlt
      refine List.min?_eq_some_iff.mpr ⟨?_, ?_⟩
      · exact List.mem_filterMap.mpr ⟨next, hmem, (counts next _).mpr ⟨m, hrest, hlt, rfl⟩⟩
      · intro other hother
        obtain ⟨source, hmem', hcount⟩ := List.mem_filterMap.mp hother
        obtain ⟨n, hn, -, rfl⟩ := (counts source other).mp hcount
        have hle : m + 1 ≤ n + 1 := hdistance.2 (Chain.link hmem' hn.1)
        omega
    constructor
    · intro h
      obtain ⟨heard, hmin, rfl⟩ := Option.map_eq_some_iff.mp h
      obtain ⟨next, hmem, hcount⟩ := List.mem_filterMap.mp (List.min?_mem hmin)
      obtain ⟨n, hn, hlt, rfl⟩ := (counts next heard).mp hcount
      obtain ⟨n', hle, hdistance⟩ := (Chain.link hmem hn.1).exists_distance
      obtain ⟨m, next', rfl, hmem', hrest⟩ := hdistance.exists_next hsource
      have hmin' := hheard hdistance hmem' hrest (by omega)
      refine ⟨m + 1, hdistance, by omega, ?_⟩
      rw [Option.some.inj (hmin.symm.trans hmin'), succHops_min]
    · rintro ⟨n, hdistance, hlt, rfl⟩
      obtain ⟨m, next, rfl, hmem, hrest⟩ := hdistance.exists_next hsource
      rw [nextHops, if_neg Bool.false_ne_true, hheard hdistance hmem hrest (by omega),
        Option.map_some, succHops_min]

/-! ### Histories -/

/-- Whether an operation neither ticks nor changes a sensor, a radius or a clone request. -/
def Operation.isQuiet : Operation → Bool
  | .pause | .resume | .requestDeath _ | .neighborsOf _ | .neighborsUncached _ | .position _
  | .color _ | .device _ | .snapshot => true
  | _ => false

/-- Whether an operation may come before the first tick. -/
def Operation.isSetup : Operation → Bool
  | .setSensor .. | .setRadius .. => true
  | op => op.isQuiet

namespace Engine

/-- The engines that have been built and set up and have not run yet. -/
inductive Prepared (b : Blueprint Program) : Engine ScriptedProcessor Program → Prop where
  | built {e : Engine ScriptedProcessor Program} {events : List (Event ScriptedProcessor)} :
    b.build = (.ok e, events) → Prepared b e
  | setup {e : Engine ScriptedProcessor Program} {op : Operation} :
    op.isSetup = true → Prepared b e → Prepared b (e.perform op).engine

/-- The engines that a number of ticks lead to, in each of which every device transmits and computes. Between the ticks there may be quiet operations. -/
inductive LockstepRun (e₀ : Engine ScriptedProcessor Program) :
    Nat → Engine ScriptedProcessor Program → Prop where
  | start : LockstepRun e₀ 0 e₀
  | tick {k : Nat} {e : Engine ScriptedProcessor Program} :
    e.Lockstep → LockstepRun e₀ k e → LockstepRun e₀ (k + 1) e.runTick.engine
  | quiet {k : Nat} {e : Engine ScriptedProcessor Program} {op : Operation} :
    op.isQuiet = true → LockstepRun e₀ k e → LockstepRun e₀ k (e.perform op).engine

variable {b : Blueprint Program} {e₀ e : Engine ScriptedProcessor Program} {sensor k : Nat}

theorem Prepared.reachable (prepared : Prepared b e) : Reachable b e := by
  induction prepared with
  | built h => exact .built h
  | setup _ _ ih => exact .performed _ ih

theorem LockstepRun.reachable (reachable : Reachable b e₀) (run : LockstepRun e₀ k e) :
    Reachable b e := by
  induction run with
  | start => exact reachable
  | tick _ _ ih => exact .performed .tick ih
  | quiet _ _ ih => exact .performed _ ih

private theorem map_perform_quiet {β : Type} {g : Device ScriptedProcessor → β}
    (hcache : ∀ ids d, g (Device.remember ids d) = g d)
    (hdeath : ∀ d, g { d with requests := { d.requests with death := true } } = g d)
    (e : Engine ScriptedProcessor Program) {op : Operation} (hquiet : op.isQuiet = true) :
    (e.perform op).engine.devices.map g = e.devices.map g := by
  have hnone : e.ticksOf op = [] := by
    cases op with
    | tick | advance | run => cases hquiet
    | _ => rfl
  rcases perform_of_no_ticks hnone with hsame | intervention
  · rw [hsame]
  · generalize (e.perform op).engine = e' at intervention
    cases intervention with
    | pause | resume => rfl
    | requestDeath _ => exact map_modify e.devices _ hdeath
    | query _ => exact NeighborIndex.map_neighborsOf hcache e.index e.devices _
    | setSensor | setRadius | requestClone => cases hquiet

private theorem map_perform_setup {β : Type} {g : Device ScriptedProcessor → β} (steady : Steady g)
    (e : Engine ScriptedProcessor Program) {op : Operation} (hsetup : op.isSetup = true) :
    (e.perform op).engine.devices.map g = e.devices.map g := by
  have hnone : e.ticksOf op = [] := by
    cases op with
    | tick | advance | run => cases hsetup
    | _ => rfl
  have hop : op.asksForClone = false := by
    cases op with
    | requestClone => cases hsetup
    | _ => rfl
  rcases perform_of_no_ticks hnone with hsame | intervention
  · rw [hsame]
  · exact (intervention.aside hop).map_devices steady

private def tuning (d : Device ScriptedProcessor) : Program × Option Nat × Bool × Bool :=
  (d.processor.program, d.processor.bestHeard, d.processor.requests.clone, d.requests.clone)

private theorem tuned_iff {d : Device ScriptedProcessor} :
    d.Tuned sensor ↔ tuning d = (.hopGradient sensor, none, false, false) := by
  simp only [tuning, Prod.mk.injEq]
  exact ⟨fun ⟨h, h', h'', h'''⟩ => ⟨h, h', h'', h'''⟩, fun ⟨h, h', h'', h'''⟩ => ⟨h, h', h'', h'''⟩⟩

private theorem Prepared.tuned (hprogram : b.program = .hopGradient sensor)
    (prepared : Prepared b e) :
    ∀ d ∈ e.devices, d.Tuned sensor ∧ d.processor.hops = none := by
  simp only [tuned_iff]
  induction prepared with
  | built h =>
    intro d hd
    obtain ⟨position, schedule, firstDue, h⟩ := (Blueprint.built_of_build h).created d hd
    rw [h, ← hprogram]
    exact ⟨rfl, rfl⟩
  | @setup e op hsetup _ ih =>
    have hkept := map_perform_setup (g := fun d => (tuning d, d.processor.hops))
      ⟨fun _ _ => rfl, fun _ _ _ => rfl, fun _ _ => rfl, fun _ => rfl⟩ e hsetup
    exact forall_of_map_eq
      (p := fun t => t.1 = (Program.hopGradient sensor, none, false, false) ∧ t.2 = none) hkept ih

/-! ### The graph -/

/-- The list that the device with the given id is served in the next tick. -/
def servedTo (e : Engine ScriptedProcessor Program) (id : DeviceId) : List DeviceId :=
  match e.population.indexOf id with
  | some i => e.servedInTick i
  | none => []

/-- Whether the source sensor of the device with the given id is set. -/
def sourceAt (e : Engine ScriptedProcessor Program) (sensor : Nat) (id : DeviceId) : Bool :=
  (Population.lookUp (fun d => d.processor.sensor sensor) e.devices id).getD false

private theorem servedTo_congr (sound₀ : Sound b e₀) (sound : Sound b e)
    (same : sites e.devices = sites e₀.devices) : e.servedTo = e₀.servedTo := by
  have hindex : e.population.indexOf = e₀.population.indexOf :=
    Population.indexIn_congr (map_id_eq_of_sites same)
  have hserved : e.servedInTick = e₀.servedInTick := by
    funext i
    rw [servedInTick, servedInTick, sound.served_transmissionAt, sound₀.served_transmissionAt,
      findNeighbors_congr same]
  funext id
  rw [servedTo, servedTo, hindex, hserved]

private theorem hopsAt_runTick (sound : Sound b e) (lockstep : e.Lockstep)
    (tuned : ∀ d ∈ e.devices, d.Tuned sensor) (id : DeviceId) :
    hopsAt e.runTick.engine.devices id =
      nextHops (e.sourceAt sensor id) ((e.servedTo id).filterMap (hopsAt e.devices)).min? := by
  obtain ⟨hsize, hdevices⟩ := gradient_tick sound lockstep tuned
  have hindex : Population.indexIn e.runTick.engine.devices id = Population.indexIn e.devices id := by
    rw [Population.indexIn_eq (sound.step .tick).numbered, Population.indexIn_eq sound.numbered, hsize]
  rcases Population.indexIn_cases sound.numbered id with hi | ⟨i, d, hi, hd, -⟩
  · have hnone : e.population.indexOf id = none := hi
    rw [hopsAt, Population.lookUp, hindex, sourceAt, Population.lookUp, servedTo, hi, hnone]
    rfl
  · have hsome : e.population.indexOf id = some i := hi
    obtain ⟨d', hd', -, -, -, hhops⟩ := hdevices i d hd
    rw [hopsAt, Population.lookUp, hindex, sourceAt, Population.lookUp, servedTo, hi, hsome]
    simp only [Option.bind_some, hd, hd', Option.map_some, Option.join_some, Option.getD_some]
    exact hhops

/-! ### Whole runs -/

private structure Counting (sensor : Nat) (e₀ : Engine ScriptedProcessor Program) (k : Nat)
    (e : Engine ScriptedProcessor Program) : Prop where
  sites : sites e.devices = sites e₀.devices
  sensors : e.devices.map (fun d => d.processor.sensor sensor) =
    e₀.devices.map fun d => d.processor.sensor sensor
  tuned : ∀ d ∈ e.devices, d.Tuned sensor
  counts : CountsBelow e₀.servedTo (e₀.sourceAt sensor) k (hopsAt e.devices)

private theorem Counting.start (hprogram : b.program = .hopGradient sensor) (prepared : Prepared b e₀) :
    Counting sensor e₀ 0 e₀ := by
  have htuned := prepared.tuned hprogram
  refine ⟨rfl, rfl, fun d hd => (htuned d hd).1, countsBelow_zero fun id => ?_⟩
  rw [hopsAt, Population.lookUp]
  cases Population.indexIn e₀.devices id with
  | none => rfl
  | some i =>
    cases hd : e₀.devices[i]? with
    | none => simp [hd]
    | some d => simp [hd, (htuned d (Array.mem_of_getElem? hd)).2]

private theorem Counting.tick (sound₀ : Sound b e₀) (sound : Sound b e) (lockstep : e.Lockstep)
    (counting : Counting sensor e₀ k e) : Counting sensor e₀ (k + 1) e.runTick.engine := by
  obtain ⟨hsize, hdevices⟩ := gradient_tick sound lockstep counting.tuned
  -- What a tick keeps of every device it keeps of the whole population.
  have hkept : ∀ {β : Type} (g : Device ScriptedProcessor → β),
      (∀ d d', d'.site = d.site → d'.processor.sensors = d.processor.sensors → g d' = g d) →
        e.runTick.engine.devices.map g = e.devices.map g := by
    intro β g hg
    apply Array.ext_getElem?
    intro i
    rw [Array.getElem?_map, Array.getElem?_map]
    cases hd : e.devices[i]? with
    | none =>
      rw [Array.getElem?_eq_none_iff] at hd
      rw [Array.getElem?_eq_none (hsize ▸ hd)]
    | some d =>
      obtain ⟨d', hd', -, hsite, hsensors, -⟩ := hdevices i d hd
      rw [hd', Option.map_some, Option.map_some, hg d d' hsite hsensors]
  refine ⟨(hkept _ fun _ _ h _ => h).trans counting.sites, ?_, fun d' hd' => ?_, ?_⟩
  · refine (hkept _ fun d d' _ h => ?_).trans counting.sensors
    rw [ScriptedProcessor.sensor, ScriptedProcessor.sensor, h]
  · obtain ⟨i, hi⟩ := Array.mem_iff_getElem?.mp hd'
    have hlt : i < e.devices.size := hsize ▸ (Array.getElem?_eq_some_iff.mp hi).1
    obtain ⟨d'', hd'', htuned, -⟩ := hdevices i _ (Array.getElem?_eq_getElem hlt)
    rw [hd''] at hi
    exact Option.some.inj hi ▸ htuned
  · refine counting.counts.succ fun id => ?_
    rw [hopsAt_runTick sound lockstep counting.tuned,
      servedTo_congr sound₀ sound counting.sites, sourceAt, sourceAt,
      Population.lookUp_congr (map_id_eq_of_sites counting.sites) counting.sensors]

private theorem Counting.quiet {op : Operation} (hquiet : op.isQuiet = true)
    (counting : Counting sensor e₀ k e) : Counting sensor e₀ k (e.perform op).engine := by
  have hkept : ∀ {β : Type} (g : Device ScriptedProcessor → β),
      (∀ ids d, g (Device.remember ids d) = g d) →
      (∀ d, g { d with requests := { d.requests with death := true } } = g d) →
        (e.perform op).engine.devices.map g = e.devices.map g :=
    fun g hcache hdeath => map_perform_quiet hcache hdeath e hquiet
  have hsites : SpatialComputer.sites (e.perform op).engine.devices = SpatialComputer.sites e.devices :=
    hkept Device.site (fun _ _ => rfl) fun _ => rfl
  refine ⟨hsites.trans counting.sites,
    (hkept _ (fun _ _ => rfl) fun _ => rfl).trans counting.sensors, ?_, ?_⟩
  · simp only [tuned_iff]
    exact forall_of_map_eq (p := fun t => t = (Program.hopGradient sensor, none, false, false))
      (hkept tuning (fun _ _ => rfl) fun _ => rfl) fun d hd => tuned_iff.mp (counting.tuned d hd)
  · rw [hopsAt_congr (map_id_eq_of_sites hsites)
      (hkept _ (fun _ _ => rfl) fun _ => rfl)]
    exact counting.counts

private theorem Counting.of_run (hprogram : b.program = .hopGradient sensor)
    (prepared : Prepared b e₀) (run : LockstepRun e₀ k e) : Counting sensor e₀ k e := by
  induction run with
  | start => exact .start hprogram prepared
  | tick lockstep run ih =>
    exact ih.tick prepared.reachable.sound (run.reachable prepared.reachable).sound lockstep
  | quiet hquiet _ ih => exact ih.quiet hquiet

/-- In a run in which every device transmits and computes in every tick, every tick serves the same lists, and after `k` ticks the hop count of a device is its distance from a source if that is below `k`, capped at the largest count, and missing otherwise. -/
theorem hops_eq_distance (hprogram : b.program = .hopGradient sensor) (prepared : Prepared b e₀)
    (run : LockstepRun e₀ k e) :
    (∀ id, e.servedTo id = e₀.servedTo id) ∧
    ∀ d ∈ e.devices,
      (∀ n, IsDistance e₀.servedTo (e₀.sourceAt sensor) d.id n → n < k →
        d.processor.hops = some (min n maxHops)) ∧
      ((∀ n, IsDistance e₀.servedTo (e₀.sourceAt sensor) d.id n → k ≤ n) →
        d.processor.hops = none) := by
  have sound := (run.reachable prepared.reachable).sound
  have counting := Counting.of_run hprogram prepared run
  refine ⟨congrFun (servedTo_congr prepared.reachable.sound sound counting.sites), fun d hd => ?_⟩
  obtain ⟨i, hi⟩ := Array.mem_iff_getElem?.mp hd
  have hread : hopsAt e.devices d.id = d.processor.hops := by
    rw [hopsAt, Population.lookUp, Population.indexIn_id sound.numbered hi]
    simp [hi]
  constructor
  · intro n hdistance hlt
    rw [← hread]
    exact (counting.counts d.id _).mpr ⟨n, hdistance, hlt, rfl⟩
  · intro hfar
    rw [← hread, Option.eq_none_iff_forall_ne_some]
    intro count hcount
    obtain ⟨n, hdistance, hlt, -⟩ := (counting.counts d.id count).mp hcount
    exact absurd (hfar n hdistance) (Nat.not_le.mpr hlt)

def gradientPair : Blueprint Program where
  settings := { population := {
    size := 2
    radius := 1
    distribution := .explicit [⟨1, 0, 0⟩, ⟨2, 0, 0⟩] } }
  program := .hopGradient 0

/-- With the first of the two devices as the source, the second counts one hop after two ticks. -/
theorem hops_eq_distance_gradientPair : ∃ e₀ e : Engine ScriptedProcessor Program,
    Prepared gradientPair e₀ ∧ LockstepRun e₀ 2 e ∧
      IsDistance e₀.servedTo (e₀.sourceAt 0) 2 1 ∧
      ∀ d ∈ e.devices, d.id = 2 → d.processor.hops = some 1 := by
  have hfacts : (afterHistory gradientPair [.setSensor 1 0 true]).map
      (fun e : Engine ScriptedProcessor Program =>
        (e.servedTo 2, e.sourceAt 0 1, e.sourceAt 0 2,
          e.devices.all (fun d => d.transmitDue e.time && d.computeDue e.time),
          e.runTick.engine.devices.all fun d =>
            d.transmitDue e.runTick.engine.time && d.computeDue e.runTick.engine.time)) =
      some ([1], true, false, true, true) := by
    decide +kernel
  obtain ⟨e₀, he₀, hfacts⟩ := Option.map_eq_some_iff.mp hfacts
  simp only [Prod.mk.injEq, Array.all_eq_true', Bool.and_eq_true] at hfacts
  obtain ⟨hserved, hsource, hother, hfirst, hsecond⟩ := hfacts
  obtain ⟨start, events, hbuild, rfl⟩ := afterHistory_eq_some he₀
  have prepared : Prepared gradientPair (start.performAll [.setSensor 1 0 true]) :=
    .setup rfl (.built hbuild)
  have run : LockstepRun (start.performAll [.setSensor 1 0 true]) 2 _ :=
    .tick hsecond (.tick hfirst .start)
  have hdistance : IsDistance (start.performAll [.setSensor 1 0 true]).servedTo
      ((start.performAll [.setSensor 1 0 true]).sourceAt 0) 2 1 := by
    have hnext : 1 ∈ (start.performAll [.setSensor 1 0 true]).servedTo 2 := by simp [hserved]
    refine ⟨.link hnext (.source hsource), fun n hn => ?_⟩
    cases hn with
    | source h => simp [hother] at h
    | link => omega
  refine ⟨_, _, prepared, run, hdistance, fun d hd hid => ?_⟩
  exact ((hops_eq_distance rfl prepared run).2 d hd).1 1 (hid ▸ hdistance) (by decide)

end Engine

end SpatialComputer
