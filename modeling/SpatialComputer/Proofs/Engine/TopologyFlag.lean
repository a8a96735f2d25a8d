import SpatialComputer.Proofs.Engine.Schedules
import SpatialComputer.Proofs.Tick.Caching

/-!
# The topology flag and the caches

Three things raise the topology flag: a device that moves, a device that is added, and a radius that is set. A tick lowers it once, at its start, and the first two are told by the report of the tick. So the flag between two operations tells of the latest tick and of what was done after it. While it is down every cache is kept, and a tick that finds it up ends with the caches of those devices that have transmitted in it.
-/

namespace SpatialComputer

namespace Engine

variable {U P : Type} [Processor U P] {b : Blueprint P} {e e' : Engine U P}
  {starts : List (Engine U P)}

/-! ### What raises the flag -/

/-- Whether the next tick moves or adds a device. -/
def ChangesTopology (e : Engine U P) : Prop :=
  0 < e.runTick.report.moved ∨ 0 < e.runTick.report.spawned

/-- Whether the operation sets a radius. It may also fail to, as it may be given a wrong radius or id. -/
def SetsRadius (e : Engine U P) (op : Operation) : Prop :=
  ∃ id radius e', op = .setRadius id radius ∧ e.setRadius id radius = .ok e'

/-- Whether a history sets a radius with no tick after it. -/
def RadiusSetSince (e : Engine U P) (ops : List Operation) : Prop :=
  ∃ earlier op later, ops = earlier ++ op :: later ∧ (e.performAll earlier).SetsRadius op ∧
    ((e.performAll earlier).perform op).engine.ticksIn later = []

theorem topologyDirty_runTick (e : Engine U P) :
    e.runTick.engine.topologyDirty = true ↔ e.ChangesTopology := by
  have hindex : e.runTick.engine.index = e.indexAfterTick := by rw [runTick_eq]
  have hreport : e.runTick.report = e.reportOfTick := by rw [runTick_eq]
  have hclean : e.transmission.index.dirty = false :=
    (Transmission.upTo_sameSetup _ _ _ _).dirty.trans (NeighborIndex.beginTick_dirty _ _)
  rw [topologyDirty, hindex, indexAfterTick, NeighborIndex.markDirtyIf_dirty,
    NeighborIndex.markDirtyIf_dirty, hclean, ChangesTopology, hreport]
  simp [reportOfTick]

/-! ### The flag after a history -/

private theorem TickChain.engine_eq (chain : TickChain e starts e') : e' = e.afterTicks starts := by
  induction chain with
  | nil e => rfl
  | cons _ ih => exact ih

private theorem SetsRadius.topologyDirty {op : Operation} (h : e.SetsRadius op) :
    (e.perform op).engine.topologyDirty = true := by
  obtain ⟨id, radius, e', rfl, hset⟩ := h
  rw [perform]
  rcases e.setRadius_cases id radius with ⟨cause, hfailed⟩ | ⟨i, -, -, hdone⟩
  · rw [hfailed] at hset
    cases hset
  · rw [hdone]
    rfl

private theorem Intervention.topologyDirty {op : Operation} (h : Intervention e op e') :
    e'.topologyDirty = e.topologyDirty ∨ e'.topologyDirty = true ∧ e.SetsRadius op := by
  cases h with
  | pause | resume => exact .inl rfl
  | setSensor _ _ _ | requestClone _ | requestDeath _ => exact .inl rfl
  | @setRadius id i radius hradius hi =>
    exact .inr ⟨rfl, id, radius, _, rfl, setRadius_of_found hradius hi⟩
  | query _ => exact .inl (NeighborIndex.neighborsOf_sameSetup _ _ _).dirty

/-- After an operation the flag is as its ticks leave it, unless the operation has set a radius. -/
theorem topologyDirty_perform (e : Engine U P) (op : Operation) :
    (e.perform op).engine.topologyDirty = true ↔
      (e.afterTicks (e.ticksOf op)).topologyDirty = true ∨ e.SetsRadius op := by
  have hset : e.SetsRadius op → (e.perform op).engine.topologyDirty = true := SetsRadius.topologyDirty
  rcases perform_cases e op with chain | ⟨hnone, intervention⟩
  · rw [chain.engine_eq] at hset ⊢
    exact (or_iff_left_of_imp hset).symm
  · rw [hnone]
    rcases intervention.topologyDirty with hkept | ⟨hraised, hradius⟩
    · rw [hkept] at hset ⊢
      exact (or_iff_left_of_imp hset).symm
    · exact iff_of_true hraised (.inr hradius)

private theorem radiusSetSince_cons (e : Engine U P) (op : Operation) (ops : List Operation) :
    e.RadiusSetSince (op :: ops) ↔
      (e.SetsRadius op ∧ (e.perform op).engine.ticksIn ops = []) ∨
        (e.perform op).engine.RadiusSetSince ops := by
  constructor
  · rintro ⟨_ | ⟨first, earlier⟩, op', later, heq, hset, hnone⟩
    · obtain ⟨rfl, rfl⟩ := List.cons.inj heq
      exact .inl ⟨hset, hnone⟩
    · obtain ⟨rfl, rfl⟩ := List.cons.inj heq
      exact .inr ⟨earlier, op', later, rfl, hset, hnone⟩
  · rintro (⟨hset, hnone⟩ | ⟨earlier, op', later, rfl, hset, hnone⟩)
    · exact ⟨[], op, ops, rfl, hset, hnone⟩
    · exact ⟨op :: earlier, op', later, rfl, hset, hnone⟩

theorem topologyDirty_performAll (ops : List Operation) : ∀ e : Engine U P,
    (e.performAll ops).topologyDirty = true ↔
      (e.afterTicks (e.ticksIn ops)).topologyDirty = true ∨ e.RadiusSetSince ops := by
  induction ops with
  | nil =>
    intro e
    have hnone : ¬e.RadiusSetSince [] := by
      rintro ⟨earlier, op, later, heq, -⟩
      cases earlier <;> cases heq
    rw [or_iff_left hnone]
    rfl
  | cons op ops ih =>
    intro e
    have hticks : e.afterTicks (e.ticksIn (op :: ops)) =
        (e.afterTicks (e.ticksOf op)).afterTicks ((e.perform op).engine.ticksIn ops) :=
      List.foldl_append
    rw [performAll, ih, radiusSetSince_cons, hticks]
    cases (e.perform op).engine.ticksIn ops with
    | nil =>
      rw [and_iff_left rfl, ← or_assoc]
      exact or_congr_left (topologyDirty_perform e op)
    | cons s later =>
      -- After another tick it no longer matters how the operation has left the flag.
      have hlater : ¬(e.SetsRadius op ∧ s :: later = []) := fun h => nomatch h.2
      rw [or_iff_right hlater]
      rfl

theorem topologyDirty_afterTicks (hclean : e.topologyDirty = false) (ticks : List (Engine U P)) :
    (e.afterTicks ticks).topologyDirty = true ↔
      ∃ s, ticks.getLast? = some s ∧ s.ChangesTopology := by
  rcases List.eq_nil_or_concat ticks with rfl | ⟨earlier, s, rfl⟩
  · simp [afterTicks, hclean]
  · rw [List.concat_eq_append, afterTicks, List.foldl_append, List.getLast?_append]
    simp [topologyDirty_runTick]

/-! ### Caches in a tick -/

/-- Neither the mutation phase nor its clones come with a change to a cache. -/
theorem Sound.cacheAt_runTick (sound : Sound b e) (i : Nat) :
    cacheAt e.runTick.engine.devices i = cacheAt e.transmission.devices i := by
  rw [← cacheAt_afterActuation]
  unfold cacheAt
  by_cases hi : i < e.size
  · obtain ⟨acted, hacted, -, hd⟩ := sound.device_runTick (Array.getElem?_eq_getElem hi)
    obtain ⟨_, _, hsettled⟩ := acted.settled_eq e.settings.lifecycle.cloneDelay
    rw [hd, hacted, hsettled]
    rfl
  · have hnone : e.afterActuation[i]? = none :=
      Array.getElem?_eq_none (size_afterActuation e ▸ Nat.not_lt.mp hi)
    rw [hnone]
    cases hd' : e.runTick.engine.devices[i]? with
    | none => rfl
    | some d' =>
      rcases sound.device_runTick_cases hd' with ⟨d, hd⟩ | ⟨k, parent, offset, -, -, -, rfl⟩
      · exact absurd (Array.getElem?_eq_some_iff.mp hd).1 hi
      · rfl

theorem Sound.cache_kept (sound : Sound b e) (hclean : e.topologyDirty = false) {i : Nat}
    {ids : List DeviceId} (hcached : cacheAt e.devices i = some ids) :
    (∀ n, cacheAt (e.transmissionAt n).devices i = some ids) ∧
      cacheAt e.afterRounds i = some ids ∧ cacheAt e.afterActuation i = some ids ∧
      cacheAt e.runTick.engine.devices i = some ids := by
  have hbegin : (e.index.beginTick e.devices).2.2 = e.devices := by
    unfold NeighborIndex.beginTick
    rw [show e.index.dirty = false from hclean]
    rfl
  have hturn : ∀ n, cacheAt (e.transmissionAt n).devices i = some ids :=
    Transmission.cacheAt_upTo_of_cached (hbegin.symm ▸ hcached)
  have hphase : cacheAt e.transmission.devices i = some ids := hturn _
  exact ⟨hturn, (cacheAt_afterRounds e i).trans hphase, (cacheAt_afterActuation e i).trans hphase,
    (sound.cacheAt_runTick i).trans hphase⟩

theorem Sound.cache_rebuilt (sound : Sound b e) (hdirty : e.topologyDirty = true) (i : Nat) :
    (cacheAt e.runTick.engine.devices i).isSome = true ↔ e.runsInTick .transmit i = 1 := by
  -- With the flag up the tick begins without caches, so one that is there afterwards was filled by
  -- a turn of the device.
  have hbegin : (e.index.beginTick e.devices).2.2 =
      e.devices.map fun d => { d with neighborCache := none } := by
    unfold NeighborIndex.beginTick
    rw [show e.index.dirty = true from hdirty]
    rfl
  have hplace : (e.index.beginTick e.devices).2.2[i]? =
      e.devices[i]?.map fun d => { d with neighborCache := none } := by
    rw [hbegin, Array.getElem?_map]
  rw [sound.cacheAt_runTick]
  cases hd : e.devices[i]? with
  | none =>
    have hsize : e.devices.size ≤ i := Array.getElem?_eq_none_iff.mp hd
    have hnone : ∀ n ≤ i, (e.transmissionAt n).devices[i]? = none := by
      intro n hn
      rw [transmissionAt, Transmission.getElem?_upTo_of_le _ _ _ hn, hplace, hd]
      rfl
    have hidle : e.transmissionAt (i + 1) = e.transmissionAt i := by
      rw [transmissionAt, Transmission.upTo_succ, Transmission.step, ← transmissionAt, hnone i le_rfl]
    rw [runsInTick, hidle, Nat.sub_self, cacheAt, transmission, hnone _ hsize]
    exact iff_of_false Bool.false_ne_true Nat.zero_ne_one
  | some d =>
    rw [hd] at hplace
    rw [sound.runsInTick_eq hd, transmission, transmissionAt]
    by_cases hdue : (d.alarm .transmit).due ≤ e.time
    · rw [if_pos hdue, Transmission.cacheAt_upTo_of_due (NeighborIndex.beginTick_dirty _ _) hplace
        (Device.transmitDue_iff.mpr hdue) (Array.getElem?_eq_some_iff.mp hd).1]
      exact iff_of_true rfl rfl
    · have hnotDue : d.transmitDue e.time = false :=
        Bool.eq_false_iff.mpr fun h => hdue (Device.transmitDue_iff.mp h)
      rw [if_neg hdue, cacheAt, Transmission.device_upTo_of_not_due hplace hnotDue]
      exact iff_of_false Bool.false_ne_true Nat.zero_ne_one

/-- After every history of a freshly built engine the flag is up just if the latest tick has moved or added a device or a radius was set after it, or at all if there was no tick. Each tick of the history reports that it rebuilds the topology just if the flag is up when it begins. If not, it keeps every cache that is in use at every turn of its transmit phase and at every later stage; if so, it ends with the caches of just those devices that have transmitted in it. -/
theorem flag_tracks_topology {start : Engine U P} {events : List (Event U)}
    (hbuild : b.build = (.ok start, events)) (ops : List Operation) :
    ((start.performAll ops).topologyDirty = true ↔
      (∃ s, (start.ticksIn ops).getLast? = some s ∧ s.ChangesTopology) ∨ start.RadiusSetSince ops) ∧
    ∀ s ∈ start.ticksIn ops,
      s.runTick.report.topologyRebuilt = s.topologyDirty ∧
      (s.runTick.report.topologyRebuilt = false → ∀ (i : Nat) (ids : List DeviceId),
        cacheAt s.devices i = some ids →
          (∀ n, cacheAt (s.transmissionAt n).devices i = some ids) ∧
            cacheAt s.afterRounds i = some ids ∧ cacheAt s.afterActuation i = some ids ∧
            cacheAt s.runTick.engine.devices i = some ids) ∧
      (s.runTick.report.topologyRebuilt = true → ∀ i : Nat,
        (cacheAt s.runTick.engine.devices i).isSome = true ↔ s.runsInTick .transmit i = 1) := by
  constructor
  · have hclean : start.topologyDirty = false := by
      rw [topologyDirty, (Blueprint.built_of_build hbuild).index]
      rfl
    rw [topologyDirty_performAll, topologyDirty_afterTicks hclean]
  · intro s hs
    have sound : Sound b s := ((Reachable.built hbuild).of_mem_ticksIn ops hs).sound
    have hrebuilt : s.runTick.report.topologyRebuilt = s.topologyDirty := by
      rw [runTick_eq]
      rfl
    rw [hrebuilt]
    exact ⟨rfl, fun hclean _ _ => sound.cache_kept hclean, sound.cache_rebuilt⟩

def slowPair : Blueprint Program where
  settings := {
    engine := { seed := some 1 }
    population := { size := 2, radius := 1, distribution := .explicit [⟨1, 0, 0⟩, ⟨2, 0, 0⟩] } }
  program := .idle
  schedule := some { transmit := .interval 2, compute := .interval 1 }

/-- Four ticks, with a clone in the third, and a radius set afterwards. -/
def slowGrowth : List Operation :=
  [.run 2, .requestClone 1, .run 2, .setRadius 1 3, .neighborsOf 1]

/-- After the clone the fourth tick drops what was cached in the first, and as nobody transmits in it nothing is cached anew. The radius raises the flag again. -/
theorem flag_tracks_topology_slowPair : ∃ (start : Engine ScriptedProcessor Program)
    (events : List (Event ScriptedProcessor)), slowPair.build = (.ok start, events) ∧
      (start.performAll slowGrowth).topologyDirty = true ∧
      ∃ s ∈ start.ticksIn slowGrowth, s.topologyDirty = true ∧ cacheAt s.devices 0 = some [2] ∧
        s.runTick.report.topologyRebuilt = true ∧ cacheAt s.runTick.engine.devices 0 = none := by
  have hfacts : ((afterHistory slowPair []).bind fun start : Engine ScriptedProcessor Program =>
      (start.ticksIn slowGrowth)[3]?.map fun s =>
        (((start.performAll (slowGrowth.take 3)).setRadius 1 3).isOk, s.topologyDirty,
          cacheAt s.devices 0, s.runsInTick .transmit 0)) = some (true, true, some [2], 0) := by
    decide +kernel
  obtain ⟨start, hstart, hfacts⟩ := Option.bind_eq_some_iff.mp hfacts
  obtain ⟨_, events, hbuild, rfl⟩ := afterHistory_eq_some hstart
  obtain ⟨s, hs, hfacts⟩ := Option.map_eq_some_iff.mp hfacts
  simp only [Prod.mk.injEq] at hfacts
  obtain ⟨hset, hdirty, hcached, hsilent⟩ := hfacts
  obtain ⟨hflag, hticks⟩ := flag_tracks_topology hbuild slowGrowth
  obtain ⟨hrebuilt, -, hdropped⟩ := hticks s (List.mem_of_getElem? hs)
  rw [hdirty] at hrebuilt
  refine ⟨start, events, hbuild, hflag.mpr (.inr ?_), s, List.mem_of_getElem? hs, hdirty, hcached, hrebuilt, ?_⟩
  · cases hok : (start.performAll (slowGrowth.take 3)).setRadius 1 3 with
    | error cause =>
      rw [hok] at hset
      cases hset
    | ok e' =>
      exact ⟨slowGrowth.take 3, .setRadius 1 3, [.neighborsOf 1], rfl, ⟨1, 3, e', rfl, hok⟩, rfl⟩
  · have hnone : ¬(cacheAt s.runTick.engine.devices 0).isSome = true := by
      rw [hdropped hrebuilt 0, hsilent]
      exact Nat.zero_ne_one
    rwa [Bool.not_eq_true, Option.isSome_eq_false_iff, Option.isNone_iff_eq_none] at hnone

end Engine

end SpatialComputer
