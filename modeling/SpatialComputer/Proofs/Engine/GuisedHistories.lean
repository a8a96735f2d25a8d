import SpatialComputer.Proofs.Engine.Guise
import SpatialComputer.Proofs.Engine.Simulation

/-!
# Histories in another guise

A faithful guise makes no difference to a tick, so it makes none to a run of many ticks, to any other operation, or to a whole history: every answer and every event is that of the engine underneath, dressed. If fresh processors come dressed as well, the same is true from the blueprint on.
-/

namespace SpatialComputer

namespace Guise

variable {U P : Type} [Processor U P] {g : Guise U P} {b : Blueprint P} {e : Engine U P} {known : Nat}
  {p q r : Device U → Prop}

namespace Fitting

/-! ### Histories -/

omit [Processor U P] in
private theorem size_le_of_step [Processor U P] {e' : Engine U P} (sound : e.Sound b) (h : e.Step e') :
    e.size ≤ e'.size := by
  cases h with
  | tick =>
    have hgrown : e.runTick.engine.size = e.size + e.parentsInTick.length := sound.size_runTick
    omega
  | setPaused paused => exact Nat.le_refl _
  | setSensor | setRadius | request => exact Array.size_modify.ge
  | query i => exact (size_eq_of_sites (NeighborIndex.sites_neighborsOf e.index e.devices i)).ge

theorem step (fitting : Fitting b known p e) (faithful : g.Faithful b.program known p q r)
    {e' : Engine U P} (h : e.Step e') : Fitting b known p e' where
  sound := fitting.sound.step h
  devices := fitting.sound.forall_step faithful.handed faithful.kept h fitting.devices
  known := fitting.known.trans (size_le_of_step fitting.sound h)

theorem perform (fitting : Fitting b known p e) (faithful : g.Faithful b.program known p q r)
    (op : Operation) : Fitting b known p (e.perform op).engine := by
  have hsteps : ∀ e' : Engine U P, e.Steps e' → Fitting b known p e' := by
    intro e' hsteps
    induction hsteps with
    | refl => exact fitting
    | tail _ h ih => exact ih.step faithful h
  exact hsteps _ (Engine.perform_steps e op)

theorem performAll (faithful : g.Faithful b.program known p q r) (ops : List Operation) :
    ∀ {e : Engine U P}, Fitting b known p e → Fitting b known p (e.performAll ops) := by
  induction ops with
  | nil => exact fun fitting => fitting
  | cons op ops ih => exact fun fitting => ih (fitting.perform faithful op)

end Fitting

/-! ### Operations -/

omit [Processor U P] in
private theorem withDevice_engine (e : Engine U P) (i : Nat) {f : Device U → Device U}
    (hf : ∀ d, g.device (f d) = f (g.device d)) :
    (g.engine e).withDevice i f = g.engine (e.withDevice i f) :=
  congrArg (fun devices => { g.engine e with population := { e.population with devices := devices } })
    (map_modify_comm hf e.devices i).symm

omit [Processor U P] in
private theorem afterQuery_engine (e : Engine U P) (i : Nat) :
    (g.engine e).afterQuery i = g.engine (e.afterQuery i) := by
  have hasked : (g.engine e).index.neighborsOf (g.engine e).devices i = ((e.index.neighborsOf e.devices i).1,
      (e.index.neighborsOf e.devices i).2.1, (e.index.neighborsOf e.devices i).2.2.map g.device) :=
    neighborsOf_map_device _ _ _
  unfold Engine.afterQuery
  rw [hasked]
  rfl

private theorem Faithful.change {program : P} (faithful : g.Faithful program known p q r)
    {f : Device U → Device U} (hf : Device.Change f) (d : Device U) : g.device (f d) = f (g.device d) := by
  cases hf with
  | setSensor sensor value =>
    exact congrArg (fun processor => { g.device d with processor := processor })
      (faithful.setSensor sensor value d.processor)
  | setRadius radius =>
    exact congrArg (fun processor => { g.device d with radius := radius, processor := processor })
      (faithful.setRadius radius d.processor)
  | requestClone =>
    exact congrArg (fun requests => { g.device d with requests := requests })
      (faithful.requestClone d.id d.requests true)
  | requestDeath =>
    exact congrArg (fun requests => { g.device d with requests := requests })
      (faithful.requestDeath d.id d.requests)

theorem snapshot_engine (faithful : g.Faithful b.program known p q r) (e : Engine U P) :
    (g.engine e).snapshot = g.snapshot e.snapshot := by
  have hdevice : ∀ d : Device U, (g.device d).snapshot =
      { d.snapshot with requests := g.requests d.id d.requests } := by
    intro d
    simp only [Device.snapshot, device, faithful.color, faithful.sensor, faithful.sensorCount]
  unfold Engine.snapshot snapshot
  rw [devices_engine, Array.toList_map, List.map_map, List.map_map]
  refine congrArg (PopulationSnapshot.mk e.tick e.time e.fingerprint) ?_
  exact List.map_congr_left fun d _ => hdevice d

def view (g : Guise U P) : View U where
  device := g.device
  report := g.report
  snapshot := g.snapshot

omit [Processor U P] in
private theorem answer_view (answer : Answer U) : g.view.answer answer = g.answer answer := by
  cases answer <;> rfl

omit [Processor U P] in
private theorem event_view : g.view.event = g.event := by
  funext event
  cases event <;> rfl

omit [Processor U P] in
private theorem given_view (given : Answer U × List (Event U)) : g.view.given given = g.given given := by
  rw [View.given, Guise.given, answer_view, event_view]

private def simulation (faithful : g.Faithful b.program known p q r) : Simulation U P where
  view := g.view
  view' := .plain
  known e _ := Fitting b known p e
  related e e' := e' = g.engine e
  clear := ⟨fun _ => rfl, fun d => faithful.color d.processor⟩
  clear' := View.plain_clear
  performed op fitting := fitting.perform faithful op
  alike {e e'} _ h := by
    subst h
    refine ⟨rfl, rfl, rfl, ?_, snapshot_engine faithful e⟩
    exact Array.map_id _
  tick {e e'} fitting h := by
    subst h
    rw [fitting.runTick faithful, View.map_event_plain, event_view]
    exact ⟨rfl, rfl, rfl⟩
  query {e e'} i _ h := by
    subst h
    have hfound := congrArg Prod.fst (neighborsOf_map_device (g := g) e.index e.devices i)
    exact ⟨hfound, afterQuery_engine e i⟩
  setPaused paused h := by
    subst h
    rfl
  change i hf h := by
    subst h
    exact withDevice_engine _ i (faithful.change hf)
  markDirty h := by
    subst h
    rfl

/-- Every operation comes to the same in either guise. -/
theorem Fitting.perform_engine (fitting : Fitting b known p e)
    (faithful : g.Faithful b.program known p q r) (op : Operation) :
    (g.engine e).perform op = g.performed (e.perform op) := by
  obtain ⟨hengine, hanswer, hevents⟩ := (simulation faithful).perform fitting rfl op
  have hanswer : ((g.engine e).perform op).answer = g.answer (e.perform op).answer :=
    (View.answer_plain _).symm.trans (hanswer.trans (answer_view _))
  have hevents : ((g.engine e).perform op).events = (e.perform op).events.map g.event :=
    (View.map_event_plain _).symm.trans (event_view ▸ hevents)
  rw [performed, ← hengine, ← hanswer, ← hevents]

theorem Fitting.neighborsOf_answer (fitting : Fitting b known p e)
    (faithful : g.Faithful b.program known p q r) (id : DeviceId) :
    ((g.engine e).perform (.neighborsOf id)).answer = (e.perform (.neighborsOf id)).answer := by
  rw [fitting.perform_engine faithful]
  cases hi : e.population.indexOf id with
  | none =>
    simp only [Engine.perform, Engine.neighborsOf_of_unknown hi]
    rfl
  | some i =>
    simp only [Engine.perform, Engine.neighborsOf_of_found hi]
    rfl

omit [Processor U P] in
theorem neighborsUncached_engine (id : DeviceId) :
    (g.engine e).neighborsUncached id = e.neighborsUncached id := by
  have same : sites (g.engine e).devices = sites e.devices := sites_map_device e.devices
  exact Engine.neighborsUncached_congr same id

/-- Every history comes to the same in either guise. -/
theorem Fitting.answers_engine (faithful : g.Faithful b.program known p q r) (ops : List Operation)
    {e : Engine U P} (fitting : Fitting b known p e) :
    (g.engine e).answers ops = (e.answers ops).map g.given ∧
      (g.engine e).performAll ops = g.engine (e.performAll ops) := by
  obtain ⟨hanswers, -, hengine⟩ := (simulation faithful).history ops fitting rfl
  refine ⟨?_, hengine⟩
  rw [← View.map_given_plain ((g.engine e).answers ops)]
  exact hanswers.trans (List.map_congr_left fun given _ => given_view given)

private theorem ticksOfRun_engine (faithful : g.Faithful b.program known p q r) (maxTicks : Nat) :
    ∀ {e : Engine U P}, Fitting b known p e →
      (g.engine e).ticksOfRun maxTicks = (e.ticksOfRun maxTicks).map g.engine := by
  induction maxTicks with
  | zero => exact fun _ => rfl
  | succ maxTicks ih =>
    intro e fitting
    have hstop : ((g.engine e).shouldStop || (g.engine e).paused) = (e.shouldStop || e.paused) := rfl
    have hrest := ih (fitting.step faithful .tick)
    rw [Engine.ticksOfRun, Engine.ticksOfRun, hstop, fitting.runTick faithful]
    cases e.shouldStop || e.paused with
    | true => rfl
    | false => exact congrArg (List.cons _) hrest

theorem Fitting.ticksIn_engine (faithful : g.Faithful b.program known p q r) (ops : List Operation) :
    ∀ {e : Engine U P}, Fitting b known p e →
      (g.engine e).ticksIn ops = (e.ticksIn ops).map g.engine := by
  induction ops with
  | nil => exact fun _ => rfl
  | cons op ops ih =>
    intro e fitting
    have hfirst : (g.engine e).ticksOf op = (e.ticksOf op).map g.engine := by
      cases op with
      | advance =>
        have hready : ((g.engine e).paused || (g.engine e).shouldStop) = (e.paused || e.shouldStop) := rfl
        unfold Engine.ticksOf
        rw [hready]
        cases e.paused || e.shouldStop <;> rfl
      | run maxTicks => exact ticksOfRun_engine faithful maxTicks fitting
      | _ => rfl
    rw [Engine.ticksIn, Engine.ticksIn, hfirst, fitting.perform_engine faithful, List.map_append]
    exact congrArg _ (ih (fitting.perform faithful op))

/-! ### From the blueprint on -/

section

variable (create : ∀ id position radius schedule firstDue cloneDelay,
  Device.create id none position radius (Processor.fresh position (g.program b.program)) schedule firstDue
      cloneDelay =
    g.device (Device.create id none position radius (Processor.fresh position b.program) schedule firstDue
      cloneDelay))
include create

private theorem createDevice_blueprint (index : Nat) (id : DeviceId) :
    (g.blueprint b).createDevice index id = g.device <$> b.createDevice index id := by
  unfold Blueprint.createDevice
  rw [map_bind]
  refine congrArg (Bind.bind (Blueprint.attempt (b.position index))) (funext fun position => ?_)
  by_cases hfinite : position.isFinite = true
  · simp only [hfinite, if_true, map_bind, map_pure, ← create]
    rfl
  · simp only [hfinite]
    rfl

private theorem populate_blueprint (count : Nat) : ∀ (p : Population U) (stream : Sampling.Keystream),
    (g.blueprint b).populate count (g.population p) stream =
      ((b.populate count p stream).1, g.population (b.populate count p stream).2.1,
        (b.populate count p stream).2.2) := by
  induction count with
  | zero => exact fun _ _ => rfl
  | succ count ih =>
    intro p stream
    have hsize : (g.population p).size = p.size := Array.size_map
    have hallocated : (g.population p).allocateId = (p.allocateId.1, g.population p.allocateId.2) := rfl
    have hcreated : ((g.blueprint b).createDevice (U := U) p.size p.allocateId.1).run.run stream =
        (((b.createDevice p.size p.allocateId.1).run.run stream).1.map g.device,
          ((b.createDevice (U := U) p.size p.allocateId.1).run.run stream).2) := by
      rw [createDevice_blueprint create, ExceptT.run_map, StateT.run_map]
      rfl
    unfold Blueprint.populate
    simp only [hsize, hallocated, hcreated]
    rcases (b.createDevice (U := U) p.size p.allocateId.1).run.run stream with ⟨outcome, next⟩
    cases outcome with
    | error cause => rfl
    | ok d =>
      have hinserted : (g.population p.allocateId.2).insert (g.device d) =
          g.population (p.allocateId.2.insert d) := by
        unfold Population.insert population
        rw [Array.map_push]
      have hrest := ih (p.allocateId.2.insert d) next
      rw [← hinserted] at hrest
      exact hrest

/-- In either guise the same is built, and the building looks the same. -/
theorem build_blueprint : (g.blueprint b).build (U := U) =
    ((b.build (U := U)).1.map g.engine, (b.build (U := U)).2.map g.event) := by
  have hempty : g.population ({} : Population U) = {} := by
    unfold population
    rw [Array.map_empty]
  have hmetrics : g.metrics {} = {} := by
    unfold metrics
    cases g.hidesFaults <;> rfl
  refine Blueprint.build_map rfl rfl fun _ => ?_
  rcases hpopulate : b.populate b.settings.population.size ({} : Population U)
    (.ofSeed (.ofNat b.seed)) with ⟨outcome, p, stream⟩
  have hpopulate' := populate_blueprint create b.settings.population.size ({} : Population U)
    (.ofSeed (.ofNat b.seed))
  rw [hempty, hpopulate] at hpopulate'
  refine ⟨outcome, p, g.population p, stream, stream, rfl, hpopulate', ?_, ?_⟩
  · simp only [Blueprint.freshEngine, engine, hmetrics]
    rfl
  · unfold population
    rw [Array.toList_map, List.map_map, List.map_map]
    rfl

end

end Guise

end SpatialComputer
