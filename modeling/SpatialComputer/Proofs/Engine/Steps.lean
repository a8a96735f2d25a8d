import Mathlib.Logic.Relation
import SpatialComputer.Engine.Operation
import SpatialComputer.Proofs.Engine.Runs

/-!
# Elementary steps

An operation runs its ticks one after another, or it makes a single change between two ticks: the pause flag, a sensor, a radius, a request, or what a query caches on the way. Otherwise it leaves the engine alone. So whatever a freshly built engine has, and every tick and every such change keeps, holds of every reachable engine, also in the middle of a run.
-/

namespace SpatialComputer

namespace Engine

variable {U P : Type} [Processor U P]

def withDevice (e : Engine U P) (i : Nat) (f : Device U → Device U) : Engine U P :=
  { e with population := e.population.modifyAt i f }

/-- The engine after a query about the device at an index. -/
def afterQuery (e : Engine U P) (i : Nat) : Engine U P :=
  { e with
    index := (e.index.neighborsOf e.devices i).2.1
    population := { e.population with devices := (e.index.neighborsOf e.devices i).2.2 } }

def afterRadius (e : Engine U P) (i : Nat) (radius : Float) : Engine U P :=
  { e.withDevice i (Device.setRadius radius) with index := e.index.markDirty }

/-- One elementary change of an engine. -/
inductive Step (e : Engine U P) : Engine U P → Prop where
  | tick : Step e e.runTick.engine
  | setPaused (paused : Bool) : Step e { e with paused := paused }
  | setSensor (i sensor : Nat) (value : Bool) : Step e (e.withDevice i fun d =>
      { d with processor := Processor.setSensor sensor value d.processor })
  | setRadius (i : Nat) (radius : Float) : Step e (e.afterRadius i radius)
  | request (i : Nat) (raise : LifecycleRequests → LifecycleRequests) :
    Step e (e.withDevice i fun d => { d with requests := raise d.requests })
  | query (i : Nat) : Step e (e.afterQuery i)

abbrev Steps : Engine U P → Engine U P → Prop := Relation.ReflTransGen Step

/-! ### The ticks of an operation -/

/-- The engines with which the ticks of a run begin that may take the given number of them. -/
def ticksOfRun (e : Engine U P) : Nat → List (Engine U P)
  | 0 => []
  | maxTicks + 1 =>
    if e.shouldStop || e.paused then [] else e :: e.runTick.engine.ticksOfRun maxTicks

theorem ticksOfRun_of_rests {e : Engine U P} {n : Nat} (h : e.Rests n) : e.ticksOfRun n = [] := by
  cases n with
  | zero => rfl
  | succ n =>
    have hhalted : (e.shouldStop || e.paused) = true :=
      Bool.or_eq_true_iff.mpr (h.resolve_left n.succ_ne_zero)
    rw [ticksOfRun, if_pos hhalted]

theorem ticksOfRun_succ {e : Engine U P} (hstop : e.shouldStop = false) (hpaused : e.paused = false)
    (n : Nat) : e.ticksOfRun (n + 1) = e :: e.runTick.engine.ticksOfRun n := by
  rw [ticksOfRun, hstop, hpaused]
  rfl

/-- The engines with which the ticks of an operation begin. -/
def ticksOf (e : Engine U P) : Operation → List (Engine U P)
  | .tick => [e]
  | .advance => if e.paused || e.shouldStop then [] else [e]
  | .run maxTicks => e.ticksOfRun maxTicks
  | _ => []

/-- Ticks one after another, with the engines with which they begin. -/
inductive TickChain : Engine U P → List (Engine U P) → Engine U P → Prop where
  | nil (e : Engine U P) : TickChain e [] e
  | cons {e e' : Engine U P} {starts : List (Engine U P)} :
    TickChain e.runTick.engine starts e' → TickChain e (e :: starts) e'

theorem TickChain.steps {e e' : Engine U P} {starts : List (Engine U P)}
    (chain : TickChain e starts e') : Steps e e' := by
  induction chain with
  | nil e => exact .refl
  | cons _ ih => exact .head .tick ih

private theorem chain_run (maxTicks : Nat) :
    ∀ e : Engine U P, TickChain e (e.ticksOfRun maxTicks) (e.run maxTicks).engine := by
  refine run_induction (motive := fun (e : Engine U P) n outcome =>
    TickChain e (e.ticksOfRun n) outcome.engine)
    (fun e n hrests => ?_) (fun e n hstop hpaused ih => ?_) maxTicks
  · rw [ticksOfRun_of_rests hrests]
    exact .nil e
  · rw [ticksOfRun_succ hstop hpaused]
    exact .cons ih

/-! ### Changes from outside -/

omit [Processor U P] in
theorem modifyDevice_of_found {e : Engine U P} {id : DeviceId} {i : Nat}
    (hi : e.population.indexOf id = some i) (f : Device U → Device U) :
    e.modifyDevice id f = .ok (e.withDevice i f) := by
  unfold modifyDevice indexOf
  rw [hi]
  rfl

omit [Processor U P] in
theorem modifyDevice_of_unknown {e : Engine U P} {id : DeviceId}
    (hi : e.population.indexOf id = none) (f : Device U → Device U) :
    e.modifyDevice id f = .error (.unknownDevice id) := by
  unfold modifyDevice indexOf
  rw [hi]
  rfl

omit [Processor U P] in
theorem modifyDevice_eq {e : Engine U P} {id : DeviceId} {f : Device U → Device U}
    {e' : Engine U P} (h : e.modifyDevice id f = .ok e') :
    ∃ i, e.population.indexOf id = some i ∧ e' = e.withDevice i f := by
  cases hi : e.population.indexOf id with
  | none =>
    rw [modifyDevice_of_unknown hi] at h
    cases h
  | some i =>
    rw [modifyDevice_of_found hi] at h
    exact ⟨i, rfl, (Except.ok.inj h).symm⟩

omit [Processor U P] in
theorem changed_events (e : Engine U P) (result : Except OperationError (Engine U P)) :
    (e.changed result).events = [] := by
  cases result <;> rfl

theorem setRadius_of_found {e : Engine U P} {id : DeviceId} {i : Nat} {radius : Float}
    (hradius : isFinitePositive radius = true) (hi : e.population.indexOf id = some i) :
    e.setRadius id radius = .ok (e.afterRadius i radius) := by
  unfold setRadius
  rw [hradius, modifyDevice_of_found hi]
  rfl

theorem setRadius_cases (e : Engine U P) (id : DeviceId) (radius : Float) :
    (∃ cause, e.setRadius id radius = .error cause) ∨
      ∃ i, isFinitePositive radius = true ∧ e.population.indexOf id = some i ∧
        e.setRadius id radius = .ok (e.afterRadius i radius) := by
  cases hradius : isFinitePositive radius with
  | false =>
    left
    unfold setRadius
    rw [hradius]
    exact ⟨_, rfl⟩
  | true =>
    cases hi : e.population.indexOf id with
    | none =>
      left
      unfold setRadius
      rw [hradius, modifyDevice_of_unknown hi]
      exact ⟨_, rfl⟩
    | some i => exact .inr ⟨i, rfl, rfl, setRadius_of_found hradius hi⟩

omit [Processor U P] in
theorem asked_engine {α : Type} (e : Engine U P) (result : Except OperationError α)
    (answer : α → Answer U) : (e.asked result answer).engine = e := by
  unfold asked
  split <;> rfl

omit [Processor U P] in
theorem asked_events {α : Type} (e : Engine U P) (result : Except OperationError α)
    (answer : α → Answer U) : (e.asked result answer).events = [] := by
  unfold asked
  split <;> rfl

omit [Processor U P] in
theorem neighborsOf_of_found {e : Engine U P} {id : DeviceId} {i : Nat}
    (hi : e.population.indexOf id = some i) :
    e.neighborsOf id = .ok ((e.index.neighborsOf e.devices i).1, e.afterQuery i) := by
  unfold neighborsOf indexOf
  rw [hi]
  rfl

omit [Processor U P] in
theorem neighborsOf_of_unknown {e : Engine U P} {id : DeviceId}
    (hi : e.population.indexOf id = none) : e.neighborsOf id = .error (.unknownDevice id) := by
  unfold neighborsOf indexOf
  rw [hi]
  rfl

/-! ### What an operation does -/

/-- What an operation changes if it runs no tick. -/
inductive Intervention (e : Engine U P) : Operation → Engine U P → Prop where
  | pause : Intervention e .pause { e with paused := true }
  | resume : Intervention e .resume { e with paused := false }
  | setSensor {id : DeviceId} {i : Nat} (sensor : Nat) (value : Bool) :
    e.population.indexOf id = some i → Intervention e (.setSensor id sensor value)
      (e.withDevice i fun d => { d with processor := Processor.setSensor sensor value d.processor })
  | setRadius {id : DeviceId} {i : Nat} {radius : Float} :
    isFinitePositive radius = true → e.population.indexOf id = some i →
      Intervention e (.setRadius id radius) (e.afterRadius i radius)
  | requestClone {id : DeviceId} {i : Nat} :
    e.population.indexOf id = some i → Intervention e (.requestClone id)
      (e.withDevice i fun d => { d with requests := { d.requests with clone := true } })
  | requestDeath {id : DeviceId} {i : Nat} :
    e.population.indexOf id = some i → Intervention e (.requestDeath id)
      (e.withDevice i fun d => { d with requests := { d.requests with death := true } })
  | query {id : DeviceId} {i : Nat} :
    e.population.indexOf id = some i → Intervention e (.neighborsOf id) (e.afterQuery i)

theorem Intervention.step {e e' : Engine U P} {op : Operation} (h : Intervention e op e') :
    Step e e' := by
  cases h with
  | pause => exact .setPaused true
  | resume => exact .setPaused false
  | setSensor sensor value _ => exact .setSensor _ sensor value
  | setRadius _ _ => exact .setRadius _ _
  | requestClone _ => exact .request _ fun r => { r with clone := true }
  | requestDeath _ => exact .request _ fun r => { r with death := true }
  | query _ => exact .query _

private theorem modified_cases {e : Engine U P} {op : Operation} {id : DeviceId}
    {f : Device U → Device U} (intervention : ∀ {i : Nat}, e.population.indexOf id = some i →
      Intervention e op (e.withDevice i f)) :
    TickChain e [] (e.changed (e.modifyDevice id f)).engine ∨
      Intervention e op (e.changed (e.modifyDevice id f)).engine := by
  cases hi : e.population.indexOf id with
  | none =>
    rw [modifyDevice_of_unknown hi]
    exact .inl (.nil e)
  | some i =>
    rw [modifyDevice_of_found hi]
    exact .inr (intervention hi)

/-- An operation does nothing but run its ticks, of which there may be none, or it runs none and changes something. -/
theorem perform_cases (e : Engine U P) (op : Operation) :
    TickChain e (e.ticksOf op) (e.perform op).engine ∨
      e.ticksOf op = [] ∧ Intervention e op (e.perform op).engine := by
  -- What fails or only asks is a chain of no ticks.
  cases op with
  | tick => exact .inl (.cons (.nil _))
  | advance =>
    unfold perform advance ticksOf
    cases e.paused || e.shouldStop with
    | true => exact .inl (.nil e)
    | false => exact .inl (.cons (.nil _))
  | run maxTicks => exact .inl (chain_run maxTicks e)
  | pause => exact .inr ⟨rfl, .pause⟩
  | resume => exact .inr ⟨rfl, .resume⟩
  | setSensor id sensor value => exact (modified_cases (.setSensor sensor value)).imp_right (⟨rfl, ·⟩)
  | setRadius id radius =>
    rw [perform]
    rcases e.setRadius_cases id radius with ⟨cause, hfailed⟩ | ⟨i, hradius, hi, hset⟩
    · rw [hfailed]
      exact .inl (.nil e)
    · rw [hset]
      exact .inr ⟨rfl, .setRadius hradius hi⟩
  | requestClone id => exact (modified_cases .requestClone).imp_right (⟨rfl, ·⟩)
  | requestDeath id => exact (modified_cases .requestDeath).imp_right (⟨rfl, ·⟩)
  | neighborsOf id =>
    cases hi : e.population.indexOf id with
    | none =>
      simp only [perform, neighborsOf_of_unknown hi]
      exact .inl (.nil e)
    | some i =>
      simp only [perform, neighborsOf_of_found hi]
      exact .inr ⟨rfl, .query hi⟩
  | neighborsUncached id | position id | color id | device id =>
    left
    rw [perform, asked_engine]
    exact .nil e
  | snapshot => exact .inl (.nil e)

theorem perform_of_no_ticks {e : Engine U P} {op : Operation} (hnone : e.ticksOf op = []) :
    (e.perform op).engine = e ∨ Intervention e op (e.perform op).engine := by
  rcases perform_cases e op with chain | ⟨-, intervention⟩
  · rw [hnone] at chain
    generalize (e.perform op).engine = e' at chain ⊢
    cases chain
    exact .inl rfl
  · exact .inr intervention

theorem perform_steps (e : Engine U P) (op : Operation) : Steps e (e.perform op).engine := by
  rcases perform_cases e op with chain | ⟨-, intervention⟩
  · exact chain.steps
  · exact .single intervention.step

private theorem events_run (maxTicks : Nat) : ∀ e : Engine U P,
    (e.run maxTicks).events.toList = (e.ticksOfRun maxTicks).flatMap fun s => s.runTick.events := by
  refine run_induction (motive := fun (e : Engine U P) n outcome =>
    outcome.events.toList = (e.ticksOfRun n).flatMap fun s => s.runTick.events)
    (fun e n hrests => ?_) (fun e n hstop hpaused ih => ?_) maxTicks
  · rw [ticksOfRun_of_rests hrests]
    rfl
  · rw [ticksOfRun_succ hstop hpaused, TickOutcome.followedBy, Array.toList_append, ih,
      List.flatMap_cons]

theorem events_perform (e : Engine U P) (op : Operation) :
    (e.perform op).events = (e.ticksOf op).flatMap fun s => s.runTick.events := by
  cases op with
  | tick => exact (List.append_nil _).symm
  | advance =>
    unfold perform advance ticksOf
    cases e.paused || e.shouldStop with
    | true => rfl
    | false => exact (List.append_nil _).symm
  | run maxTicks => exact events_run maxTicks e
  | pause | resume | snapshot => rfl
  | setSensor | setRadius | requestClone | requestDeath => exact changed_events e _
  | neighborsOf id =>
    rw [perform]
    cases e.neighborsOf id <;> rfl
  | neighborsUncached | position | color | device => exact asked_events e _ _

/-! ### Reachable engines -/

private theorem steps_invariant {holds : Engine U P → Prop}
    (step : ∀ e e', holds e → Step e e' → holds e') {e e' : Engine U P} (he : holds e)
    (hsteps : Steps e e') : holds e' := by
  induction hsteps with
  | refl => exact he
  | tail _ hstep ih => exact step _ _ ih hstep

/-- What a freshly built engine has and every elementary step keeps holds of every reachable engine. -/
theorem Reachable.invariant {b : Blueprint P} {holds : Engine U P → Prop}
    (built : ∀ (e : Engine U P) (events : List (Event U)), b.build = (.ok e, events) → holds e)
    (step : ∀ e e', holds e → Step e e' → holds e') {e : Engine U P} (reachable : Reachable b e) :
    holds e := by
  induction reachable with
  | built h => exact built _ _ h
  | @performed e op _ ih => exact steps_invariant step ih (perform_steps e op)

/-- The engine that a history leads to from a freshly built one, if one can be built. -/
def afterHistory (b : Blueprint P) (ops : List Operation) : Option (Engine U P) :=
  match b.build.1 with
  | .ok e => some (e.performAll ops)
  | .error _ => none

theorem afterHistory_eq_some {b : Blueprint P} {ops : List Operation} {e : Engine U P}
    (h : afterHistory b ops = some e) :
    ∃ start events, b.build = (.ok start, events) ∧ e = start.performAll ops := by
  unfold afterHistory at h
  cases hbuild : b.build (U := U) with
  | mk result events =>
    rw [hbuild] at h
    cases result with
    | error cause => cases h
    | ok start => exact ⟨start, events, rfl, (Option.some.inj h).symm⟩

theorem Reachable.performAll {b : Blueprint P} (ops : List Operation) :
    ∀ {e : Engine U P}, Reachable b e → Reachable b (e.performAll ops) := by
  induction ops with
  | nil => exact id
  | cons op ops ih => exact fun reachable => ih (reachable.performed op)

theorem Reachable.of_afterHistory {b : Blueprint P} {ops : List Operation} {e : Engine U P}
    (h : afterHistory b ops = some e) : Reachable b e := by
  obtain ⟨start, events, hbuild, rfl⟩ := afterHistory_eq_some h
  exact (Reachable.built hbuild).performAll ops

end Engine

end SpatialComputer
