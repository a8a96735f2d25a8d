import SpatialComputer.Proofs.Engine.CacheCoherence
import SpatialComputer.Proofs.Engine.Forgetting
import SpatialComputer.Proofs.Engine.Simulation

/-!
# Queries leave no trace

An operation carried out before or after forgetting has the same answer, lets an observer see the same and leaves engines that differ in nothing but what they store. A query leaves an engine that differs from the one before in nothing else either. So queries that are inserted into a history change no answer to the rest of it, and nothing that an observer sees.
-/

namespace SpatialComputer

/-- Whether an operation only asks. -/
def Operation.isQuery : Operation → Bool
  | neighborsOf _ | neighborsUncached _ | position _ | color _ | device _ | snapshot => true
  | tick | advance | run _ | pause | resume => false
  | setSensor _ _ _ | setRadius _ _ | requestClone _ | requestDeath _ => false

variable {U P : Type} [Processor U P]

/-- The answer, but for the cache of a device that was asked for. -/
def Answer.forget : Answer U → Answer U
  | .device d => .device d.forget
  | answer => answer

def View.forgetful : View U where
  device := Device.forget

omit [Processor U P] in
private theorem View.event_forgetful : (forgetful : View U).event = Event.forget := by
  funext event
  cases event <;> rfl

omit [Processor U P] in
private theorem View.answer_forgetful (answer : Answer U) : forgetful.answer answer = answer.forget := by
  cases answer with
  | summary s reports => exact congrArg (Answer.summary s) reports.map_id
  | _ => rfl

namespace Engine

variable {b : Blueprint P} {e e' : Engine U P}

/-- What is given back of an operation, but for the caches of devices. -/
def seen (given : Answer U × List (Event U)) : Answer U × List (Event U) :=
  (given.1.forget, given.2.map Event.forget)

/-! ### What a query leaves behind -/

omit [Processor U P] in
private theorem forget_afterQuery (e : Engine U P) (i : Nat) : (e.afterQuery i).forget = e.forget := by
  have hindex := (NeighborIndex.neighborsOf_sameSetup e.index e.devices i).forget
  have hdevices : (e.index.neighborsOf e.devices i).2.2.map Device.forget =
      e.devices.map Device.forget := NeighborIndex.map_neighborsOf (fun _ _ => rfl) _ _ _
  unfold afterQuery forget
  rw [hindex, hdevices]
  rfl

theorem forget_perform_of_isQuery (e : Engine U P) {op : Operation} (hquery : op.isQuery = true) :
    (e.perform op).engine.forget = e.forget ∧ (e.perform op).events = [] := by
  have hnone : e.ticksOf op = [] := by
    cases op with
    | tick | advance | run => cases hquery
    | _ => rfl
  refine ⟨?_, by rw [events_perform, hnone]; rfl⟩
  rcases perform_of_no_ticks hnone with hsame | intervention
  · rw [hsame]
  · generalize (e.perform op).engine = e' at intervention
    cases intervention with
    | query _ => exact forget_afterQuery e _
    | pause | resume | setSensor | setRadius | requestClone | requestDeath => cases hquery

/-! ### Operations -/

private theorem found_forget (sound : Sound b e) (i : Nat) :
    (e.forget.index.neighborsOf e.forget.devices i).1 = (e.index.neighborsOf e.devices i).1 := by
  rw [NeighborIndex.neighborsOf_fst sound.forget.coherent, NeighborIndex.neighborsOf_fst sound.coherent]
  exact (NeighborIndex.sameSetup_forget e.index).answer (sites_map_forget e.devices) i

private theorem snapshot_forget (e : Engine U P) : e.forget.snapshot = e.snapshot := by
  refine congrArg (PopulationSnapshot.mk e.tick e.time e.fingerprint) ?_
  show (e.devices.map Device.forget).toList.map _ = _
  rw [Array.toList_map, List.map_map]
  rfl

private theorem alike_of_forget (h : e'.forget = e.forget) : e.Alike .forgetful .forgetful e' := by
  have htime : e'.forget.time = e.forget.time := by rw [h]
  have hstop : e'.forget.stop = e.forget.stop := by rw [h]
  have hpaused : e'.forget.paused = e.forget.paused := by rw [h]
  have hdevices : e'.forget.devices = e.forget.devices := by rw [h]
  have hsnapshot : e'.snapshot = e.snapshot := by rw [← snapshot_forget e', h, snapshot_forget]
  exact ⟨htime, hstop, hpaused, hdevices, hsnapshot⟩

omit [Processor U P] in
private theorem forget_withDevice (e : Engine U P) (i : Nat) {f : Device U → Device U}
    (hf : ∀ d, (f d).forget = f d.forget) : (e.withDevice i f).forget = e.forget.withDevice i f :=
  congrArg (fun devices => { e.forget with population := { e.population with devices := devices } })
    (map_modify_comm hf e.devices i)

private def forgetting (b : Blueprint P) : Simulation U P where
  view := .forgetful
  view' := .forgetful
  known e e' := Reachable b e ∧ Reachable b e'
  related e e' := e'.forget = e.forget
  clear := ⟨fun _ => rfl, fun _ => rfl⟩
  clear' := ⟨fun _ => rfl, fun _ => rfl⟩
  performed op := fun ⟨reachable, reachable'⟩ => ⟨reachable.performed op, reachable'.performed op⟩
  alike _ h := alike_of_forget h
  tick {e e'} := fun ⟨reachable, reachable'⟩ h => by
    have htick : e'.runTick.forget = e.runTick.forget := by
      rw [← reachable'.sound.runTick_forget, h, reachable.sound.runTick_forget]
    have hreport : e'.runTick.forget.report = e.runTick.forget.report := by rw [htick]
    rw [View.event_forgetful]
    exact ⟨congrArg TickOutcome.engine htick, hreport, congrArg TickOutcome.events htick⟩
  query {e e'} i := fun ⟨reachable, reachable'⟩ h => by
    refine ⟨?_, ?_⟩
    · rw [← found_forget reachable'.sound, h, found_forget reachable.sound]
    · rw [forget_afterQuery, forget_afterQuery, h]
  setPaused paused h := congrArg (fun s => { s with paused := paused }) h
  change {e e' f} i hf h := by
    have hforget : ∀ d, (f d).forget = f d.forget := by
      intro d
      cases hf <;> rfl
    rw [forget_withDevice _ i hforget, forget_withDevice _ i hforget, h]
  markDirty h := congrArg (fun s => { s with index := s.index.markDirty }) h

/-! ### Histories with inserted queries -/

/-- An operation of a history, marked if it is inserted. -/
structure Entry where
  op : Operation
  inserted : Bool := false

/-- The operations of a history that are not inserted. -/
def withoutInserted (history : List Entry) : List Operation :=
  (history.filter fun entry => !entry.inserted).map Entry.op

/-- Carries out a whole history and keeps what is seen of the operations that are not inserted. -/
def observe (e : Engine U P) : List Entry → List (Answer U × List (Event U))
  | [] => []
  | entry :: history =>
    let performed := e.perform entry.op
    if entry.inserted then performed.engine.observe history
    else seen (performed.answer, performed.events) :: performed.engine.observe history

/-- All that an observer sees while operations are carried out. -/
def trace (e : Engine U P) (ops : List Operation) : List (Event U) :=
  ((e.answers ops).flatMap fun given => given.2).map Event.forget

private theorem trace_cons (e : Engine U P) (op : Operation) (ops : List Operation) :
    e.trace (op :: ops) =
      (e.perform op).events.map Event.forget ++ (e.perform op).engine.trace ops := by
  rw [trace, answers, List.flatMap_cons, List.map_append]
  rfl

private theorem observe_of_forget_eq (history : List Entry) : ∀ {e e' : Engine U P},
    Reachable b e → Reachable b e' → e'.forget = e.forget →
      (∀ entry ∈ history, entry.inserted = true → entry.op.isQuery = true) →
      e'.observe history = (e.answers (withoutInserted history)).map seen ∧
        e'.trace (history.map Entry.op) = e.trace (withoutInserted history) ∧
        (e'.performAll (history.map Entry.op)).forget =
          (e.performAll (withoutInserted history)).forget := by
  -- The two engines drift apart only in what they store: an inserted query moves the one, any other
  -- operation moves both.
  induction history with
  | nil => exact fun _ _ hforget _ => ⟨rfl, rfl, hforget⟩
  | cons entry history ih =>
    intro e e' reachable reachable' hforget hqueries
    have hrest : ∀ entry ∈ history, entry.inserted = true → entry.op.isQuery = true :=
      fun entry hentry => hqueries entry (List.mem_cons_of_mem _ hentry)
    rw [List.map_cons, trace_cons, performAll, observe]
    cases hinserted : entry.inserted with
    | true =>
      obtain ⟨hengine, hevents⟩ :=
        forget_perform_of_isQuery e' (hqueries entry List.mem_cons_self hinserted)
      have hplain : withoutInserted (entry :: history) = withoutInserted history := by
        simp [withoutInserted, hinserted]
      rw [hplain, hevents]
      exact ih reachable (reachable'.performed _) (hengine.trans hforget) hrest
    | false =>
      have same := (forgetting b).perform ⟨reachable, reachable'⟩ hforget entry.op
      have hanswer : (e'.perform entry.op).answer.forget = (e.perform entry.op).answer.forget := by
        rw [← View.answer_forgetful, ← View.answer_forgetful]
        exact same.answer
      have hevents : (e'.perform entry.op).events.map Event.forget =
          (e.perform entry.op).events.map Event.forget := by
        rw [← View.event_forgetful]
        exact same.events
      have hplain : withoutInserted (entry :: history) = entry.op :: withoutInserted history := by
        simp [withoutInserted, hinserted]
      obtain ⟨hobserve, htrace, hengine⟩ := ih (reachable.performed entry.op)
        (reachable'.performed entry.op) same.related hrest
      rw [hplain, trace_cons, htrace, answers, List.map_cons, performAll, hengine]
      refine ⟨?_, ?_, rfl⟩
      · exact congrArg₂ List.cons (Prod.ext hanswer hevents) hobserve
      · exact congrArg (· ++ _) hevents

/-- Queries that are inserted into a history change nothing that the other operations give back, nothing that an observer sees, and nothing of the engine but what it stores. -/
theorem queries_transparent (reachable : Reachable b e) (history : List Entry)
    (hqueries : ∀ entry ∈ history, entry.inserted = true → entry.op.isQuery = true) :
    e.observe history = (e.answers (withoutInserted history)).map seen ∧
      e.trace (history.map Entry.op) = e.trace (withoutInserted history) ∧
      (e.performAll (history.map Entry.op)).forget =
        (e.performAll (withoutInserted history)).forget :=
  observe_of_forget_eq history reachable reachable rfl hqueries

def interrupted : List Entry :=
  [⟨.neighborsOf 1, true⟩, ⟨.tick, false⟩, ⟨.snapshot, true⟩, ⟨.neighborsOf 2, false⟩]

/-- The inserted query fills the cache of the first device, and still nothing else is seen. -/
theorem queries_transparent_idlePair : ∃ e : Engine ScriptedProcessor Program,
    Reachable idlePair e ∧
      (∀ entry ∈ interrupted, entry.inserted = true → entry.op.isQuery = true) ∧
      (e.perform (.neighborsOf 1)).engine.devices.map Device.neighborCache ≠
        e.devices.map Device.neighborCache ∧
      e.observe interrupted = (e.answers [.tick, .neighborsOf 2]).map seen ∧
      (e.performAll (interrupted.map Entry.op)).forget =
        (e.performAll [.tick, .neighborsOf 2]).forget := by
  have hfacts : (afterHistory idlePair []).map (fun e : Engine ScriptedProcessor Program =>
      (e.devices.map Device.neighborCache,
        (e.perform (.neighborsOf 1)).engine.devices.map Device.neighborCache)) =
        some (#[none, none], #[some [2], none]) := by
    decide +kernel
  obtain ⟨e, he, hfacts⟩ := Option.map_eq_some_iff.mp hfacts
  obtain ⟨hbefore, hafter⟩ := Prod.mk.inj hfacts
  have hqueries : ∀ entry ∈ interrupted, entry.inserted = true → entry.op.isQuery = true := by
    decide
  obtain ⟨hobserve, -, hengine⟩ := queries_transparent (Reachable.of_afterHistory he) interrupted hqueries
  refine ⟨e, .of_afterHistory he, hqueries, ?_, hobserve, hengine⟩
  rw [hbefore, hafter]
  decide

end Engine

end SpatialComputer
