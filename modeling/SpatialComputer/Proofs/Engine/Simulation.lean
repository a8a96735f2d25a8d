import SpatialComputer.Proofs.Engine.Steps
import SpatialComputer.Proofs.Neighborhood.Sites
import SpatialComputer.Proofs.Population.Lookup

/-!
# Engines that look alike

Two engines may differ and still look alike in whatever is done with them, each in a view of its own that leaves something out or shows it in another way. A relation between engines that has this property is a simulation. To show that a relation is one, it has to be followed through a tick, a query and each change of a single device; runs of many ticks, operations and whole histories are followed here, once for all such relations.
-/

namespace SpatialComputer

/-! ### Views -/

/-- How what an engine gives away is looked at. -/
structure View (U : Type) where
  device : Device U → Device U := id
  report : TickReport → TickReport := id
  snapshot : PopulationSnapshot → PopulationSnapshot := id

namespace View

variable {U : Type} (view : View U)

def event : Event U → Event U
  | .deviceInit d => .deviceInit (view.device d)
  | .deviceExecuted d => .deviceExecuted (view.device d)
  | event => event

def answer : Answer U → Answer U
  | .report r => .report (view.report r)
  | .summary s reports => .summary s (reports.map view.report)
  | .device d => .device (view.device d)
  | .snapshot s => .snapshot (view.snapshot s)
  | answer => answer

def given (given : Answer U × List (Event U)) : Answer U × List (Event U) :=
  (view.answer given.1, given.2.map view.event)

/-- The view in which everything is as it is. -/
def plain : View U := {}

@[simp]
theorem answer_plain (answer : Answer U) : plain.answer answer = answer := by
  cases answer with
  | summary s reports => exact congrArg (Answer.summary s) reports.map_id
  | _ => rfl

variable {view}

theorem map_event (h : view.device = id) (events : List (Event U)) : events.map view.event = events := by
  refine (List.map_congr_left fun event _ => ?_).trans events.map_id
  cases event <;> simp [event, h]

@[simp]
theorem map_event_plain (events : List (Event U)) : events.map (plain : View U).event = events :=
  map_event rfl events

@[simp]
theorem given_plain (given : Answer U × List (Event U)) : plain.given given = given :=
  Prod.ext (answer_plain given.1) (map_event_plain given.2)

theorem map_given_plain (answers : List (Answer U × List (Event U))) : answers.map plain.given = answers :=
  (List.map_congr_left fun given _ => given_plain given).trans answers.map_id

/-- Whether a view leaves alone what neighbours are found from and what is told of a single device. -/
structure Clear {P : Type} [Processor U P] (view : View U) : Prop where
  site : ∀ d, (view.device d).site = d.site
  color : ∀ d, Processor.color (view.device d).processor = Processor.color d.processor

theorem plain_clear {P : Type} [Processor U P] : (plain : View U).Clear := ⟨fun _ => rfl, fun _ => rfl⟩

end View

namespace Engine

variable {U P : Type} [Processor U P] {view view' : View U} {e e' : Engine U P}

/-! ### Single devices -/

omit [Processor U P] in
theorem indexOf_congr (same : sites e'.devices = sites e.devices) (id : DeviceId) :
    e'.population.indexOf id = e.population.indexOf id :=
  congrFun (Population.indexIn_congr (map_id_eq_of_sites same)) id

omit [Processor U P] in
theorem neighborsUncached_congr (same : sites e'.devices = sites e.devices) (id : DeviceId) :
    e'.neighborsUncached id = e.neighborsUncached id := by
  have hneighbors : neighborsWithin e'.population.devices = neighborsWithin e.population.devices :=
    funext (neighborsWithin_congr same)
  unfold neighborsUncached indexOf
  rw [indexOf_congr same, hneighbors]

/-- Whether two engines look alike between two operations. -/
structure Alike (view view' : View U) (e e' : Engine U P) : Prop where
  time : e'.time = e.time
  stop : e'.stop = e.stop
  paused : e'.paused = e.paused
  devices : e'.devices.map view'.device = e.devices.map view.device
  snapshot : view'.snapshot e'.snapshot = view.snapshot e.snapshot

namespace Alike

theorem shouldStop (alike : Alike view view' e e') : e'.shouldStop = e.shouldStop := by
  rw [Engine.shouldStop, Engine.shouldStop, alike.stop, alike.time]

theorem verdict (alike : Alike view view' e e') : e'.verdict = e.verdict := by
  rw [Engine.verdict, Engine.verdict, alike.shouldStop, alike.paused]

theorem rests (alike : Alike view view' e e') {n : Nat} (h : e.Rests n) : e'.Rests n := by
  rwa [Rests, alike.shouldStop, alike.paused]

theorem sites (alike : Alike view view' e e') (clear : view.Clear) (clear' : view'.Clear) :
    sites e'.devices = sites e.devices := by
  rw [← sites_map clear'.site, alike.devices, sites_map clear.site]

theorem device (alike : Alike view view' e e') (clear : view.Clear) (clear' : view'.Clear)
    (id : DeviceId) : (e'.device id).map view'.device = (e.device id).map view.device := by
  have hfind : (e'.population.find? id).map view'.device = (e.population.find? id).map view.device := by
    rw [Population.find?, Population.find?, indexOf_congr (alike.sites clear clear')]
    cases e.population.indexOf id with
    | none => rfl
    | some i =>
      have hdevice := congrArg (·[i]?) alike.devices
      rw [Array.getElem?_map, Array.getElem?_map] at hdevice
      exact hdevice
  have hdevice : ∀ (s : Engine U P) (f : Device U → Device U), (s.device id).map f =
      ((s.population.find? id).map f).elim (.error (.unknownDevice id)) .ok := by
    intro s f
    unfold Engine.device
    cases s.population.find? id <;> rfl
  rw [hdevice, hdevice, hfind]

end Alike

end Engine

/-! ### Simulations -/

section

variable {U P : Type} [Processor U P]

/-- What an operation may do to a single device. -/
inductive Device.Change : (Device U → Device U) → Prop where
  | setSensor (sensor : Nat) (value : Bool) :
    Change fun d => { d with processor := Processor.setSensor sensor value d.processor }
  | setRadius (radius : Float) : Change (Device.setRadius radius)
  | requestClone : Change fun d => { d with requests := { d.requests with clone := true } }
  | requestDeath : Change fun d => { d with requests := { d.requests with death := true } }

end

/-- A relation between engines that look alike, each in its view, and do so again after a tick, a query or a change. It only has to be followed where something is known that all operations keep. -/
structure Simulation (U P : Type) [Processor U P] where
  view : View U
  view' : View U
  known : Engine U P → Engine U P → Prop
  related : Engine U P → Engine U P → Prop
  clear : view.Clear
  clear' : view'.Clear
  performed {e e' : Engine U P} (op : Operation) : known e e' →
    known (e.perform op).engine (e'.perform op).engine
  alike {e e' : Engine U P} : known e e' → related e e' → e.Alike view view' e'
  tick {e e' : Engine U P} : known e e' → related e e' →
    related e.runTick.engine e'.runTick.engine ∧
      view'.report e'.runTick.report = view.report e.runTick.report ∧
      e'.runTick.events.map view'.event = e.runTick.events.map view.event
  query {e e' : Engine U P} (i : Nat) : known e e' → related e e' →
    (e'.index.neighborsOf e'.devices i).1 = (e.index.neighborsOf e.devices i).1 ∧
      related (e.afterQuery i) (e'.afterQuery i)
  setPaused {e e' : Engine U P} (paused : Bool) : related e e' →
    related { e with paused := paused } { e' with paused := paused }
  change {e e' : Engine U P} {f : Device U → Device U} (i : Nat) : Device.Change f → related e e' →
    related (e.withDevice i f) (e'.withDevice i f)
  markDirty {e e' : Engine U P} : related e e' →
    related { e with index := e.index.markDirty } { e' with index := e'.index.markDirty }

namespace Simulation

variable {U P : Type} [Processor U P]

/-- Two runs that look alike and leave related engines. -/
structure SameRun (s : Simulation U P) (r r' : RunOutcome U P) : Prop where
  related : s.related r.engine r'.engine
  time : r'.engine.time = r.engine.time
  reason : r'.reason = r.reason
  reports : r'.reports.map s.view'.report = r.reports.map s.view.report
  events : r'.events.map s.view'.event = r.events.map s.view.event

/-- Two outcomes of an operation that look alike and leave related engines. -/
structure Same (s : Simulation U P) (r r' : Performed U P) : Prop where
  related : s.related r.engine r'.engine
  answer : s.view'.answer r'.answer = s.view.answer r.answer
  events : r'.events.map s.view'.event = r.events.map s.view.event

variable (s : Simulation U P) {e e' : Engine U P}

private theorem run (maxTicks : Nat) : ∀ e e' : Engine U P, s.known e e' → s.related e e' →
    s.SameRun (e.run maxTicks) (e'.run maxTicks) := by
  -- Pause, stop condition and clock look the same, so both runs rest after the same tick.
  refine Engine.run_induction (motive := fun e n outcome => ∀ e', s.known e e' → s.related e e' →
    s.SameRun outcome (e'.run n))
    (fun e n hrests e' known related => ?_) (fun e n hstop hpaused ih e' known related => ?_) maxTicks
  · have alike := s.alike known related
    rw [Engine.run_of_rests (alike.rests hrests)]
    refine ⟨related, alike.time, alike.verdict, ?_, ?_⟩
    · rw [Engine.standstill, Engine.standstill, Array.map_empty, Array.map_empty]
    · rw [Engine.standstill, Engine.standstill, Array.map_empty, Array.map_empty]
  · have alike := s.alike known related
    obtain ⟨hrelated, hreport, hevents⟩ := s.tick known related
    have hrest : s.SameRun (e.runTick.engine.run n) (e'.runTick.engine.run n) :=
      ih _ (s.performed .tick known) hrelated
    rw [Engine.run_succ (alike.shouldStop.trans hstop) (alike.paused.trans hpaused)]
    refine ⟨hrest.related, hrest.time, hrest.reason, ?_, ?_⟩
    · simp only [TickOutcome.followedBy, Array.map_append, hrest.reports, List.map_toArray,
        List.map_cons, List.map_nil, hreport]
    · simp only [TickOutcome.followedBy, Array.map_append, hrest.events, List.map_toArray, hevents]

private theorem changed (known : s.known e e') (related : s.related e e') (id : DeviceId)
    {f : Device U → Device U} (hf : Device.Change f) :
    s.Same (e.changed (e.modifyDevice id f)) (e'.changed (e'.modifyDevice id f)) := by
  have hindexOf := Engine.indexOf_congr ((s.alike known related).sites s.clear s.clear') id
  cases hi : e.population.indexOf id with
  | none =>
    rw [Engine.modifyDevice_of_unknown hi, Engine.modifyDevice_of_unknown (hindexOf.trans hi)]
    exact ⟨related, rfl, rfl⟩
  | some i =>
    rw [Engine.modifyDevice_of_found hi, Engine.modifyDevice_of_found (hindexOf.trans hi)]
    exact ⟨s.change i hf related, rfl, rfl⟩

private theorem setRadius (known : s.known e e') (related : s.related e e') (id : DeviceId)
    (radius : Float) :
    s.Same (e.changed (e.setRadius id radius)) (e'.changed (e'.setRadius id radius)) := by
  have hindexOf := Engine.indexOf_congr ((s.alike known related).sites s.clear s.clear') id
  unfold Engine.setRadius
  cases isFinitePositive radius with
  | false => exact ⟨related, rfl, rfl⟩
  | true =>
    cases hi : e.population.indexOf id with
    | none =>
      rw [Engine.modifyDevice_of_unknown hi, Engine.modifyDevice_of_unknown (hindexOf.trans hi)]
      exact ⟨related, rfl, rfl⟩
    | some i =>
      rw [Engine.modifyDevice_of_found hi, Engine.modifyDevice_of_found (hindexOf.trans hi)]
      exact ⟨s.markDirty (s.change i (.setRadius radius) related), rfl, rfl⟩

private theorem asked {α : Type} (related : s.related e e') {answer : α → Answer U} {f f' : α → α}
    {result result' : Except OperationError α} (hresult : result'.map f' = result.map f)
    (h : ∀ a, s.view.answer (answer a) = answer (f a))
    (h' : ∀ a, s.view'.answer (answer a) = answer (f' a)) :
    s.Same (e.asked result answer) (e'.asked result' answer) := by
  cases result with
  | error cause =>
    cases result' with
    | error cause' =>
      obtain rfl := Except.error.inj hresult
      exact ⟨related, rfl, rfl⟩
    | ok a' => cases hresult
  | ok a =>
    cases result' with
    | error cause' => cases hresult
    | ok a' =>
      have hanswer : answer (f' a') = answer (f a) := congrArg answer (Except.ok.inj hresult)
      exact ⟨related, (h' a').trans (hanswer.trans (h a).symm), rfl⟩

private theorem neighborsOf (known : s.known e e') (related : s.related e e') (id : DeviceId) :
    s.Same (e.perform (.neighborsOf id)) (e'.perform (.neighborsOf id)) := by
  have hindexOf := Engine.indexOf_congr ((s.alike known related).sites s.clear s.clear') id
  cases hi : e.population.indexOf id with
  | none =>
    simp only [Engine.perform, Engine.neighborsOf_of_unknown hi,
      Engine.neighborsOf_of_unknown (hindexOf.trans hi)]
    exact ⟨related, rfl, rfl⟩
  | some i =>
    obtain ⟨hfound, hrelated⟩ := s.query i known related
    simp only [Engine.perform, Engine.neighborsOf_of_found hi,
      Engine.neighborsOf_of_found (hindexOf.trans hi)]
    exact ⟨hrelated, congrArg Answer.neighbors hfound, rfl⟩

/-- Every operation looks the same on related engines, and leaves related engines. -/
theorem perform (known : s.known e e') (related : s.related e e') (op : Operation) :
    s.Same (e.perform op) (e'.perform op) := by
  have alike := s.alike known related
  cases op with
  | tick =>
    obtain ⟨hrelated, hreport, hevents⟩ := s.tick known related
    exact ⟨hrelated, congrArg Answer.report hreport, hevents⟩
  | advance =>
    obtain ⟨hrelated, hreport, hevents⟩ := s.tick known related
    unfold Engine.perform Engine.advance
    rw [alike.paused, alike.shouldStop]
    cases e.paused || e.shouldStop with
    | true => exact ⟨related, rfl, rfl⟩
    | false => exact ⟨hrelated, congrArg Answer.report hreport, hevents⟩
  | run maxTicks =>
    have same := s.run maxTicks e e' known related
    refine ⟨same.related, ?_, ?_⟩
    · have hticks := congrArg Array.size same.reports
      have hreports := congrArg Array.toList same.reports
      rw [Array.size_map, Array.size_map] at hticks
      rw [Array.toList_map, Array.toList_map] at hreports
      unfold Engine.perform RunOutcome.summary
      simp only [View.answer, hticks, hreports, same.time, same.reason]
    · have hevents := congrArg Array.toList same.events
      rwa [Array.toList_map, Array.toList_map] at hevents
  | pause => exact ⟨s.setPaused true related, rfl, rfl⟩
  | resume => exact ⟨s.setPaused false related, rfl, rfl⟩
  | setSensor id sensor value => exact s.changed known related id (.setSensor sensor value)
  | setRadius id radius => exact s.setRadius known related id radius
  | requestClone id => exact s.changed known related id .requestClone
  | requestDeath id => exact s.changed known related id .requestDeath
  | neighborsOf id => exact s.neighborsOf known related id
  | neighborsUncached id =>
    have hfound := Engine.neighborsUncached_congr (alike.sites s.clear s.clear') id
    exact s.asked related (congrArg (Except.map fun ids => ids) hfound) (fun _ => rfl) fun _ => rfl
  | position id =>
    refine s.asked related (alike.device s.clear s.clear' id) (fun d => ?_) fun d => ?_
    · exact congrArg (fun site => Answer.position (Site.position site)) (s.clear.site d).symm
    · exact congrArg (fun site => Answer.position (Site.position site)) (s.clear'.site d).symm
  | color id =>
    refine s.asked related (alike.device s.clear s.clear' id) (fun d => ?_) fun d => ?_
    · exact congrArg Answer.color (s.clear.color d).symm
    · exact congrArg Answer.color (s.clear'.color d).symm
  | device id => exact s.asked related (alike.device s.clear s.clear' id) (fun _ => rfl) fun _ => rfl
  | snapshot => exact ⟨related, congrArg Answer.snapshot alike.snapshot, rfl⟩

/-- Every history looks the same from related engines, and leads to related engines. -/
theorem history (ops : List Operation) : ∀ {e e' : Engine U P}, s.known e e' → s.related e e' →
    (e'.answers ops).map s.view'.given = (e.answers ops).map s.view.given ∧
      s.known (e.performAll ops) (e'.performAll ops) ∧ s.related (e.performAll ops) (e'.performAll ops) := by
  induction ops with
  | nil => exact fun known related => ⟨rfl, known, related⟩
  | cons op ops ih =>
    intro e e' known related
    have same := s.perform known related op
    obtain ⟨hanswers, hknown, hrelated⟩ := ih (s.performed op known) same.related
    refine ⟨?_, hknown, hrelated⟩
    exact congrArg₂ List.cons (Prod.ext same.answer same.events) hanswers

end Simulation

end SpatialComputer
