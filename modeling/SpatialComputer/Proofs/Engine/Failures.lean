import SpatialComputer.Proofs.Engine.CacheCoherence

/-!
# Operations that fail

An engine that is changed in place keeps what was written before a failure, so an operation of several steps could fail half done. Here operations are carried out step by step on such an engine. Each one makes all its checks before its first change. So whatever fails leaves the engine as it was, and every history goes on as if the operation had not been asked for.
-/

namespace SpatialComputer

/-- Why an engine of `size` devices refuses an operation, if it does. A bad radius is noticed before a bad id. -/
def Operation.refusal? (size : Nat) : Operation → Option OperationError
  | .setRadius id radius =>
    if radius.isFinite = true ∧ 0 < radius then unknown? id else some (.radius radius)
  | .setSensor id _ _ | .requestClone id | .requestDeath id | .neighborsOf id
  | .neighborsUncached id | .position id | .color id | .device id => unknown? id
  | .tick | .advance | .run _ | .pause | .resume | .snapshot => none
where
  /-- The refusal of an id, unless it is that of a device. -/
  unknown? (id : DeviceId) : Option OperationError :=
    if 1 ≤ id ∧ id ≤ size then none else some (.unknownDevice id)

def Performed.result {U P : Type} (r : Performed U P) :
    EStateM.Result OperationError (Engine U P) (Answer U × List (Event U)) :=
  match r.answer with
  | .failed cause => .error cause r.engine
  | answer => .ok (answer, r.events) r.engine

namespace Engine

variable {U P : Type} [Processor U P]

/-! ### Operations in place -/

/-- Something done to an engine in place. What was changed before a failure stays changed. -/
abbrev InPlace (U P α : Type) : Type := EStateM OperationError (Engine U P) α

namespace InPlace

def place (id : DeviceId) : InPlace U P Nat := do
  match (← get).population.indexOf id with
  | some i => return i
  | none => throw (.unknownDevice id)

def device (id : DeviceId) : InPlace U P (Device U) := do
  match (← get).population.find? id with
  | some d => return d
  | none => throw (.unknownDevice id)

def write (id : DeviceId) (f : Device U → Device U) : InPlace U P Unit := do
  let i ← place id
  modify fun e => e.withDevice i f

/-- Checks the radius, looks the device up, writes to it and raises the topology flag, in this order. -/
def setRadius (id : DeviceId) (radius : Float) : InPlace U P Unit := do
  unless isFinitePositive radius do throw (.radius radius)
  write id (Device.setRadius radius)
  modify fun e => { e with index := e.index.markDirty }

/-- Looks a device up and then asks the index, which may build its grid and fill the cache of the device. -/
def neighborsOf (id : DeviceId) : InPlace U P (List DeviceId) := do
  let i ← place id
  let e ← get
  set (e.afterQuery i)
  return (e.index.neighborsOf e.devices i).1

def neighborsUncached (id : DeviceId) : InPlace U P (List DeviceId) := do
  let i ← place id
  return neighborsWithin (← get).devices i

def carryOut : Operation → InPlace U P (Answer U × List (Event U))
  | .setSensor id sensor value => do
    write id fun d => { d with processor := Processor.setSensor sensor value d.processor }
    return (.done, [])
  | .setRadius id radius => do
    setRadius id radius
    return (.done, [])
  | .requestClone id => do
    write id fun d => { d with requests := { d.requests with clone := true } }
    return (.done, [])
  | .requestDeath id => do
    write id fun d => { d with requests := { d.requests with death := true } }
    return (.done, [])
  | .neighborsOf id => do
    let ids ← neighborsOf id
    return (.neighbors ids, [])
  | .neighborsUncached id => do
    let ids ← neighborsUncached id
    return (.neighbors ids, [])
  | .position id => do
    let d ← device id
    return (.position d.position, [])
  | .color id => do
    let d ← device id
    return (.color (Processor.color d.processor), [])
  | .device id => do
    let d ← device id
    return (.device d, [])
  | op@.tick | op@.advance | op@(.run _) | op@.pause | op@.resume | op@.snapshot => do
    let performed := (← get).perform op
    set performed.engine
    return (performed.answer, performed.events)

/-- Carries an operation out and goes on with what is then there, also if it has failed. -/
def attempt (op : Operation) : InPlace U P Unit := fun e =>
  match (carryOut op).run e with
  | .ok _ after => .ok () after
  | .error _ after => .ok () after

end InPlace

open InPlace

variable {b : Blueprint P} {e : Engine U P}

omit [Processor U P] in
private theorem place_run (id : DeviceId) (e : Engine U P) :
    (place id).run e = match e.population.indexOf id with
      | some i => .ok i e
      | none => .error (.unknownDevice id) e := by
  simp only [place, EStateM.run_bind, EStateM.run_get]
  cases e.population.indexOf id <;> rfl

omit [Processor U P] in
private theorem device_run (id : DeviceId) (e : Engine U P) :
    (InPlace.device id).run e = match e.device id with
      | .ok d => .ok d e
      | .error cause => .error cause e := by
  simp only [InPlace.device, EStateM.run_bind, EStateM.run_get, Engine.device]
  cases e.population.find? id <;> rfl

omit [Processor U P] in
private theorem write_run (id : DeviceId) (f : Device U → Device U) (e : Engine U P) :
    (write id f).run e = match e.modifyDevice id f with
      | .ok e' => .ok () e'
      | .error cause => .error cause e := by
  simp only [write, EStateM.run_bind, place_run, modifyDevice, indexOf]
  cases e.population.indexOf id <;> rfl

private theorem setRadius_run (id : DeviceId) (radius : Float) (e : Engine U P) :
    (InPlace.setRadius id radius).run e = match e.setRadius id radius with
      | .ok e' => .ok () e'
      | .error cause => .error cause e := by
  -- The flag goes up after the lookup, so a failed lookup leaves it down.
  unfold InPlace.setRadius Engine.setRadius
  cases isFinitePositive radius with
  | false => rfl
  | true =>
    simp only [if_true, EStateM.run_bind, write_run]
    cases e.modifyDevice id (Device.setRadius radius) <;> rfl

omit [Processor U P] in
private theorem neighborsOf_run (id : DeviceId) (e : Engine U P) :
    (InPlace.neighborsOf id).run e = match e.neighborsOf id with
      | .ok (ids, e') => .ok ids e'
      | .error cause => .error cause e := by
  simp only [InPlace.neighborsOf, EStateM.run_bind, place_run]
  cases hi : e.population.indexOf id with
  | none =>
    rw [neighborsOf_of_unknown hi]
  | some i =>
    rw [neighborsOf_of_found hi]
    rfl

omit [Processor U P] in
private theorem neighborsUncached_run (id : DeviceId) (e : Engine U P) :
    (InPlace.neighborsUncached id).run e = match e.neighborsUncached id with
      | .ok ids => .ok ids e
      | .error cause => .error cause e := by
  simp only [InPlace.neighborsUncached, EStateM.run_bind, place_run, Engine.neighborsUncached, indexOf]
  cases e.population.indexOf id <;> rfl

/-- Done step by step in place, an operation comes to the same as if its result were computed apart. -/
theorem carryOut_eq (op : Operation) (e : Engine U P) : (carryOut op).run e = (e.perform op).result := by
  cases op with
  | tick | run | pause | resume | snapshot => rfl
  | advance =>
    simp only [carryOut, EStateM.run_bind, EStateM.run_get, perform]
    cases e.advance <;> rfl
  | setSensor id sensor value | requestClone id | requestDeath id =>
    simp only [carryOut, EStateM.run_bind, write_run, perform, Engine.setSensor, Engine.requestClone,
      Engine.requestDeath]
    cases e.modifyDevice id _ <;> rfl
  | setRadius id radius =>
    simp only [carryOut, EStateM.run_bind, setRadius_run, perform]
    cases e.setRadius id radius <;> rfl
  | neighborsOf id =>
    simp only [carryOut, EStateM.run_bind, neighborsOf_run, perform]
    cases e.neighborsOf id <;> rfl
  | neighborsUncached id =>
    simp only [carryOut, EStateM.run_bind, neighborsUncached_run, perform]
    cases e.neighborsUncached id <;> rfl
  | position id | color id | device id =>
    simp only [carryOut, EStateM.run_bind, device_run, perform]
    cases e.device id <;> rfl

/-! ### Refusals -/

omit [Processor U P] in
private theorem unknown?_eq (numbered : Numbered e.devices) (id : DeviceId) :
    Operation.refusal?.unknown? e.size id =
      match e.population.indexOf id with
      | some _ => none
      | none => some (.unknownDevice id) := by
  have hindex : e.population.indexOf id = if 0 < id ∧ id ≤ e.size then some (id - 1) else none :=
    Population.indexIn_eq numbered id
  rw [Operation.refusal?.unknown?, hindex]
  by_cases hid : 1 ≤ id ∧ id ≤ e.size
  · have hpositive : 0 < id ∧ id ≤ e.size := hid
    rw [if_pos hid, if_pos hpositive]
  · have hnot : ¬(0 < id ∧ id ≤ e.size) := hid
    rw [if_neg hid, if_neg hnot]

omit [Processor U P] in
private theorem device_eq (numbered : Numbered e.devices) (id : DeviceId) :
    (∃ i d, e.population.indexOf id = some i ∧ e.device id = .ok d) ∨
      e.population.indexOf id = none ∧ e.device id = .error (.unknownDevice id) := by
  unfold Engine.device Population.find?
  rcases Population.indexIn_cases numbered id with hi | ⟨i, d, hi, hd, -⟩
  · have hnone : e.population.indexOf id = none := hi
    exact .inr ⟨hnone, by rw [hnone]; rfl⟩
  · have hfound : e.population.indexOf id = some i := hi
    have hdevice : e.population.devices[i]? = some d := hd
    exact .inl ⟨i, d, hfound, by rw [hfound, Option.bind_some, hdevice]⟩

private theorem perform_of_refusal (numbered : Numbered e.devices) (op : Operation) :
    match op.refusal? e.size with
    | some cause => e.perform op = { engine := e, answer := .failed cause }
    | none => ∀ cause, (e.perform op).answer ≠ .failed cause := by
  -- `refusal?` compares ids with the size of the population; the engine searches for them.
  have hunknown := unknown?_eq numbered
  cases op with
  | tick | run | pause | resume | snapshot => rintro cause ⟨⟩
  | advance =>
    intro cause
    unfold perform
    cases e.advance <;> rintro ⟨⟩
  | setSensor id sensor value | requestClone id | requestDeath id =>
    simp only [Operation.refusal?, hunknown, perform, Engine.setSensor, Engine.requestClone,
      Engine.requestDeath, modifyDevice, indexOf]
    cases e.population.indexOf id with
    | none => rfl
    | some i => rintro cause ⟨⟩
  | setRadius id radius =>
    have hradius : (radius.isFinite = true ∧ 0 < radius) ↔ isFinitePositive radius = true := by
      rw [isFinitePositive, Bool.and_eq_true, decide_eq_true_iff]
    simp only [Operation.refusal?, hunknown, hradius, perform, Engine.setRadius]
    cases isFinitePositive radius with
    | false => rfl
    | true =>
      simp only [if_true, modifyDevice, indexOf]
      cases e.population.indexOf id with
      | none => rfl
      | some i => rintro cause ⟨⟩
  | neighborsOf id =>
    simp only [Operation.refusal?, hunknown, perform]
    cases hi : e.population.indexOf id with
    | none => simp only [neighborsOf_of_unknown hi]
    | some i =>
      simp only [neighborsOf_of_found hi]
      rintro cause ⟨⟩
  | neighborsUncached id =>
    simp only [Operation.refusal?, hunknown, perform, Engine.neighborsUncached, indexOf]
    cases e.population.indexOf id with
    | none => rfl
    | some i => rintro cause ⟨⟩
  | position id | color id | device id =>
    simp only [Operation.refusal?, hunknown, perform]
    rcases device_eq numbered id with ⟨i, d, hi, hd⟩ | ⟨hi, hd⟩
    · rw [hi, hd]
      rintro cause ⟨⟩
    · rw [hi, hd]
      rfl

private theorem answer_failed_iff (numbered : Numbered e.devices) (op : Operation) (cause : OperationError) :
    (e.perform op).answer = .failed cause ↔ op.refusal? e.size = some cause := by
  have h := perform_of_refusal numbered op
  cases hrefusal : op.refusal? e.size with
  | none =>
    rw [hrefusal] at h
    exact ⟨fun hfailed => absurd hfailed (h cause), fun hnone => by cases hnone⟩
  | some refused =>
    rw [hrefusal] at h
    rw [h, Option.some.injEq, Answer.failed.injEq]

omit [Processor U P] in
private theorem result_eq_error_iff {r : Performed U P} {cause : OperationError} {after : Engine U P} :
    r.result = .error cause after ↔ r.answer = .failed cause ∧ r.engine = after := by
  unfold Performed.result
  cases r.answer <;> simp

/-- An operation fails if and only if it is refused: for an id that is not that of a device, or for a radius that is not finite and positive. Done in place, what fails leaves the engine as it was, and whatever is done next goes as if it had not been tried. -/
theorem failure_leaves_engine (reachable : Reachable b e) (op : Operation) :
    (∀ cause, (e.perform op).answer = .failed cause ↔ op.refusal? e.size = some cause) ∧
    (∀ cause, (∃ after, (carryOut op).run e = .error cause after) ↔ op.refusal? e.size = some cause) ∧
    ∀ cause after, (carryOut op).run e = .error cause after →
      after = e ∧ e.perform op = { engine := e, answer := .failed cause } ∧
      (∀ ops, e.performAll (op :: ops) = e.performAll ops ∧
        e.answers (op :: ops) = (.failed cause, []) :: e.answers ops) ∧
      ∀ {α : Type} (rest : InPlace U P α), (attempt op >>= fun _ => rest).run e = rest.run e := by
  have numbered := reachable.sound.numbered
  have hfailed := answer_failed_iff numbered op
  refine ⟨hfailed, fun cause => ?_, fun cause after hafter => ?_⟩
  · simp only [carryOut_eq, result_eq_error_iff, exists_and_left, exists_eq', and_true, hfailed]
  · have hresult := hafter
    rw [carryOut_eq, result_eq_error_iff] at hresult
    have hperform : e.perform op = { engine := e, answer := .failed cause } := by
      have h := perform_of_refusal numbered op
      rwa [(hfailed cause).mp hresult.1] at h
    have hsame : after = e := by rw [← hresult.2, hperform]
    refine ⟨hsame, hperform, fun ops => ?_, fun rest => ?_⟩
    · rw [performAll, answers, hperform]
      exact ⟨rfl, rfl⟩
    · have hcaught : (attempt op).run e = .ok () e := by
        rw [EStateM.run, attempt, hafter, hsame]
      rw [EStateM.run_bind, hcaught]

/-- Of two idle devices after a tick, a negative radius is refused also where there is no device, and a third device is not found; the topology flag stays down. -/
theorem failure_leaves_engine_idlePair : ∃ e : Engine ScriptedProcessor Program,
    Reachable idlePair e ∧ e.topologyDirty = false ∧
      (carryOut (.setRadius 3 (-1))).run e = .error (.radius (-1)) e ∧
      (carryOut (.setRadius 3 1)).run e = .error (.unknownDevice 3) e := by
  have hfacts : (afterHistory idlePair [.tick]).map (fun e : Engine ScriptedProcessor Program =>
      (e.size, e.topologyDirty)) = some (2, false) := by
    decide +kernel
  obtain ⟨e, he, hfacts⟩ := Option.map_eq_some_iff.mp hfacts
  obtain ⟨hsize, hclean⟩ := Prod.mk.inj hfacts
  have hunchanged : ∀ op cause, op.refusal? 2 = some cause →
      (carryOut op).run e = .error cause e := by
    intro op cause hrefused
    obtain ⟨-, hfails, hafter⟩ := failure_leaves_engine (Reachable.of_afterHistory he) op
    rw [hsize] at hfails
    obtain ⟨after, hfailed⟩ := (hfails cause).mpr hrefused
    rwa [(hafter cause after hfailed).1] at hfailed
  exact ⟨e, .of_afterHistory he, hclean, hunchanged _ _ (by decide +kernel),
    hunchanged _ _ (by decide +kernel)⟩

end Engine

end SpatialComputer
