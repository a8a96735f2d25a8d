import SpatialComputer.Program.Scripted
import SpatialComputer.Proofs.Engine.History

/-!
# Stable identity

The ids of the devices count their places from one. Insertion relies on it, as a new device must come after every other, and so does every lookup. Both the builder and the mutation phase allocate an id for each device they insert, so a check of the order would never fail. A device keeps its id and its parent, and whoever has a parent was created after it.
-/

namespace SpatialComputer

variable {U P : Type} [Processor U P]

def Device.lineage (d : Device U) : DeviceId × Option DeviceId := (d.id, d.parent)

/-- Whether a device with the given lineage has a parent exactly if it is not among the first devices, and one that was there before it. -/
def Descends (initial : Nat) (lineage : DeviceId × Option DeviceId) : Prop :=
  (lineage.2 = none ↔ lineage.1 ≤ initial) ∧ ∀ p, lineage.2 = some p → 1 ≤ p ∧ p < lineage.1

/-! ### Checked insertion -/

namespace Population

/-- Adds a device if its id is above the id of the last one. -/
def insert? (p : Population U) (d : Device U) : Option (Population U) :=
  if p.devices.back?.all fun last => last.id < d.id then some (p.insert d) else none

/-- Whether every id in the population was handed out by it. -/
def Allocated (p : Population U) : Prop := ∀ d ∈ p.devices, d.id ≤ p.lastId

variable {p : Population U} {d : Device U}

omit [Processor U P] in
theorem Allocated.of_numbered (numbered : Numbered p.devices) (hlast : p.devices.size ≤ p.lastId) :
    p.Allocated := by
  intro d hd
  obtain ⟨i, hi⟩ := Array.mem_iff_getElem?.mp hd
  have hlt : i < p.devices.size := (Array.getElem?_eq_some_iff.mp hi).1
  rw [numbered i d hi]
  exact hlt.trans_le hlast

omit [Processor U P] in
theorem Allocated.insert?_eq (allocated : p.Allocated) (hid : d.id = p.allocateId.1) :
    p.allocateId.2.insert? d = some (p.allocateId.2.insert d) := by
  refine if_pos ?_
  cases hlast : p.allocateId.2.devices.back? with
  | none => rfl
  | some last =>
    have hmem : last ∈ p.devices := Array.mem_of_back? hlast
    rw [Option.all_some, decide_eq_true_iff, hid]
    exact Nat.lt_succ_of_le (allocated last hmem)

omit [Processor U P] in
theorem Allocated.insert (allocated : p.Allocated) (hid : d.id = p.allocateId.1) :
    (p.allocateId.2.insert d).Allocated := by
  intro d' hd'
  rcases Array.mem_push.mp hd' with hd' | rfl
  · exact Nat.le_succ_of_le (allocated d' hd')
  · exact Nat.le_of_eq hid

end Population

/-! ### Inserting clones -/

def addSpawn? (program : P) (time cloneDelay : Float) (p : Population U) (request : SpawnRequest) :
    Option (Population U) :=
  let (id, allocated) := p.allocateId
  allocated.insert? (spawnDevice program time cloneDelay allocated id request)

def materialize? (program : P) (time cloneDelay : Float) (p : Population U) :
    Option (Population U) :=
  let (requests, p) := p.takePending
  requests.foldlM (addSpawn? program time cloneDelay) p

private theorem foldlM_addSpawn? (program : P) (time cloneDelay : Float)
    (requests : List SpawnRequest) : ∀ p : Population U, p.Allocated →
    requests.foldlM (addSpawn? program time cloneDelay) p =
      some (requests.foldl (addSpawn program time cloneDelay) p) := by
  induction requests with
  | nil => exact fun _ _ => rfl
  | cons request requests ih =>
    intro p allocated
    have hinserted : addSpawn? program time cloneDelay p request =
        some (addSpawn program time cloneDelay p request) := allocated.insert?_eq rfl
    rw [List.foldlM_cons, hinserted, List.foldl_cons]
    exact ih _ (allocated.insert rfl)

theorem materialize?_eq (program : P) (time cloneDelay : Float) {p : Population U}
    (allocated : p.Allocated) :
    materialize? program time cloneDelay p = some (materialize program time cloneDelay p) :=
  foldlM_addSpawn? program time cloneDelay p.pending.toList { p with pending := #[] } allocated

/-! ### Inserting initial devices -/

namespace Blueprint

/-- Creates devices like `populate`, with the order checked at each insertion. -/
def populate? (b : Blueprint P) : Nat → Population U → Sampling.Keystream →
    Option (Except BuildError Unit × Population U × Sampling.Keystream)
  | 0, population, stream => some (.ok (), population, stream)
  | count + 1, population, stream =>
    let (id, allocated) := population.allocateId
    match (b.createDevice population.size id).run.run stream with
    | (.error cause, stream) => some (.error cause, population, stream)
    | (.ok device, stream) =>
      (allocated.insert? device).bind fun population => populate? b count population stream

theorem populate?_eq (b : Blueprint P) (count : Nat) :
    ∀ (p : Population U) (stream : Sampling.Keystream), p.Allocated →
      populate? b count p stream = some (populate b count p stream) := by
  induction count with
  | zero => exact fun _ _ _ => rfl
  | succ count ih =>
    intro p stream allocated
    rw [populate?, populate]
    dsimp only
    -- A failed draw ends the population without another insertion.
    cases hcreated : (b.createDevice (U := U) p.size p.allocateId.1).run.run stream with
    | mk outcome next =>
      cases outcome with
      | error cause => rfl
      | ok d =>
        have hid := (createDevice_created hcreated).1
        dsimp only
        rw [allocated.insert?_eq hid, Option.bind_some]
        exact ih _ _ (allocated.insert hid)

end Blueprint

namespace Engine

variable {b : Blueprint P} {e : Engine U P}

/-! ### The mutation phase -/

/-- The population of the next tick in which the granted clones are queued. -/
def queuedInTick (e : Engine U P) : Population U :=
  let lifecycle := e.settings.lifecycle
  let settled := e.afterActuation.map (Device.settleCloneRequest lifecycle.cloneDelay)
  let parents := (settled.toList.filter (·.1)).map fun (_, d) => d.id
  (parents.foldl (Cloning.request lifecycle e.settings.population.volume)
    { population := { e.population with devices := settled.map (·.2) }, stream := e.stream }).population

private theorem population_runTick (e : Engine U P) : e.runTick.engine.population =
    materialize e.program e.time e.settings.lifecycle.cloneDelay e.queuedInTick := by
  rw [runTick_eq]
  rfl

omit [Processor U P] in
private theorem foldl_request_frame (lifecycle : LifecycleSettings) (volume : Volume)
    (parents : List DeviceId) : ∀ s : Cloning U,
    (parents.foldl (Cloning.request lifecycle volume) s).population.devices = s.population.devices ∧
      (parents.foldl (Cloning.request lifecycle volume) s).population.lastId = s.population.lastId := by
  induction parents with
  | nil => exact fun _ => ⟨rfl, rfl⟩
  | cons parent parents ih =>
    intro s
    have hstep : (s.request lifecycle volume parent).population.devices = s.population.devices ∧
        (s.request lifecycle volume parent).population.lastId = s.population.lastId := by
      unfold Cloning.request
      split
      · exact ⟨rfl, rfl⟩
      · split <;> exact ⟨rfl, rfl⟩
    rw [List.foldl_cons]
    exact ⟨(ih _).1.trans hstep.1, (ih _).2.trans hstep.2⟩

private theorem Sound.allocated_queuedInTick (sound : Sound b e) : e.queuedInTick.Allocated := by
  obtain ⟨hdevices, hlast⟩ := foldl_request_frame e.settings.lifecycle e.settings.population.volume
    (((e.afterActuation.map (Device.settleCloneRequest e.settings.lifecycle.cloneDelay)).toList.filter
      (·.1)).map fun (_, d) => d.id)
    { population := { e.population with
        devices := (e.afterActuation.map
          (Device.settleCloneRequest e.settings.lifecycle.cloneDelay)).map (·.2) }
      stream := e.stream }
  have hids : e.queuedInTick.devices.map Device.id = e.devices.map Device.id := by
    rw [queuedInTick, hdevices, Array.map_map, Array.map_map, ← map_id_afterActuation]
    exact Array.map_congr_left fun d _ => d.settled_id _
  have hsize : e.queuedInTick.devices.size = e.devices.size := by
    simpa only [Array.size_map] using congrArg Array.size hids
  refine .of_numbered (sound.numbered.of_map_id hids) ?_
  rw [hsize, ← sound.lastId]
  exact Nat.le_of_eq hlast.symm

/-! ### Ids and parents -/

private theorem lasting_lineage : Lasting (Device.lineage (U := U)) :=
  ⟨fun _ _ => rfl, fun _ _ _ => rfl, fun _ _ => rfl, fun _ _ => rfl⟩

theorem Sound.lineage_runTick (sound : Sound b e) {i : Nat} {d : Device U}
    (hd : e.devices[i]? = some d) :
    ∃ d', e.runTick.engine.devices[i]? = some d' ∧ d.lineage = d'.lineage := by
  obtain ⟨acted, -, hidentity, hd'⟩ := sound.device_runTick hd
  have hsame := (acted.identity_settled e.settings.lifecycle.cloneDelay).trans hidentity
  exact ⟨_, hd', congrArg (fun identity : Identity => (identity.id, identity.parent)) hsame.symm⟩

private structure WellDescended (b : Blueprint P) (e : Engine U P) : Prop where
  size : b.settings.population.size ≤ e.size
  descends : ∀ d ∈ e.devices, Descends b.settings.population.size d.lineage

private theorem WellDescended.of_built (built : b.Built e) : WellDescended b e := by
  refine ⟨built.size.ge, fun d hd => ?_⟩
  obtain ⟨i, hi⟩ := Array.mem_iff_getElem?.mp hd
  have hlt : i < e.size := (Array.getElem?_eq_some_iff.mp hi).1
  obtain ⟨position, schedule, firstDue, h⟩ := built.populated.created i d hi
  have hparent : d.parent = none := by rw [h]; rfl
  refine ⟨⟨fun _ => ?_, fun _ => hparent⟩, fun p hp => ?_⟩
  · rw [Device.lineage, built.populated.numbered i d hi, ← built.size]
    exact hlt
  · exact absurd (hparent.symm.trans hp) (Option.some_ne_none p).symm

private theorem WellDescended.runTick (sound : Sound b e) (well : WellDescended b e) :
    WellDescended b e.runTick.engine := by
  refine ⟨?_, fun d' hd' => ?_⟩
  · have hsize : e.devices.size ≤ e.runTick.engine.devices.size :=
      sound.size_runTick ▸ Nat.le_add_right _ _
    exact well.size.trans hsize
  obtain ⟨i, hi⟩ := Array.mem_iff_getElem?.mp hd'
  rcases sound.device_runTick_cases hi with ⟨d, hd⟩ | ⟨k, parent, offset, rfl, hparent, -, rfl⟩
  · obtain ⟨after, hafter, hsame⟩ := sound.lineage_runTick hd
    obtain rfl := Option.some.inj (hi.symm.trans hafter)
    exact hsame ▸ well.descends d (Array.mem_of_getElem? hd)
  · obtain ⟨j, hbefore, -, hid⟩ := sound.place_of_parent (List.mem_of_getElem? hparent)
    constructor
    · constructor
      · exact fun h => absurd h (Option.some_ne_none _)
      · intro hinitial
        have hlate : e.size + k + 1 ≤ b.settings.population.size := hinitial
        exact absurd well.size (by omega)
    · intro p hp
      obtain rfl : parent.id = p := Option.some.inj hp
      show 1 ≤ parent.id ∧ parent.id < e.size + k + 1
      rw [hid]
      exact ⟨Nat.succ_pos j, Nat.lt_succ_of_le (Nat.le_add_right_of_le hbefore)⟩

private theorem WellDescended.between {e' : Engine U P} (h : Between e e') (well : WellDescended b e) :
    WellDescended b e' := by
  have hsame := h.map_devices lasting_lineage
  refine ⟨?_, forall_of_map_eq hsame well.descends⟩
  have hsize : e'.devices.size = e.devices.size := by
    simpa only [Array.size_map] using congrArg Array.size hsame
  exact well.size.trans_eq hsize.symm

/-- In every reachable engine a device has a parent exactly if it is not among the initial ones, and one with a smaller id. -/
theorem Reachable.descends (reachable : Reachable b e) :
    ∀ d ∈ e.devices, Descends b.settings.population.size d.lineage := by
  have well : WellDescended b e :=
    reachable.invariant_of_tick (fun h => .of_built (Blueprint.built_of_build h))
      (fun reachable well => well.runTick reachable.sound) fun h well => well.between h
  exact well.descends

/-- In every reachable engine the ids are the places of the devices, counted from one, and the next id is the next place. A lookup finds exactly these ids. The order that insertion asks for is never violated, neither while the engine is built nor in a tick. In every history a device keeps its id and its parent from the tick on in which it is created; it has a parent exactly if it is not among the initial devices, and then one that was there before it. -/
theorem identity_stable (reachable : Reachable b e) :
    e.population.ids = List.range' 1 e.size ∧
    e.population.allocateId.1 = e.size + 1 ∧
    (∀ id, e.population.indexOf id = if 1 ≤ id ∧ id ≤ e.size then some (id - 1) else none) ∧
    (∀ (count : Nat) (stream : Sampling.Keystream), b.populate? count ({} : Population U) stream =
      some (b.populate count {} stream)) ∧
    materialize? e.program e.time e.settings.lifecycle.cloneDelay e.queuedInTick =
      some e.runTick.engine.population ∧
    (∀ (ops : List Operation) (before rest : List (Engine U P)), e.ticksIn ops = before ++ rest →
      ∀ (i : Nat) (d : Device U), (e.afterTicks before).devices[i]? = some d →
        ∃ d', (e.performAll ops).devices[i]? = some d' ∧ d'.id = d.id ∧ d'.parent = d.parent) ∧
    ∀ d ∈ e.devices, (d.parent = none ↔ d.id ≤ b.settings.population.size) ∧
      ∀ p, d.parent = some p → 1 ≤ p ∧ p < d.id := by
  have sound := reachable.sound
  refine ⟨sound.numbered.map_id, congrArg (· + 1) sound.lastId,
    Population.indexIn_eq sound.numbered, fun count stream => ?_, ?_,
    fun ops before rest hticks i d hd => ?_, reachable.descends⟩
  · exact Blueprint.populate?_eq b count _ stream (.of_numbered Numbered.empty (Nat.le_refl _))
  · rw [population_runTick]
    exact materialize?_eq _ _ _ sound.allocated_queuedInTick
  · obtain ⟨d', hd', hsame⟩ := (course_afterTicks hticks).follow lasting_lineage
      (r := fun x y => x = y) (fun _ => rfl) Eq.trans (fun sound hd => sound.lineage_runTick hd)
      (reachable.afterTicks hticks).sound hd
    obtain ⟨hid, hparent⟩ := Prod.mk.inj hsame
    exact ⟨d', hd', hid.symm, hparent.symm⟩

def lone : Blueprint Program where
  settings := {
    engine := { seed := some 1 }
    population := { size := 1, distribution := .explicit [⟨0, 0, 0⟩] } }
  program := .idle

/-- A child and a grandchild of the lone device have the next ids, and keep them. -/
theorem identity_stable_grandchild : ∃ e : Engine ScriptedProcessor Program, Reachable lone e ∧
    e.devices.map Device.lineage = #[(1, none), (2, some 1), (3, some 2)] ∧
    e.population.ids = List.range' 1 e.size ∧ e.population.indexOf 4 = none ∧
    ∀ ops, ∃ d', (e.performAll ops).devices[2]? = some d' ∧ d'.id = 3 ∧ d'.parent = some 2 := by
  have hfacts : (afterHistory lone [.requestClone 1, .tick, .requestClone 2, .run 2]).map
      (fun e : Engine ScriptedProcessor Program => (e.size, e.devices.map Device.lineage)) =
        some (3, #[(1, none), (2, some 1), (3, some 2)]) := by
    decide +kernel
  obtain ⟨e, he, hfacts⟩ := Option.map_eq_some_iff.mp hfacts
  obtain ⟨hsize, hlineages⟩ := Prod.mk.inj hfacts
  have reachable : Reachable lone e := .of_afterHistory he
  obtain ⟨hids, -, hindex, -, -, hlater, -⟩ := identity_stable reachable
  have hlast : (e.devices.map Device.lineage)[2]? = some (3, some 2) := by rw [hlineages]; rfl
  rw [Array.getElem?_map] at hlast
  obtain ⟨d, hd, hlineage⟩ := Option.map_eq_some_iff.mp hlast
  obtain ⟨hid, hparent⟩ := Prod.mk.inj hlineage
  refine ⟨e, reachable, hlineages, hids, ?_, fun ops => ?_⟩
  · rw [hindex, hsize]
    rfl
  · obtain ⟨d', hd', hsameId, hsameParent⟩ := hlater ops [] _ rfl 2 d hd
    exact ⟨d', hd', hsameId.trans hid, hsameParent.trans hparent⟩

end Engine

end SpatialComputer
