import Mathlib.Tactic.SplitIfs
import SpatialComputer.Proofs.Population.Lookup
import SpatialComputer.Proofs.Tick.Stages

/-!
# The mutation phase

Clone requests are consumed first, in the order of ids, and each granted one is queued with a displacement of its own until the population is full. The queue becomes devices afterwards, when each parent is looked up once more. Together the two passes append one clone for every granted request, numbered in the order of the parents, and leave the other devices as they settled.
-/

namespace SpatialComputer

open Sampling

variable {U P : Type} [Processor U P]

/-! ### Requests -/

/-- Whether a clone request is pending and the clone timer lets it pass. -/
def Device.mayClone (delay : Float) (d : Device U) : Bool :=
  d.requests.clone && (d.settleCloneTimer delay).1

theorem Device.asked_of_mayClone {delay : Float} {d : Device U} (h : d.mayClone delay = true) :
    d.requests.clone = true := by
  rw [mayClone, Bool.and_eq_true] at h
  exact h.1

def Device.settled (delay : Float) (d : Device U) : Device U :=
  (d.settleCloneRequest delay).2

/-- Settling changes the clone timer, the time it was not yet charged with, and the pending clone request, and nothing else. -/
theorem Device.settled_eq (delay : Float) (d : Device U) :
    ∃ timer elapsed, d.settled delay =
      { d with
        requests := { d.requests with clone := false }
        cloneTimer := timer
        roundElapsed := elapsed } := by
  unfold Device.settled Device.settleCloneRequest Device.settleCloneTimer
  by_cases hclone : d.requests.clone = true
  · simp only [hclone, if_true]
    split_ifs <;> exact ⟨_, _, rfl⟩
  · rw [if_neg hclone]
    rw [Bool.not_eq_true] at hclone
    refine ⟨d.cloneTimer, d.roundElapsed, ?_⟩
    rw [← hclone]

theorem Device.settled_clone (delay : Float) (d : Device U) :
    (d.settled delay).requests.clone = false := by
  obtain ⟨timer, elapsed, h⟩ := d.settled_eq delay
  rw [h]

theorem Device.settled_of_unasked (delay : Float) {d : Device U} (h : d.requests.clone = false) :
    d.settled delay = d := by
  rw [Device.settled, Device.settleCloneRequest, if_neg (by simp [h])]

theorem Device.settled_id (delay : Float) (d : Device U) : (d.settled delay).id = d.id := by
  obtain ⟨timer, elapsed, h⟩ := d.settled_eq delay
  rw [h]

theorem Device.identity_settled (delay : Float) (d : Device U) :
    (d.settled delay).identity = d.identity := by
  obtain ⟨timer, elapsed, h⟩ := d.settled_eq delay
  rw [h]
  rfl

theorem Device.settleCloneRequest_fst (delay : Float) (d : Device U) :
    (d.settleCloneRequest delay).1 = d.mayClone delay := by
  unfold Device.settleCloneRequest Device.mayClone Device.settleCloneTimer
  cases d.requests.clone with
  | false => rfl
  | true =>
    simp only [if_true, Bool.true_and]
    split_ifs <;> rfl

/-- Whether a change of a device leaves alone what settling reads, and may be made before or after it. -/
structure Device.SettlesAlike (f : Device U → Device U) : Prop where
  timer : ∀ d, (f d).cloneTimer = d.cloneTimer
  elapsed : ∀ d, (f d).roundElapsed = d.roundElapsed
  asked : ∀ d, (f d).requests.clone = d.requests.clone
  charge : ∀ d timer, f { d with cloneTimer := timer, roundElapsed := 0 } =
    { f d with cloneTimer := timer, roundElapsed := 0 }
  drop : ∀ d, f { d with requests := { d.requests with clone := false } } =
    { f d with requests := { (f d).requests with clone := false } }

namespace Device.SettlesAlike

variable {f : Device U → Device U}

private theorem settleCloneTimer (alike : SettlesAlike f) (delay : Float) (d : Device U) :
    (f d).settleCloneTimer delay = ((d.settleCloneTimer delay).1, f (d.settleCloneTimer delay).2) := by
  unfold Device.settleCloneTimer
  simp only [alike.timer, alike.elapsed]
  split_ifs
  · rfl
  all_goals rw [alike.charge]

theorem mayClone (alike : SettlesAlike f) (delay : Float) (d : Device U) :
    (f d).mayClone delay = d.mayClone delay := by
  rw [Device.mayClone, Device.mayClone, alike.asked, alike.settleCloneTimer]

theorem settled (alike : SettlesAlike f) (delay : Float) (d : Device U) :
    (f d).settled delay = f (d.settled delay) := by
  unfold Device.settled settleCloneRequest
  rw [alike.asked]
  split
  · rw [← alike.drop, alike.settleCloneTimer]
  · rfl

end Device.SettlesAlike

/-- The first of those who ask, as many as there is room for. -/
def whileRoom {α : Type} (limit : Option Nat) (present : Nat) (asking : List α) : List α :=
  match limit with
  | none => asking
  | some limit => asking.take (limit - present)

/-- The displacements of successive clones, and the stream after they were drawn. -/
def cloneOffsets (distance : Float) (volume : Volume) : Nat → Keystream → List Vec3 × Keystream
  | 0, stream => ([], stream)
  | count + 1, stream =>
    let (offset, stream) := cloneOffset distance volume stream
    let (offsets, stream) := cloneOffsets distance volume count stream
    (offset :: offsets, stream)

theorem length_cloneOffsets (distance : Float) (volume : Volume) (count : Nat) :
    ∀ stream : Keystream, (cloneOffsets distance volume count stream).1.length = count := by
  induction count with
  | zero => intro stream; rfl
  | succ count ih =>
    intro stream
    simp only [cloneOffsets, List.length_cons, ih]

/-- What is queued for a granted request. -/
def cloneRequest (parent : Device U) (offset : Vec3) : SpawnRequest where
  parent := some parent.id
  position := parent.position + offset
  radius := parent.radius
  schedule := parent.schedule
  nextTransmit := parent.nextTransmit
  nextCompute := parent.nextCompute

theorem whileRoom_nil {α : Type} (limit : Option Nat) (present : Nat) :
    whileRoom limit present ([] : List α) = [] := by
  cases limit <;> simp [whileRoom]

theorem whileRoom_map {α β : Type} (f : α → β) (limit : Option Nat) (present : Nat)
    (asking : List α) : whileRoom limit present (asking.map f) = (whileRoom limit present asking).map f := by
  cases limit with
  | none => rfl
  | some limit => rw [whileRoom, whileRoom, List.map_take]

theorem whileRoom_sublist {α : Type} (limit : Option Nat) (present : Nat) (asking : List α) :
    (whileRoom limit present asking).Sublist asking := by
  cases limit with
  | none => exact List.Sublist.refl _
  | some limit => exact List.take_sublist _ _

theorem mem_of_mem_whileRoom {α : Type} {limit : Option Nat} {present : Nat} {asking : List α}
    {a : α} (ha : a ∈ whileRoom limit present asking) : a ∈ asking :=
  (whileRoom_sublist limit present asking).subset ha

theorem length_whileRoom_le {α : Type} (limit : Option Nat) (present : Nat) (asking : List α) :
    (whileRoom limit present asking).length ≤ asking.length :=
  (whileRoom_sublist limit present asking).length_le

private theorem whileRoom_cons_of_full {α : Type} {limit : Option Nat} {p : Population U}
    (full : p.isFull limit = true) (a : α) (asking : List α) :
    whileRoom limit (p.devices.size + p.pending.size) (a :: asking) = [] := by
  cases limit with
  | none => simp [Population.isFull] at full
  | some limit =>
    have hle : limit ≤ p.devices.size + p.pending.size := by simpa [Population.isFull] using full
    simp [whileRoom, Nat.sub_eq_zero_of_le hle]

private theorem whileRoom_cons_of_room {α : Type} {limit : Option Nat} {p : Population U}
    (room : p.isFull limit = false) (a : α) (asking : List α) :
    whileRoom limit (p.devices.size + p.pending.size) (a :: asking) =
      a :: whileRoom limit (p.devices.size + (p.pending.size + 1)) asking := by
  cases limit with
  | none => rfl
  | some limit =>
    have hlt : p.devices.size + p.pending.size < limit := by simpa [Population.isFull] using room
    have hsub : limit - (p.devices.size + p.pending.size) =
        limit - (p.devices.size + (p.pending.size + 1)) + 1 := by omega
    rw [whileRoom, whileRoom, hsub, List.take_succ_cons]

private theorem push_append_toArray {α : Type} (xs : Array α) (a : α) (l : List α) :
    xs.push a ++ l.toArray = xs ++ (a :: l).toArray := by
  apply Array.ext'
  simp

private theorem foldl_request (lifecycle : LifecycleSettings) (volume : Volume)
    (parents : List (Device U)) : ∀ s : Cloning U,
    (∀ parent ∈ parents, s.population.find? parent.id = some parent) →
    (parents.map Device.id).foldl (Cloning.request lifecycle volume) s =
      let granted := whileRoom lifecycle.maxPopulation
        (s.population.devices.size + s.population.pending.size) parents
      let drawn := cloneOffsets lifecycle.cloneOffset volume granted.length s.stream
      { population := { s.population with
          pending := s.population.pending ++ (List.zipWith cloneRequest granted drawn.1).toArray }
        stream := drawn.2
        dropped := s.dropped + (parents.length - granted.length) } := by
  -- What is queued already takes up room, so the queue is left open in the induction.
  induction parents with
  | nil =>
    intro s _
    simp [whileRoom_nil, cloneOffsets]
  | cons parent parents ih =>
    intro s hfound
    have hparent := hfound parent List.mem_cons_self
    have hrest : ∀ q ∈ parents, s.population.find? q.id = some q :=
      fun q hq => hfound q (List.mem_cons_of_mem parent hq)
    rw [List.map_cons, List.foldl_cons]
    cases hfull : s.population.isFull lifecycle.maxPopulation with
    | true =>
      have hstep : Cloning.request lifecycle volume s parent.id =
          { s with dropped := s.dropped + 1 } := by
        rw [Cloning.request, if_pos hfull]
      -- Once the population is full it stays full, so no one after this parent is granted a clone either.
      have hnone : whileRoom lifecycle.maxPopulation
          (s.population.devices.size + s.population.pending.size) parents = [] := by
        cases parents with
        | nil => exact whileRoom_nil _ _
        | cons a rest => exact whileRoom_cons_of_full hfull a rest
      have hqueue := ih { s with dropped := s.dropped + 1 } hrest
      rw [hstep, hqueue, whileRoom_cons_of_full hfull]
      simp only [hnone, List.length_nil, Nat.sub_zero, List.length_cons]
      rw [Nat.add_assoc, Nat.add_comm 1]
    | false =>
      let s' : Cloning U := { s with
        stream := (cloneOffset lifecycle.cloneOffset volume s.stream).2
        population := s.population.defer
          (cloneRequest parent (cloneOffset lifecycle.cloneOffset volume s.stream).1) }
      have hstep : Cloning.request lifecycle volume s parent.id = s' := by
        rw [Cloning.request, if_neg (by simp [hfull]), hparent]
        rfl
      have hqueue := ih s' hrest
      have hpending : s'.population.pending = s.population.pending.push
          (cloneRequest parent (cloneOffset lifecycle.cloneOffset volume s.stream).1) := rfl
      rw [hstep, hqueue, whileRoom_cons_of_room hfull]
      simp only [hpending, Array.size_push, List.length_cons, cloneOffsets, List.zipWith_cons_cons,
        push_append_toArray, Nat.add_sub_add_right]
      rfl

/-! ### Clones -/

def cloneDevice (program : P) (time cloneDelay : Float) (id : DeviceId) (parent : Device U)
    (offset : Vec3) : Device U :=
  { Device.create id (some parent.id) (parent.position + offset) parent.radius
      (Processor.spawnClone parent.processor (parent.position + offset) program) parent.schedule
      time cloneDelay with
    nextTransmit := parent.nextTransmit
    nextCompute := parent.nextCompute }

theorem cloneDevice_settled (program : P) (time cloneDelay : Float) (id : DeviceId)
    (parent : Device U) (offset : Vec3) :
    cloneDevice program time cloneDelay id (parent.settled cloneDelay) offset =
      cloneDevice program time cloneDelay id parent offset := by
  obtain ⟨timer, elapsed, h⟩ := parent.settled_eq cloneDelay
  rw [h]
  rfl

/-- The clones of the given parents, numbered on from those present. -/
def clones (program : P) (time cloneDelay : Float) (present : Nat) (parents : List (Device U))
    (offsets : List Vec3) : List (Device U) :=
  (parents.zip offsets).mapIdx fun k clone =>
    cloneDevice program time cloneDelay (present + k + 1) clone.1 clone.2

theorem getElem?_clones (program : P) (time cloneDelay : Float) (present : Nat)
    (parents : List (Device U)) (offsets : List Vec3) (k : Nat) :
    (clones program time cloneDelay present parents offsets)[k]? =
      (parents.zip offsets)[k]?.map fun clone =>
        cloneDevice program time cloneDelay (present + k + 1) clone.1 clone.2 :=
  List.getElem?_mapIdx

private theorem clones_cons (program : P) (time cloneDelay : Float) (present : Nat)
    (parent : Device U) (parents : List (Device U)) (offset : Vec3) (offsets : List Vec3) :
    clones program time cloneDelay present (parent :: parents) (offset :: offsets) =
      cloneDevice program time cloneDelay (present + 1) parent offset ::
        clones program time cloneDelay (present + 1) parents offsets := by
  simp only [clones, List.zip_cons_cons, List.mapIdx_cons, Nat.add_right_comm _ 1, Nat.add_zero]
  rfl

private theorem addSpawn_cloneRequest (program : P) (time cloneDelay : Float) {p : Population U}
    (numbered : Numbered p.devices) {parent : Device U}
    (hparent : ∃ i : Nat, p.devices[i]? = some parent) (offset : Vec3) :
    addSpawn program time cloneDelay p (cloneRequest parent offset) =
      { p with
        devices := p.devices.push (cloneDevice program time cloneDelay (p.lastId + 1) parent offset)
        lastId := p.lastId + 1 } := by
  obtain ⟨i, hi⟩ := hparent
  have hfound : Population.find? { p with lastId := p.lastId + 1 } parent.id = some parent :=
    Population.find?_id (p := { p with lastId := p.lastId + 1 }) numbered hi
  simp only [addSpawn, Population.allocateId, Population.insert, spawnDevice, cloneRequest,
    Option.bind_some, hfound]
  rfl

private theorem foldl_addSpawn (program : P) (time cloneDelay : Float) (parents : List (Device U)) :
    ∀ (offsets : List Vec3) (p : Population U), Numbered p.devices → p.lastId = p.devices.size →
    (∀ parent ∈ parents, ∃ i : Nat, p.devices[i]? = some parent) →
    (List.zipWith cloneRequest parents offsets).foldl (addSpawn program time cloneDelay) p =
      { p with
        devices := p.devices ++
          (clones program time cloneDelay p.devices.size parents offsets).toArray
        lastId := p.devices.size + (parents.zip offsets).length } := by
  -- Each clone extends the population, which is again numbered without gaps for the next one.
  induction parents with
  | nil =>
    intro offsets p _ hlast _
    simp [clones, ← hlast]
  | cons parent parents ih =>
    intro offsets p numbered hlast hfound
    cases offsets with
    | nil => simp [clones, ← hlast]
    | cons offset offsets =>
      have hstep := addSpawn_cloneRequest program time cloneDelay numbered
        (hfound parent List.mem_cons_self) offset
      rw [hlast] at hstep
      rw [List.zipWith_cons_cons, List.foldl_cons, hstep, ih]
      · rw [clones_cons]
        simp only [Array.size_push, push_append_toArray, List.zip_cons_cons, List.length_cons]
        rw [Nat.add_right_comm, Nat.add_assoc]
      · exact numbered.push rfl
      · exact (Array.size_push _).symm
      · intro q hq
        obtain ⟨i, hi⟩ := hfound q (List.mem_cons_of_mem parent hq)
        refine ⟨i, ?_⟩
        have hlt : i < p.devices.size := (Array.getElem?_eq_some_iff.mp hi).1
        rw [Array.getElem?_push, if_neg (Nat.ne_of_lt hlt), hi]

theorem clones_settled (program : P) (time cloneDelay : Float) (present : Nat)
    (parents : List (Device U)) (offsets : List Vec3) :
    clones program time cloneDelay present (parents.map (Device.settled cloneDelay)) offsets =
      clones program time cloneDelay present parents offsets := by
  apply List.ext_getElem?
  intro k
  rw [getElem?_clones, getElem?_clones, List.zip_map_left, List.getElem?_map, Option.map_map]
  refine Option.map_congr fun clone _ => ?_
  exact cloneDevice_settled program time cloneDelay _ clone.1 clone.2

/-! ### The whole phase -/

/-- The devices that ask for a clone and may have one, in the order of their ids. -/
def cloners (cloneDelay : Float) (devices : Array (Device U)) : List (Device U) :=
  devices.toList.filter (Device.mayClone cloneDelay)

theorem cloners_eq_nil {cloneDelay : Float} {devices : Array (Device U)}
    (h : ∀ d ∈ devices, d.requests.clone = false) : cloners cloneDelay devices = [] := by
  refine List.filter_eq_nil_iff.mpr fun d hd => ?_
  simp [Device.mayClone, h d (Array.mem_toList_iff.mp hd)]

theorem Device.SettlesAlike.cloners {f : Device U → Device U} (alike : SettlesAlike f) (delay : Float)
    (devices : Array (Device U)) : cloners delay (devices.map f) = (cloners delay devices).map f := by
  have hasking : Device.mayClone delay ∘ f = Device.mayClone delay := funext (alike.mayClone delay)
  rw [SpatialComputer.cloners, SpatialComputer.cloners, Array.toList_map, List.filter_map, hasking]

private theorem parents_eq (cloneDelay : Float) (devices : Array (Device U)) :
    (((devices.map (Device.settleCloneRequest cloneDelay)).toList.filter (·.1)).map
        fun (_, d) => d.id) =
      ((cloners cloneDelay devices).map (Device.settled cloneDelay)).map Device.id := by
  have hgranted : ((·.1) : Bool × Device U → Bool) ∘ Device.settleCloneRequest cloneDelay =
      Device.mayClone cloneDelay := funext fun d => d.settleCloneRequest_fst cloneDelay
  rw [Array.toList_map, List.filter_map, hgranted, List.map_map, List.map_map]
  rfl

private theorem queue_materialize (lifecycle : LifecycleSettings) (volume : Volume) (program : P)
    (time : Float) {p : Population U} (stream : Keystream) (numbered : Numbered p.devices)
    (hlast : p.lastId = p.devices.size) (hpending : p.pending = #[]) {parents : List (Device U)}
    (hplace : ∀ parent ∈ parents, ∃ i : Nat, p.devices[i]? = some parent) :
    let queued := (parents.map Device.id).foldl (Cloning.request lifecycle volume)
      { population := p, stream := stream }
    let granted := whileRoom lifecycle.maxPopulation p.devices.size parents
    let drawn := cloneOffsets lifecycle.cloneOffset volume granted.length stream
    materialize program time lifecycle.cloneDelay queued.population =
        { devices := p.devices ++
            (clones program time lifecycle.cloneDelay p.devices.size granted drawn.1).toArray
          pending := #[]
          lastId := p.devices.size + granted.length } ∧
      queued.stream = drawn.2 ∧ queued.population.pending.size = granted.length ∧
      queued.dropped = parents.length - granted.length := by
  intro queued granted drawn
  have hlength : (granted.zip drawn.1).length = granted.length := by
    rw [List.length_zip, length_cloneOffsets, Nat.min_self]
  have hqueued : queued =
      { population := { p with pending := (List.zipWith cloneRequest granted drawn.1).toArray }
        stream := drawn.2
        dropped := parents.length - granted.length } := by
    have hfound : ∀ parent ∈ parents, p.find? parent.id = some parent := by
      intro parent hparent
      obtain ⟨i, hi⟩ := hplace parent hparent
      exact Population.find?_id numbered hi
    have h := foldl_request lifecycle volume parents { population := p, stream := stream } hfound
    simpa only [hpending, Array.size_empty, Nat.add_zero, Array.empty_append, Nat.zero_add] using h
  refine ⟨?_, ?_, ?_, ?_⟩
  · have hgranted : ∀ parent ∈ granted, ∃ i : Nat, p.devices[i]? = some parent :=
      fun parent hparent => hplace parent (mem_of_mem_whileRoom hparent)
    have hadded := foldl_addSpawn program time lifecycle.cloneDelay granted drawn.1
      { p with pending := #[] } numbered hlast hgranted
    rw [hlength] at hadded
    rw [hqueued]
    exact hadded
  · rw [hqueued]
  · rw [hqueued, List.size_toArray, ← hlength, List.length_zipWith, List.length_zip]
  · rw [hqueued]

/-- The phase appends the clones of as many askers as there is room for and settles everyone else. -/
theorem mutationPhase_eq (settings : Settings) (program : P) (time : Float) {p : Population U}
    (stream : Keystream) (numbered : Numbered p.devices) (hlast : p.lastId = p.devices.size)
    (hpending : p.pending = #[]) :
    mutationPhase settings program time p stream =
      let lifecycle := settings.lifecycle
      let asking := cloners lifecycle.cloneDelay p.devices
      let granted := whileRoom lifecycle.maxPopulation p.devices.size asking
      let drawn := cloneOffsets lifecycle.cloneOffset settings.population.volume granted.length stream
      { population := {
          devices := p.devices.map (Device.settled lifecycle.cloneDelay) ++
            (clones program time lifecycle.cloneDelay p.devices.size granted drawn.1).toArray
          pending := #[]
          lastId := p.devices.size + granted.length }
        stream := drawn.2
        spawned := granted.length
        dropped := asking.length - granted.length } := by
  have hsettled : (p.devices.map (Device.settleCloneRequest settings.lifecycle.cloneDelay)).map (·.2) =
      p.devices.map (Device.settled settings.lifecycle.cloneDelay) := Array.map_map
  have hnumbered : Numbered (p.devices.map (Device.settled settings.lifecycle.cloneDelay)) := by
    apply numbered.of_map_id
    rw [Array.map_map]
    exact Array.map_congr_left fun d _ => d.settled_id settings.lifecycle.cloneDelay
  have hsize : (p.devices.map (Device.settled settings.lifecycle.cloneDelay)).size = p.devices.size :=
    Array.size_map
  -- The parents are named by id after everyone has settled; they are found because settling keeps
  -- ids and places.
  have hplace : ∀ parent ∈ (cloners settings.lifecycle.cloneDelay p.devices).map
      (Device.settled settings.lifecycle.cloneDelay),
      ∃ i : Nat, (p.devices.map (Device.settled settings.lifecycle.cloneDelay))[i]? = some parent := by
    intro parent hparent
    obtain ⟨d, hd, rfl⟩ := List.mem_map.mp hparent
    obtain ⟨i, hi⟩ := Array.mem_iff_getElem?.mp (Array.mem_toList_iff.mp (List.mem_filter.mp hd).1)
    exact ⟨i, by rw [Array.getElem?_map, hi, Option.map_some]⟩
  obtain ⟨hpopulation, hstream, hspawned, hdropped⟩ :=
    queue_materialize settings.lifecycle settings.population.volume program time stream
      (p := { p with devices := p.devices.map (Device.settled settings.lifecycle.cloneDelay) })
      hnumbered (hlast.trans hsize.symm) hpending hplace
  simp only [hsize, whileRoom_map, List.length_map, clones_settled] at hpopulation hstream hspawned hdropped
  simp only [mutationPhase, parents_eq, hsettled, hpopulation, hstream, hspawned, hdropped]

end SpatialComputer
