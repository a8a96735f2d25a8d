import SpatialComputer.Proofs.Neighborhood.CheckedQuery
import SpatialComputer.Proofs.Neighborhood.Found
import SpatialComputer.Proofs.Tick.Transmission

/-!
# Deliveries

A message is read from one device while another is changed, so it takes a pair of two different devices, handed out by splitting the population between them. Here the transmit phase is carried out on such pairs, with every lookup checked, and with a record of who was handed whose message. As lists of neighbours name registered devices only, and never the device itself, every check succeeds: the phase comes to what it comes to without checks, and the record is the lists of neighbours of the due devices.
-/

namespace SpatialComputer

/-! ### Pairs -/

/-- Two devices, one to be changed and one to be read, and the population with the first one changed. -/
structure Pair (α : Type) where
  receiver : α
  sender : α
  putBack : α → Array α

def splitAt? {α : Type} (devices : Array α) (i : Nat) : Option (Array α × Array α) :=
  if i ≤ devices.size then some (devices.extract 0 i, devices.extract i devices.size) else none

/-- Hands out the devices at two different places, by splitting the population in front of the later one. -/
def pair? {α : Type} (devices : Array α) (target source : Nat) : Option (Pair α) :=
  if target = source then none
  else if target < source then do
    let (left, right) ← splitAt? devices source
    return {
      receiver := ← left[target]?
      sender := ← right[0]?
      putBack := fun d => left.setIfInBounds target d ++ right }
  else do
    let (left, right) ← splitAt? devices target
    return {
      receiver := ← right[0]?
      sender := ← left[source]?
      putBack := fun d => left ++ right.setIfInBounds 0 d }

/-- The devices handed out are those at the two places, and the change ends up at the first of them, whichever comes first. -/
theorem pair?_eq {α : Type} {devices : Array α} {i j : Nat} {d other : α} (hne : i ≠ j)
    (hd : devices[i]? = some d) (hother : devices[j]? = some other) :
    pair? devices i j = some ⟨d, other, devices.setIfInBounds i⟩ := by
  have hi : i < devices.size := (Array.getElem?_eq_some_iff.mp hd).1
  have hj : j < devices.size := (Array.getElem?_eq_some_iff.mp hother).1
  unfold pair? splitAt?
  rw [if_neg hne]
  split
  · rename_i hlt
    have hback : (fun d => (devices.extract 0 j).setIfInBounds i d ++ devices.extract j devices.size) =
        devices.setIfInBounds i := by
      funext d
      apply Array.ext_getElem?
      intro k
      grind
    have hreceiver : (devices.extract 0 j)[i]? = some d := by grind
    have hsender : (devices.extract j devices.size)[0]? = some other := by grind
    simp [hj.le, hreceiver, hsender, hback]
  · rename_i hge
    have hback : (fun d => devices.extract 0 i ++ (devices.extract i devices.size).setIfInBounds 0 d) =
        devices.setIfInBounds i := by
      funext d
      apply Array.ext_getElem?
      intro k
      grind
    have hreceiver : (devices.extract i devices.size)[0]? = some d := by grind
    have hsender : (devices.extract 0 i)[j]? = some other := by grind
    simp [hi.le, hreceiver, hsender, hback]

variable {U P : Type} [Processor U P]

/-! ### Deliveries -/

/-- A delivery, by the ids of the devices that were handed out for it. -/
structure Delivery where
  receiver : DeviceId
  sender : DeviceId
deriving DecidableEq, Repr

/-- Devices in the course of a turn, with the deliveries of the turn so far. -/
structure Delivering (U : Type) where
  devices : Array (Device U)
  deliveries : List Delivery := []

/-- Delivers like `deliverFrom`, with a pair of devices that is handed out. An id that is not found is passed over. -/
def deliverFrom? (receiver : Nat) (s : Delivering U) (id : DeviceId) : Option (Delivering U) :=
  match Population.indexIn s.devices id with
  | none => some s
  | some source => do
    let pair ← pair? s.devices receiver source
    return {
      devices := pair.putBack (Device.receive pair.sender.processor pair.receiver)
      deliveries := s.deliveries ++ [⟨pair.receiver.id, pair.sender.id⟩] }

/-- Whether an id is that of a device at another place than `i`, and is found there. -/
def Elsewhere (devices : Array (Device U)) (i : Nat) (id : DeviceId) : Prop :=
  ∃ j other, j ≠ i ∧ devices[j]? = some other ∧ other.id = id ∧
    Population.indexIn devices id = some j

section

variable {devices devices' : Array (Device U)} {i : Nat} {d : Device U} {id : DeviceId}
  {ids : List DeviceId}

omit [Processor U P] in
theorem Elsewhere.congr (same : devices'.map Device.id = devices.map Device.id)
    (h : Elsewhere devices i id) : Elsewhere devices' i id := by
  obtain ⟨j, other, hne, hother, hid, hindex⟩ := h
  obtain ⟨other', hother', hid'⟩ := exists_of_map_eq same hother
  exact ⟨j, other', hne, hother', hid'.trans hid, by rw [Population.indexIn_congr same, hindex]⟩

private theorem deliverFrom_of_elsewhere {j : Nat} {other : Device U} (hother : devices[j]? = some other)
    (hindex : Population.indexIn devices id = some j) :
    deliverFrom i devices id = devices.modify i (Device.receive other.processor) := by
  unfold deliverFrom
  rw [hindex, Option.bind_some, hother]

private theorem deliverFrom?_eq {s : Delivering U} (hd : s.devices[i]? = some d)
    (h : Elsewhere s.devices i id) : deliverFrom? i s id = some {
      devices := deliverFrom i s.devices id
      deliveries := s.deliveries ++ [⟨d.id, id⟩] } := by
  obtain ⟨j, other, hne, hother, rfl, hindex⟩ := h
  have hset := setIfInBounds_eq_modify hd (Device.receive other.processor)
  rw [deliverFrom?, hindex, deliverFrom_of_elsewhere hother hindex]
  simp only [pair?_eq hne.symm hd hother, Option.bind_eq_bind, Option.bind_some, hset]
  rfl

private theorem foldlM_deliverFrom? (receiver : DeviceId) (ids : List DeviceId) :
    ∀ s : Delivering U, s.devices[i]?.map Device.id = some receiver →
      (∀ id ∈ ids, Elsewhere s.devices i id) →
        ids.foldlM (deliverFrom? i) s = some {
          devices := ids.foldl (deliverFrom i) s.devices
          deliveries := s.deliveries ++ ids.map fun sender => ⟨receiver, sender⟩ } := by
  induction ids with
  | nil => exact fun s _ _ => by rw [List.map_nil, List.append_nil]; rfl
  | cons id ids ih =>
    intro s hreceiver h
    obtain ⟨d, hd, rfl⟩ := Option.map_eq_some_iff.mp hreceiver
    -- A delivery leaves every device at its place, so the later lookups find the same ones.
    have hids := map_deliverFrom (fun _ _ => rfl) i s.devices id (g := Device.id)
    have hreceiver' : (deliverFrom i s.devices id)[i]?.map Device.id = some d.id := by
      rw [← Array.getElem?_map, hids, Array.getElem?_map, hd, Option.map_some]
    have hrest : ∀ id' ∈ ids, Elsewhere (deliverFrom i s.devices id) i id' := fun id' hid' =>
      (h id' (List.mem_cons_of_mem id hid')).congr hids
    rw [List.foldlM_cons, deliverFrom?_eq hd (h id List.mem_cons_self), Option.bind_eq_bind,
      Option.bind_some, ih _ hreceiver' hrest, List.foldl_cons, List.map_cons, List.append_assoc]
    rfl

/-- What a processor becomes that is delivered the state of others, one after another. -/
def deliverAll (sources : List U) (u : U) : U :=
  sources.foldl (fun u source => Processor.deliver source u) u

theorem getElem?_foldl_deliverFrom (ids : List DeviceId) :
    ∀ {devices : Array (Device U)} {d : Device U}, devices[i]? = some d →
      (∀ id ∈ ids, Elsewhere devices i id) →
        ∃ sources, ids.map (Population.lookUp Device.processor devices) = sources.map some ∧
          (ids.foldl (deliverFrom i) devices)[i]? =
            some { d with processor := deliverAll sources d.processor } := by
  induction ids with
  | nil => exact fun hd _ => ⟨[], rfl, hd⟩
  | cons id ids ih =>
    intro devices d hd h
    obtain ⟨j, other, hne, hother, -, hindex⟩ := h id List.mem_cons_self
    have hids := map_deliverFrom (fun _ _ => rfl) i devices id (g := Device.id)
    have hdelivered := deliverFrom_of_elsewhere (i := i) hother hindex
    have hpulled : (deliverFrom i devices id)[i]? = some (Device.receive other.processor d) := by
      rw [hdelivered, Array.getElem?_modify, if_pos rfl, hd, Option.map_some]
    obtain ⟨sources, hsources, hrest⟩ := ih hpulled fun id' hid' =>
      (h id' (List.mem_cons_of_mem id hid')).congr hids
    -- The device that pulls is none of those it pulls from, so what they say stays the same.
    have hsame : ids.map (Population.lookUp Device.processor (deliverFrom i devices id)) =
        ids.map (Population.lookUp Device.processor devices) := by
      refine List.map_congr_left fun id' hid' => ?_
      obtain ⟨j', other', hne', hother', -, hindex'⟩ := h id' (List.mem_cons_of_mem id hid')
      rw [Population.lookUp, Population.lookUp, Population.indexIn_congr hids, hindex', Option.bind_some,
        Option.bind_some, hdelivered, Array.getElem?_modify, if_neg hne'.symm]
    refine ⟨other.processor :: sources, ?_, hrest⟩
    rw [List.map_cons, List.map_cons, ← hsources, hsame, Population.lookUp, hindex, Option.bind_some, hother,
      Option.map_some]

end

/-! ### Turns -/

/-- The turn of a device that transmits. -/
structure Turn where
  receiver : DeviceId
  deliveries : List Delivery
deriving DecidableEq, Repr

/-- The turn of a device that is handed every device in a list once, in the order of the list. -/
def Turn.pulling (receiver : DeviceId) (ids : List DeviceId) : Turn where
  receiver := receiver
  deliveries := ids.map fun sender => ⟨receiver, sender⟩

/-- The transmit phase with the turns that were taken so far. -/
structure RecordedPhase (U : Type) where
  phase : Transmission U
  turns : List Turn := []

namespace Transmission

/-- Lets the device at `i` take its turn like `step`, with every lookup checked, and records the turn. -/
def step? (time : Float) (s : RecordedPhase U) (i : Nat) : Option (RecordedPhase U) := do
  let d ← s.phase.devices[i]?
  if d.transmitDue time then
    let (found, index, devices) ← s.phase.index.neighborsOf? s.phase.devices i
    let delivered ← found.foldlM (deliverFrom? i) { devices := devices }
    let receiver ← delivered.devices[i]?
    return {
      phase := {
        devices := delivered.devices.setIfInBounds i (receiver.advanceTransmit time)
        index := index
        transmitted := s.phase.transmitted + 1 }
      turns := s.turns ++ [⟨d.id, delivered.deliveries⟩] }
  else return s

end Transmission

/-- The transmit phase with every lookup checked, and with a record of its turns. -/
def transmitPhase? (time : Float) (index : NeighborIndex) (devices : Array (Device U)) :
    Option (RecordedPhase U) :=
  (List.range devices.size).foldlM (Transmission.step? time)
    { phase := { devices := devices, index := index } }

namespace Transmission

variable {time : Float} {index : NeighborIndex} {devices : Array (Device U)} {i : Nat} {d : Device U}

private theorem step?_eq (time : Float) {phase : Transmission U} (turns : List Turn)
    (coherent : phase.index.Coherent phase.devices)
    (hcell : Binary64.FinitePositive phase.index.grid.cellSize) (hd : phase.devices[i]? = some d)
    (hradius : Binary64.FinitePositive d.radius)
    (helsewhere : ∀ id ∈ phase.served i, Elsewhere phase.devices i id) :
    step? time ⟨phase, turns⟩ i = some ⟨phase.step time i,
      turns ++ if d.transmitDue time then [.pulling d.id (phase.served i)] else []⟩ := by
  unfold step?
  simp only [hd, Option.bind_eq_bind, Option.bind_some]
  cases hdue : d.transmitDue time with
  | false =>
    rw [step_of_not_due hd hdue]
    simp
  | true =>
    have hids := map_id_eq_of_sites (NeighborIndex.sites_neighborsOf phase.index phase.devices i)
    obtain ⟨asked, hasked, hid⟩ := exists_of_map_eq hids hd
    have hdelivered := foldlM_deliverFrom? d.id (phase.served i)
      { devices := (phase.index.neighborsOf phase.devices i).2.2 }
      (by rw [hasked, Option.map_some, hid]) fun id hid => (helsewhere id hid).congr hids
    obtain ⟨pulled, hpulled, -⟩ := exists_of_map_eq (map_foldl Device.id (deliverFrom i)
      (map_deliverFrom (fun _ _ => rfl) i) (phase.served i) _) hasked
    have hset := setIfInBounds_eq_modify hpulled (Device.advanceTransmit time)
    have hquery := NeighborIndex.neighborsOf?_eq coherent hcell hd hradius
    rw [step_of_due hd hdue, ← hset]
    rw [served] at hdelivered hpulled
    simp only [if_true, hquery, hdelivered, hpulled, Option.bind_some]
    rfl

/-- The turns of the due devices before `n`, each with the answer to a query at the start of the phase. -/
def turnsUpTo (time : Float) (index : NeighborIndex) (devices : Array (Device U)) (n : Nat) : List Turn :=
  ((List.range n).filter (isDue time devices)).map fun i => .pulling (i + 1) (index.answer devices i)

omit [Processor U P] in
private theorem turnsUpTo_succ (numbered : Numbered devices) (hd : devices[i]? = some d) :
    turnsUpTo time index devices (i + 1) = turnsUpTo time index devices i ++
      if d.transmitDue time then [.pulling d.id (index.answer devices i)] else [] := by
  have hdue : isDue time devices i = d.transmitDue time := by rw [isDue, hd, Option.any_some]
  rw [turnsUpTo, turnsUpTo, List.range_succ, List.filter_append, List.map_append, numbered i d hd]
  cases h : d.transmitDue time with
  | false => rw [List.filter_cons_of_neg (by simp [hdue, h])]; rfl
  | true => rw [List.filter_cons_of_pos (hdue.trans h)]; rfl

private theorem elsewhere_upTo (numbered : Numbered devices) (hd : devices[i]? = some d) {id : DeviceId}
    (hid : id ∈ index.answer devices i) : Elsewhere (upTo time index devices i).devices i id := by
  obtain ⟨strategy, hanswer⟩ := index.exists_answer_eq devices i
  rw [hanswer] at hid
  exact Elsewhere.congr (map_id_eq_of_sites (sites_upTo time index devices i))
    (exists_of_mem_findNeighbors numbered hd hid)

section

variable (coherent : index.Coherent devices) (hcell : Binary64.FinitePositive index.grid.cellSize)
  (numbered : Numbered devices) (hradius : ∀ d ∈ devices, Binary64.FinitePositive d.radius)
include coherent hcell numbered hradius

private theorem step?_upTo (hd : devices[i]? = some d) :
    step? time ⟨upTo time index devices i, turnsUpTo time index devices i⟩ i =
      some ⟨upTo time index devices (i + 1), turnsUpTo time index devices (i + 1)⟩ := by
  have hturn := (getElem?_upTo_of_le time index devices (Nat.le_refl i)).trans hd
  have hsetup := upTo_sameSetup time index devices i
  have hserved := served_upTo coherent time i i
  have helsewhere : ∀ id ∈ (upTo time index devices i).served i,
      Elsewhere (upTo time index devices i).devices i id := by
    rw [hserved]
    exact fun id hid => elsewhere_upTo numbered hd hid
  have hstep := step?_eq time (turnsUpTo time index devices i) (upTo_coherent coherent time i)
    (hsetup.cellSize ▸ hcell) hturn (hradius d (Array.mem_of_getElem? hd)) helsewhere
  rw [hstep, upTo_succ, turnsUpTo_succ numbered hd, hserved]

/-- No check of the phase fails, and what is recorded are the turns of the due devices. -/
theorem transmitPhase?_eq : transmitPhase? time index devices = some {
    phase := transmitPhase time index devices
    turns := turnsUpTo time index devices devices.size } := by
  have hprefix : ∀ n ≤ devices.size,
      (List.range n).foldlM (step? time) { phase := { devices := devices, index := index } } =
        some ⟨upTo time index devices n, turnsUpTo time index devices n⟩ := by
    intro n
    induction n with
    | zero => exact fun _ => rfl
    | succ n ih =>
      intro hn
      rw [List.range_succ, List.foldlM_append, ih (Nat.le_of_succ_le hn), Option.bind_eq_bind,
        Option.bind_some, List.foldlM_cons,
        step?_upTo coherent hcell numbered hradius (Array.getElem?_eq_getElem hn)]
      rfl
  exact hprefix devices.size (Nat.le_refl _)

end

/-! ### What becomes of a device -/

theorem device_upTo_of_due (coherent : index.Coherent devices) (numbered : Numbered devices)
    (hd : devices[i]? = some d) (hdue : d.transmitDue time = true) {n : Nat} (hn : i < n) :
    ∃ sources cache,
      (index.answer devices i).map
        (Population.lookUp Device.processor (upTo time index devices i).devices) = sources.map some ∧
      (upTo time index devices n).devices[i]? = some { d with
        processor := deliverAll sources d.processor
        nextTransmit := d.schedule.transmit.next time
        neighborCache := cache } := by
  have hturn := (getElem?_upTo_of_le time index devices (Nat.le_refl i)).trans hd
  have hserved := served_upTo coherent time i i
  obtain ⟨phase, hphase⟩ : ∃ phase, phase = upTo time index devices i := ⟨_, rfl⟩
  rw [getElem?_upTo_of_lt time index devices hn, ← hphase]
  rw [← hphase] at hturn hserved
  have hids := map_id_eq_of_sites (NeighborIndex.sites_neighborsOf phase.index phase.devices i)
  have hprocessors : (phase.index.neighborsOf phase.devices i).2.2.map Device.processor =
      phase.devices.map Device.processor := NeighborIndex.map_neighborsOf (fun _ _ => rfl) _ _ _
  obtain ⟨cache, hasked⟩ := exists_cache_of_map_eq
    (NeighborIndex.map_neighborsOf (fun _ _ => rfl) phase.index phase.devices i) hturn
  obtain ⟨sources, hsources, hpulled⟩ := getElem?_foldl_deliverFrom (index.answer devices i) hasked
    fun id hid => Elsewhere.congr hids (hphase ▸ elsewhere_upTo numbered hd hid)
  rw [Population.lookUp_congr hids hprocessors] at hsources
  refine ⟨sources, cache, hsources, ?_⟩
  rw [step_of_due hturn hdue, hserved, Array.getElem?_modify, if_pos rfl, hpulled, Option.map_some]
  rfl

end Transmission

end SpatialComputer
