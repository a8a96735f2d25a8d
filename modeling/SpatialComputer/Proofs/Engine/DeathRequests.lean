import SpatialComputer.Proofs.Engine.GuisedHistories
import SpatialComputer.Proofs.Engine.QueryTransparency

/-!
# Death requests

Death is recorded and never acted on: nothing in an engine reads the flag. So an engine in which some deaths have been asked for is the one in which they have not, in mourning, and stays so through every operation. The clone flag in the same record is read and dropped by every tick, and the flag of the death request survives it; a clone is given a record of its own.
-/

namespace SpatialComputer

variable {U P : Type} [Processor U P]

/-! ### Mourning -/

namespace Guise

/-- The guise in which the death of the devices with the given ids has been asked for. -/
def mourning (named : List DeviceId) : Guise U P where
  requests id requests := { requests with death := requests.death || named.contains id }

/-- The guise in which no death has been asked for. -/
def carefree : Guise U P where
  requests _ requests := { requests with death := false }

private theorem mourning_round (named : List DeviceId) (time : Float) (d : Device U) :
    ((mourning named : Guise U P).device d).computeIfDue time =
      (mourning named : Guise U P).device (d.computeIfDue time) := by
  have hdue : ((mourning named : Guise U P).device d).computeDue time = d.computeDue time := rfl
  unfold Device.computeIfDue
  rw [hdue]
  split
  · unfold Device.runRound device mourning LifecycleRequests.merge
    simp only [Bool.or_right_comm]
  · rfl

private theorem mourning_actuate (named : List DeviceId) (speedLimit : Option Float)
    (bounds : Option Volume) (d : Device U) :
    ((mourning named : Guise U P).device d).actuate speedLimit bounds =
      ((mourning named : Guise U P).actuation (d.actuate speedLimit bounds).1,
        (mourning named : Guise U P).device (d.actuate speedLimit bounds).2) := by
  obtain ⟨processor, position, h⟩ := d.actuate_eq speedLimit bounds
  refine (d.actuate_with speedLimit bounds _ d.neighborCache).trans ?_
  rw [h]
  rfl

/-- Mourning makes no difference, as long as only devices are mourned that are known. -/
theorem mourning_faithful (program : P) {named : List DeviceId} {known : Nat}
    (hnamed : ∀ id ∈ named, id ≤ known) :
    (mourning named : Guise U P).Faithful program known (fun _ => True) (fun _ => True)
      (fun _ => True) where
  handed := by constructor <;> intros <;> trivial
  kept := by constructor <;> intros <;> trivial
  color _ := rfl
  sensor _ := rfl
  sensorCount _ := rfl
  deliver _ _ := rfl
  setSensor _ _ _ := rfl
  setRadius _ _ := rfl
  requestClone _ _ _ := rfl
  requestDeath _ _ := rfl
  round time d _ := mourning_round named time d
  actuate speedLimit bounds d _ := mourning_actuate named speedLimit bounds d
  clone time delay id parent offset _ hid := by
    have hunknown : named.contains id = false := by
      rw [List.contains_eq_mem, decide_eq_false_iff_not]
      exact fun hmem => absurd (hnamed id hmem) (Nat.not_le.mpr hid)
    have hrequests : (mourning named : Guise U P).requests id {} = {} := by
      simp only [mourning, hunknown, Bool.or_false]
    exact congrArg (fun requests =>
      { cloneDevice program time delay id parent offset with requests := requests }) hrequests.symm

omit [Processor U P] in
private theorem mourning_nil (e : Engine U P) : (mourning []).engine e = e := by
  have hdevice : (mourning [] : Guise U P).device = id := by
    funext d
    simp [device, mourning]
  have hdevices : e.population.devices.map (mourning [] : Guise U P).device = e.population.devices := by
    rw [hdevice, Array.map_id]
  unfold engine population
  rw [hdevices]
  rfl

end Guise

namespace Engine

variable {b : Blueprint P} {e : Engine U P} {named : List DeviceId}

omit [Processor U P] in
private theorem requestDeath_mourning (numbered : Numbered e.devices) {e' : Engine U P} {id : DeviceId}
    (h : ((Guise.mourning named).engine e).requestDeath id = .ok e') :
    id ≤ e.size ∧ e' = (Guise.mourning (named ++ [id])).engine e := by
  obtain ⟨i, hindex, rfl⟩ := modifyDevice_eq h
  have hindex : Population.indexIn e.devices id = some i :=
    (congrFun (Population.indexIn_congr (Guise.map_id_map_device e.devices)) id).symm.trans hindex
  obtain ⟨hi, rfl⟩ := (Population.indexIn_eq_some_iff numbered).mp hindex
  refine ⟨hi, ?_⟩
  have hdevices : (e.devices.map (Guise.mourning named : Guise U P).device).modify i
        (fun d => { d with requests := { d.requests with death := true } }) =
      e.devices.map (Guise.mourning (named ++ [i + 1]) : Guise U P).device := by
    apply Array.ext_getElem?
    intro j
    rw [Array.getElem?_modify, Array.getElem?_map, Array.getElem?_map]
    cases hd : e.devices[j]? with
    | none => simp
    | some d =>
      have hid := numbered j d hd
      by_cases hij : i = j
      · simp [hij, hid, Guise.device, Guise.mourning]
      · have hother : ¬j = i := fun h => hij h.symm
        simp [hij, hother, hid, Guise.device, Guise.mourning]
  exact congrArg (fun devices =>
    { e with population := { e.population with devices := devices } }) hdevices

/-! ### Inserted requests -/

/-- The ids of the devices whose death is asked for by an inserted operation. -/
def namedIn (history : List Entry) : List DeviceId :=
  history.filterMap fun
    | ⟨.requestDeath id, true⟩ => some id
    | _ => none

/-- Whether every inserted operation of a history asks for the death of a device and succeeds when its turn comes. -/
def InsertsDeaths (e : Engine U P) : List Entry → Prop
  | [] => True
  | entry :: history =>
    (entry.inserted = true → ∃ id e', entry.op = .requestDeath id ∧ e.requestDeath id = .ok e') ∧
      (e.perform entry.op).engine.InsertsDeaths history

/-- What is given back of the operations of a history that are not inserted. -/
def givenToOthers (e : Engine U P) : List Entry → List (Answer U × List (Event U))
  | [] => []
  | entry :: history =>
    let performed := e.perform entry.op
    if entry.inserted then performed.engine.givenToOthers history
    else (performed.answer, performed.events) :: performed.engine.givenToOthers history

omit [Processor U P] in
private theorem carefree_given (named : List DeviceId) (given : Answer U × List (Event U)) :
    (Guise.carefree : Guise U P).given ((Guise.mourning named : Guise U P).given given) =
      (Guise.carefree : Guise U P).given given := by
  obtain ⟨answer, events⟩ := given
  refine Prod.ext ?_ ?_
  · cases answer with
    | summary s reports => exact congrArg (Answer.summary s) List.map_map
    | snapshot s =>
      refine congrArg (fun devices => Answer.snapshot { s with devices := devices }) ?_
      exact List.map_map
    | _ => rfl
  · refine List.map_map.trans (List.map_congr_left fun event _ => ?_)
    cases event <;> rfl

omit [Processor U P] in
private theorem Sound.fitting [Processor U P] (sound : Sound b e) : Guise.Fitting b e.size (fun _ => True) e :=
  ⟨sound, fun _ _ => trivial, Nat.le_refl _⟩

private theorem mourning_history (history : List Entry) : ∀ {e : Engine U P} {named : List DeviceId},
    Sound b e → (∀ id ∈ named, id ≤ e.size) →
      ((Guise.mourning named).engine e).InsertsDeaths history →
      let plain := e.performAll (withoutInserted history)
      ((Guise.mourning named).engine e).performAll (history.map Entry.op) =
          (Guise.mourning (named ++ namedIn history)).engine plain ∧
        (∀ id ∈ named ++ namedIn history, id ≤ plain.size) ∧
        (((Guise.mourning named).engine e).givenToOthers history).map (Guise.carefree : Guise U P).given =
          (e.answers (withoutInserted history)).map (Guise.carefree : Guise U P).given := by
  -- The induction carries the guise along: `named` are the devices mourned so far, and all of them
  -- are registered.
  induction history with
  | nil =>
    intro e named _ hnamed _
    rw [show named ++ namedIn [] = named from List.append_nil named]
    exact ⟨rfl, hnamed, rfl⟩
  | cons entry history ih =>
    intro e named sound hnamed hdeaths
    obtain ⟨hinserts, hrest⟩ := hdeaths
    obtain ⟨op, inserted⟩ := entry
    cases inserted with
    | true =>
      obtain ⟨id, e', rfl, hdeath⟩ := hinserts rfl
      have hengine : (((Guise.mourning named).engine e).perform (.requestDeath id)).engine = e' := by
        simp only [perform, hdeath]
        rfl
      -- An inserted request moves only the guise, and the plain engine stays where it is.
      obtain ⟨hid, rfl⟩ := requestDeath_mourning sound.numbered hdeath
      rw [hengine] at hrest
      have hnamed' : ∀ k ∈ named ++ [id], k ≤ e.size := by
        intro k hk
        rcases List.mem_append.mp hk with hk | hk
        · exact hnamed k hk
        · exact List.mem_singleton.mp hk ▸ hid
      have h := ih sound hnamed' hrest
      rw [List.append_assoc] at h
      rw [List.map_cons, performAll, givenToOthers, hengine]
      exact h
    | false =>
      have faithful := Guise.mourning_faithful (U := U) b.program hnamed
      have hperform := sound.fitting.perform_engine faithful op
      have hfitting := sound.fitting.perform faithful op
      have hnames : namedIn (⟨op, false⟩ :: history) = namedIn history := by cases op <;> rfl
      have hplain : withoutInserted (⟨op, false⟩ :: history) = op :: withoutInserted history := rfl
      rw [hperform] at hrest
      obtain ⟨hengine, hknown, hgiven⟩ :=
        ih hfitting.sound (fun id hid => (hnamed id hid).trans hfitting.known) hrest
      rw [hnames, hplain, List.map_cons, performAll, performAll, answers, givenToOthers, hperform]
      exact ⟨hengine, hknown, congrArg₂ List.cons
        (carefree_given named ((e.perform op).answer, (e.perform op).events)) hgiven⟩

/-! ### Flags -/

omit [Processor U P] in
private theorem mourning_of_death (numbered : Numbered e.devices) {i : Nat} {d : Device U}
    (hd : e.devices[i]? = some d) (hdeath : d.requests.death = true) :
    (Guise.mourning [d.id]).engine e = e := by
  have hdevices : e.devices.map (Guise.mourning [d.id] : Guise U P).device = e.devices := by
    apply Array.ext_getElem?
    intro j
    rw [Array.getElem?_map]
    cases hj : e.devices[j]? with
    | none => rfl
    | some d' =>
      have hid := numbered i d hd
      have hid' := numbered j d' hj
      have hflag : (d'.requests.death || [d.id].contains d'.id) = d'.requests.death := by
        by_cases hij : j = i
        · obtain rfl := Option.some.inj ((hij ▸ hj).symm.trans hd)
          simp [hdeath]
        · simp [hid, hid', hij]
      exact congrArg (fun death =>
        some { d' with requests := { d'.requests with death := death } }) hflag
  exact congrArg (fun devices => { e with population := { e.population with devices := devices } }) hdevices

private theorem Sound.death_stays (sound : Sound b e) {i : Nat} {d : Device U}
    (hd : e.devices[i]? = some d) (hdeath : d.requests.death = true) (ops : List Operation) :
    ∃ d', (e.performAll ops).devices[i]? = some d' ∧ d'.id = d.id ∧ d'.requests.death = true := by
  have hi : i < e.size := (Array.getElem?_eq_some_iff.mp hd).1
  have hid : d.id = i + 1 := sound.numbered i d hd
  have hknown : ∀ id ∈ [d.id], id ≤ e.size := by
    intro id hmem
    rw [List.mem_singleton.mp hmem, hid]
    exact hi
  have faithful := Guise.mourning_faithful (U := U) b.program hknown
  have hlater := (Guise.Fitting.answers_engine faithful ops sound.fitting).2
  rw [mourning_of_death sound.numbered hd hdeath] at hlater
  have hfitting := Guise.Fitting.performAll faithful ops sound.fitting
  have hplace : i < (e.performAll ops).devices.size := hi.trans_le hfitting.known
  have hplain := Array.getElem?_eq_getElem hplace
  have hid' : ((e.performAll ops).devices[i]).id = d.id := by
    rw [hfitting.sound.numbered i _ hplain, hid]
  refine ⟨(Guise.mourning [d.id] : Guise U P).device (e.performAll ops).devices[i], ?_, hid', ?_⟩
  · have hsame : (e.performAll ops).devices[i]? =
        ((Guise.mourning [d.id]).engine (e.performAll ops)).devices[i]? := by rw [← hlater]
    rw [hsame, Guise.devices_engine, Array.getElem?_map, hplain, Option.map_some]
  · simp [Guise.device, Guise.mourning, hid']

private theorem Sound.requests_clone (sound : Sound b e) {i : Nat} {d' : Device U} (hi : e.size ≤ i)
    (hd' : e.runTick.engine.devices[i]? = some d') : d'.requests = {} := by
  rcases sound.device_runTick_cases hd' with ⟨d, hd⟩ | ⟨k, parent, offset, -, -, -, rfl⟩
  · exact absurd (Array.getElem?_eq_some_iff.mp hd).1 (Nat.not_lt.mpr hi)
  · rfl

/-- Requests for the deaths of devices that are inserted into a history and succeed leave an engine that differs from the one without them in nothing but the flags of the devices they name. So whatever is done next has the same report, the same neighbours, and every other answer and event the same but for these flags, and on the way as well the rest of the history is given the same back, flags apart. A flag that is set stays set through every further history, and whoever is cloned, a clone starts with no request. -/
theorem death_requests_inert (reachable : Reachable b e) (history : List Entry)
    (hdeaths : e.InsertsDeaths history) :
    let plain := e.performAll (withoutInserted history)
    let mourned := e.performAll (history.map Entry.op)
    let mourning : Guise U P := .mourning (namedIn history)
    mourned = { plain with
      population := { plain.population with
        devices := plain.devices.map fun d => { d with
          requests := { d.requests with
            death := d.requests.death || (namedIn history).contains d.id } } } } ∧
    (∀ op, mourned.perform op = mourning.performed (plain.perform op)) ∧
    mourned.runTick.report = plain.runTick.report ∧
    (∀ id, (mourned.perform (.neighborsOf id)).answer = (plain.perform (.neighborsOf id)).answer ∧
      mourned.neighborsUncached id = plain.neighborsUncached id) ∧
    (e.givenToOthers history).map (Guise.carefree : Guise U P).given =
      (e.answers (withoutInserted history)).map (Guise.carefree : Guise U P).given ∧
    (∀ (i : Nat) (d : Device U), mourned.devices[i]? = some d → d.requests.death = true →
      ∀ ops, ∃ d', (mourned.performAll ops).devices[i]? = some d' ∧ d'.id = d.id ∧
        d'.requests.death = true) ∧
    ∀ (i : Nat) (d' : Device U), mourned.size ≤ i → mourned.runTick.engine.devices[i]? = some d' →
      d'.requests = {} := by
  intro plain mourned mourning
  have hstart : ((Guise.mourning []).engine e).InsertsDeaths history := by
    rwa [Guise.mourning_nil]
  obtain ⟨hengine, hknown, hgiven⟩ := mourning_history history reachable.sound (by simp) hstart
  rw [Guise.mourning_nil, List.nil_append] at hengine
  rw [List.nil_append] at hknown
  rw [Guise.mourning_nil] at hgiven
  have sound : Sound b plain := (reachable.performAll (withoutInserted history)).sound
  have sound' : Sound b mourned := (reachable.performAll (history.map Entry.op)).sound
  have faithful := Guise.mourning_faithful (U := U) b.program hknown
  have hperform : ∀ op, mourned.perform op = mourning.performed (plain.perform op) := by
    intro op
    show (e.performAll (history.map Entry.op)).perform op = _
    rw [hengine]
    exact sound.fitting.perform_engine faithful op
  refine ⟨hengine, hperform, ?_, fun id => ⟨?_, ?_⟩, hgiven,
    fun i d hd hdeath => sound'.death_stays hd hdeath, fun i d' => sound'.requests_clone⟩
  · have htick := congrArg Performed.answer (hperform .tick)
    exact Answer.report.inj htick
  · show ((e.performAll (history.map Entry.op)).perform (.neighborsOf id)).answer = _
    rw [hengine]
    exact sound.fitting.neighborsOf_answer faithful id
  · show (e.performAll (history.map Entry.op)).neighborsUncached id = _
    rw [hengine]
    exact Guise.neighborsUncached_engine id

def bequest : List Entry :=
  [⟨.requestDeath 1, true⟩, ⟨.requestClone 1, false⟩, ⟨.tick, false⟩]

/-- Only the flag of the first of two devices is set, and not that of its clone. It stays set. -/
theorem death_requests_inert_bequest : ∃ e : Engine ScriptedProcessor Program,
    Reachable idlePair e ∧ e.InsertsDeaths bequest ∧
      (e.performAll (withoutInserted bequest)).devices.map (fun d => (d.id, d.requests.death)) =
        #[(1, false), (2, false), (3, false)] ∧
      (e.performAll (bequest.map Entry.op)).devices.map (fun d => d.requests.death) =
        #[true, false, false] ∧
      ∀ ops, ∃ d', ((e.performAll (bequest.map Entry.op)).performAll ops).devices[0]? = some d' ∧
        d'.requests.death = true := by
  have hfacts : (afterHistory idlePair []).map (fun e : Engine ScriptedProcessor Program =>
      ((e.requestDeath 1).isOk, (e.performAll (withoutInserted bequest)).devices.map fun d =>
        (d.id, d.requests.death))) = some (true, #[(1, false), (2, false), (3, false)]) := by
    decide +kernel
  obtain ⟨e, he, hfacts⟩ := Option.map_eq_some_iff.mp hfacts
  obtain ⟨hsucceeds, hplain⟩ := Prod.mk.inj hfacts
  have reachable : Reachable idlePair e := .of_afterHistory he
  have hdeaths : e.InsertsDeaths bequest := by
    refine ⟨fun _ => ?_, nofun, nofun, trivial⟩
    cases hdeath : e.requestDeath 1 with
    | error cause => simp [hdeath, Except.isOk, Except.toBool] at hsucceeds
    | ok e' => exact ⟨1, e', rfl, hdeath⟩
  obtain ⟨hmourned, -, -, -, -, hstays, -⟩ := death_requests_inert reachable bequest hdeaths
  have hflags : (e.performAll (bequest.map Entry.op)).devices.map (fun d => d.requests.death) =
      #[true, false, false] := by
    have hmarked : (#[(1, false), (2, false), (3, false)] : Array (DeviceId × Bool)).map
        (fun seen => seen.2 || (namedIn bequest).contains seen.1) = #[true, false, false] := by
      decide +kernel
    rw [← hplain, Array.map_map] at hmarked
    rw [hmourned]
    exact Array.map_map.trans hmarked
  refine ⟨e, reachable, hdeaths, hplain, hflags, fun ops => ?_⟩
  have hfirst := congrArg (·[0]?) hflags
  rw [Array.getElem?_map] at hfirst
  obtain ⟨d, hd, hdeath⟩ := Option.map_eq_some_iff.mp hfirst
  obtain ⟨d', hd', -, hdeath'⟩ := hstays 0 d hd hdeath ops
  exact ⟨d', hd', hdeath'⟩

end Engine

end SpatialComputer
