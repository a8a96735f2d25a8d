import SpatialComputer.Proofs.Engine.Identity
import SpatialComputer.Proofs.Engine.Schedules

/-!
# Families in lockstep

A clone is given the alarms of its parent as they are when the tick ends. From then on both are looked at by the same ticks, so they stay the same, and what holds of a device and its parent holds of the whole family.
-/

namespace SpatialComputer

variable {U P : Type} [Processor U P]

namespace Engine

open Relation

variable {b : Blueprint P} {e e' : Engine U P} {i j : Nat} {d d' p : Device U}

/-! ### Parents and children -/

/-- Whether each child has the alarm of its parent. -/
def InStep (phase : Phase) (e : Engine U P) : Prop :=
  ∀ (i j : Nat) (d p : Device U), e.devices[i]? = some d → e.devices[j]? = some p →
    d.parent = some p.id → d.alarm phase = p.alarm phase

private theorem InStep.of_built (phase : Phase) (built : b.Built e) : InStep phase e := by
  intro i j d p hd _ hparent
  obtain ⟨position, schedule, firstDue, h⟩ := built.populated.created i d hd
  have hnone : d.parent = none := by rw [h]; rfl
  exact absurd (hnone.symm.trans hparent) (Option.some_ne_none p.id).symm

private theorem Sound.kin_runTick (sound : Sound b e) (hd : e.devices[i]? = some d)
    (hd' : e.runTick.engine.devices[i]? = some d') :
    d'.lineage = d.lineage ∧ ∀ phase, d'.alarm phase = (d.alarm phase).after e.time := by
  obtain ⟨d₁, hd₁, hlineage⟩ := sound.lineage_runTick hd
  obtain ⟨d₂, hd₂, halarm⟩ := sound.alarm_runTick hd
  obtain rfl := Option.some.inj (hd'.symm.trans hd₁)
  obtain rfl := Option.some.inj (hd'.symm.trans hd₂)
  exact ⟨hlineage.symm, halarm⟩

private theorem InStep.runTick {phase : Phase} (reachable : Reachable b e) (inStep : InStep phase e) :
    InStep phase e.runTick.engine := by
  have sound := reachable.sound
  intro i j d' p' hd' hp' hparent
  have hpid : p'.id = j + 1 := (sound.step .tick).numbered j p' hp'
  rcases sound.device_runTick_cases hd' with ⟨d, hd⟩ | ⟨k, parent, offset, rfl, hcloned, -, rfl⟩
  · -- The parent has the smaller id, so it was there before as well.
    obtain ⟨hlineage, halarm⟩ := sound.kin_runTick hd hd'
    have hdparent : d.parent = some (j + 1) := by
      rw [← hpid, ← hparent]
      exact (congrArg Prod.snd hlineage).symm
    have hearlier := ((reachable.descends d (Array.mem_of_getElem? hd)).2 _ hdparent).2
    have hi : i < e.devices.size := (Array.getElem?_eq_some_iff.mp hd).1
    have hj : j < e.devices.size := by
      have hid : d.id = i + 1 := sound.numbered i d hd
      have hlt : j + 1 < i + 1 := hid ▸ hearlier
      omega
    have hp := Array.getElem?_eq_getElem hj
    obtain ⟨-, hpalarm⟩ := sound.kin_runTick hp hp'
    rw [halarm, hpalarm]
    congr 1
    exact inStep i j d _ hd hp (hdparent.trans (congrArg some (sound.numbered j _ hp).symm))
  · -- The clone was given the alarms that its parent has after acting, and settling leaves those alone.
    obtain ⟨place, hplace, hacted, hid⟩ := sound.place_of_parent (List.mem_of_getElem? hcloned)
    obtain rfl : place = j := by
      have h : parent.id = p'.id := Option.some.inj hparent
      rw [hid, hpid] at h
      exact Nat.succ.inj h
    obtain ⟨acted, hacted', -, hsettled⟩ := sound.device_runTick (Array.getElem?_eq_getElem hplace)
    obtain rfl := Option.some.inj (hacted.symm.trans hacted')
    obtain rfl := Option.some.inj (hp'.symm.trans hsettled)
    rw [Device.alarm_settled]
    cases phase <;> rfl

private theorem InStep.between {phase : Phase} (h : Between e e') (inStep : InStep phase e) :
    InStep phase e' := by
  have lasting : Lasting fun d : Device U => (d.lineage, d.alarm phase) := by
    cases phase <;> exact ⟨fun _ _ => rfl, fun _ _ _ => rfl, fun _ _ => rfl, fun _ _ => rfl⟩
  intro i j d' p' hd' hp' hparent
  obtain ⟨d, hd, hdsame⟩ := h.device_before lasting hd'
  obtain ⟨p, hp, hpsame⟩ := h.device_before lasting hp'
  obtain ⟨hdlineage, hdalarm⟩ := Prod.mk.inj hdsame
  obtain ⟨hplineage, hpalarm⟩ := Prod.mk.inj hpsame
  rw [← hdalarm, ← hpalarm]
  refine inStep i j d p hd hp ?_
  have hdparent : d.parent = d'.parent := congrArg Prod.snd hdlineage
  have hpid : p.id = p'.id := congrArg Prod.fst hplineage
  rw [hdparent, hparent, hpid]

theorem Reachable.inStep (reachable : Reachable b e) (phase : Phase) : InStep phase e :=
  reachable.invariant_of_tick (fun h => .of_built phase (Blueprint.built_of_build h))
    (fun reachable inStep => inStep.runTick reachable) fun h inStep => inStep.between h

/-! ### Families -/

/-- Whether `p` is the parent of `d` among the devices of an engine. -/
def IsParent (e : Engine U P) (p d : Device U) : Prop :=
  p ∈ e.devices ∧ d ∈ e.devices ∧ d.parent = some p.id

/-- Whether two devices have a common ancestor, which may be one of them. -/
def Related (e : Engine U P) (d d' : Device U) : Prop :=
  ∃ ancestor, ReflTransGen e.IsParent ancestor d ∧ ReflTransGen e.IsParent ancestor d'

theorem Reachable.parent (reachable : Reachable b e) (hd : d ∈ e.devices) {id : DeviceId}
    (hparent : d.parent = some id) : ∃ p, e.population.find? id = some p ∧ e.IsParent p d := by
  have sound := reachable.sound
  obtain ⟨hpos, hless⟩ := (reachable.descends d hd).2 id hparent
  obtain ⟨i, hi⟩ := Array.mem_iff_getElem?.mp hd
  have hplace : id - 1 < e.devices.size := by
    have hle : id ≤ i := Nat.le_of_lt_succ (hless.trans_eq (sound.numbered i d hi))
    have hsize := (Array.getElem?_eq_some_iff.mp hi).1
    exact (Nat.sub_le id 1).trans_lt (hle.trans_lt hsize)
  have hp := Array.getElem?_eq_getElem hplace
  have hid : e.devices[id - 1].id = id := by
    rw [sound.numbered _ _ hp]
    exact Nat.sub_add_cancel hpos
  refine ⟨e.devices[id - 1], ?_, Array.mem_of_getElem? hp, hd, hparent.trans (congrArg some hid.symm)⟩
  have hfound := Population.find?_id sound.numbered hp
  rwa [hid] at hfound

theorem Reachable.ancestor (reachable : Reachable b e) : ∀ (n : Nat) (d : Device U), d ∈ e.devices →
    d.id ≤ n → ∃ a ∈ e.devices, a.parent = none ∧ ReflTransGen e.IsParent a d := by
  -- A parent has a smaller id than its child, so the induction is on a bound of the id.
  intro n
  induction n with
  | zero =>
    intro d hd hid
    obtain ⟨i, hi⟩ := Array.mem_iff_getElem?.mp hd
    rw [reachable.sound.numbered i d hi] at hid
    exact absurd hid (Nat.not_succ_le_zero i)
  | succ n ih =>
    intro d hd hid
    cases hparent : d.parent with
    | none => exact ⟨d, hd, hparent, .refl⟩
    | some id =>
      obtain ⟨p, -, hp⟩ := reachable.parent hd hparent
      have hless : p.id < d.id := ((reachable.descends d hd).2 _ hp.2.2).2
      obtain ⟨a, ha, hinitial, hcome⟩ := ih p hp.1 (Nat.le_of_lt_succ (hless.trans_le hid))
      exact ⟨a, ha, hinitial, hcome.tail hp⟩

theorem Reachable.alarm_of_related (reachable : Reachable b e) (related : e.Related d d')
    (phase : Phase) : d'.alarm phase = d.alarm phase := by
  have hdown : ∀ {a d : Device U}, ReflTransGen e.IsParent a d → d.alarm phase = a.alarm phase := by
    intro a d hcome
    induction hcome with
    | refl => rfl
    | tail _ hparent ih =>
      obtain ⟨hp, hd, hparent⟩ := hparent
      obtain ⟨i, hi⟩ := Array.mem_iff_getElem?.mp hd
      obtain ⟨j, hj⟩ := Array.mem_iff_getElem?.mp hp
      exact (reachable.inStep phase i j _ _ hi hj hparent).trans ih
  obtain ⟨ancestor, hd, hd'⟩ := related
  rw [hdown hd, hdown hd']

/-! ### Together through a history -/

private theorem Course.together {ticks : List (Engine U P)} {phase : Phase}
    (course : Course e ticks e') : ∀ {d d' : Device U}, Sound b e → e.devices[i]? = some d →
      e.devices[j]? = some d' → d'.alarm phase = d.alarm phase →
        ∀ s ∈ ticks, s.runsInTick phase j = s.runsInTick phase i := by
  induction course with
  | done e => exact fun _ _ _ _ s hs => nomatch hs
  | @tick e _ _ _ ih =>
    intro d d' sound hd hd' hsame s hs
    rcases List.mem_cons.mp hs with rfl | hs
    · rw [sound.runsInTick_eq hd, sound.runsInTick_eq hd', hsame]
    · obtain ⟨d₁, hd₁, halarm⟩ := sound.alarm_runTick hd
      obtain ⟨d₁', hd₁', halarm'⟩ := sound.alarm_runTick hd'
      exact ih (sound.step .tick) hd₁ hd₁' (by rw [halarm, halarm', hsame]) s hs
  | between h _ ih =>
    intro d d' sound hd hd' hsame
    obtain ⟨d₁, hd₁, halarm⟩ := h.device (lasting_alarm phase) hd
    obtain ⟨d₁', hd₁', halarm'⟩ := h.device (lasting_alarm phase) hd'
    exact ih (sound.step h.step) hd₁ hd₁' (by rw [halarm, halarm', hsame])

/-- In every reachable engine parents are registered and every device comes from an initial one. A child and its parent, and all devices of a family, have the same timers and the same due times; hence, in a history from any tick on in which they are there, and from the one after the creation of a clone in particular, they transmit and compute in the same ticks. -/
theorem families_in_lockstep (reachable : Reachable b e) :
    (∀ d ∈ e.devices, ∀ id, d.parent = some id →
      ∃ p, e.population.find? id = some p ∧ e.IsParent p d) ∧
    (∀ d ∈ e.devices, ∃ a ∈ e.devices, a.parent = none ∧ ReflTransGen e.IsParent a d) ∧
    (∀ p d, e.IsParent p d → d.schedule = p.schedule ∧ d.nextTransmit = p.nextTransmit ∧
      d.nextCompute = p.nextCompute) ∧
    (∀ d d', e.Related d d' → d'.schedule = d.schedule ∧ d'.nextTransmit = d.nextTransmit ∧
      d'.nextCompute = d.nextCompute) ∧
    ∀ (ops : List Operation) (before rest : List (Engine U P)), e.ticksIn ops = before ++ rest →
      ∀ (i j : Nat) (d d' : Device U), (e.afterTicks before).devices[i]? = some d →
        (e.afterTicks before).devices[j]? = some d' → (e.afterTicks before).Related d d' →
        ∀ s ∈ rest, ∀ phase, s.runsInTick phase j = s.runsInTick phase i := by
  refine ⟨fun d hd id => reachable.parent hd, fun d hd => reachable.ancestor d.id d hd (Nat.le_refl _),
    fun p d hparent => Device.alarm_eq_iff.mp (reachable.alarm_of_related ⟨p, .refl, .single hparent⟩),
    fun d d' related => Device.alarm_eq_iff.mp (reachable.alarm_of_related related), ?_⟩
  intro ops before rest hticks i j d d' hd hd' related s hs phase
  have course : Course (e.afterTicks before) rest (e.performAll ops) :=
    course_afterTicks hticks
  have reachable' : Reachable b (e.afterTicks before) := reachable.afterTicks hticks
  exact course.together reachable'.sound hd hd' (reachable'.alarm_of_related related phase) s hs

def restless : Blueprint Program where
  settings := {
    engine := { seed := some 3 }
    population := { size := 1, distribution := .explicit [⟨0, 0, 0⟩] }
    schedule := { transmit := .jittered 1.5 0.5, compute := .jittered 2 1, sync := false } }
  program := .idle

/-- The grandchild of the restless device always transmits and computes together with it. -/
theorem families_in_lockstep_restless : ∃ e : Engine ScriptedProcessor Program,
    Reachable restless e ∧
      e.devices.map Device.lineage = #[(1, none), (2, some 1), (3, some 2)] ∧
      ∀ ops, ∀ s ∈ e.ticksIn ops, ∀ phase, s.runsInTick phase 2 = s.runsInTick phase 0 := by
  have hfacts : (afterHistory restless [.requestClone 1, .tick, .requestClone 2, .tick]).map
      (fun e : Engine ScriptedProcessor Program => e.devices.map Device.lineage) =
        some #[(1, none), (2, some 1), (3, some 2)] := by
    decide +kernel
  obtain ⟨e, he, hlineages⟩ := Option.map_eq_some_iff.mp hfacts
  have reachable : Reachable restless e := .of_afterHistory he
  have hdevice : ∀ {i : Nat} {lineage : DeviceId × Option DeviceId},
      (#[(1, none), (2, some 1), (3, some 2)] : Array (DeviceId × Option DeviceId))[i]? = some lineage →
        ∃ d, e.devices[i]? = some d ∧ d.lineage = lineage := by
    intro i lineage h
    rwa [← hlineages, Array.getElem?_map, Option.map_eq_some_iff] at h
  obtain ⟨first, hfirst, hfirstLineage⟩ := hdevice (i := 0) rfl
  obtain ⟨child, hchild, hchildLineage⟩ := hdevice (i := 1) rfl
  obtain ⟨grandchild, hgrandchild, hgrandchildLineage⟩ := hdevice (i := 2) rfl
  obtain ⟨hfirstId, -⟩ := Prod.mk.inj hfirstLineage
  obtain ⟨hchildId, hchildParent⟩ := Prod.mk.inj hchildLineage
  obtain ⟨-, hgrandchildParent⟩ := Prod.mk.inj hgrandchildLineage
  have hborn : e.IsParent first child :=
    ⟨Array.mem_of_getElem? hfirst, Array.mem_of_getElem? hchild, hfirstId ▸ hchildParent⟩
  have hborn' : e.IsParent child grandchild :=
    ⟨Array.mem_of_getElem? hchild, Array.mem_of_getElem? hgrandchild, hchildId ▸ hgrandchildParent⟩
  have related : e.Related first grandchild := ⟨first, .refl, (ReflTransGen.single hborn).tail hborn'⟩
  obtain ⟨-, -, -, -, htogether⟩ := families_in_lockstep reachable
  exact ⟨e, reachable, hlineages, fun ops s hs => htogether ops [] _ rfl 0 2 first grandchild hfirst
    hgrandchild related s hs⟩

end Engine

end SpatialComputer
