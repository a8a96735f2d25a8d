import SpatialComputer.Engine.Build
import SpatialComputer.Proofs.Population.Lookup
import SpatialComputer.Proofs.Sampling.Draws
import SpatialComputer.Proofs.Settings.Validation

/-!
# Freshly built engines

A build that succeeds has accepted its configuration and created as many devices as configured. The devices are numbered from one, nothing is cached or requested, and every processor is a fresh one.
-/

namespace SpatialComputer

open Sampling

namespace Blueprint

variable {U P : Type} [Processor U P]

theorem run_attempt {α : Type} (draw : Draw α) (s : Keystream) :
    (attempt draw).run.run s =
      ((draw.run.run s).1.mapError BuildError.fault, (draw.run.run s).2) := by
  cases hrun : draw.run.run s with
  | mk outcome s' =>
    have hrun : draw.run.run s = (pure (outcome, s') : Id _) := hrun
    show (draw.run >>= _ : StateM Keystream _).run s = _
    rw [StateT.run_bind, hrun, pure_bind]
    cases outcome <;> rfl

theorem attempt_cases {α : Type} (draw : Draw α) (s : Keystream) :
    (∃ a s', draw.run.run s = (.ok a, s') ∧ (attempt draw).run.run s = (.ok a, s')) ∨
      ∃ cause s', draw.run.run s = (.error cause, s') ∧
        (attempt draw).run.run s = (.error (.fault cause), s') := by
  rcases hdraw : draw.run.run s with ⟨cause | a, s'⟩
  · exact .inr ⟨cause, s', rfl, by rw [run_attempt, hdraw]; rfl⟩
  · exact .inl ⟨a, s', rfl, by rw [run_attempt, hdraw]; rfl⟩

/-- Whether a device is as the builder creates it. -/
def Created (b : Blueprint P) (d : Device U) : Prop :=
  ∃ position schedule firstDue, d = Device.create d.id none position b.settings.population.radius
    (Processor.fresh position b.program) schedule firstDue b.settings.lifecycle.cloneDelay

theorem createDevice_created {b : Blueprint P} {index : Nat} {id : DeviceId}
    {stream stream' : Keystream} {d : Device U}
    (h : (b.createDevice index id).run.run stream = (.ok d, stream')) :
    d.id = id ∧ b.Created d ∧ d.position.isFinite = true := by
  unfold createDevice at h
  obtain ⟨position, _, -, h⟩ := run_bind_eq_ok h
  obtain ⟨hfinite, h⟩ := of_run_check h
  obtain ⟨schedule, _, -, h⟩ := run_bind_eq_ok h
  obtain ⟨lag, _, -, h⟩ := run_bind_eq_ok h
  obtain rfl := Except.ok.inj (Prod.mk.inj h).1
  exact ⟨rfl, ⟨position, schedule, _, rfl⟩, hfinite⟩

/-- What the builder keeps true of the population while devices are created. -/
structure Populated (b : Blueprint P) (p : Population U) : Prop where
  numbered : Numbered p.devices
  lastId : p.lastId = p.devices.size
  pending : p.pending = #[]
  created : ∀ (i : Nat) (d : Device U), p.devices[i]? = some d → b.Created d

theorem Populated.empty (b : Blueprint P) : b.Populated ({} : Population U) := by
  refine ⟨Numbered.empty, rfl, rfl, ?_⟩
  intro i d hd
  simp at hd

theorem Populated.insert {b : Blueprint P} {p : Population U} (populated : b.Populated p)
    {d : Device U} (hid : d.id = p.lastId + 1) (hcreated : b.Created d) :
    b.Populated (p.allocateId.2.insert d) := by
  constructor
  · refine populated.numbered.push ?_
    rw [hid, populated.lastId]
  · have hlast : p.lastId + 1 = p.devices.size + 1 := by rw [populated.lastId]
    exact hlast.trans (Array.size_push _).symm
  · exact populated.pending
  · intro i d' hd'
    change (p.devices.push d)[i]? = some d' at hd'
    rw [Array.getElem?_push] at hd'
    split at hd'
    · rwa [← Option.some.inj hd']
    · exact populated.created i d' hd'

theorem size_insert (p : Population U) (d : Device U) :
    (p.allocateId.2.insert d).size = p.size + 1 :=
  Array.size_push _

section

variable {b : Blueprint P} {p : Population U} {stream next : Keystream}

theorem populate_succ_of_ok {d : Device U}
    (h : (b.createDevice p.size p.allocateId.1).run.run stream = (.ok d, next)) (count : Nat) :
    populate b (count + 1) p stream = populate b count (p.allocateId.2.insert d) next := by
  rw [populate]
  dsimp only
  rw [h]

theorem populate_succ_of_error {cause : BuildError}
    (h : (b.createDevice (U := U) p.size p.allocateId.1).run.run stream = (.error cause, next))
    (count : Nat) : populate b (count + 1) p stream = (.error cause, p, next) := by
  rw [populate]
  dsimp only
  rw [h]

/-- A blueprint matters to a population only in how it creates devices. -/
theorem populate_congr {b b' : Blueprint P}
    (hcreate : ∀ index id, b'.createDevice (U := U) index id = b.createDevice index id) (count : Nat) :
    ∀ (p : Population U) (stream : Keystream), populate b' count p stream = populate b count p stream := by
  induction count with
  | zero => exact fun _ _ => rfl
  | succ count ih =>
    intro p stream
    rw [populate, populate]
    simp only [hcreate, ih]

theorem populate_succ_eq_ok {count : Nat} {p' : Population U} {stream' : Keystream}
    (h : populate b (count + 1) p stream = (.ok (), p', stream')) :
    ∃ d next, (b.createDevice p.size p.allocateId.1).run.run stream = (.ok d, next) ∧
      populate b count (p.allocateId.2.insert d) next = (.ok (), p', stream') := by
  rcases hd : (b.createDevice (U := U) p.size p.allocateId.1).run.run stream with ⟨cause | d, next⟩
  · rw [populate_succ_of_error hd] at h
    cases h
  · exact ⟨d, next, rfl, populate_succ_of_ok hd count ▸ h⟩

end

theorem populate_spec (b : Blueprint P) (count : Nat) :
    ∀ (p p' : Population U) (stream stream' : Keystream), b.Populated p →
      populate b count p stream = (.ok (), p', stream') →
      b.Populated p' ∧ p'.devices.size = p.devices.size + count := by
  induction count with
  | zero =>
    intro p p' stream stream' populated h
    obtain rfl := (Prod.mk.inj (Prod.mk.inj h).2).1
    exact ⟨populated, rfl⟩
  | succ count ih =>
    intro p p' stream stream' populated h
    obtain ⟨d, next, hd, h⟩ := populate_succ_eq_ok h
    obtain ⟨hid, hcreated, -⟩ := createDevice_created hd
    obtain ⟨populated', hsize⟩ := ih _ _ _ _ (populated.insert hid hcreated) h
    refine ⟨populated', hsize.trans ?_⟩
    show (p.allocateId.2.insert d).size + count = p.size + (count + 1)
    rw [size_insert]
    omega

/-- What holds of every device as it is created holds of all that are. -/
theorem populate_forall {b : Blueprint P} {holds : Device U → Prop}
    (create : ∀ {index : Nat} {id : DeviceId} {stream stream' : Keystream} {d : Device U},
      (b.createDevice index id).run.run stream = (.ok d, stream') → holds d) (count : Nat) :
    ∀ (p p' : Population U) (stream stream' : Keystream), (∀ d ∈ p.devices, holds d) →
      populate b count p stream = (.ok (), p', stream') → ∀ d ∈ p'.devices, holds d := by
  induction count with
  | zero =>
    intro p p' stream stream' hp h
    obtain rfl := (Prod.mk.inj (Prod.mk.inj h).2).1
    exact hp
  | succ count ih =>
    intro p p' stream stream' hp h
    obtain ⟨d, next, hd, h⟩ := populate_succ_eq_ok h
    refine ih _ _ _ _ (fun d' hd' => ?_) h
    change d' ∈ p.devices.push d at hd'
    rcases Array.mem_push.mp hd' with hd' | rfl
    · exact hp d' hd'
    · exact create hd

/-- The edge of a cell for the devices that a blueprint starts with. -/
def cellSize (b : Blueprint P) : Float :=
  b.settings.index.effectiveCellSize b.settings.population.radius

/-- What a successful build comes to. -/
structure Built (b : Blueprint P) (e : Engine U P) : Prop where
  valid : b.settings.validate = .ok ()
  settings : e.settings = b.settings
  program : e.program = b.program
  populated : b.Populated e.population
  size : e.size = b.settings.population.size
  index : e.index = .create b.settings.index.strategy b.cellSize

theorem Built.created {b : Blueprint P} {e : Engine U P} (built : b.Built e) :
    ∀ d ∈ e.devices, b.Created d := by
  intro d hd
  obtain ⟨i, hi⟩ := Array.mem_iff_getElem?.mp hd
  exact built.populated.created i d hi

/-- The engine that starts with a given population and goes on with a given stream. -/
def freshEngine (b : Blueprint P) (population : Population U) (stream : Keystream) : Engine U P where
  settings := b.settings
  program := b.program
  population := population
  index := .create b.settings.index.strategy b.cellSize
  time := b.settings.engine.startTime
  tick := 0
  paused := b.settings.engine.startPaused
  stop := b.stop.getD (match b.settings.engine.stopAt with
    | some time => .atTime time
    | none => .never)
  stream := stream
  metrics := {}
  fingerprint := b.settings.fingerprint

theorem build_of_rejected {b : Blueprint P} {cause : Rejection}
    (hinvalid : b.settings.validate = .error cause) :
    b.build (U := U) = (.error (.rejected cause), []) := by
  rw [build, hinvalid]

theorem build_of_populate {b : Blueprint P} (hvalid : b.settings.validate = .ok ())
    {outcome : Except BuildError Unit} {p : Population U} {stream : Keystream}
    (hpopulate : populate b b.settings.population.size ({} : Population U) (.ofSeed (.ofNat b.seed)) =
      (outcome, p, stream)) :
    b.build = (outcome.map fun _ => b.freshEngine p stream,
      .preInit b.settings :: p.devices.toList.map .deviceInit) := by
  unfold build
  rw [hvalid]
  dsimp only
  rw [hpopulate]
  cases outcome <;> rfl

/-- Two blueprints build alike if both or neither is accepted and their populations come out alike. -/
theorem build_map {b b' : Blueprint P} {onEngine : Engine U P → Engine U P}
    {onEvent : Event U → Event U} (hvalidate : b'.settings.validate = b.settings.validate)
    (hpreInit : Event.preInit b'.settings = onEvent (.preInit b.settings))
    (hpopulate : b.settings.validate = .ok () → ∃ outcome p p' stream stream',
      populate b b.settings.population.size ({} : Population U) (.ofSeed (.ofNat b.seed)) =
          (outcome, p, stream) ∧
        populate b' b'.settings.population.size ({} : Population U) (.ofSeed (.ofNat b'.seed)) =
          (outcome, p', stream') ∧
        b'.freshEngine p' stream' = onEngine (b.freshEngine p stream) ∧
        p'.devices.toList.map .deviceInit = (p.devices.toList.map .deviceInit).map onEvent) :
    b'.build = (b.build.1.map onEngine, b.build.2.map onEvent) := by
  cases hvalid : b.settings.validate with
  | error cause =>
    rw [build_of_rejected hvalid, build_of_rejected (hvalidate.trans hvalid)]
    rfl
  | ok =>
    obtain ⟨outcome, p, p', stream, stream', hpopulate, hpopulate', hfresh, hborn⟩ := hpopulate hvalid
    rw [build_of_populate hvalid hpopulate, build_of_populate (hvalidate.trans hvalid) hpopulate',
      hfresh, hborn, hpreInit]
    cases outcome <;> rfl

theorem build_eq_ok {b : Blueprint P} {e : Engine U P} {events : List (Event U)}
    (h : b.build = (.ok e, events)) :
    b.settings.validate = .ok () ∧
      ∃ p stream, populate b b.settings.population.size ({} : Population U)
        (.ofSeed (.ofNat b.seed)) = (.ok (), p, stream) ∧ e = b.freshEngine p stream := by
  cases hvalid : b.settings.validate with
  | error cause =>
    rw [build_of_rejected hvalid] at h
    cases h
  | ok =>
    rcases hpopulate : populate b b.settings.population.size ({} : Population U)
      (.ofSeed (.ofNat b.seed)) with ⟨outcome, p, stream⟩
    rw [build_of_populate hvalid hpopulate] at h
    cases outcome with
    | error cause => cases h
    | ok => exact ⟨rfl, p, stream, rfl, (Except.ok.inj (Prod.mk.inj h).1).symm⟩

theorem built_of_build {b : Blueprint P} {e : Engine U P} {events : List (Event U)}
    (h : b.build = (.ok e, events)) : b.Built e := by
  obtain ⟨hvalid, p, stream, hpopulate, rfl⟩ := build_eq_ok h
  obtain ⟨populated, hsize⟩ := populate_spec b _ _ _ _ _ (Populated.empty b) hpopulate
  exact ⟨hvalid, rfl, rfl, populated, hsize.trans (Nat.zero_add _), rfl⟩

theorem position_isFinite_of_build {b : Blueprint P} {e : Engine U P} {events : List (Event U)}
    (h : b.build = (.ok e, events)) : ∀ d ∈ e.devices, d.position.isFinite = true := by
  obtain ⟨-, p, stream, hpopulate, rfl⟩ := build_eq_ok h
  refine populate_forall (fun hd => (createDevice_created hd).2.2) _ _ _ _ _ ?_ hpopulate
  intro d hd
  simp at hd

theorem size_le_of_validate {s : Settings} (h : s.validate = .ok ()) {limit : Nat}
    (hlimit : s.lifecycle.maxPopulation = some limit) : s.population.size ≤ limit :=
  (Settings.accepted_of_validate h).size_le hlimit

end Blueprint

end SpatialComputer
