import SpatialComputer.Program.Scripted
import SpatialComputer.Proofs.Engine.Build
import SpatialComputer.Proofs.Placement.Reach

/-!
# Which configurations can be built

An accepted configuration is built unless a computation that validation does not look at leaves the range of doubles: the width of the range from which a jittered timer is drawn, or the places of the initial devices. Apart from these, every draw and every device succeeds, on every stream that reaches a low value.
-/

namespace SpatialComputer

open Binary64 Sampling

variable {key : Vector UInt32 8}

/-! ### Timers -/

namespace TimerPolicy

/-- Whether the periods of a timer that varies lie a finite distance apart, scaled for the largest draw. -/
def drawable : TimerPolicy → Bool
  | fixed _ => true
  | jittered period variance =>
    variance == 0 || ((period + variance - (period - variance)) / unitMax).isFinite

private theorem range_spec {period variance : Float} (hperiod : period.isFinite = true)
    (hvariance : variance.isFinite = true) (hperiod' : 0 ≤ toRat period)
    (hvariance' : 0 ≤ toRat variance) (hsum : (period + variance).isFinite = true) :
    (period - variance).isFinite = true ∧ period - variance ≤ period + variance := by
  have hperiodLe := toRat_le_largest period
  have hvarianceLe := toRat_le_largest variance
  have hlow := rounded_sub hperiod hvariance
  have hlowFinite := hlow.isFinite_of_le (abs_le.mpr ⟨by linarith, by linarith⟩)
  refine ⟨hlowFinite, (le_iff hlowFinite hsum).mpr ?_⟩
  have hlow := hlow.nearest hlowFinite
  have hhigh := (rounded_add hperiod hvariance).nearest hsum
  rcases hvariance'.lt_or_eq with hpos | hzero
  · exact hlow.mono hhigh (by linarith)
  · rw [← hzero, sub_zero] at hlow
    rw [← hzero, add_zero] at hhigh
    rw [hlow.eq_self (representable_toRat period), hhigh.eq_self (representable_toRat period)]

theorem resolve_yields {policy : TimerPolicy} {phase : String}
    (hvalid : policy.validate phase = .ok ()) (hdrawable : policy.drawable = true) :
    Yields key policy.resolve fun timer =>
      ∃ period, timer = .interval period ∧ period.isFinite = true := by
  obtain ⟨⟨hperiod, hperiod'⟩, ⟨hvariance, hvariance'⟩, hsum⟩ := validate_eq_ok hvalid
  cases policy with
  | fixed period => exact .pure ⟨period, rfl, hperiod⟩
  | jittered period variance =>
    rw [resolve]
    split
    · exact .pure ⟨period, rfl, hperiod⟩
    · rename_i hne
      have hscale := (Bool.or_eq_true_iff.mp hdrawable).resolve_left hne
      rw [lt_iff hperiod isFinite_zero, toRat_zero, not_lt] at hperiod'
      rw [lt_iff hvariance isFinite_zero, toRat_zero, not_lt] at hvariance'
      obtain ⟨hlow, hle⟩ := range_spec hperiod hvariance hperiod' hvariance' hsum
      refine .bind (uniformInclusive_yields hlow hsum hle hscale) fun drawn hdrawn => ?_
      exact .pure ⟨_, rfl, (maxNum_spec hdrawn.1 isFinite_zero).1⟩

theorem drawable_of_resolve {policy : TimerPolicy} {s s' : Keystream} {timer : Timer}
    (h : policy.resolve.run.run s = (.ok timer, s')) : policy.drawable = true := by
  cases policy with
  | fixed period => rfl
  | jittered period variance =>
    rw [resolve] at h
    split at h
    · rename_i heq
      exact Bool.or_eq_true_iff.mpr (.inl heq)
    · obtain ⟨drawn, _, hdrawn, -⟩ := run_bind_eq_ok h
      unfold uniformInclusive at hdrawn
      exact Bool.or_eq_true_iff.mpr (.inr (of_run_check (of_run_check hdrawn).2).1)

end TimerPolicy

/-- Whether timers and places stay within the range of doubles and of countable seats. -/
def Settings.inRange (s : Settings) : Bool :=
  (s.schedule.transmit.drawable && s.schedule.compute.drawable) &&
    s.population.distribution.inRange s.population.volume s.population.size

namespace Blueprint

variable {U P : Type} [Processor U P] {b : Blueprint P}

/-! ### Devices -/

private theorem attempt_yields {α : Type} {draw : Draw α} {holds : α → Prop}
    (h : Yields key draw holds) : Yields key (attempt draw) holds := by
  intro s hs
  obtain ⟨a, s', hrun, hs', ha⟩ := h s hs
  exact ⟨a, s', by rw [run_attempt, hrun]; rfl, hs', ha⟩

private theorem run_of_attempt {α : Type} {draw : Draw α} {s s' : Keystream} {a : α}
    (h : (attempt draw).run.run s = (.ok a, s')) : draw.run.run s = (.ok a, s') := by
  rw [run_attempt] at h
  obtain ⟨houtcome, rfl⟩ := Prod.mk.inj h
  cases hrun : draw.run.run s with
  | mk outcome s' =>
    rw [hrun] at houtcome
    cases outcome with
    | error cause => cases houtcome
    | ok value =>
      obtain rfl := Except.ok.inj houtcome
      rfl

private theorem startLag_yields (hkey : Keystream.ReachesLow key) {schedule : Schedule}
    {period : Float} (hcompute : schedule.compute = .interval period)
    (hperiod : period.isFinite = true) (settings : Settings) :
    Yields key (startLag settings schedule) (·.isFinite = true) := by
  unfold startLag
  split
  · exact .pure isFinite_zero
  rw [hcompute]
  dsimp only [Timer.period, Option.getD]
  split
  · rename_i hpos
    have hdistance := rounded_sub hperiod isFinite_zero
    rw [toRat_zero, sub_zero] at hdistance
    have hdistance := hdistance.exact_of_double.1
    exact (uniform_yields hkey isFinite_zero hperiod hpos hdistance).mono fun _ h => h.1
  · exact .pure isFinite_zero

/-! ### The population -/

private theorem populate_succeeds (count : Nat) : ∀ (p : Population U) (s : Keystream), s.key = key →
    (∀ index < p.size + count, ∀ id, Yields key (b.createDevice (U := U) index id) fun _ => True) →
    ∃ p' s', populate b count p s = (.ok (), p', s') := by
  induction count with
  | zero => exact fun p s _ _ => ⟨p, s, rfl⟩
  | succ count ih =>
    -- The index of the next device is the size of the population, which grows with it.
    intro p s hs hcreate
    obtain ⟨d, s', hrun, hs', -⟩ := hcreate p.size (by omega) p.allocateId.1 s hs
    obtain ⟨p', s'', hrest⟩ := ih (p.allocateId.2.insert d) s' hs' fun index hindex =>
      hcreate index (by rw [size_insert] at hindex; omega)
    refine ⟨p', s'', ?_⟩
    unfold populate
    dsimp only
    rw [hrun]
    exact hrest

private theorem createDevice_of_populate (count : Nat) : ∀ (p p' : Population U) (s s' : Keystream),
    populate b count p s = (.ok (), p', s') → ∀ index, p.size ≤ index → index < p.size + count →
      ∃ (id : DeviceId) (t t' : Keystream) (d : Device U),
        (b.createDevice index id).run.run t = (.ok d, t') := by
  -- The device at `index` is created at the turn at which the population has that size.
  induction count with
  | zero =>
    intro p p' s s' _ index hlow hhigh
    omega
  | succ count ih =>
    intro p p' s s' h index hlow hhigh
    obtain ⟨d, t, hd, h⟩ := populate_succ_eq_ok h
    rcases Nat.eq_or_lt_of_le hlow with rfl | hlt
    · exact ⟨_, s, t, d, hd⟩
    · exact ih _ _ _ _ h index (by rw [size_insert]; omega) (by rw [size_insert]; omega)

/-! ### Configurations in range -/

variable (hplacement : b.placement = none) (hschedule : b.schedule = none)

include hplacement hschedule

private theorem createDevice_yields (accepted : b.settings.Accepted) (hkey : Keystream.ReachesLow key)
    (hrange : b.settings.inRange = true) {index : Nat} (hindex : index < b.settings.population.size)
    (id : DeviceId) : Yields key (b.createDevice (U := U) index id) fun _ => True := by
  simp only [Settings.inRange, Bool.and_eq_true] at hrange
  obtain ⟨⟨htransmit, hcompute⟩, hplaces⟩ := hrange
  have hposition : Yields key (b.position index) (·.isFinite = true) := by
    unfold position
    rw [hplacement]
    exact Distribution.place_yields accepted.distribution hkey hplaces hindex
  have hresolved : Yields key b.deviceSchedule fun schedule =>
      ∃ period, schedule.compute = .interval period ∧ period.isFinite = true := by
    unfold deviceSchedule
    rw [hschedule]
    refine .bind (TimerPolicy.resolve_yields accepted.transmit htransmit) fun transmit _ => ?_
    refine .bind (TimerPolicy.resolve_yields accepted.compute hcompute) fun compute hperiod => ?_
    exact .pure hperiod
  unfold createDevice
  refine .bind (attempt_yields hposition) fun position hfinite => .check hfinite ?_
  refine .bind (attempt_yields hresolved) fun schedule ⟨period, hperiod, hfinite⟩ => ?_
  refine .bind (attempt_yields (startLag_yields hkey hperiod hfinite _)) fun lag _ => ?_
  exact .pure trivial

private theorem of_createDevice {index : Nat} {id : DeviceId} {s s' : Keystream} {d : Device U}
    (h : (b.createDevice index id).run.run s = (.ok d, s')) :
    (b.settings.schedule.transmit.drawable = true ∧ b.settings.schedule.compute.drawable = true) ∧
      ∃ place t, (b.settings.population.distribution.place b.settings.population.volume
        b.settings.population.size index).run.run s = (.ok place, t) ∧ place.isFinite = true := by
  unfold createDevice at h
  obtain ⟨place, t, hplace, h⟩ := run_bind_eq_ok h
  obtain ⟨hfinite, h⟩ := of_run_check h
  obtain ⟨schedule, _, hresolved, -⟩ := run_bind_eq_ok h
  have hplace := run_of_attempt hplace
  have hresolved := run_of_attempt hresolved
  unfold position at hplace
  unfold deviceSchedule at hresolved
  rw [hplacement] at hplace
  rw [hschedule] at hresolved
  obtain ⟨_, _, htransmit, hresolved⟩ := run_bind_eq_ok hresolved
  obtain ⟨_, _, hcompute, -⟩ := run_bind_eq_ok hresolved
  exact ⟨⟨TimerPolicy.drawable_of_resolve htransmit, TimerPolicy.drawable_of_resolve hcompute⟩,
    place, t, hplace, hfinite⟩

theorem build_of_inRange (hvalid : b.settings.validate = .ok ())
    (hkey : Keystream.ReachesLow (Keystream.ofSeed (.ofNat b.seed)).key)
    (hrange : b.settings.inRange = true) :
    ∃ (e : Engine U P) (events : List (Event U)), b.build = (.ok e, events) := by
  have accepted := Settings.accepted_of_validate hvalid
  obtain ⟨population, stream, hpopulate⟩ := populate_succeeds b.settings.population.size
    ({} : Population U) (.ofSeed (.ofNat b.seed)) rfl fun index hindex id =>
      createDevice_yields hplacement hschedule accepted hkey hrange
        (hindex.trans_eq (Nat.zero_add _)) id
  exact ⟨_, _, build_of_populate hvalid hpopulate⟩

private theorem inRange_of_build {e : Engine U P} {events : List (Event U)}
    (hbuild : b.build = (.ok e, events))
    (hcylinder : b.settings.population.distribution ≠ .cylinder) : b.settings.inRange = true := by
  obtain ⟨hvalid, p, stream, hpopulate, -⟩ := build_eq_ok hbuild
  have hsize := (Settings.accepted_of_validate hvalid).size_pos
  have hcreated : ∀ index < b.settings.population.size, ∃ (id : DeviceId) (t t' : Keystream)
      (d : Device U), (b.createDevice index id).run.run t = (.ok d, t') := fun index hindex =>
    createDevice_of_populate _ _ _ _ _ hpopulate index (Nat.zero_le _)
      (hindex.trans_eq (Nat.zero_add _).symm)
  obtain ⟨_, _, _, _, hfirst⟩ := hcreated 0 hsize
  refine Bool.and_eq_true_iff.mpr ⟨Bool.and_eq_true_iff.mpr ?_, ?_⟩
  · exact (of_createDevice hplacement hschedule hfirst).1
  · refine Distribution.inRange_of_place hcylinder hsize fun index hindex => ?_
    obtain ⟨_, t, _, _, hd⟩ := hcreated index hindex
    obtain ⟨place, t', hplace, hfinite⟩ := (of_createDevice hplacement hschedule hd).2
    exact ⟨t, place, t', hplace, hfinite⟩

/-- An accepted configuration that stays in range is built on every stream that reaches a low value, with as many devices as configured, all at finite places. Conversely, unless the devices are put on a cylinder, only configurations that stay in range are built. -/
theorem built_when_inRange (hvalid : b.settings.validate = .ok ())
    (hkey : Keystream.ReachesLow (Keystream.ofSeed (.ofNat b.seed)).key) :
    (b.settings.inRange = true → ∃ (e : Engine U P) (events : List (Event U)),
      b.build = (.ok e, events) ∧ e.size = b.settings.population.size ∧
        ∀ d ∈ e.devices, d.position.isFinite = true) ∧
    (b.settings.population.distribution ≠ .cylinder →
      (∃ (e : Engine U P) (events : List (Event U)), b.build = (.ok e, events)) →
        b.settings.inRange = true) := by
  constructor
  · intro hrange
    obtain ⟨e, events, hbuild⟩ :=
      build_of_inRange (U := U) hplacement hschedule hvalid hkey hrange
    exact ⟨e, events, hbuild, (built_of_build hbuild).size, position_isFinite_of_build hbuild⟩
  · rintro hcylinder ⟨e, events, hbuild⟩
    exact inRange_of_build hplacement hschedule hbuild hcylinder

omit hplacement hschedule

def jitteredLattice : Blueprint Program where
  settings := {
    engine := { seed := some 1 }
    population := {
      size := 4
      radius := 1
      volume := { min := ⟨0, 0, 0⟩, max := ⟨10, 10, 10⟩ }
      distribution := .xGrid }
    schedule := { transmit := .jittered 1 0.25, compute := .jittered 2 0.5, sync := false } }
  program := .idle

theorem built_when_inRange_jitteredLattice :
    ∃ (e : Engine ScriptedProcessor Program) (events : List (Event ScriptedProcessor)),
      jitteredLattice.build = (.ok e, events) ∧ e.size = 4 ∧
        ∀ d ∈ e.devices, d.position.isFinite = true := by
  have hvalid : jitteredLattice.settings.validate = .ok () := by decide +kernel
  have hlow : Keystream.ReachesLow (Keystream.ofSeed (.ofNat jitteredLattice.seed)).key :=
    ⟨1, by decide +kernel⟩
  have hrange : jitteredLattice.settings.inRange = true := by decide +kernel
  exact (built_when_inRange (U := ScriptedProcessor) rfl rfl hvalid hlow).1 hrange

/-- An idle device whose compute period is drawn from a range wider than the largest double. -/
def wideJitter : Blueprint Program where
  settings := {
    engine := { seed := some 1 }
    population := { size := 1, radius := 1, distribution := .explicit [⟨0, 0, 0⟩] }
    schedule := { compute := .jittered 0 1.7e308 } }
  program := .idle

/-- The sum of period and variance is finite and is all that validation looks at, but the width of the range is twice the variance. -/
theorem not_built_wideJitter : (wideJitter.placement = none ∧ wideJitter.schedule = none) ∧
    wideJitter.settings.validate = .ok () ∧ ∃ events : List (Event ScriptedProcessor),
      wideJitter.build = ((.error (.fault .unboundedRange) :
        Except BuildError (Engine ScriptedProcessor Program)), events) := by
  refine ⟨⟨rfl, rfl⟩, by decide +kernel, ?_⟩
  have hcause : (match (wideJitter.build (U := ScriptedProcessor)).1 with
      | .error cause => some cause
      | .ok _ => none) = some (.fault .unboundedRange) := by
    decide +kernel
  cases hbuild : wideJitter.build (U := ScriptedProcessor) with
  | mk outcome events =>
    rw [hbuild] at hcause
    cases outcome with
    | ok e => cases hcause
    | error cause =>
      obtain rfl := Option.some.inj hcause
      exact ⟨events, rfl⟩

end Blueprint

end SpatialComputer
