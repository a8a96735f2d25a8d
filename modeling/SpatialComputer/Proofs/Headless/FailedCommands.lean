import SpatialComputer.CommandLine.Command
import SpatialComputer.Proofs.Engine.Construction
import SpatialComputer.Proofs.Engine.HookTrace

/-!
# Commands that fail

A command may fail over its arguments, its configuration, its dump file and its engine, in this order. The dump file is created before the engine is built, so a build that fails leaves an empty dump behind, in place of what was there. All other failures leave none. As a configuration is checked before that, it takes one whose places or timers leave the range of doubles.
-/

namespace SpatialComputer.CommandLine

open Sampling

variable {s : Surroundings} {arguments : List String} {setup : RunSetup}

/-- The setup that a command runs if its arguments and its configuration are in order. -/
def Surroundings.setup? (s : Surroundings) (arguments : List String) : Option RunSetup :=
  match Request.ofArguments? arguments with
  | some (.run a) => (a.setup (s.configFile a.configPath)).toOption
  | _ => none

/-! ### Before the dump file is created -/

private theorem validate_of_ofDocument {text : String} (h : RunSetup.ofDocument text = .ok setup) :
    setup.settings.validate = .ok () := by
  unfold RunSetup.ofDocument at h
  split at h
  · cases h
  · obtain ⟨_, hvalid, h⟩ := except_bind_eq_ok h
    obtain rfl := Except.ok.inj h
    unfold RunSetup.validate at hvalid
    split at hvalid
    · cases hvalid
    · assumption

private theorem fileSetup_cases (a : Arguments) (file : ConfigFile) :
    (∃ setup, a.fileSetup file = .ok setup ∧ setup.settings.validate = .ok ()) ∨
      ∃ cause, a.fileSetup file = .error cause ∧ ∀ build, cause ≠ .build build := by
  cases file with
  | missing => exact .inl ⟨{}, rfl, by decide +kernel⟩
  | unreadable => exact .inr ⟨_, rfl, nofun⟩
  | text content =>
    rw [Arguments.fileSetup]
    cases hdocument : RunSetup.ofDocument content with
    | error cause => exact .inr ⟨_, rfl, nofun⟩
    | ok setup => exact .inl ⟨setup, rfl, validate_of_ofDocument hdocument⟩

private theorem setup_cases (a : Arguments) (file : ConfigFile) :
    (∃ setup, a.setup file = .ok setup ∧ setup.settings.validate = .ok ()) ∨
      ∃ cause, a.setup file = .error cause ∧ ∀ build, cause ≠ .build build := by
  unfold Arguments.setup
  rcases fileSetup_cases a file with ⟨read, hread, hvalid⟩ | ⟨cause, hread, hcause⟩
  · rw [hread]
    by_cases hperiod : a.dumpPeriod = some 0
    · exact .inr ⟨.noDumpPeriod, if_pos hperiod, nofun⟩
    · -- A seed on the command line makes no difference to the checks.
      exact .inl ⟨a.override read, if_neg hperiod, hvalid⟩
  · rw [hread]
    exact .inr ⟨cause, rfl, hcause⟩

/-- A command has an accepted setup and comes to what this comes to, or it has none and leaves no dump. -/
theorem command_cases (s : Surroundings) (arguments : List String) :
    (∃ setup, s.setup? arguments = some setup ∧ setup.settings.validate = .ok () ∧
      command s arguments = runDumping setup s.canCreate s.entropy) ∨
    s.setup? arguments = none ∧ (command s arguments).dump = none ∧
      ∀ build, (command s arguments).result ≠ .error (.build build) := by
  unfold Surroundings.setup? command
  cases Request.ofArguments? arguments with
  | none => exact .inr ⟨rfl, rfl, nofun⟩
  | some request =>
    cases request with
    | help | version => exact .inr ⟨rfl, rfl, nofun⟩
    | run a =>
      rcases setup_cases a (s.configFile a.configPath) with
        ⟨setup, hsetup, hvalid⟩ | ⟨cause, hsetup, hcause⟩
      · dsimp only [Request.perform]
        rw [hsetup]
        exact .inl ⟨setup, rfl, hvalid, rfl⟩
      · dsimp only [Request.perform]
        rw [hsetup]
        exact .inr ⟨rfl, rfl, fun build h => hcause build (Except.error.inj h)⟩

/-! ### From there on -/

theorem runDumping_cases {canCreate : String → Bool} {entropy : Nat}
    (hfailed : (runDumping setup canCreate entropy).code ≠ 0) :
    (∃ path, runDumping setup canCreate entropy = { result := .error (.noDumpFile path) }) ∨
      ∃ build, ((setup.blueprint entropy).build (U := ScriptedProcessor)).1 = .error build ∧
        runDumping setup canCreate entropy =
          { result := .error (.build build), dump := setup.run.dumpPath.map (⟨·, []⟩) } := by
  unfold runDumping at hfailed ⊢
  cases hpath : setup.run.dumpPath.filter (!canCreate ·) with
  | some path => exact .inl ⟨path, rfl⟩
  | none =>
    rw [hpath] at hfailed
    simp only [runSetup, Runner.create] at hfailed ⊢
    cases hbuild : ((setup.blueprint entropy).build (U := ScriptedProcessor)).1 with
    | error build => exact .inr ⟨build, rfl, rfl⟩
    | ok e =>
      rw [hbuild] at hfailed
      exact absurd rfl hfailed

private theorem cause_of_build {U P : Type} [Processor U P] {b : Blueprint P} {build : BuildError}
    (hvalid : b.settings.validate = .ok ()) (hbuild : (b.build (U := U)).1 = .error build) :
    (∃ fault, build = .fault fault) ∨ ∃ index position,
      build = .rejected (.distribution (.placedNotFinite index position)) ∧ position.isFinite = false := by
  obtain ⟨created, trace⟩ := Blueprint.exists_buildTrace U hvalid
  have ending := trace.ending
  rw [hbuild] at ending
  cases ending with
  | stray _ _ hnot => exact .inr ⟨_, _, rfl, hnot⟩
  | fault => exact .inl ⟨_, rfl⟩

private theorem not_inRange_of_build {entropy : Nat} {build : BuildError}
    (hvalid : setup.settings.validate = .ok ())
    (hbuild : ((setup.blueprint entropy).build (U := ScriptedProcessor)).1 = .error build)
    (hlow : Keystream.ReachesLow (Keystream.ofSeed (.ofNat (setup.blueprint entropy).seed)).key) :
    setup.settings.inRange = false := by
  by_contra hrange
  rw [Bool.not_eq_false] at hrange
  obtain ⟨e, events, hbuilt⟩ :=
    Blueprint.build_of_inRange (U := ScriptedProcessor) (b := setup.blueprint entropy) rfl rfl
      hvalid hlow hrange
  rw [hbuilt] at hbuild
  cases hbuild

/-- A command that does not finish leaves a dump just if its arguments and its configuration are in order, a dump is asked for and can be created, and the engine cannot be built; the dump is empty then. The configuration is an accepted one in that case, a draw for a device has failed or the device would stand at no finite place, and if the stream reaches a low value then the timers or the places leave the range of doubles. -/
theorem dump_of_failed_command (hfailed : (command s arguments).code ≠ 0) :
    (∀ file, (command s arguments).dump = some file ↔ file.lines = [] ∧ ∃ setup build,
      s.setup? arguments = some setup ∧ setup.run.dumpPath = some file.path ∧
        (command s arguments).result = .error (.build build)) ∧
    ∀ build, (command s arguments).result = .error (.build build) → ∃ setup,
      s.setup? arguments = some setup ∧ setup.settings.validate = .ok () ∧
        (Keystream.ReachesLow (Keystream.ofSeed (.ofNat (setup.blueprint s.entropy).seed)).key →
          setup.settings.inRange = false) ∧
        ((∃ fault, build = .fault fault) ∨ ∃ index position,
          build = .rejected (.distribution (.placedNotFinite index position)) ∧
            position.isFinite = false) := by
  -- A command fails before its setup is accepted, at the dump file, or in the build with the file
  -- already there.
  rcases command_cases s arguments with ⟨setup, hsetup, hvalid, hcommand⟩ | ⟨hsetup, hdump, hresult⟩
  · rw [hcommand] at hfailed ⊢
    rw [hsetup]
    rcases runDumping_cases hfailed with ⟨path, hrun⟩ | ⟨build, hbuild, hrun⟩
    · rw [hrun]
      refine ⟨fun file => ⟨nofun, ?_⟩, nofun⟩
      rintro ⟨-, _, _, -, -, hcause⟩
      cases hcause
    · rw [hrun]
      refine ⟨fun file => ⟨fun h => ?_, ?_⟩, fun build' h => ?_⟩
      · obtain ⟨path, hpath, rfl⟩ := Option.map_eq_some_iff.mp h
        exact ⟨rfl, setup, build, rfl, hpath, rfl⟩
      · rintro ⟨hlines, _, _, heq, hpath, -⟩
        obtain rfl := Option.some.inj heq
        cases file
        cases hlines
        exact congrArg (Option.map _) hpath
      · obtain rfl : build = build' := by cases h; rfl
        exact ⟨setup, rfl, hvalid, not_inRange_of_build hvalid hbuild,
          cause_of_build (b := setup.blueprint s.entropy) hvalid hbuild⟩
  · rw [hdump, hsetup]
    refine ⟨fun file => ⟨nofun, ?_⟩, fun build h => absurd h (hresult build)⟩
    rintro ⟨-, _, _, h, -⟩
    cases h

/-- Surroundings in which every configuration file holds the given text and any file can be created. -/
def Surroundings.holding (content : String) : Surroundings where
  configFile _ := .text content
  canCreate _ := true
  entropy := 0

def zeroPeriod : List String := ["--dump", "dump.jsonl", "--dump-period", "0"]

/-- A dump period of zero is found out before the dump file is created. -/
theorem dump_of_failed_command_zeroPeriod : (command (.holding "") zeroPeriod).code ≠ 0 ∧
    (command (.holding "") zeroPeriod).dump = none := by
  have hresult : (command (.holding "") zeroPeriod).result = .error .noDumpPeriod := by rfl
  have hfailed : (command (.holding "") zeroPeriod).code ≠ 0 := by
    rw [Outcome.code, hresult]
    decide
  refine ⟨hfailed, Option.eq_none_iff_forall_ne_some.mpr fun file hfile => ?_⟩
  obtain ⟨-, _, _, -, -, hbuild⟩ := ((dump_of_failed_command hfailed).1 file).mp hfile
  rw [hresult] at hbuild
  cases hbuild

/-- An accepted configuration of a lattice so wide that twice its width is no double. -/
def stretchedLattice : String :=
  "[engine]\nseed = 1\n[population]\nsize = 3\n" ++
    "volume = \x7b min = [0, 0, 0], max = [1.7e308, 1, 0] \x7d\ndistribution = \x7b kind = \"grid\" \x7d\n"

/-- The third device of this lattice stands at no finite place, and the command fails over it with an empty dump left behind. -/
theorem empty_dump_stretchedLattice :
    (command (.holding stretchedLattice) ["--dump", "dump.jsonl"]).code = 1 ∧
      (command (.holding stretchedLattice) ["--dump", "dump.jsonl"]).dump = some ⟨"dump.jsonl", []⟩ := by
  decide +kernel

end SpatialComputer.CommandLine
