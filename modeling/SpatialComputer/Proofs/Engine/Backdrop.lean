import SpatialComputer.Proofs.Engine.Simulation
import SpatialComputer.Proofs.Engine.StrategyAgreement

/-!
# The backdrop of a history

The seed, the way to compute, the stand of the random stream and the fingerprint of the configuration are a backdrop: operations carry them along, and of these four a tick looks at nothing but the stream, and a snapshot at nothing but the fingerprint. So if the clones of an engine take nothing from the stream, the engine before another backdrop goes through the same histories. It answers the same, but for the fingerprint, and shows an observer the same.
-/

namespace SpatialComputer

open Sampling

variable {U P : Type} [Processor U P]

/-- Another seed, another way to compute, another stand of the stream and another fingerprint. -/
structure Backdrop where
  seed : Option Nat → Option Nat := id
  parallelCompute : Bool → Bool := id
  stream : Keystream → Keystream := id
  fingerprint : String

/-- The answer, with the fingerprint of a snapshot left out. -/
def Answer.unsigned : Answer U → Answer U
  | .snapshot s => .snapshot { s with fingerprint := "" }
  | answer => answer

/-- What is given back of an operation, with fingerprints left out. -/
def unsigned (given : Answer U × List (Event U)) : Answer U × List (Event U) :=
  (given.1.unsigned, given.2)

namespace Backdrop

variable (g : Backdrop)

def settings (s : Settings) : Settings :=
  { s with engine := { s.engine with
      seed := g.seed s.engine.seed
      parallelCompute := g.parallelCompute s.engine.parallelCompute } }

def blueprint (entropy : Nat) (b : Blueprint P) : Blueprint P :=
  { b with settings := g.settings b.settings, entropy := entropy }

def engine (e : Engine U P) : Engine U P :=
  { e with
    settings := g.settings e.settings
    stream := g.stream e.stream
    fingerprint := g.fingerprint }

def tickOutcome (r : TickOutcome U P) : TickOutcome U P :=
  { r with engine := g.engine r.engine }

def answer : Answer U → Answer U
  | .snapshot s => .snapshot { s with fingerprint := g.fingerprint }
  | answer => answer

def given (r : Answer U × List (Event U)) : Answer U × List (Event U) := (g.answer r.1, r.2)

def event : Event U → Event U
  | .preInit s => .preInit (g.settings s)
  | event => event

/-- Whether the clones of an engine leave the stream alone and come out the same before this backdrop. -/
def Unseen (e : Engine U P) : Prop :=
  (g.engine e).mutation = { e.mutation with stream := g.stream e.mutation.stream }

variable {g} {b : Blueprint P} {e : Engine U P}

/-! ### Operations -/

theorem Unseen.runTick (unseen : g.Unseen e) : (g.engine e).runTick = g.tickOutcome e.runTick := by
  have hmutation : (g.engine e).mutation = { e.mutation with stream := g.stream e.mutation.stream } := unseen
  have hreport : (g.engine e).reportOfTick = e.reportOfTick := by
    rw [Engine.reportOfTick, hmutation]
    rfl
  have hindex : (g.engine e).indexAfterTick = e.indexAfterTick := by
    rw [Engine.indexAfterTick, hmutation]
    rfl
  rw [Engine.runTick_eq, Engine.runTick_eq, hmutation, hreport, hindex]
  rfl

/-- What is answered before this backdrop, as seen from before the other one. -/
def view (g : Backdrop) : View U where
  snapshot s := { s with fingerprint := g.fingerprint }

omit [Processor U P] in
private theorem answer_view (answer : Answer U) : g.view.answer answer = g.answer answer := by
  cases answer with
  | summary s reports => exact congrArg (Answer.summary s) reports.map_id
  | _ => rfl

omit [Processor U P] in
private theorem given_view (given : Answer U × List (Event U)) : g.view.given given = g.given given :=
  Prod.ext (answer_view given.1) (View.map_event rfl given.2)

section

variable (unseen : ∀ e : Engine U P, Engine.Reachable b e → g.Unseen e)
include unseen

private def simulation : Simulation U P where
  view := g.view
  view' := .plain
  known e _ := Engine.Reachable b e
  related e e' := e' = g.engine e
  clear := ⟨fun _ => rfl, fun _ => rfl⟩
  clear' := View.plain_clear
  performed op reachable := reachable.performed op
  alike {e e'} _ h := by
    subst h
    exact ⟨rfl, rfl, rfl, rfl, rfl⟩
  tick {e e'} reachable h := by
    subst h
    rw [(unseen e reachable).runTick]
    exact ⟨rfl, rfl, rfl⟩
  query {e e'} i _ h := by
    subst h
    exact ⟨rfl, rfl⟩
  setPaused paused h := by
    subst h
    rfl
  change i _ h := by
    subst h
    rfl
  markDirty h := by
    subst h
    rfl

theorem history_engine (ops : List Operation) {e : Engine U P} (reachable : Engine.Reachable b e) :
    (g.engine e).answers ops = (e.answers ops).map g.given ∧
      (g.engine e).performAll ops = g.engine (e.performAll ops) := by
  obtain ⟨hanswers, -, hengine⟩ := (simulation unseen).history ops reachable rfl
  refine ⟨?_, hengine⟩
  rw [← View.map_given_plain ((g.engine e).answers ops)]
  exact hanswers.trans (List.map_congr_left fun given _ => given_view given)

end

/-! ### From the blueprint on -/

/-- Building comes out the same before another backdrop if the population does from where the stream begins. -/
theorem build_blueprint {entropy : Nat}
    (hfingerprint : g.fingerprint = (g.settings b.settings).fingerprint)
    (hpopulate : b.settings.validate = .ok () → ∃ outcome population stream,
      b.populate b.settings.population.size ({} : Population U) (.ofSeed (.ofNat b.seed)) =
          (outcome, population, stream) ∧
        b.populate b.settings.population.size ({} : Population U)
            (.ofSeed (.ofNat (g.blueprint entropy b).seed)) = (outcome, population, g.stream stream)) :
    (g.blueprint entropy b).build =
      ((b.build (U := U)).1.map g.engine, (b.build (U := U)).2.map g.event) := by
  have hcreate : ∀ index id, (g.blueprint entropy b).createDevice (U := U) index id =
      b.createDevice index id := fun _ _ => rfl
  refine Blueprint.build_map rfl rfl fun hvalid => ?_
  obtain ⟨outcome, population, stream, hpopulate, hpopulate'⟩ := hpopulate hvalid
  refine ⟨outcome, population, population, stream, g.stream stream, hpopulate,
    (Blueprint.populate_congr hcreate _ _ _).trans hpopulate', ?_, ?_⟩
  · simp only [Blueprint.freshEngine, engine, hfingerprint]
    rfl
  · rw [List.map_map]
    rfl

section

variable (unseen : ∀ e : Engine U P, Engine.Reachable b e → g.Unseen e) {entropy : Nat}
  (hbuild : (g.blueprint entropy b).build =
    ((b.build (U := U)).1.map g.engine, (b.build (U := U)).2.map g.event))
include unseen hbuild

theorem answersTo_blueprint (ops : List Operation) :
    (g.blueprint entropy b).answersTo U ops = (b.answersTo U ops).map (List.map g.given) := by
  unfold Blueprint.answersTo
  rw [hbuild]
  rcases h : b.build (U := U) with ⟨_ | e, events⟩
  · rfl
  · exact congrArg Except.ok (history_engine unseen ops (.built h)).1

theorem afterHistory_blueprint (ops : List Operation) :
    Engine.afterHistory (g.blueprint entropy b) ops =
      (Engine.afterHistory b ops).map (g.engine (U := U)) := by
  unfold Engine.afterHistory
  rw [hbuild]
  rcases h : b.build (U := U) with ⟨_ | e, events⟩
  · rfl
  · exact congrArg some (history_engine unseen ops (.built h)).2

end

omit [Processor U P] in
private theorem unsigned_given (r : Answer U × List (Event U)) : unsigned (g.given r) = unsigned r := by
  obtain ⟨answer, events⟩ := r
  cases answer <;> rfl

theorem unsigned_answersTo_blueprint (unseen : ∀ e : Engine U P, Engine.Reachable b e → g.Unseen e)
    {entropy : Nat} (hbuild : (g.blueprint entropy b).build =
      ((b.build (U := U)).1.map g.engine, (b.build (U := U)).2.map g.event)) (ops : List Operation) :
    ((g.blueprint entropy b).answersTo U ops).map (List.map unsigned) =
      (b.answersTo U ops).map (List.map unsigned) := by
  rw [answersTo_blueprint unseen hbuild]
  cases b.answersTo U ops with
  | error cause => rfl
  | ok answers =>
    refine congrArg Except.ok ?_
    rw [List.map_map]
    exact List.map_congr_left fun r _ => unsigned_given r

end Backdrop

end SpatialComputer
