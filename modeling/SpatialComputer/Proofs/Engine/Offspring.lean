import SpatialComputer.Proofs.Engine.History
import SpatialComputer.Proofs.Engine.Spawning
import SpatialComputer.Proofs.Population.Counting

/-!
# Offspring

Children are counted by the parent that their records name. In a tick a device gets at most one, and only if it asks for one when the mutation phase begins; if neither a delay nor a limit is in the way, it gets one exactly then. In a history in which nobody asks from outside, what asks at that point has done so in its round.
-/

namespace SpatialComputer

variable {U P : Type} [Processor U P]

/-- Whether every request for a clone is granted in the tick that finds it. -/
structure LifecycleSettings.GrantsAll (lifecycle : LifecycleSettings) : Prop where
  delay : lifecycle.cloneDelay ≤ 0
  room : lifecycle.maxPopulation = none

theorem Device.mayClone_of_grantsAll {lifecycle : LifecycleSettings} (grants : lifecycle.GrantsAll)
    (d : Device U) : d.mayClone lifecycle.cloneDelay = d.requests.clone := by
  rw [mayClone, settleCloneTimer, if_pos grants.delay, Bool.and_true]

namespace Engine

variable {b : Blueprint P} {e e' : Engine U P}

/-- How many devices name the given one as their parent. -/
def childCount (e : Engine U P) (id : DeviceId) : Nat :=
  e.devices.countP fun d => d.parent = some id

/-- How many devices ask for a clone in the next tick, whether or not they get one. -/
def claimsInTick (e : Engine U P) : Nat :=
  e.afterActuation.countP fun d => d.requests.clone

/-- Whether the device at an index asks for a clone in the next tick. -/
def claimsAt (e : Engine U P) (j : Nat) : Bool :=
  e.afterActuation[j]?.any fun d => d.requests.clone

def totalIn (number : TickReport → Nat) (ticks : List (Engine U P)) : Nat :=
  ticks.foldl (fun total s => total + number s.runTick.report) 0

theorem totalIn_append_singleton (number : TickReport → Nat) (ticks : List (Engine U P))
    (s : Engine U P) : totalIn number (ticks ++ [s]) = totalIn number ticks + number s.runTick.report := by
  rw [totalIn, List.foldl_append]
  rfl

/-! ### One tick -/

private theorem length_askingInTick_le (e : Engine U P) : e.askingInTick.length ≤ e.claimsInTick := by
  rw [askingInTick, cloners, ← List.countP_eq_length_filter, Array.countP_toList]
  exact Array.countP_mono_left fun _ _ => Device.asked_of_mayClone

private theorem length_askingInTick (grants : e.settings.lifecycle.GrantsAll) :
    e.askingInTick.length = e.claimsInTick := by
  rw [askingInTick, cloners, ← List.countP_eq_length_filter, Array.countP_toList]
  exact Array.countP_congr fun d _ => by rw [d.mayClone_of_grantsAll grants]

private theorem parentsInTick_of_grantsAll (grants : e.settings.lifecycle.GrantsAll) :
    e.parentsInTick = e.askingInTick := by
  rw [parentsInTick, grants.room]
  rfl

theorem Sound.answered_le (sound : Sound b e) :
    e.runTick.report.spawned + e.runTick.report.droppedClones ≤ e.claimsInTick := by
  obtain ⟨hspawned, hdropped⟩ := report_runTick sound
  have hparents : e.parentsInTick.length ≤ e.askingInTick.length := length_whileRoom_le _ _ _
  have hasking := e.length_askingInTick_le
  omega

theorem Sound.spawned_of_grantsAll (sound : Sound b e) (grants : e.settings.lifecycle.GrantsAll) :
    e.runTick.report.spawned = e.claimsInTick := by
  rw [(report_runTick sound).1, parentsInTick_of_grantsAll grants, length_askingInTick grants]

private theorem Sound.countP_askingInTick (sound : Sound b e) (j : Nat) :
    e.askingInTick.countP (fun d => d.id = j + 1) =
      (e.afterActuation[j]?.any (Device.mayClone e.settings.lifecycle.cloneDelay)).toNat := by
  have numbered : Numbered e.afterActuation := sound.numbered.of_map_id (map_id_afterActuation e)
  rw [askingInTick, cloners, List.countP_filter, Array.countP_toList,
    ← countP_place numbered (Device.mayClone _)]
  exact Array.countP_congr fun d _ => by rw [Bool.and_comm]

/-- A device is the parent of at most one of the next clones, and of none unless it asks. -/
theorem Sound.countP_parentsInTick_le (sound : Sound b e) (j : Nat) :
    e.parentsInTick.countP (fun d => d.id = j + 1) ≤ (e.claimsAt j).toNat := by
  have hparents : e.parentsInTick.Sublist e.askingInTick := whileRoom_sublist _ _ _
  refine hparents.countP_le.trans ?_
  rw [sound.countP_askingInTick, claimsAt]
  refine Bool.toNat_le_toNat (Bool.le_iff_imp.mpr fun hmay => ?_)
  obtain ⟨acted, hacted, hmay⟩ := (Option.any_eq_true _ _).mp hmay
  exact (Option.any_eq_true _ _).mpr ⟨acted, hacted, Device.asked_of_mayClone hmay⟩

theorem Sound.countP_parentsInTick (sound : Sound b e) (grants : e.settings.lifecycle.GrantsAll)
    (j : Nat) : e.parentsInTick.countP (fun d => d.id = j + 1) = (e.claimsAt j).toNat := by
  have hmay : Device.mayClone (U := U) e.settings.lifecycle.cloneDelay = fun d => d.requests.clone :=
    funext (Device.mayClone_of_grantsAll grants)
  rw [parentsInTick_of_grantsAll grants, sound.countP_askingInTick, hmay]
  rfl

theorem map_clonesInTick {β : Type} {g h : Device U → β}
    (hclone : ∀ parent ∈ e.parentsInTick, ∀ id offset, g (cloneDevice e.program e.time
      e.settings.lifecycle.cloneDelay id parent offset) = h parent) :
    e.clonesInTick.map g = e.parentsInTick.map h := by
  apply List.ext_getElem?
  intro k
  rw [List.getElem?_map, List.getElem?_map]
  cases hparent : e.parentsInTick[k]? with
  | none =>
    have hclone : e.clonesInTick[k]? = none := by
      rw [List.getElem?_eq_none_iff, length_clonesInTick]
      exact List.getElem?_eq_none_iff.mp hparent
    rw [hclone]
    rfl
  | some parent =>
    obtain ⟨offset, -, hfound⟩ := getElem?_clonesInTick hparent
    rw [hfound]
    exact congrArg some (hclone parent (List.mem_of_getElem? hparent) _ offset)

theorem Sound.childCount_runTick (sound : Sound b e) (id : DeviceId) :
    e.runTick.engine.childCount id =
      e.childCount id + e.parentsInTick.countP fun parent => parent.id = id := by
  have hparents : (e.afterActuation.map (Device.settled e.settings.lifecycle.cloneDelay)).map
      Device.parent = e.devices.map Device.parent := by
    have hsame := congrArg (Array.map Identity.parent) (identities_afterActuation e)
    rw [Array.map_map, Array.map_map] at hsame
    rw [Array.map_map]
    refine Eq.trans (Array.map_congr_left fun d _ => ?_) hsame
    exact congrArg Identity.parent (d.identity_settled _)
  have hclones : e.clonesInTick.toArray.countP (fun d => d.parent = some id) =
      e.parentsInTick.countP fun parent => parent.id = id := by
    have hmap : e.clonesInTick.map Device.parent = e.parentsInTick.map fun parent => some parent.id :=
      map_clonesInTick fun _ _ _ _ => rfl
    have hcount := congrArg (List.countP fun parent => decide (parent = some id)) hmap
    simpa only [List.countP_toArray, List.countP_map, Function.comp_def, Option.some.injEq] using hcount
  rw [childCount, sound.devices_runTick, Array.countP_append, hclones,
    countP_of_map_eq hparents fun parent => decide (parent = some id)]
  rfl

private theorem toNat_add_ofNat_le (total : UInt64) (k : Nat) :
    (total + .ofNat k).toNat ≤ total.toNat + k := by
  rw [UInt64.toNat_add, UInt64.toNat_ofNat']
  exact (Nat.mod_le _ _).trans (Nat.add_le_add_left (Nat.mod_le _ _) _)

theorem totals_runTick_le (e : Engine U P) :
    e.runTick.engine.metrics.spawns.toNat ≤ e.metrics.spawns.toNat + e.runTick.report.spawned ∧
      e.runTick.engine.metrics.droppedClones.toNat ≤
        e.metrics.droppedClones.toNat + e.runTick.report.droppedClones := by
  rw [runTick_eq]
  exact ⟨toNat_add_ofNat_le _ _, toNat_add_ofNat_le _ _⟩

end Engine

/-! ### Histories in which nobody asks from outside -/

def Operation.asksForClone : Operation → Bool
  | .requestClone _ => true
  | _ => false

/-- A projection that sees nothing of what is done to a device between two ticks, except that it may see clones asked for. -/
structure Steady {β : Type} (g : Device U → β) : Prop where
  remember : ∀ ids d, g (Device.remember ids d) = g d
  setSensor : ∀ sensor value d,
    g { d with processor := Processor.setSensor sensor value d.processor } = g d
  setRadius : ∀ radius d, g (Device.setRadius radius d) = g d
  requestDeath : ∀ d, g { d with requests := { d.requests with death := true } } = g d

namespace Engine

variable {b : Blueprint P} {e e' : Engine U P}

/-- What is left alone between two ticks if nobody asks for a clone. -/
structure Aside (e e' : Engine U P) : Prop where
  metrics : e'.metrics = e.metrics
  map_devices : ∀ {β : Type} {g : Device U → β}, Steady g → e'.devices.map g = e.devices.map g

private theorem Aside.withDevice (e : Engine U P) (i : Nat) {f : Device U → Device U}
    (hf : ∀ {β : Type} {g : Device U → β}, Steady g → ∀ d, g (f d) = g d) :
    Aside e (e.withDevice i f) :=
  ⟨rfl, fun steady => map_modify e.devices i (hf steady)⟩

theorem Intervention.aside {op : Operation} (h : Intervention e op e') (hop : op.asksForClone = false) :
    Aside e e' := by
  cases h with
  | pause | resume => exact ⟨rfl, fun _ => rfl⟩
  | setSensor sensor value _ => exact .withDevice e _ fun steady => steady.setSensor sensor value
  | @setRadius _ i radius _ _ =>
    have frame : Aside e (e.withDevice i (Device.setRadius radius)) :=
      .withDevice e i fun steady => steady.setRadius radius
    exact ⟨frame.metrics, frame.map_devices⟩
  | requestClone _ => cases hop
  | requestDeath _ => exact .withDevice e _ Steady.requestDeath
  | query _ => exact ⟨rfl, fun steady => NeighborIndex.map_neighborsOf steady.remember e.index e.devices _⟩

section

variable (holds : List (Engine U P) → Engine U P → Prop)
  (tick : ∀ ticks e, Reachable b e → holds ticks e → holds (ticks ++ [e]) e.runTick.engine)
include tick

private theorem TickChain.accumulate {starts : List (Engine U P)} (chain : TickChain e starts e') :
    ∀ {ticks : List (Engine U P)}, Reachable b e → holds ticks e → holds (ticks ++ starts) e' := by
  induction chain with
  | nil e => exact fun _ h => (List.append_nil _).symm ▸ h
  | cons _ ih =>
    intro ticks reachable h
    rw [List.append_cons]
    exact ih (reachable.performed .tick) (tick ticks _ reachable h)

variable (aside : ∀ ticks e e', Aside e e' → holds ticks e → holds ticks e')
include aside

private theorem perform_induction {op : Operation} (hop : op.asksForClone = false)
    {ticks : List (Engine U P)} (reachable : Reachable b e) (h : holds ticks e) :
    holds (ticks ++ e.ticksOf op) (e.perform op).engine := by
  rcases perform_cases e op with chain | ⟨hnone, intervention⟩
  · exact chain.accumulate holds tick reachable h
  · rw [hnone, List.append_nil]
    exact aside ticks e _ (intervention.aside hop) h

/-- What every tick passes on with itself added, and nothing else affects, holds after a history without clone requests and with the ticks of that history. -/
theorem performAll_induction (ops : List Operation) : ∀ {ticks : List (Engine U P)} {e : Engine U P},
    (∀ op ∈ ops, op.asksForClone = false) → Reachable b e → holds ticks e →
      holds (ticks ++ e.ticksIn ops) (e.performAll ops) := by
  induction ops with
  | nil =>
    intro ticks e _ _ h
    rwa [ticksIn, List.append_nil]
  | cons op ops ih =>
    intro ticks e hops reachable h
    have hfirst := perform_induction holds tick aside (hops op List.mem_cons_self) reachable h
    rw [ticksIn, ← List.append_assoc]
    exact ih (fun op hop => hops op (List.mem_cons_of_mem _ hop)) (reachable.performed op) hfirst

end

end Engine

end SpatialComputer
