import SpatialComputer.Proofs.Engine.Invariant

/-!
# The ticks of a history

A history runs a tick here and there, and some operations run many. The engines with which these ticks begin are listed in their order, and the history is taken apart accordingly: into ticks, and into elementary steps between them, which leave everything about a device alone but for its caches, its radius, its sensors and its requests.
-/

namespace SpatialComputer

variable {U P : Type} [Processor U P]

/-- A projection that sees nothing of what is done to a device between two ticks. -/
structure Lasting {β : Type} (g : Device U → β) : Prop where
  remember : ∀ ids d, g (Device.remember ids d) = g d
  setSensor : ∀ sensor value d,
    g { d with processor := Processor.setSensor sensor value d.processor } = g d
  setRadius : ∀ radius d, g (Device.setRadius radius d) = g d
  request : ∀ (raise : LifecycleRequests → LifecycleRequests) d,
    g { d with requests := raise d.requests } = g d

theorem Lasting.position : Lasting (Device.position (U := U)) :=
  ⟨fun _ _ => rfl, fun _ _ _ => rfl, fun _ _ => rfl, fun _ _ => rfl⟩

namespace Engine

variable {b : Blueprint P} {e e' : Engine U P} {starts : List (Engine U P)}

/-! ### The ticks of a history -/

/-- The engines with which the ticks of a history begin. -/
def ticksIn (e : Engine U P) : List Operation → List (Engine U P)
  | [] => []
  | op :: ops => e.ticksOf op ++ (e.perform op).engine.ticksIn ops

/-- The engine right after the last of some ticks, if there were any. -/
def afterTicks (e : Engine U P) (ticks : List (Engine U P)) : Engine U P :=
  ticks.foldl (fun _ s => s.runTick.engine) e

private theorem TickChain.reachable {s : Engine U P} (chain : TickChain e starts e') :
    Reachable b e → s ∈ starts → Reachable b s := by
  induction chain with
  | nil e => exact fun _ hs => nomatch hs
  | cons _ ih =>
    intro reachable hs
    rcases List.mem_cons.mp hs with rfl | hs
    · exact reachable
    · exact ih (reachable.performed .tick) hs

theorem Reachable.of_mem_ticksIn {s : Engine U P} (ops : List Operation) :
    ∀ {e : Engine U P}, Reachable b e → s ∈ e.ticksIn ops → Reachable b s := by
  induction ops with
  | nil => exact fun _ hs => nomatch hs
  | cons op ops ih =>
    intro e reachable hs
    rcases List.mem_append.mp hs with hs | hs
    · rcases perform_cases e op with chain | ⟨hnone, -⟩
      · -- A tick in the middle of a run could as well have been asked for by itself.
        exact chain.reachable reachable hs
      · rw [hnone] at hs
        exact nomatch hs
    · exact ih (reachable.performed op) hs

theorem Reachable.afterTicks {ops : List Operation} {before rest : List (Engine U P)}
    (reachable : Reachable b e) (h : e.ticksIn ops = before ++ rest) :
    Reachable b (e.afterTicks before) := by
  rcases List.eq_nil_or_concat before with rfl | ⟨earlier, s, rfl⟩
  · exact reachable
  · have hs : s ∈ e.ticksIn ops := by simp [h]
    rw [List.concat_eq_append, Engine.afterTicks, List.foldl_append]
    exact (reachable.of_mem_ticksIn ops hs).performed .tick

/-! ### Between two ticks -/

/-- An elementary step that is no tick. -/
structure Between (e e' : Engine U P) : Prop where
  step : Step e e'
  map_devices : ∀ {β : Type} {g : Device U → β}, Lasting g → e'.devices.map g = e.devices.map g
  tick : e'.tick = e.tick
  metrics : e'.metrics = e.metrics

namespace Between

theorem setPaused (e : Engine U P) (paused : Bool) : Between e { e with paused := paused } :=
  ⟨.setPaused paused, fun _ => rfl, rfl, rfl⟩

theorem setSensor (e : Engine U P) (i sensor : Nat) (value : Bool) : Between e (e.withDevice i fun d =>
    { d with processor := Processor.setSensor sensor value d.processor }) :=
  ⟨.setSensor i sensor value, fun lasting => map_modify e.devices i (lasting.setSensor sensor value),
    rfl, rfl⟩

theorem setRadius (e : Engine U P) (i : Nat) (radius : Float) : Between e (e.afterRadius i radius) :=
  ⟨.setRadius i radius, fun lasting => map_modify e.devices i (lasting.setRadius radius), rfl, rfl⟩

theorem request (e : Engine U P) (i : Nat) (raise : LifecycleRequests → LifecycleRequests) :
    Between e (e.withDevice i fun d => { d with requests := raise d.requests }) :=
  ⟨.request i raise, fun lasting => map_modify e.devices i (lasting.request raise), rfl, rfl⟩

theorem query (e : Engine U P) (i : Nat) : Between e (e.afterQuery i) :=
  ⟨.query i, fun lasting => NeighborIndex.map_neighborsOf lasting.remember e.index e.devices i, rfl, rfl⟩

theorem of_intervention {op : Operation} (h : Intervention e op e') : Between e e' := by
  cases h with
  | pause => exact setPaused e true
  | resume => exact setPaused e false
  | setSensor sensor value _ => exact setSensor e _ sensor value
  | setRadius _ _ => exact setRadius e _ _
  | requestClone _ => exact request e _ fun r => { r with clone := true }
  | requestDeath _ => exact request e _ fun r => { r with death := true }
  | query _ => exact query e _

theorem time (h : Between e e') : e'.time = e.time := by
  have htick := h.tick
  cases h.step with
  | tick =>
    rw [runTick_eq] at htick
    exact absurd htick (Nat.succ_ne_self _)
  | setPaused | setSensor | setRadius | request | query => rfl

theorem device {β : Type} {g : Device U → β} (h : Between e e') (lasting : Lasting g) {i : Nat}
    {d : Device U} (hd : e.devices[i]? = some d) : ∃ d', e'.devices[i]? = some d' ∧ g d' = g d :=
  exists_of_map_eq (h.map_devices lasting) hd

theorem device_before {β : Type} {g : Device U → β} (h : Between e e') (lasting : Lasting g) {i : Nat}
    {d' : Device U} (hd' : e'.devices[i]? = some d') : ∃ d, e.devices[i]? = some d ∧ g d = g d' :=
  exists_of_map_eq (h.map_devices lasting).symm hd'

end Between

/-! ### Courses -/

/-- How one engine comes from another by elementary steps, with the engines with which the ticks on the way begin. -/
inductive Course : Engine U P → List (Engine U P) → Engine U P → Prop where
  | done (e : Engine U P) : Course e [] e
  | tick {e e' : Engine U P} {starts : List (Engine U P)} :
    Course e.runTick.engine starts e' → Course e (e :: starts) e'
  | between {e e₁ e' : Engine U P} {starts : List (Engine U P)} :
    Between e e₁ → Course e₁ starts e' → Course e starts e'

namespace Course

theorem trans {e'' : Engine U P} {starts' : List (Engine U P)} (course : Course e starts e')
    (course' : Course e' starts' e'') : Course e (starts ++ starts') e'' := by
  induction course with
  | done e => exact course'
  | tick _ ih => exact .tick (ih course')
  | between h _ ih => exact .between h (ih course')

end Course

theorem TickChain.course (chain : TickChain e starts e') : Course e starts e' := by
  induction chain with
  | nil e => exact .done e
  | cons _ ih => exact .tick ih

theorem course_perform (e : Engine U P) (op : Operation) :
    Course e (e.ticksOf op) (e.perform op).engine := by
  rcases perform_cases e op with chain | ⟨hnone, intervention⟩
  · exact chain.course
  · rw [hnone]
    exact .between (.of_intervention intervention) (.done _)

private theorem Course.invariant {holds : Engine U P → Prop} {ticks : List (Engine U P)}
    (tick : ∀ {e : Engine U P}, Reachable b e → holds e → holds e.runTick.engine)
    (between : ∀ {e e' : Engine U P}, Between e e' → holds e → holds e')
    (course : Course e ticks e') : (∀ s ∈ ticks, Reachable b s) → holds e → holds e' := by
  induction course with
  | done e => exact fun _ he => he
  | @tick e _ _ _ ih =>
    intro hticks he
    have hrest := fun s hs => hticks s (List.mem_cons_of_mem e hs)
    exact ih hrest (tick (hticks e List.mem_cons_self) he)
  | between h _ ih => exact fun hticks he => ih hticks (between h he)

/-- What a freshly built engine has, a tick of a reachable one keeps and nothing between two ticks affects holds of every reachable engine. -/
theorem Reachable.invariant_of_tick {holds : Engine U P → Prop}
    (built : ∀ {e : Engine U P} {events : List (Event U)}, b.build = (.ok e, events) → holds e)
    (tick : ∀ {e : Engine U P}, Reachable b e → holds e → holds e.runTick.engine)
    (between : ∀ {e e' : Engine U P}, Between e e' → holds e → holds e')
    (reachable : Reachable b e) : holds e := by
  induction reachable with
  | built h => exact built h
  | @performed e op reachable ih =>
    refine (course_perform e op).invariant tick between (fun s hs => ?_) ih
    exact reachable.of_mem_ticksIn [op] (List.mem_append_left _ hs)

theorem course_performAll (ops : List Operation) :
    ∀ e : Engine U P, Course e (e.ticksIn ops) (e.performAll ops) := by
  induction ops with
  | nil => exact .done
  | cons op ops ih => exact fun e => (course_perform e op).trans (ih _)

theorem events_answers (ops : List Operation) : ∀ e : Engine U P,
    (e.answers ops).flatMap (·.2) = (e.ticksIn ops).flatMap fun s => s.runTick.events := by
  induction ops with
  | nil => exact fun _ => rfl
  | cons op ops ih =>
    intro e
    rw [answers, List.flatMap_cons, ih, events_perform, ticksIn, List.flatMap_append]

namespace Course

/-- A relation that every tick establishes between what is seen of a device before and after also holds over a whole course. -/
theorem follow {β : Type} {g : Device U → β} (lasting : Lasting g) {r : β → β → Prop}
    (refl : ∀ x, r x x) (trans : ∀ {x y z}, r x y → r y z → r x z)
    (tick : ∀ {e : Engine U P} {i : Nat} {d : Device U}, Sound b e → e.devices[i]? = some d →
      ∃ d', e.runTick.engine.devices[i]? = some d' ∧ r (g d) (g d'))
    (course : Course e starts e') {i : Nat} : ∀ {d : Device U}, Sound b e → e.devices[i]? = some d →
      ∃ d', e'.devices[i]? = some d' ∧ r (g d) (g d') := by
  induction course with
  | done e => exact fun {d} _ hd => ⟨d, hd, refl _⟩
  | tick _ ih =>
    intro d sound hd
    obtain ⟨d₁, hd₁, hfirst⟩ := tick sound hd
    obtain ⟨d', hd', hrest⟩ := ih (sound.step .tick) hd₁
    exact ⟨d', hd', trans hfirst hrest⟩
  | between h _ ih =>
    intro d sound hd
    obtain ⟨d₁, hd₁, hsame⟩ := h.device lasting hd
    obtain ⟨d', hd', hrest⟩ := ih (sound.step h.step) hd₁
    exact ⟨d', hd', hsame ▸ hrest⟩

/-- What every tick passes on with itself added, and nothing between two ticks affects, holds after a course with its ticks. -/
theorem accumulate (holds : List (Engine U P) → Engine U P → Prop)
    (tick : ∀ {past : List (Engine U P)} {e : Engine U P}, Sound b e → holds past e →
      holds (past ++ [e]) e.runTick.engine)
    (between : ∀ {past : List (Engine U P)} {e e' : Engine U P}, Between e e' → holds past e →
      holds past e')
    (course : Course e starts e') : ∀ {past : List (Engine U P)}, Sound b e → holds past e →
      holds (past ++ starts) e' := by
  induction course with
  | done e =>
    intro past _ h
    rwa [List.append_nil]
  | @tick e _ rest _ ih =>
    intro past sound h
    have hrest := ih (sound.step .tick) (tick sound h)
    rwa [List.append_assoc, List.singleton_append] at hrest
  | between hbetween _ ih => exact fun sound h => ih (sound.step hbetween.step) (between hbetween h)

theorem tail {s : Engine U P} {rest : List (Engine U P)} (course : Course e starts e') :
    starts = s :: rest → Course s.runTick.engine rest e' := by
  induction course with
  | done e => exact fun h => nomatch h
  | tick course _ =>
    intro h
    obtain ⟨rfl, rfl⟩ := List.cons.inj h
    exact course
  | between _ _ ih => exact ih

theorem drop {rest : List (Engine U P)} (before : List (Engine U P)) :
    ∀ {e : Engine U P}, Course e (before ++ rest) e' → Course (e.afterTicks before) rest e' := by
  induction before with
  | nil => exact id
  | cons s before ih => exact fun course => ih (course.tail rfl)

end Course

theorem course_afterTicks {ops : List Operation} {before rest : List (Engine U P)}
    (h : e.ticksIn ops = before ++ rest) : Course (e.afterTicks before) rest (e.performAll ops) :=
  Course.drop before (h ▸ course_performAll ops e)

end Engine

end SpatialComputer
