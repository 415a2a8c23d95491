/-
Module: Stagecraft.Proofs.Seclusion
Purpose: In one tick actors affect each other through the variables of the map at most: where
  no event writes these, a turn makes no difference to the turns of others.
Main exports:
  Dispatched.Resembles, dispatch_resembles, turn_resembles, AnimationRuns.forget_request,
  BehaviorGraph.WritesNoMap, turns_sameBut, Actor.Disturbed, World.DiffersAt,
  actors_are_secluded
-/
import Stagecraft.Proofs.Resemblance
import Stagecraft.Proofs.StorageOrder

namespace Stagecraft

variable {σ : Type} {surroundings : Surroundings σ} {number : ActorId} {alike : σ → σ → Prop}

/-! ### The keys of an actor -/

/-- Dispatches that differ in such scenes alone. -/
structure Dispatched.Resembles (number : ActorId) (alike : σ → σ → Prop)
    (state other : Dispatched σ) : Prop where
  scene : state.scene.Resembles number alike other.scene
  report : other.report = state.report

namespace Dispatched.Resembles

variable {state other : Dispatched σ} (resembles : state.Resembles number alike other)

include resembles

theorem sustained_eq : other.sustained = state.sustained := by
  rw [Dispatched.sustained, resembles.scene.same]
  rfl

theorem withSustained (sustained : SustainedActions) :
    (state.withSustained sustained).Resembles number alike (other.withSustained sustained) where
  scene := resembles.scene.changeActor (fun actor => { actor with sustained }) fun _ => rfl
  report := resembles.report

theorem finish (key : KeyName) :
    (state.finish key).Resembles number alike (other.finish key) := by
  have ended := resembles.withSustained (state.sustained.remove key)
  simp only [Dispatched.finish, resembles.sustained_eq, ended.report]
  exact ⟨ended.scene, rfl⟩

theorem cancel (key : KeyName) :
    (state.cancel key).Resembles number alike (other.cancel key) := by
  have ended := resembles.withSustained (state.sustained.remove key)
  simp only [Dispatched.cancel, resembles.sustained_eq, ended.report]
  exact ⟨ended.scene, rfl⟩

theorem engage (binding : KeyBinding) (event : NodeId) :
    (Surroundings.engage binding event state).Resembles number alike
      (Surroundings.engage binding event other) := by
  simp only [Surroundings.engage, resembles.sustained_eq]
  split
  · exact resembles
  · exact resembles.withSustained _

variable (heeds : surroundings.Heeds number alike)

include heeds

/-- An event runs alike on both sides. -/
theorem invoke (reason : CallReason) (event : NodeId) (locks : AxisLocks) :
    (surroundings.invoke reason event locks other).1 =
        (surroundings.invoke reason event locks state).1 ∧
      (surroundings.invoke reason event locks state).2.Resembles number alike
        (surroundings.invoke reason event locks other).2 := by
  obtain ⟨evaluation, scenes⟩ :=
    Surroundings.evaluateNode_resembles heeds event locks resembles.scene
  simp only [Surroundings.invoke, evaluation, resembles.report]
  exact ⟨trivial, scenes, rfl⟩

theorem release (key : KeyName) :
    (surroundings.release key state).Resembles number alike (surroundings.release key other) := by
  simp only [Surroundings.release, resembles.sustained_eq]
  cases state.sustained.find? key with
  | none => exact resembles
  | some action =>
      dsimp only
      cases action.stopEvent with
      | none => exact resembles.finish key
      | some event => exact ((resembles.finish key).invoke heeds (.ended key) event {}).2

theorem handle (keys : KeyName → KeyEdge) (binding : KeyBinding) :
    (surroundings.handle keys state binding).Resembles number alike
      (surroundings.handle keys other binding) := by
  simp only [Surroundings.handle]
  cases binding.event with
  | none => exact resembles
  | some event =>
      have pressed : (if (keys binding.key).pressed then Surroundings.engage binding event state
          else state).Resembles number alike
          (if (keys binding.key).pressed then Surroundings.engage binding event other
            else other) := by
        split
        · exact resembles.engage binding event
        · exact resembles
      dsimp only
      split
      · simp only [Surroundings.handleSustained]
        split
        · exact pressed.release heeds binding.key
        · exact pressed
      · split
        · exact (resembles.invoke heeds (.edge binding.key) event {}).2
        · exact resembles

end Dispatched.Resembles

/-- Passes that hold the same axes and differ in such scenes alone. -/
structure RankedPass.Resembles (number : ActorId) (alike : σ → σ → Prop)
    (pass other : RankedPass σ) : Prop where
  state : pass.state.Resembles number alike other.state
  locks : other.locks = pass.locks

/-- A sustained action takes its turn alike on both sides, within the same axes. -/
theorem RankedPass.Resembles.sustainOne {pass other : RankedPass σ}
    (resembles : pass.Resembles number alike other) (heeds : surroundings.Heeds number alike)
    (entry : KeyName × SustainedAction) :
    (surroundings.sustainOne pass entry).Resembles number alike
      (surroundings.sustainOne other entry) := by
  obtain ⟨evaluation, after⟩ :=
    resembles.state.invoke heeds (.held entry.1) entry.2.event pass.locks
  simp only [Surroundings.sustainOne, resembles.locks, evaluation]
  split
  · exact ⟨after.cancel entry.1, rfl⟩
  · exact ⟨after, rfl⟩

namespace Surroundings

/-- The keys come to the same. -/
theorem dispatch_resembles (heeds : surroundings.Heeds number alike) (template : Template)
    (keys : KeyName → KeyEdge) {scene other : Scene σ}
    (same : scene.Resembles number alike other) :
    (surroundings.dispatch template keys scene).2.Resembles number alike
      (surroundings.dispatch template keys other).2 := by
  have handled : (surroundings.handleAll template keys scene).Resembles number alike
      (surroundings.handleAll template keys other) :=
    List.foldl_rel (r := Dispatched.Resembles number alike) ⟨same, rfl⟩
      fun binding _ _ _ between => between.handle heeds keys binding
  have sustained := List.foldl_rel (r := RankedPass.Resembles number alike)
    (l := (surroundings.handleAll template keys scene).sustained.ranked)
    (a := { state := surroundings.handleAll template keys scene })
    (b := { state := surroundings.handleAll template keys other }) ⟨handled, rfl⟩
    fun entry _ _ _ between => between.sustainOne heeds entry
  simp only [dispatch, handled.sustained_eq]
  have released := List.foldl_rel (r := Dispatched.Resembles number alike)
    (l := template.bindings.filter fun binding => binding.isTapped keys) sustained.state
    fun binding _ _ _ between => between.release heeds binding.key
  exact released.scene

/-! ### Turns -/

section Turn

variable {actor twin : Actor} {state other : TurnState σ}

/-- In scenes that resemble each other the actors are the same. -/
theorem eq_of_resembles (same : (state.scene actor).Resembles number alike (other.scene twin)) :
    twin = actor :=
  congrArg Scene.actor same.same

/-- An actor responds alike on both sides. -/
theorem respond_resembles (heeds : surroundings.Heeds number alike) (template : Template)
    (occasion : Occasion)
    (same : (state.scene actor).Resembles number alike (other.scene twin)) :
    let ended := surroundings.respond template occasion actor state
    let endedOther := surroundings.respond template occasion twin other
    (ended.2.scene ended.1).Resembles number alike (endedOther.2.scene endedOther.1) := by
  obtain rfl := eq_of_resembles same
  simp only [respond]
  split
  · next event _ _ => exact (evaluateNode_resembles heeds event {} same).2
  · exact same

/-- So it does to its keys. -/
theorem respondToKeys_resembles (heeds : surroundings.Heeds number alike) (template : Template)
    (keys : KeyName → KeyEdge)
    (same : (state.scene actor).Resembles number alike (other.scene twin)) :
    let ended := surroundings.respondToKeys template keys actor state
    let endedOther := surroundings.respondToKeys template keys twin other
    (ended.2.scene ended.1).Resembles number alike (endedOther.2.scene endedOther.1) := by
  obtain rfl := eq_of_resembles same
  simp only [respondToKeys]
  split
  · exact same
  · exact dispatch_resembles heeds template keys same

/-- The turn of an actor comes to the same on scenes that look the same to it. -/
theorem turn_resembles (heeds : surroundings.Heeds number alike) (keys : KeyName → KeyEdge)
    (touching : ActorId → Bool)
    (same : (state.scene actor).Resembles number alike (other.scene twin)) :
    let ended := surroundings.turn keys touching actor state
    let endedOther := surroundings.turn keys touching twin other
    (ended.2.scene ended.1).Resembles number alike (endedOther.2.scene endedOther.1) := by
  obtain rfl := eq_of_resembles same
  by_cases ready : surroundings.MayAct twin
  · obtain ⟨stays, template, known⟩ := ready
    have begun : ((surroundings.enter template twin state).2.scene
        (surroundings.enter template twin state).1).Resembles number alike
        ((surroundings.enter template twin other).2.scene
          (surroundings.enter template twin other).1) := by
      simp only [enter]
      split
      · exact same
      · apply respond_resembles heeds
        exact same.changeActor (fun actor => { actor with hasEntered := true }) fun _ => rfl
    have stood := respond_resembles heeds template .onAlways
      (respondToKeys_resembles heeds template keys begun)
    have numbers := congrArg Actor.id (eq_of_resembles stood)
    simp only [turn, stays, known, Bool.false_eq_true, if_false]
    -- Whether the actor touches another one is asked for by its number.
    simp only [numbers]
    split
    · exact respond_resembles heeds template .onCollision stood
    · exact stood
  · rw [turn_of_not_mayAct keys touching ready, turn_of_not_mayAct keys touching ready]
    exact same

end Turn

end Surroundings

/-! ### The animations of others -/

namespace AnimationRuns

variable {animations : AnimationRuns} {actor : ActorId} {key : RunKey}

/-- To forget the runs of one actor leaves those of the others. -/
theorem find?_forget (others : key.1 ≠ actor) :
    (animations.forget actor).find? key = animations.find? key := by
  have kept := lookup_filter_fst animations.runs (fun owner => owner.1 != actor) key
  exact kept.trans (if_pos (bne_iff_ne.mpr others))

theorem filter_store_of_ne (others : key.1 ≠ actor) (run : AnimationRun)
    (runs : List (RunKey × AnimationRun)) :
    (store key run runs).filter (fun entry => entry.1.1 != actor) =
      store key run (runs.filter fun entry => entry.1.1 != actor) := by
  have stays : (key.1 != actor) = true := bne_iff_ne.mpr others
  induction runs with
  | nil => simp [store, stays]
  | cons entry rest ih =>
      simp only [store]
      split
      · next same => simp [same, stays, store]
      · next differs =>
          simp only [List.filter_cons, ih]
          split
          · simp [store, differs]
          · rfl

/-- Without the runs of an actor, what is stored for it does not show. -/
theorem filter_store_of_eq (mine : key.1 = actor) (run : AnimationRun)
    (runs : List (RunKey × AnimationRun)) :
    (store key run runs).filter (fun entry => entry.1.1 != actor) =
      runs.filter fun entry => entry.1.1 != actor := by
  induction runs with
  | nil => simp [store, mine]
  | cons entry rest ih =>
      simp only [store]
      split
      · next same => simp [same, mine]
      · next differs => simp only [List.filter_cons, ih]

/-- Whose animations are forgotten makes no difference to the animations of others. -/
theorem forget_request (animations : AnimationRuns) (others : key.1 ≠ actor)
    (request : AnimationRequest) :
    (animations.forget actor).request key request =
      ((animations.request key request).1, (animations.request key request).2.forget actor) := by
  have duration : (animations.forget actor).duration? request.frames =
      animations.duration? request.frames := by
    cases request.frames <;> rfl
  simp only [AnimationRuns.request, duration, find?_forget others]
  split
  · split <;> rfl
  · split
    · simp only [forget, List.filter_filter, Bool.and_comm]
    · simp only [forget, filter_store_of_ne others]

/-- The requests of an actor concern only animations that are forgotten with it. -/
theorem forget_request_of_eq (mine : key.1 = actor) (request : AnimationRequest) :
    (animations.request key request).2.forget actor = animations.forget actor := by
  simp only [AnimationRuns.request]
  split
  · split <;> rfl
  · split
    · simp only [forget, List.filter_filter]
      congr 1
      apply List.filter_congr
      intro entry _
      by_cases same : entry.1 = key
      · simp [same, mine]
      · simp [same]
    · simp only [forget, filter_store_of_eq mine]

theorem forget_sweep (animations : AnimationRuns) (actor : ActorId) :
    animations.sweep.forget actor = (animations.forget actor).sweep := by
  simp only [sweep, forget, List.filter_map, List.filter_filter]
  congr 3
  funext entry
  exact Bool.and_comm _ _

end AnimationRuns

/-! ### Turns that nobody else notices -/

/-- Whether nodes of a kind write variables of the map. -/
def NodeKind.writesMap : NodeKind → Bool
  | .setVariable _ _ _ isGlobal => isGlobal
  | _ => false

/-- No event of the graph writes a variable of the map. -/
def BehaviorGraph.WritesNoMap (graph : BehaviorGraph) : Prop :=
  ∀ node ∈ graph.nodes, node.kind.writesMap = false

/-- The same actor, or two that bear a number. -/
def Actor.SameBut (id : ActorId) (actor twin : Actor) : Prop :=
  actor = twin ∨ actor.id = id ∧ twin.id = id

/-- The same variables of the map, and the same animations but for those of an actor. -/
structure TurnState.SameBut (id : ActorId) (state other : TurnState AnimationRuns) : Prop where
  map : state.map = other.map
  animation : state.animation.forget id = other.animation.forget id

namespace Surroundings

variable {surroundings : Surroundings AnimationRuns} {id : ActorId}

/-- The animations of an actor are nothing to others. -/
theorem heeds_forget (asks : surroundings.animate = AnimationRuns.request)
    (others : number ≠ id) :
    surroundings.Heeds number fun one two => one.forget id = two.forget id := by
  intro one two same node request
  have key : ((number, node) : RunKey).1 ≠ id := others
  have first := AnimationRuns.forget_request one key request
  have second := AnimationRuns.forget_request two key request
  rw [same, second, Prod.mk.injEq] at first
  rw [asks]
  exact ⟨first.1, first.2.symm⟩

/-- Nobody but the actor itself can tell from the map or the animations that it had a turn. -/
theorem turn_sameBut (asks : surroundings.animate = AnimationRuns.request)
    (writes : surroundings.graph.WritesNoMap) (keys : KeyName → KeyEdge)
    (touching : ActorId → Bool) {actor : Actor} (mine : actor.id = id)
    (state : TurnState AnimationRuns) :
    (surroundings.turn keys touching actor state).1.id = id ∧
      state.SameBut id (surroundings.turn keys touching actor state).2 := by
  have respects : surroundings.Respects fun scene => scene.actor.id = id ∧
      state.map = scene.map ∧ state.animation.forget id = scene.animation.forget id :=
    { change := by
        intro node _ before _ stands change holds
        cases change with
        | map isGlobal map =>
            have untouched := writes _ (List.mem_of_getElem? stands)
            rw [isGlobal] at untouched
            cases untouched
        | animate kind direction frames =>
            obtain ⟨mine, map, animation⟩ := holds
            refine ⟨mine, map, ?_⟩
            simp only [Scene.animate, asks]
            rw [AnimationRuns.forget_request_of_eq mine]
            exact animation
        | nothing | actor | request => exact holds
      sustain := fun _ _ holds => holds }
  obtain ⟨same, map, animation⟩ :=
    respects.turn keys touching ⟨mine, rfl, rfl⟩ ⟨mine, rfl, rfl⟩
  exact ⟨same, map, animation⟩

/-- Turns of the same actors, but for one, come to the same, but for that one. -/
theorem turns_sameBut (asks : surroundings.animate = AnimationRuns.request)
    (writes : surroundings.graph.WritesNoMap) (keys : KeyName → KeyEdge)
    (touching : ActorId → Bool) {cast castOther : List Actor}
    (casts : List.Forall₂ (Actor.SameBut id) cast castOther)
    {state other : TurnState AnimationRuns} (states : state.SameBut id other) :
    List.Forall₂ (Actor.SameBut id) (surroundings.turns keys touching cast state).1
        (surroundings.turns keys touching castOther other).1 ∧
      (surroundings.turns keys touching cast state).2.SameBut id
        (surroundings.turns keys touching castOther other).2 := by
  induction casts generalizing state other with
  | nil => exact ⟨.nil, states⟩
  | @cons actor twin rest restOther same _ ih =>
      have turned : Actor.SameBut id (surroundings.turn keys touching actor state).1
            (surroundings.turn keys touching twin other).1 ∧
          (surroundings.turn keys touching actor state).2.SameBut id
            (surroundings.turn keys touching twin other).2 := by
        by_cases mine : actor.id = id
        -- The turns of the actor itself may differ, but neither is seen by anybody else.
        · have too : twin.id = id := by
            rcases same with same | both
            · rw [← same, mine]
            · exact both.2
          obtain ⟨kept, before⟩ := turn_sameBut asks writes keys touching mine state
          obtain ⟨keptToo, beforeOther⟩ := turn_sameBut asks writes keys touching too other
          exact ⟨.inr ⟨kept, keptToo⟩,
            before.map.symm.trans (states.map.trans beforeOther.map),
            before.animation.symm.trans (states.animation.trans beforeOther.animation)⟩
        · have equal : actor = twin := same.resolve_right fun both => mine both.1
          subst equal
          have scenes : (state.scene actor).Resembles actor.id
              (fun one two => one.forget id = two.forget id) (other.scene actor) :=
            ⟨rfl, states.animation, by rw [TurnState.scene, ← states.map]; rfl⟩
          have ended := turn_resembles (surroundings.heeds_forget asks mine) keys touching scenes
          exact ⟨.inl (eq_of_resembles ended).symm,
            (congrArg Scene.map ended.same).symm, ended.looks⟩
      obtain ⟨casts, states⟩ := ih turned.2
      exact ⟨.cons turned.1 casts, states⟩

end Surroundings

/-! ### Stages that differ in one actor -/

/-- Sorting keeps lists related, if it compares related elements alike. -/
theorem forall₂_mergeSort {α β : Type} {related : α → β → Prop} {le : α → α → Bool}
    {leOther : β → β → Bool} {xs : List α} {ys : List β} (all : List.Forall₂ related xs ys)
    (same : ∀ x x' y y', related x y → related x' y' → le x x' = leOther y y') :
    List.Forall₂ related (xs.mergeSort le) (ys.mergeSort leOther) := by
  -- Both lists are projections of one list of pairs, and so are they when it is sorted.
  obtain ⟨pairs, rfl, rfl, each⟩ : ∃ pairs : List (α × β), pairs.map Prod.fst = xs ∧
      pairs.map Prod.snd = ys ∧ ∀ pair ∈ pairs, related pair.1 pair.2 := by
    induction all with
    | nil => exact ⟨[], rfl, rfl, fun _ member => nomatch member⟩
    | @cons x y _ _ head _ ih =>
        obtain ⟨pairs, rfl, rfl, each⟩ := ih
        exact ⟨(x, y) :: pairs, rfl, rfl, List.forall_mem_cons.mpr ⟨head, each⟩⟩
  have first : (pairs.mergeSort fun one two => le one.1 two.1).map Prod.fst =
      (pairs.map Prod.fst).mergeSort le := List.map_mergeSort fun _ _ _ _ => rfl
  have second : (pairs.mergeSort fun one two => le one.1 two.1).map Prod.snd =
      (pairs.map Prod.snd).mergeSort leOther :=
    List.map_mergeSort fun one here two there => same _ _ _ _ (each one here) (each two there)
  rw [← first, ← second, List.forall₂_map_left_iff, List.forall₂_map_right_iff,
    List.forall₂_same]
  intro pair member
  exact each pair ((List.mergeSort_perm _ _).mem_iff.mp member)

/-- The same actor but for its variables, its velocity and rotation, the animation that it
shows, its guards and its sustained actions. -/
def Actor.Disturbed (actor twin : Actor) : Prop :=
  ∃ store velocity rotation pose guards sustained,
    twin = { actor with store, velocity, rotation, pose, guards, sustained }

/-- The same actor, or one that bears a number and is disturbed. -/
def Actor.DiffersAt (id : ActorId) (actor twin : Actor) : Prop :=
  actor = twin ∨ actor.id = id ∧ actor.Disturbed twin

/-- Nobody can tell from outside that an actor is disturbed. -/
theorem Actor.DiffersAt.seen {id : ActorId} {actor twin : Actor}
    (differs : actor.DiffersAt id twin) :
    twin.id = actor.id ∧ twin.isLeaving = actor.isLeaving ∧ twin.body = actor.body := by
  rcases differs with rfl | ⟨-, _, _, _, _, _, _, rfl⟩ <;> exact ⟨rfl, rfl, rfl⟩

theorem Actor.DiffersAt.sameBut {id : ActorId} {actor twin : Actor}
    (differs : actor.DiffersAt id twin) : actor.SameBut id twin := by
  rcases differs with same | ⟨mine, disturbed⟩
  · exact .inl same
  · exact .inr ⟨mine, (Actor.DiffersAt.seen (.inr ⟨mine, disturbed⟩)).1.trans mine⟩

namespace World

variable {world : World} {id : ActorId}

/-- The same stage but for such an actor, and for the animations of this actor. -/
def DiffersAt (id : ActorId) (world other : World) : Prop :=
  ∃ cast animations, List.Forall₂ (Actor.DiffersAt id) world.cast cast ∧
    world.animations.forget id = animations.forget id ∧
      other = { world with cast, animations }

/-- Actors with different variables have the same bodies. -/
theorem bodies_of_differsAt {cast castOther : List Actor}
    (casts : List.Forall₂ (Actor.DiffersAt id) cast castOther) :
    (castOther.filter fun actor => !actor.isLeaving).map Actor.body =
      (cast.filter fun actor => !actor.isLeaving).map Actor.body := by
  induction casts with
  | nil => rfl
  | cons differs _ ih =>
      obtain ⟨-, leaving, body⟩ := differs.seen
      simp only [List.filter_cons, leaving]
      split
      · simp only [List.map_cons, body, ih]
      · exact ih

/-- Such casts have their turns in the same order. -/
theorem inOrder_of_differsAt {cast castOther : List Actor}
    (casts : List.Forall₂ (Actor.DiffersAt id) cast castOther) :
    List.Forall₂ (Actor.SameBut id) (inOrder cast) (inOrder castOther) := by
  have sorted : List.Forall₂ (Actor.DiffersAt id) (inOrder cast) (inOrder castOther) := by
    apply forall₂_mergeSort casts
    intro one two oneOther twoOther first second
    rw [first.seen.1, second.seen.1]
  exact sorted.imp fun _ _ => Actor.DiffersAt.sameBut

/-- After the turns of all actors such stages differ in the same actor alone. -/
theorem DiffersAt.behave {other : World} (differs : world.DiffersAt id other)
    (writes : world.graph.WritesNoMap) :
    List.Forall₂ (Actor.SameBut id) world.behave.1 other.behave.1 ∧
      world.behave.2.SameBut id other.behave.2 := by
  obtain ⟨cast, animations, casts, runs, rfl⟩ := differs
  have snapshot : ({ world with cast, animations } : World).snapshot = world.snapshot := by
    simp only [World.snapshot, bodies_of_differsAt casts]
  have same : ({ world with cast, animations } : World).surroundings = world.surroundings := by
    simp only [World.surroundings, snapshot]
  simp only [World.behave, same, snapshot]
  apply Surroundings.turns_sameBut rfl writes _ _ (inOrder_of_differsAt casts)
  exact ⟨rfl, runs⟩

/-- Without the actor in question both casts are the same. -/
theorem filter_of_sameBut {cast castOther : List Actor}
    (casts : List.Forall₂ (Actor.SameBut id) cast castOther) :
    castOther.filter (fun actor => actor.id != id) = cast.filter fun actor => actor.id != id := by
  induction casts with
  | nil => rfl
  | cons same _ ih =>
      rcases same with rfl | both
      · simp only [List.filter_cons, ih]
      · simp only [List.filter_cons, both, bne_self_eq_false, Bool.false_eq_true, if_false, ih]

/-- **Actors do not affect each other but through the map.**  Take two stages that are the
same but for the variables, the velocity, the rotation, the animation, the guards and the
sustained actions of one actor, on a graph without an event that writes a variable of the map.
After the turns of all actors, every other actor is the same on both, and so are the
animations of all others and the map. -/
theorem actors_are_secluded {other : World} (writes : world.graph.WritesNoMap)
    (differs : world.DiffersAt id other) :
    other.turned.cast.filter (fun actor => actor.id != id) =
        world.turned.cast.filter (fun actor => actor.id != id) ∧
      other.turned.animations.runs.filter (fun entry => entry.1.1 != id) =
        world.turned.animations.runs.filter (fun entry => entry.1.1 != id) ∧
      other.turned.map = world.turned.map := by
  obtain ⟨casts, states⟩ := differs.behave writes
  refine ⟨filter_of_sameBut casts, ?_, ?_⟩
  · have swept : (world.behave.2.animation.sweep).forget id =
        (other.behave.2.animation.sweep).forget id := by
      rw [AnimationRuns.forget_sweep, AnimationRuns.forget_sweep, states.animation]
    exact (congrArg AnimationRuns.runs swept).symm
  · have map : other.map = world.map := by
      obtain ⟨_, _, -, -, rfl⟩ := differs
      rfl
    simp only [turned, map, states.map]

/-- A matinee with the conjurer and a rabbit on the stage from the beginning. -/
def matinee : World :=
  (emptyStage.spawnAll [("Conjurer", .zero), ("Rabbit", .zero)]).toOption.getD default

/-- The same matinee, but the conjurer has passed a guard before and counts its tricks. -/
def rehearsedMatinee : World :=
  { matinee with
    cast := matinee.cast.map fun actor =>
      if actor.id = 0 then
        { actor with guards := [7], store := Dictionary.empty.insert "tricks" (.int 3) }
      else actor }

theorem matinee_differsAt : matinee.DiffersAt 0 rehearsedMatinee := by
  refine ⟨_, _, ?_, rfl, rfl⟩
  rw [List.forall₂_map_right_iff, List.forall₂_same]
  intro actor _
  by_cases conjurer : actor.id = 0
  · rw [if_pos conjurer]
    exact .inr ⟨conjurer, _, _, _, _, _, _, rfl⟩
  · rw [if_neg conjurer]
    exact .inl rfl

/-- The rabbit vanishes all the same. -/
theorem actors_are_secluded_magicShow :
    (rehearsedMatinee.turned.cast.filter fun actor => actor.id != 0) =
        (matinee.turned.cast.filter fun actor => actor.id != 0) ∧
      (matinee.turned.cast.filter fun actor => actor.id != 0).map Actor.isLeaving = [true] := by
  have writes : matinee.graph.WritesNoMap := by
    rw [BehaviorGraph.WritesNoMap]
    decide
  have order : inOrder matinee.cast = matinee.cast :=
    inOrder_of_ascending (List.pairwise_pair.mpr (Nat.zero_le 1))
  obtain ⟨same, -⟩ := actors_are_secluded writes matinee_differsAt
  refine ⟨same, ?_⟩
  rw [turned, behave, order]
  rfl

end World

end Stagecraft
