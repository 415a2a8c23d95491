/-
Module: Stagecraft.Proofs.Footprint
Purpose: What an evaluation may touch of its actor, and what it never takes back.
Main exports:
  VariableStore.IsUnreserved, Actor.Becomes, Actor.becomes_of_change, EvalState.Advances,
  Surroundings.persists_advances, evaluation_leaves_footprint
-/
import Stagecraft.Proofs.Moments
import Stagecraft.Proofs.OneShot

namespace Stagecraft

variable {σ : Type}

/-- None of the variables has a reserved name. -/
def VariableStore.IsUnreserved (store : VariableStore) : Prop :=
  ∀ quantity : Quantity, store.find? quantity.name = none

/-! ### What may become of an actor -/

namespace Actor

/-- What may become of an actor on a graph.  It moves, turns, shows other animations, takes
note of variables and of guards, and wants to leave; nothing else about it changes.  It does
not change its mind about leaving, and forgets no guard.  Reserved names do not get among its
variables, and what only asks for an animation or a direction is not shown. -/
structure Becomes (graph : BehaviorGraph) (before after : Actor) : Prop where
  rest : after =
    { before with
      position := after.position
      velocity := after.velocity
      rotation := after.rotation
      pose := after.pose
      store := after.store
      guards := after.guards
      isLeaving := after.isLeaving }
  leaves : before.isLeaving = true → after.isLeaving = true
  guards : ∃ passed, after.guards = before.guards ++ passed ∧
    ∀ guard ∈ passed, ∃ node, graph.nodes[guard]? = some node ∧ node.kind = .singleGuard
  store : before.store.IsUnreserved → after.store.IsUnreserved
  kind : before.pose.kind ≠ .current ∧ before.pose.kind ≠ .none →
    after.pose.kind ≠ .current ∧ after.pose.kind ≠ .none
  direction : before.pose.direction ≠ .current → after.pose.direction ≠ .current

namespace Becomes

variable {graph : BehaviorGraph} {before between after : Actor}

theorem trans (one : Becomes graph before between) (two : Becomes graph between after) :
    Becomes graph before after where
  rest := two.rest.trans (by rw [one.rest])
  leaves wants := two.leaves (one.leaves wants)
  guards := by
    obtain ⟨passed, same, fits⟩ := one.guards
    obtain ⟨more, sameMore, fitsMore⟩ := two.guards
    refine ⟨passed ++ more, ?_, List.forall_mem_append.mpr ⟨fits, fitsMore⟩⟩
    rw [sameMore, same, List.append_assoc]
  store free := two.store (one.store free)
  kind shown := two.kind (one.kind shown)
  direction shown := two.direction (one.direction shown)

/-- An actor may move in any way. -/
theorem moved (graph : BehaviorGraph) (actor : Actor) (position velocity : Vec2)
    (rotation : Float32) : Becomes graph actor { actor with position, velocity, rotation } where
  rest := rfl
  leaves wants := wants
  guards := ⟨[], (List.append_nil _).symm, nofun⟩
  store free := free
  kind shown := shown
  direction shown := shown

theorem refl (graph : BehaviorGraph) (actor : Actor) : Becomes graph actor actor :=
  moved graph actor actor.position actor.velocity actor.rotation

theorem setQuantity (graph : BehaviorGraph) (actor : Actor) (quantity : Quantity) (x : Float32) :
    Becomes graph actor (actor.setQuantity quantity x) := by
  cases quantity <;> exact moved graph actor _ _ _

/-- An actor may be about to leave, and stays so. -/
theorem left (graph : BehaviorGraph) (actor : Actor) :
    Becomes graph actor { actor with isLeaving := true } where
  rest := rfl
  leaves _ := rfl
  guards := ⟨[], (List.append_nil _).symm, nofun⟩
  store free := free
  kind shown := shown
  direction shown := shown

/-- A guard that an actor has passed comes behind those it passed before. -/
theorem passed (actor : Actor) {guard : NodeId} {node : Node Edge}
    (stands : graph.nodes[guard]? = some node) (kind : node.kind = .singleGuard) :
    Becomes graph actor { actor with guards := actor.guards ++ [guard] } where
  rest := rfl
  leaves wants := wants
  guards := ⟨[guard], rfl, List.forall_mem_singleton.mpr ⟨node, stands, kind⟩⟩
  store free := free
  kind shown := shown
  direction shown := shown

/-- A name that is reserved for nothing may be that of a variable. -/
theorem stored (graph : BehaviorGraph) (actor : Actor) {name : String}
    (plain : Quantity.ofName? name = none) (value : Value) :
    Becomes graph actor { actor with store := actor.store.insert name value } where
  rest := rfl
  leaves wants := wants
  guards := ⟨[], (List.append_nil _).symm, nofun⟩
  store free := by
    intro quantity
    have differs : quantity.name ≠ name := by
      intro same
      rw [Quantity.ofName?_eq_some_iff.mpr same] at plain
      cases plain
    rw [Dictionary.find?_insert, if_neg differs]
    exact free quantity
  kind shown := shown
  direction shown := shown

end Becomes

end Actor

/-- The kind that is shown after a change is the one that was shown, or a requested one that
can be shown. -/
theorem Pose.kind_change (pose : Pose) (kind : AnimationKind) (direction : Direction) :
    (pose.change kind direction).kind = pose.kind ∨
      (pose.change kind direction).kind = kind ∧ kind ≠ .current ∧ kind ≠ .none := by
  unfold change
  cases kind <;> grind

/-- A change of pose keeps the direction if the current one is asked for. -/
theorem Pose.direction_change (pose : Pose) (kind : AnimationKind) (direction : Direction) :
    (pose.change kind direction).direction =
      if direction = .current then pose.direction else direction := by
  unfold change
  cases kind <;> grind

namespace Actor

variable {graph : BehaviorGraph} {before after : Actor}

/-- No pose that an actor takes shows what only asks for something. -/
theorem Becomes.posed (graph : BehaviorGraph) (actor : Actor) (kind : AnimationKind)
    (direction : Direction) {pose : Pose}
    (kinds : pose.kind = (actor.pose.change kind direction).kind)
    (directions : pose.direction = (actor.pose.change kind direction).direction) :
    Becomes graph actor { actor with pose } where
  rest := rfl
  leaves wants := wants
  guards := ⟨[], (List.append_nil _).symm, nofun⟩
  store free := free
  kind shown := by
    rcases actor.pose.kind_change kind direction with same | ⟨requested, plain⟩
    · rw [kinds, same]
      exact shown
    · rw [kinds, requested]
      exact plain
  direction shown := by
    rw [directions, Pose.direction_change]
    split
    · exact shown
    · next requested => exact requested

/-- What a write to an actor makes of it. -/
theorem becomes_of_change {actor changed : Actor} {mode : SetMode} {name : String}
    {operand : Value} (written : actor.change mode name operand = .ok changed) :
    Becomes graph actor changed := by
  unfold Actor.change at written
  split at written
  · next quantity _ =>
      split at written
      · cases written
        exact .setQuantity graph actor quantity _
      · cases written
  · next plain =>
      obtain ⟨store, stored, rfl⟩ := exists_of_map_eq_ok written
      obtain ⟨value, -, rfl⟩ := exists_of_map_eq_ok stored
      exact .stored graph actor plain value

end Actor

/-! ### What an evaluation never takes back -/

/-- How an evaluation may go on: its actor becomes what it may become, faults are added, and
neither axes nor STOP are released. -/
structure EvalState.Advances (graph : BehaviorGraph) (before after : EvalState σ) : Prop where
  actor : before.scene.actor.Becomes graph after.scene.actor
  faults : before.faults <+: after.faults
  locks : ∀ axis, before.signals.locks.holds axis = true → after.signals.locks.holds axis = true
  stopped : before.signals.stopped = true → after.signals.stopped = true

namespace EvalState.Advances

variable {graph : BehaviorGraph} {before between after : EvalState σ}

theorem refl (graph : BehaviorGraph) (state : EvalState σ) : Advances graph state state where
  actor := .refl graph _
  faults := List.prefix_rfl
  locks _ held := held
  stopped raised := raised

theorem trans (one : Advances graph before between) (two : Advances graph between after) :
    Advances graph before after where
  actor := one.actor.trans two.actor
  faults := one.faults.trans two.faults
  locks axis held := two.locks axis (one.locks axis held)
  stopped raised := two.stopped (one.stopped raised)

/-- Where only the scene changes, it is enough to look at the actor. -/
theorem withScene (state : EvalState σ) {scene : Scene σ}
    (actor : state.scene.actor.Becomes graph scene.actor) :
    Advances graph state (state.withScene scene) where
  actor := actor
  faults := List.prefix_rfl
  locks _ held := held
  stopped raised := raised

theorem setVelocity (state : EvalState σ) (axis : Axis) (v : Float32) :
    Advances graph state (state.setVelocity axis v) :=
  withScene state (.setQuantity graph _ _ _)

theorem claim (state : EvalState σ) (axis : Axis) : Advances graph state (state.claim axis) where
  actor := .refl graph _
  faults := List.prefix_rfl
  locks other held := by
    simp only [EvalState.claim, Signals.claim, Signals.locks, AxisLocks.holds_union,
      AxisLocks.holds_hold, Bool.or_eq_true] at held ⊢
    rcases held with inherited | claimed
    · exact .inl inherited
    · exact .inr (.inl claimed)
  stopped raised := raised

theorem note (state : EvalState σ) (entry : JournalEntry) :
    Advances graph state (state.note entry) :=
  { refl graph state with }

theorem land (state : EvalState σ) : Advances graph state state.land := by
  simp only [EvalState.land]
  split
  · exact setVelocity state .y 0
  · exact refl graph state

end EvalState.Advances

namespace Surroundings

variable {surroundings : Surroundings σ}

/-- A change that a node makes by itself is no more than an advance. -/
theorem Change.advances {id : NodeId} {node : Node Edge} {before after : EvalState σ}
    (stands : surroundings.graph.nodes[id]? = some node)
    (change : surroundings.Change id node before after) :
    before.Advances surroundings.graph after := by
  cases change with
  | propel axis change free =>
      exact (EvalState.Advances.setVelocity before axis _).trans (.claim _ axis)
  | measure | complete => exact .note before _
  | land kind grounded => exact (EvalState.Advances.note before _).trans (.land _)
  | move | turn => exact .withScene before (.moved _ _ _ _ _)
  | leave => exact .withScene before (.left _ _)
  | pose kind direction frame => exact .withScene before (.posed _ _ kind direction rfl rfl)
  | pass kind fresh => exact .withScene before (.passed _ stands kind)
  | @assign scene name value mode isGlobal operand kind changed =>
      apply EvalState.Advances.withScene before
      cases isGlobal with
      | true =>
          obtain ⟨map, -, rfl⟩ := exists_of_map_eq_ok changed
          exact .refl _ _
      | false =>
          obtain ⟨actor, written, rfl⟩ := exists_of_map_eq_ok changed
          exact Actor.becomes_of_change (eq_ok_of_mapError_eq_ok written)
  | animate kind direction frames => exact .withScene before (.posed _ _ kind direction rfl rfl)
  | stop => exact { EvalState.Advances.refl _ before with stopped := fun _ => rfl }
  | issue => exact .withScene before (.refl _ _)

/-- Nothing that a node does by itself goes beyond an advance. -/
theorem persists_advances (surroundings : Surroundings σ) :
    surroundings.Persists (EvalState.Advances surroundings.graph) where
  refl := .refl surroundings.graph
  trans := .trans
  note := .note
  fail state _ _ :=
    { EvalState.Advances.refl surroundings.graph state with faults := List.prefix_append _ _ }
  change := Change.advances

/-- **The footprint of an evaluation.**  Whatever root is evaluated for whatever actor, the
actor becomes no more than it may become, axes that were held before are held after, and at
every moment the faults are those of all earlier moments and more. -/
theorem evaluation_leaves_footprint (surroundings : Surroundings σ) (root : Root)
    (scene : Scene σ) :
    let ended := surroundings.evaluateRoot root scene
    scene.actor.Becomes surroundings.graph ended.2.actor ∧
      (∀ axis, root.locks.holds axis = true → ended.1.locks.holds axis = true) ∧
      (surroundings.momentsFrom root scene).Pairwise (fun earlier later =>
        earlier.faults <+: later.faults) ∧
      ∀ moment ∈ surroundings.momentsFrom root scene, moment.faults <+: ended.1.faults := by
  intro ended
  have ordered := surroundings.persists_advances.momentsFrom_ordered root scene
  rcases surroundings.evaluateRoot_cases root scene with
    ⟨id, -, same, -, moments⟩ | ⟨fault, same, -, moments⟩
  · have after : ended = surroundings.evaluateNode id root.locks scene := same
    have spans := surroundings.persists_advances.spans_moments (surroundings.maxDepth + 1) id
      (.begin scene root.locks)
    rw [after]
    refine ⟨spans.whole.actor, ?_, ordered.imp fun advances => advances.faults, ?_⟩
    · intro axis held
      apply spans.whole.locks
      simp [EvalState.begin, Signals.inheriting, Signals.locks, held]
    · intro moment member
      rw [moments] at member
      exact (spans.upto moment member).faults
  · have after : ended = _ := same
    rw [after, moments]
    exact ⟨.refl _ _, fun _ held => held, .nil, List.forall_mem_nil _⟩

end Surroundings

/-- A guest of the gatehouse who comes through the gate while another action holds the
horizontal axis.  The guest is known at the gate from then on, still has no variable with a
reserved name, and shows what can be shown. -/
theorem evaluation_leaves_footprint_gatehouse :
    let ended := gatehouseVisit.evaluateRoot (.node 0 { x := true }) gatehouseScene
    gatehouseScene.actor.Becomes gatehouseGraph ended.2.actor ∧
      ended.2.actor.guards = [0] ∧
      ended.2.actor.store.IsUnreserved ∧
      (ended.2.actor.pose.kind ≠ .current ∧ ended.2.actor.pose.kind ≠ .none) ∧
      ended.1.locks.holds .x = true := by
  intro ended
  obtain ⟨becomes, locks, -⟩ :=
    gatehouseVisit.evaluation_leaves_footprint (.node 0 { x := true }) gatehouseScene
  have unreserved : gatehouseScene.actor.store.IsUnreserved := by
    intro quantity
    cases quantity <;> decide
  exact ⟨becomes, by decide, becomes.store unreserved, becomes.kind (by decide),
    locks .x (by rfl)⟩

end Stagecraft
