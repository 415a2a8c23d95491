/-
Module: Stagecraft.Proofs.Activity
Purpose: What the work of a node consists of: single changes, and descents to
  the nodes that its children lead to.  Whatever all of these keep is kept by
  every evaluation.
Main exports:
  NodeKind.Asks, Surroundings.Change, Surroundings.Activity, work_activities,
  execute_activities, Surroundings.Keeps, Keeps.run
-/
import Mathlib.Logic.Relation
import Stagecraft.Proofs.OwnFaults

namespace Stagecraft

open Relation (ReflTransGen)

variable {σ : Type}

/-- What a node of a kind may ask for.  Texts and positions are known only when it asks; all
else stands in the node. -/
inductive NodeKind.Asks : NodeKind → Request → Prop where
  | sound {path : Parameter String} (file : String) : Asks (.sound path) (.playSound file)
  | playMusic {path : Parameter String} {repetitions fadeIn : Parameter Int32} (music : Music) :
      Asks (.playMusic path repetitions fadeIn) (.playMusic music)
  | spawnText {text : Parameter String} {layer : String} {style : TextStyle} (overlay : TextOverlay)
      (on : overlay.layer = layer) : Asks (.spawnText text layer style) (.spawnText overlay)
  | spawnActor {template layer : String} {x y : Parameter Float32} {name : Option String}
      (position : Vec2) :
      Asks (.spawnActor template layer x y name) (.spawnActor { template, layer, position, name })
  | layerState {layer : Parameter String} {hidden : Bool} (shown : String) :
      Asks (.layerState layer hidden) (.setLayerHidden shown hidden)
  | templateLayer {source destination : String} :
      Asks (.templateLayer source destination) (.instantiateTemplate source destination)
  | changeMap {path : Parameter String} {keepVariables : Bool} (file : String) :
      Asks (.changeMap path keepVariables) (.changeMap file keepVariables)
  | closeMap : Asks .closeMap .closeMap
  | quit : Asks .quit .quit

namespace Surroundings

variable (surroundings : Surroundings σ)

/-- One change that a node makes to an evaluation by itself. -/
inductive Change (id : NodeId) (node : Node Edge) : EvalState σ → EvalState σ → Prop where
  | propel {state : EvalState σ} (axis : Axis) (change : Float32 → Float32)
      (free : state.signals.mayUse axis = true) :
      Change id node state ((state.setVelocity axis (change (state.velocity axis))).claim axis)
  | measure {state : EvalState σ} :
      Change id node state (state.note (.measured id (surroundings.groundDistance state.scene)))
  | land {state : EvalState σ} {acceleration maxSpeed : Parameter Float32}
      {animation : AnimationKind} (kind : node.kind = .fall acceleration maxSpeed animation)
      (grounded : surroundings.groundDistance state.scene ≤ 0) :
      Change id node state
        (state.note (.measured id (surroundings.groundDistance state.scene))).land
  | move {state : EvalState σ} (position : Vec2) :
      Change id node state (state.withActor { state.scene.actor with position })
  | turn {state : EvalState σ} (rotation : Float32) :
      Change id node state (state.withActor { state.scene.actor with rotation })
  | leave {state : EvalState σ} :
      Change id node state (state.withActor { state.scene.actor with isLeaving := true })
  | pose {state : EvalState σ} (kind : AnimationKind) (direction : Direction) (frame : Nat) :
      Change id node state
        (state.withActor
          { state.scene.actor with pose := state.scene.actor.pose.pin kind direction frame })
  | pass {state : EvalState σ} (kind : node.kind = .singleGuard)
      (fresh : id ∉ state.scene.actor.guards) :
      Change id node state
        (state.withActor { state.scene.actor with guards := state.scene.actor.guards ++ [id] })
  | assign {state : EvalState σ} {scene : Scene σ} {name : String} {value : Parameter Value}
      {mode : SetMode} {isGlobal : Bool} {operand : Value}
      (kind : node.kind = .setVariable name value mode isGlobal)
      (changed : state.scene.changeVariable mode name operand isGlobal = .ok scene) :
      Change id node state (state.withScene scene)
  | animate {state : EvalState σ} (kind : AnimationKind) (direction : Direction)
      (frames : FrameLength) :
      Change id node state
        (state.withScene (state.scene.animate surroundings id kind direction frames).2)
  | complete {state : EvalState σ} : Change id node state (state.note (.animationCompleted id))
  | stop {state : EvalState σ} (signal : node.signal = some .stop) :
      Change id node state state.stop
  | issue {state : EvalState σ} {request : Request} (asks : node.kind.Asks request) :
      Change id node state (state.withScene (state.scene.request request))

/-- One part of the work of a node: a change of its own, a look at a child, the
descent to the node that a child leads to, or a fault of its own.  An engine wrapper
descends to its event only. -/
inductive Activity (descend : Descent σ) (id : NodeId) (node : Node Edge) :
    EvalState σ → EvalState σ → Prop where
  | change {before after : EvalState σ} (change : surroundings.Change id node before after) :
      Activity descend id node before after
  | look {state : EvalState σ} (role : Role) :
      Activity descend id node state (state.note (.followed id role))
  | enter {state : EvalState σ} {role : Role} {edge : Edge} {child : NodeId}
      (member : (role, edge) ∈ node.children.toList)
      (wraps : node.kind = .engineWrapper → role = .event)
      (leads : surroundings.target node role state.scene edge = .ok child) :
      Activity descend id node state (descend child state).2
  | fail {state : EvalState σ} (fault : Fault) (own : fault.IsOwn) :
      Activity descend id node state (state.fail node fault)

/-- Any number of activities of a node, one after another. -/
abbrev Activities (descend : Descent σ) (id : NodeId) (node : Node Edge) :
    EvalState σ → EvalState σ → Prop :=
  ReflTransGen (surroundings.Activity descend id node)

end Surroundings

namespace Surroundings

variable {surroundings : Surroundings σ} {descend : Descent σ} {id : NodeId} {node : Node Edge}

/-! ### The helpers of `work` -/

theorem Change.activities {before after : EvalState σ}
    (change : surroundings.Change id node before after) :
    surroundings.Activities descend id node before after :=
  .single (.change change)

theorem propel_activities (state : EvalState σ) (axis : Axis) (change : Float32 → Float32) :
    surroundings.Activities descend id node state (state.propel axis change) := by
  simp only [EvalState.propel]
  split
  · next free => exact (Change.propel axis change free).activities
  · exact .refl

theorem drive_activities (state : EvalState σ) (axis : Axis) (factor : Float32)
    (change : Float32 → Float32) :
    surroundings.Activities descend id node state (state.drive axis factor change) := by
  simp only [EvalState.drive]
  split
  · exact .refl
  · exact propel_activities state axis change

theorem hint_activities (state : EvalState σ) (kind : AnimationKind) :
    surroundings.Activities descend id node state (state.hint surroundings id kind) := by
  simp only [EvalState.hint]
  split
  · exact .refl
  · exact (Change.animate kind .current .continuous).activities

/-- What follows from a child of the node is done in an evaluation of that child. -/
theorem follow_activities {role : Role} {edge : Edge}
    (member : (role, edge) ∈ node.children.toList)
    (wraps : node.kind = .engineWrapper → role = .event) (state : EvalState σ) :
    surroundings.Activities descend id node state
      (surroundings.follow descend id node role edge state).2 := by
  have look : surroundings.Activity descend id node state (state.note (.followed id role)) :=
    .look role
  simp only [follow]
  split
  · next child leads => exact .tail (.single look) (.enter member wraps leads)
  · next fault failed =>
      have own := surroundings.target_ownFaults node role _ edge fault failed
      exact .tail (.single look) (.fail fault own)

/-- A branch does nothing but what its THEN or its ELSE does. -/
theorem branch_activities (plain : node.kind ≠ .engineWrapper) {decision : Bool}
    {state after : EvalState σ} {outcome : Outcome}
    (ended : surroundings.branch descend id node decision state = (outcome, after)) :
    surroundings.Activities descend id node state after := by
  have same : (surroundings.branch descend id node decision state).2 = after := by rw [ended]
  rw [← same]
  simp only [branch]
  split
  · next found =>
      have member := Children.success_mem_toList.mpr found
      exact follow_activities member (absurd · plain) state
  · next found =>
      have member := Children.failure_mem_toList.mpr found
      exact follow_activities member (absurd · plain) state
  · exact .refl

/-- All that a multi does is done by its numbered children. -/
theorem runAll_activities (plain : node.kind ≠ .engineWrapper) {entries : List (Int × Edge)}
    (numbered : entries ⊆ node.children.numbered) (state : EvalState σ) :
    surroundings.Activities descend id node state
      (surroundings.runAll descend id node entries state) := by
  induction entries generalizing state with
  | nil => exact .refl
  | cons entry rest ih =>
      rcases entry with ⟨key, edge⟩
      have member := Children.numbered_mem_toList.mpr (numbered List.mem_cons_self)
      have first : surroundings.Activities descend id node state _ :=
        follow_activities member (absurd · plain) state
      simp only [runAll]
      split
      · exact first
      · exact first.trans (ih (List.subset_of_cons_subset numbered) _)

/-- All that a selector or a sequence does is done by the children it comes to. -/
theorem decide_activities (plain : node.kind ≠ .engineWrapper) (mode : SwitchMode)
    {entries : List (Int × Edge)}
    (numbered : entries ⊆ node.children.numbered) (state : EvalState σ) :
    surroundings.Activities descend id node state
      (surroundings.decide descend id node mode entries state).2 := by
  induction entries generalizing state with
  | nil => exact .refl
  | cons entry rest ih =>
      rcases entry with ⟨key, edge⟩
      have member := Children.numbered_mem_toList.mpr (numbered List.mem_cons_self)
      have first : surroundings.Activities descend id node state _ :=
        follow_activities member (absurd · plain) state
      simp only [decide]
      split <;> rename_i ended
      · rw [ended] at first
        exact first
      · rw [ended] at first
        exact first
      · rw [ended] at first
        exact first.trans (ih (List.subset_of_cons_subset numbered) _)

/-- A guard does nothing but what its child does, and it is the one that opens it. -/
theorem runGuarded_activities (state : EvalState σ) :
    surroundings.Activities descend id node state
      (surroundings.runGuarded descend id node state) := by
  simp only [runGuarded]
  split
  · next edge found =>
      have member := Children.event_mem_toList.mpr found
      exact follow_activities member (fun _ => rfl) state
  · exact .refl

/-! ### Work and execution -/

/-- Whatever a node does when its work comes to an end is a sequence of
activities. -/
theorem work_activities {state after : EvalState σ} {outcome : Outcome}
    (worked : surroundings.work descend id node state = .ok (outcome, after)) :
    surroundings.Activities descend id node state after := by
  unfold work at worked
  cases kind : node.kind with
  | accelerate x y xMax yMax =>
      simp only [kind] at worked
      obtain ⟨x, -, worked⟩ := exists_of_bind_eq_ok worked
      obtain ⟨y, -, worked⟩ := exists_of_bind_eq_ok worked
      obtain ⟨xMax, -, worked⟩ := exists_of_bind_eq_ok worked
      obtain ⟨yMax, -, worked⟩ := exists_of_bind_eq_ok worked
      cases worked
      exact (drive_activities ..).trans (drive_activities ..)
  | decelerate x y =>
      simp only [kind] at worked
      obtain ⟨x, -, worked⟩ := exists_of_bind_eq_ok worked
      obtain ⟨y, -, worked⟩ := exists_of_bind_eq_ok worked
      cases worked
      exact (drive_activities ..).trans (drive_activities ..)
  | move =>
      simp only [kind] at worked
      cases worked
      exact (Change.move _).activities
  | fall acceleration maxSpeed animation =>
      simp only [kind] at worked
      obtain ⟨factor, -, worked⟩ := exists_of_bind_eq_ok worked
      obtain ⟨limit, -, worked⟩ := exists_of_bind_eq_ok worked
      split at worked
      · next grounded =>
          cases worked
          exact (Change.land kind grounded).activities
      · cases worked
        exact Change.measure.activities.trans
          ((drive_activities ..).trans (hint_activities ..))
  | jump height duration slowFactor animation =>
      simp only [kind] at worked
      obtain ⟨height, -, worked⟩ := exists_of_bind_eq_ok worked
      obtain ⟨duration, -, worked⟩ := exists_of_bind_eq_ok worked
      obtain ⟨slowFactor, -, worked⟩ := exists_of_bind_eq_ok worked
      obtain ⟨profile, -, worked⟩ := exists_of_bind_eq_ok worked
      cases worked
      exact (propel_activities ..).trans (hint_activities ..)
  | multi =>
      simp only [kind] at worked
      cases worked
      exact runAll_activities (by simp [kind]) (List.Subset.refl _) state
  | setVariable name value mode isGlobal =>
      simp only [kind] at worked
      obtain ⟨operand, -, worked⟩ := exists_of_bind_eq_ok worked
      obtain ⟨scene, changed, worked⟩ := exists_of_bind_eq_ok worked
      cases worked
      exact (Change.assign kind changed).activities
  | animate animation direction span =>
      simp only [kind] at worked
      obtain ⟨frames, -, worked⟩ := exists_of_bind_eq_ok worked
      have shown : surroundings.Activities descend id node state _ :=
        (Change.animate animation direction frames).activities
      split at worked
      · cases worked
        exact shown
      · split at worked
        · next signal =>
            cases worked
            exact shown.trans (Change.complete.activities.trans (Change.stop signal).activities)
        · cases worked
          exact shown.trans Change.complete.activities
  | sound path =>
      simp only [kind] at worked
      obtain ⟨path, -, worked⟩ := exists_of_bind_eq_ok worked
      cases worked
      exact (Change.issue (by rw [kind]; exact .sound _)).activities
  | playMusic path repetitions fadeIn =>
      simp only [kind] at worked
      obtain ⟨path, -, worked⟩ := exists_of_bind_eq_ok worked
      obtain ⟨repetitions, -, worked⟩ := exists_of_bind_eq_ok worked
      obtain ⟨fadeIn, -, worked⟩ := exists_of_bind_eq_ok worked
      obtain ⟨index, -, worked⟩ := exists_of_bind_eq_ok worked
      cases worked
      exact (Change.issue (by rw [kind]; exact .playMusic _)).activities
  | rotate degrees absolute =>
      simp only [kind] at worked
      obtain ⟨degrees, -, worked⟩ := exists_of_bind_eq_ok worked
      cases worked
      exact (Change.turn _).activities
  | spawnText text layer style =>
      simp only [kind] at worked
      obtain ⟨text, -, worked⟩ := exists_of_bind_eq_ok worked
      cases worked
      exact (Change.issue (by rw [kind]; exact .spawnText _ rfl)).activities
  | eraseSelf =>
      simp only [kind] at worked
      cases worked
      exact Change.leave.activities
  | spawnActor template layer x y name =>
      simp only [kind] at worked
      obtain ⟨x, -, worked⟩ := exists_of_bind_eq_ok worked
      obtain ⟨y, -, worked⟩ := exists_of_bind_eq_ok worked
      cases worked
      exact (Change.issue (by rw [kind]; exact .spawnActor _)).activities
  | setFrame animation direction frame =>
      simp only [kind] at worked
      obtain ⟨frame, -, worked⟩ := exists_of_bind_eq_ok worked
      obtain ⟨index, -, worked⟩ := exists_of_bind_eq_ok worked
      cases worked
      exact (Change.pose animation direction index).activities
  | engineWrapper =>
      simp only [kind] at worked
      split at worked
      · next edge found =>
          have followed : surroundings.Activities descend id node state _ :=
            follow_activities (Children.event_mem_toList.mpr found) (fun _ => rfl) state
          rw [Except.ok.inj worked] at followed
          exact followed
      · cases worked
        exact .refl
  | onGround tolerance =>
      simp only [kind] at worked
      obtain ⟨tolerance, -, worked⟩ := exists_of_bind_eq_ok worked
      exact branch_activities (by simp [kind]) (Except.ok.inj worked)
  | switch mode =>
      simp only [kind] at worked
      have decided : surroundings.Activities descend id node state _ :=
        decide_activities (by simp [kind]) mode (List.Subset.refl node.children.numbered) state
      exact decided.trans (branch_activities (by simp [kind]) (Except.ok.inj worked))
  | singleGuard =>
      simp only [kind] at worked
      split at worked
      · cases worked
        exact .refl
      · next fresh =>
          cases worked
          exact (Change.pass kind fresh).activities.trans (runGuarded_activities _)
  | collision mine other otherName =>
      simp only [kind] at worked
      exact branch_activities (by simp [kind]) (Except.ok.inj worked)
  | mouseButton query =>
      simp only [kind] at worked
      exact branch_activities (by simp [kind]) (Except.ok.inj worked)
  | compare left right relations =>
      simp only [kind] at worked
      obtain ⟨left, -, worked⟩ := exists_of_bind_eq_ok worked
      obtain ⟨right, -, worked⟩ := exists_of_bind_eq_ok worked
      obtain ⟨decision, -, worked⟩ := exists_of_bind_eq_ok worked
      exact branch_activities (by simp [kind]) (Except.ok.inj worked)
  | layerState layer hidden =>
      simp only [kind] at worked
      obtain ⟨layer, -, worked⟩ := exists_of_bind_eq_ok worked
      cases worked
      exact (Change.issue (by rw [kind]; exact .layerState _)).activities
  | templateLayer source destination =>
      simp only [kind] at worked
      cases worked
      exact (Change.issue (by rw [kind]; exact .templateLayer)).activities
  | changeMap path keepVariables =>
      simp only [kind] at worked
      obtain ⟨path, -, worked⟩ := exists_of_bind_eq_ok worked
      cases worked
      exact (Change.issue (by rw [kind]; exact .changeMap _)).activities
  | closeMap =>
      simp only [kind] at worked
      cases worked
      exact (Change.issue (by rw [kind]; exact .closeMap)).activities
  | quit =>
      simp only [kind] at worked
      cases worked
      exact (Change.issue (by rw [kind]; exact .quit)).activities

/-- A node that is executed makes an entry, does its work, and makes another
entry.  A fault or a signal at the end counts as an activity. -/
theorem execute_activities (surroundings : Surroundings σ) (descend : Descent σ) (id : NodeId)
    (node : Node Edge) (state : EvalState σ) :
    ∃ outcome worked,
      surroundings.Activities descend id node (state.note (.started id)) worked ∧
        surroundings.execute descend id node state =
          (outcome, worked.note (.finished id outcome)) := by
  rw [execute_eq]
  cases ended : surroundings.work descend id node (state.note (.started id)) with
  | error fault =>
      have own := surroundings.work_ownFaults descend id node _ fault ended
      exact ⟨.failure, _, .single (.fail fault own), rfl⟩
  | ok ending =>
      rcases ending with ⟨outcome, after⟩
      have worked := work_activities ended
      cases outcome with
      | failure => exact ⟨.failure, after, worked, rfl⟩
      | success =>
          by_cases raises : node.signal = some .stop ∧ ¬ node.kind.defersSignal
          · refine ⟨.success, after.stop, worked.trans (Change.stop raises.1).activities, ?_⟩
            simp only [conclude, if_pos raises]
          · refine ⟨.success, after, worked, ?_⟩
            simp only [conclude, if_neg raises]

/-! ### What everything keeps -/

/-- A property of evaluations that no entry, no fault and no change of a node
of the graph destroys. -/
structure Keeps (surroundings : Surroundings σ) (property : EvalState σ → Prop) : Prop where
  note : ∀ {state : EvalState σ} (entry : JournalEntry), property state →
    property (state.note entry)
  fail : ∀ {state : EvalState σ} (node : Node Edge) (fault : Fault), property state →
    property (state.fail node fault)
  change : ∀ {id : NodeId} {node : Node Edge} {before after : EvalState σ},
    surroundings.graph.nodes[id]? = some node → surroundings.Change id node before after →
      property before → property after

namespace Keeps

variable {property : EvalState σ → Prop}

/-- The activities of a node keep the property if its children do. -/
theorem activities (keeps : surroundings.Keeps property)
    (stands : surroundings.graph.nodes[id]? = some node)
    (children : ∀ child state, property state → property (descend child state).2)
    {before after : EvalState σ} (active : surroundings.Activities descend id node before after)
    (holds : property before) : property after := by
  induction active with
  | refl => exact holds
  | tail _ activity ih =>
      cases activity with
      | change change => exact keeps.change stands change ih
      | look role => exact keeps.note _ ih
      | enter _ _ _ => exact children _ _ ih
      | fail fault => exact keeps.fail node fault ih

/-- A run of any depth keeps the property. -/
theorem run (keeps : surroundings.Keeps property) (levels : Nat) (id : NodeId)
    {state : EvalState σ} (holds : property state) :
    property (surroundings.run levels id state).2 := by
  induction levels generalizing id state with
  | zero =>
      simp only [Surroundings.run]
      split
      · exact keeps.fail _ _ holds
      · exact keeps.note _ holds
  | succ levels ih =>
      simp only [Surroundings.run]
      split
      · next node stands =>
          obtain ⟨outcome, worked, active, ended⟩ :=
            execute_activities surroundings (surroundings.run levels) id node state
          rw [ended]
          exact keeps.note _ (keeps.activities stands (fun child _ => ih child) active
            (keeps.note _ holds))
      · exact keeps.note _ holds

/-- An evaluation keeps the property. -/
theorem evaluateNode (keeps : surroundings.Keeps property) (id : NodeId) {locks : AxisLocks}
    {scene : Scene σ} (holds : property (.begin scene locks)) :
    ∃ state, property state ∧
      (surroundings.evaluateNode id locks scene).2 = state.scene ∧
        (surroundings.evaluateNode id locks scene).1.locks = state.signals.locks ∧
          (surroundings.evaluateNode id locks scene).1.journal = state.journal :=
  ⟨_, keeps.run (surroundings.maxDepth + 1) id holds, rfl, rfl, rfl⟩

end Keeps

end Surroundings

end Stagecraft
