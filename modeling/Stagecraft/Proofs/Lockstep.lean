/-
Module: Stagecraft.Proofs.Lockstep
Purpose: Two evaluations side by side, whose nodes may have different numbers: where every
  change keeps the two states related, both go the same way and end alike.
Main exports:
  Actor.renumber, JournalEntry.renumber, Agrees, Ending.Related, Surroundings.Lockstep,
  Lockstep.work_agrees, Lockstep.run_related
-/
import Stagecraft.Proofs.Atomicity
import Stagecraft.Proofs.Renumbering

namespace Stagecraft

/-!
An evaluation compares numbers in one place only, when a guard asks whether it has let the
actor pass.  Everywhere else numbers are handed on: to the journal, to the actor, and to
whoever runs the animations.  So two evaluations go the same way if they see the same up to
numbers, and that is all one has to know of a relation between their states.
-/

variable {σ τ : Type}

/-! ### Numbers that an evaluation hands on -/

section Numbers

variable (rename : NodeId ≃ NodeId)

def SustainedAction.renumber (action : SustainedAction) : SustainedAction :=
  { action with event := rename action.event, stopEvent := action.stopEvent.map rename }

def SustainedActions.renumber (actions : SustainedActions) : SustainedActions :=
  { actions with active := actions.active.map fun (key, action) => (key, action.renumber rename) }

def Actor.renumber (actor : Actor) : Actor :=
  { actor with
    sustained := actor.sustained.renumber rename
    guards := actor.guards.map rename }

/-- An entry about a node under its other number. -/
def JournalEntry.renumber : JournalEntry → JournalEntry
  | .started node => .started (rename node)
  | .followed node role => .followed (rename node) role
  | .animationCompleted node => .animationCompleted (rename node)
  | .measured node distance => .measured (rename node) distance
  | .finished node outcome => .finished (rename node) outcome
  | .stray id => .stray (rename id)

end Numbers

namespace Actor

variable {rename : NodeId ≃ NodeId}

/-- A change of a variable does not look at the numbers of nodes. -/
theorem change_renumber (actor : Actor) (mode : SetMode) (name : String) (operand : Value) :
    (actor.renumber rename).change mode name operand =
      (actor.change mode name operand).map (renumber rename) := by
  have set : ∀ quantity x, (actor.renumber rename).setQuantity quantity x =
      (actor.setQuantity quantity x).renumber rename := by
    intro quantity x
    cases quantity <;> rfl
  simp only [change]
  cases Quantity.ofName? name with
  | some quantity =>
      cases operand.number? with
      | some x => exact congrArg Except.ok (set quantity _)
      | none => rfl
  | none =>
      have store : (actor.renumber rename).store = actor.store := rfl
      simp only [store]
      cases actor.store.change mode name operand <;> rfl

/-- A guard is passed under its new number if it was under the old one. -/
theorem mem_guards_renumber {actor : Actor} {id : NodeId} :
    rename id ∈ (actor.renumber rename).guards ↔ id ∈ actor.guards :=
  List.mem_map_of_injective rename.injective

@[simp] theorem renumber_refl (actor : Actor) : actor.renumber (.refl NodeId) = actor := by
  have action : ∀ action : SustainedAction, action.renumber (.refl NodeId) = action := by
    intro action
    simp only [SustainedAction.renumber, Equiv.coe_refl, id_eq, Option.map_id]
  simp only [renumber, SustainedActions.renumber, action, Equiv.coe_refl, List.map_id]
  exact congrArg (fun active => { actor with sustained := { actor.sustained with active } })
    (List.map_id _)

end Actor

@[simp] theorem JournalEntry.renumber_refl (entry : JournalEntry) :
    entry.renumber (.refl NodeId) = entry := by
  cases entry <;> rfl

/-! ### Computations that agree -/

/-- Two computations with related results, or with the same error. -/
inductive Agrees {ε α β : Type} (related : α → β → Prop) : Except ε α → Except ε β → Prop where
  | ok {value : α} {other : β} (holds : related value other) :
      Agrees related (.ok value) (.ok other)
  | error (fault : ε) : Agrees related (.error fault) (.error fault)

namespace Agrees

variable {ε α β γ δ : Type} {related : α → β → Prop} {after : γ → δ → Prop}

/-- Steps that agree, each from values that are related, agree as a whole. -/
theorem bind {first : Except ε α} {second : Except ε β} {next : α → Except ε γ}
    {nextOther : β → Except ε δ} (agrees : Agrees related first second)
    (goOn : ∀ value other, related value other → Agrees after (next value) (nextOther other)) :
    Agrees after (first >>= next) (second >>= nextOther) := by
  cases agrees with
  | ok holds => exact goOn _ _ holds
  | error fault => exact .error fault

/-- Computations agree if they begin with the same one and agree from then on. -/
theorem bind_same (first : Except ε α) {next : α → Except ε γ} {nextOther : α → Except ε δ}
    (goOn : ∀ value, Agrees after (next value) (nextOther value)) :
    Agrees after (first >>= next) (first >>= nextOther) := by
  cases first with
  | ok value => exact goOn value
  | error fault => exact .error fault

end Agrees

/-! ### Relations that evaluations keep -/

variable (rename : NodeId ≃ NodeId) (surroundings : Surroundings σ) (others : Surroundings τ)
  (related : EvalState σ → EvalState τ → Prop)

/-- The same outcome, and related states. -/
structure Ending.Related (ending : Ending σ) (other : Ending τ) : Prop where
  outcome : other.1 = ending.1
  state : related ending.2 other.2

/-- A relation that two evaluations keep: related states show the same up to numbers, no
matter what was reported before, and what one step does to both leaves them related. -/
structure Surroundings.Lockstep : Prop where
  graph : surroundings.graph.Renumbered rename others.graph
  maxDepth : others.maxDepth = surroundings.maxDepth
  time : others.time = surroundings.time
  overlaps : others.overlaps = surroundings.overlaps
  support : others.support = surroundings.support
  button : others.button = surroundings.button
  actor : ∀ {state other}, related state other →
    other.scene.actor = state.scene.actor.renumber rename
  map : ∀ {state other}, related state other → other.scene.map = state.scene.map
  signals : ∀ {state other}, related state other → other.signals = state.signals
  -- A multi asks whether faults were added, and not how many there were before.
  added : ∀ {before beforeOther after afterOther}, related before beforeOther →
    related after afterOther →
      (afterOther.faults.length = beforeOther.faults.length ↔
        after.faults.length = before.faults.length)
  note : ∀ {state other}, related state other → ∀ entry,
    related (state.note entry) (other.note (entry.renumber rename))
  fail : ∀ {state other}, related state other → ∀ node fault,
    related (state.fail node fault) (other.fail (node.renumber rename) fault)
  signal : ∀ {state other}, related state other → ∀ signals,
    related { state with signals } { other with signals }
  withActor : ∀ {state other}, related state other → ∀ actor,
    actor.id = state.scene.actor.id →
      related (state.withActor actor) (other.withActor (actor.renumber rename))
  withMap : ∀ {state other}, related state other → ∀ map,
    related (state.withScene { state.scene with map }) (other.withScene { other.scene with map })
  request : ∀ {state other}, related state other → ∀ request,
    related (state.withScene (state.scene.request request))
      (other.withScene (other.scene.request request))
  progress : ∀ {state other}, related state other → ∀ node kind direction frames,
    (other.scene.animate others (rename node) kind direction frames).1 =
      (state.scene.animate surroundings node kind direction frames).1
  animate : ∀ {state other}, related state other → ∀ node kind direction frames,
    related
      (state.withScene (state.scene.animate surroundings node kind direction frames).2)
      (other.withScene (other.scene.animate others (rename node) kind direction frames).2)

/-- Two ways to evaluate children that keep a relation. -/
def Descent.InStep (descend : Descent σ) (descendOther : Descent τ) : Prop :=
  ∀ child state other, related state other →
    Ending.Related related (descend child state) (descendOther (rename child) other)

variable {rename surroundings others related}

namespace Surroundings.Lockstep

variable {state : EvalState σ} {other : EvalState τ}
  (lockstep : surroundings.Lockstep rename others related) (same : related state other)

include lockstep same

/-! ### What related states show -/

theorem lookup_eq : other.scene.lookup = state.scene.lookup := by
  funext name
  simp only [Scene.lookup, lockstep.actor same, lockstep.map same]
  rfl

/-- In lockstep both sides read the same of every parameter. -/
theorem read_eq {α : Type} [Accepts α] (parameter : Parameter α) :
    other.scene.read parameter = state.scene.read parameter := by
  simp only [Scene.read, lockstep.lookup_eq same]

theorem readOptional_eq {α : Type} [Accepts α] (parameter : Option (Parameter α)) :
    other.scene.readOptional parameter = state.scene.readOptional parameter := by
  cases parameter with
  | none => rfl
  | some parameter => simp only [Scene.readOptional, lockstep.read_eq same]

theorem frameLength_eq (span : AnimationSpan) :
    other.scene.frameLength span = state.scene.frameLength span := by
  cases span <;> simp only [Scene.frameLength, lockstep.read_eq same]

theorem groundDistance_eq :
    others.groundDistance other.scene = surroundings.groundDistance state.scene := by
  simp only [groundDistance, lockstep.support, lockstep.actor same]
  rfl

theorem velocity_eq (axis : Axis) : other.velocity axis = state.velocity axis := by
  cases axis <;> simp only [EvalState.velocity, lockstep.actor same] <;> rfl

/-- A child leads to the other number of the same node, also when a variable names it. -/
theorem target_eq (node : Node Edge) (role : Role) (edge : Edge) :
    others.target (node.renumber rename) role other.scene (edge.renumber rename) =
      (surroundings.target node role state.scene edge).map rename := by
  cases edge with
  | node id => rfl
  | «variable» name =>
      simp only [target, Edge.renumber, lockstep.lookup_eq same, Node.kind_renumber,
        Node.home_renumber, lockstep.graph.resolve?_eq]
      cases state.scene.lookup name with
      | none => rfl
      | some value =>
          dsimp only
          cases value.text? with
          | none => rfl
          | some text =>
              simp only [Option.bind_some]
              cases surroundings.graph.resolve? node.home text (isMapOnly node.kind role) <;> rfl

/-! ### Changes of related states -/

theorem stop : related state.stop other.stop := by
  simp only [EvalState.stop, lockstep.signals same]
  exact lockstep.signal same _

theorem setVelocity (axis : Axis) (v : Float32) :
    related (state.setVelocity axis v) (other.setVelocity axis v) := by
  simp only [EvalState.setVelocity, lockstep.actor same]
  cases axis <;> exact lockstep.withActor same _ rfl

/-- A push along an axis keeps the two in step. -/
theorem propel (axis : Axis) (change : Float32 → Float32) :
    related (state.propel axis change) (other.propel axis change) := by
  simp only [EvalState.propel, lockstep.signals same, lockstep.velocity_eq same]
  split
  · have faster := lockstep.setVelocity same axis (change (state.velocity axis))
    simp only [EvalState.claim, lockstep.signals faster]
    exact lockstep.signal faster _
  · exact same

theorem drive (axis : Axis) (factor : Float32) (change : Float32 → Float32) :
    related (state.drive axis factor change) (other.drive axis factor change) := by
  simp only [EvalState.drive]
  split
  · exact same
  · exact lockstep.propel same axis change

theorem land : related state.land other.land := by
  simp only [EvalState.land, lockstep.signals same, lockstep.velocity_eq same]
  split
  · exact lockstep.setVelocity same .y 0
  · exact same

/-- So does a hint at a pose, which asks for the animation under the number of the node. -/
theorem hint (node : NodeId) (kind : AnimationKind) :
    related (state.hint surroundings node kind) (other.hint others (rename node) kind) := by
  simp only [EvalState.hint]
  split
  · exact same
  · exact lockstep.animate same node kind .current .continuous

/-- A change of a variable leaves related states behind, or it fails in both. -/
theorem changeVariable (mode : SetMode) (name : String) (operand : Value) (isGlobal : Bool) :
    Agrees (fun scene twin => related (state.withScene scene) (other.withScene twin))
      (state.scene.changeVariable mode name operand isGlobal)
      (other.scene.changeVariable mode name operand isGlobal) := by
  cases isGlobal with
  | true =>
      simp only [Scene.changeVariable, lockstep.map same, if_true]
      cases state.scene.map.change mode name operand with
      | ok map => exact .ok (lockstep.withMap same map)
      | error fault => exact .error _
  | false =>
      simp only [Scene.changeVariable, lockstep.actor same, Actor.change_renumber,
        Bool.false_eq_true, if_false]
      cases changed : state.scene.actor.change mode name operand with
      | ok actor =>
          obtain ⟨_, _, _, _, rfl⟩ := Actor.exists_of_change changed
          exact .ok (lockstep.withActor same _ rfl)
      | error fault => exact .error _

omit lockstep in
theorem done : Agrees (Ending.Related related) state.done other.done :=
  .ok ⟨rfl, same⟩

theorem issue (request : Request) :
    Agrees (Ending.Related related) (state.issue request) (other.issue request) :=
  done (lockstep.request same request)

/-- Work that agrees comes to the same conclusion. -/
theorem conclude_related (id : NodeId) (node : Node Edge)
    {worked : Except Fault (Ending σ)} {workedOther : Except Fault (Ending τ)}
    (agrees : Agrees (Ending.Related related) worked workedOther) :
    Ending.Related related (conclude id node state worked)
      (conclude (rename id) (node.renumber rename) other workedOther) := by
  cases agrees with
  | error fault =>
      exact ⟨rfl, lockstep.note (lockstep.fail same node fault) (.finished id .failure)⟩
  | @ok ending endingOther holds =>
      rcases ending with ⟨outcome, after⟩
      rcases endingOther with ⟨outcomeOther, afterOther⟩
      obtain ⟨rfl, after⟩ := holds
      cases outcomeOther with
      | failure => exact ⟨rfl, lockstep.note after (.finished id .failure)⟩
      | success =>
          simp only [conclude, Node.signal_renumber, Node.kind_renumber]
          split
          · exact ⟨rfl, lockstep.note (lockstep.stop after) (.finished id .success)⟩
          · exact ⟨rfl, lockstep.note after (.finished id .success)⟩

/-! ### The work of a node -/

section Work

variable {descend : Descent σ} {descendOther : Descent τ}
  (children : Descent.InStep rename related descend descendOther) (id : NodeId)
  (node : Node Edge)

include children

/-- Both sides follow a child to the same end. -/
theorem follow_related (role : Role) (edge : Edge) :
    Ending.Related related (surroundings.follow descend id node role edge state)
      (others.follow descendOther (rename id) (node.renumber rename) role (edge.renumber rename)
        other) := by
  have noted : related (state.note (.followed id role)) (other.note (.followed (rename id) role)) :=
    lockstep.note same (.followed id role)
  simp only [follow, lockstep.target_eq noted]
  cases surroundings.target node role (state.note (.followed id role)).scene edge with
  | ok child => exact children child _ _ noted
  | error fault => exact ⟨rfl, lockstep.fail noted node fault⟩

/-- Both sides take the same branch. -/
theorem branch_related (decision : Bool) :
    Ending.Related related (surroundings.branch descend id node decision state)
      (others.branch descendOther (rename id) (node.renumber rename) decision other) := by
  have decided : Ending.Related related (.ofBool decision, state) (.ofBool decision, other) :=
    ⟨rfl, same⟩
  simp only [branch, Node.success_renumber, Node.failure_renumber]
  cases decision with
  | true =>
      cases node.children.success with
      | none => exact decided
      | some edge => exact lockstep.follow_related same children id node .success edge
  | false =>
      cases node.children.failure with
      | none => cases node.children.success <;> exact decided
      | some edge =>
          cases node.children.success <;>
            exact lockstep.follow_related same children id node .failure edge

/-- Multis on both sides run all their children in step. -/
theorem runAll_related (entries : List (Int × Edge)) :
    related (surroundings.runAll descend id node entries state)
      (others.runAll descendOther (rename id) (node.renumber rename)
        (entries.map fun (key, edge) => (key, edge.renumber rename)) other) := by
  induction entries generalizing state other with
  | nil => exact same
  | cons entry rest ih =>
      rcases entry with ⟨key, edge⟩
      have followed := (lockstep.follow_related same children id node (.numbered key) edge).state
      simp only [List.map_cons, runAll, lockstep.signals followed]
      split
      · exact followed
      · exact ih followed

/-- Selectors and sequences on both sides stop at the same child. -/
theorem decide_related (mode : SwitchMode) (entries : List (Int × Edge)) :
    (others.decide descendOther (rename id) (node.renumber rename) mode
        (entries.map fun (key, edge) => (key, edge.renumber rename)) other).1 =
      (surroundings.decide descend id node mode entries state).1 ∧
    related (surroundings.decide descend id node mode entries state).2
      (others.decide descendOther (rename id) (node.renumber rename) mode
        (entries.map fun (key, edge) => (key, edge.renumber rename)) other).2 := by
  induction entries generalizing state other with
  | nil => exact ⟨rfl, same⟩
  | cons entry rest ih =>
      rcases entry with ⟨key, edge⟩
      have followed := lockstep.follow_related same children id node (.numbered key) edge
      simp only [List.map_cons, decide]
      generalize surroundings.follow descend id node (.numbered key) edge state = first
        at followed ⊢
      generalize others.follow descendOther (rename id) (node.renumber rename) (.numbered key)
        (edge.renumber rename) other = second at followed ⊢
      rcases first with ⟨outcome, after⟩
      rcases second with ⟨outcomeOther, afterOther⟩
      obtain ⟨rfl, followed⟩ := followed
      -- The first child that decides ends both searches; after any other both go on.
      cases mode <;> cases outcomeOther
      · exact ⟨rfl, followed⟩
      · exact ih followed
      · exact ih followed
      · exact ⟨rfl, followed⟩

/-- A guard opens on both sides or on neither. -/
theorem runGuarded_related :
    related (surroundings.runGuarded descend id node state)
      (others.runGuarded descendOther (rename id) (node.renumber rename) other) := by
  simp only [runGuarded, Node.event_renumber]
  cases node.children.event with
  | none => exact same
  | some edge => exact (lockstep.follow_related same children id node .event edge).state

/-- The nodes of two evaluations in lockstep do the same work. -/
theorem work_agrees :
    Agrees (Ending.Related related) (surroundings.work descend id node state)
      (others.work descendOther (rename id) (node.renumber rename) other) := by
  unfold work
  simp only [Node.kind_renumber, lockstep.read_eq same, lockstep.readOptional_eq same,
    lockstep.frameLength_eq same, lockstep.groundDistance_eq same, lockstep.actor same,
    lockstep.time]
  cases node.kind with
  | accelerate x y xMax yMax =>
      refine .bind_same _ fun x => .bind_same _ fun y => .bind_same _ fun xMax =>
        .bind_same _ fun yMax => ?_
      exact done (lockstep.drive (lockstep.drive same .x x _) .y y _)
  | decelerate x y =>
      refine .bind_same _ fun x => .bind_same _ fun y => ?_
      exact done (lockstep.drive (lockstep.drive same .x x _) .y y _)
  | fall acceleration maxSpeed animation =>
      refine .bind_same _ fun factor => .bind_same _ fun limit => ?_
      have measured := lockstep.note same (.measured id (surroundings.groundDistance state.scene))
      split
      · exact done (lockstep.land measured)
      · exact done (lockstep.hint (lockstep.drive measured .y factor _) id animation)
  | jump height duration slowFactor animation =>
      refine .bind_same _ fun height => .bind_same _ fun duration =>
        .bind_same _ fun slowFactor => .bind_same _ fun profile => ?_
      exact done (lockstep.hint (lockstep.propel same .y _) id animation)
  | multi =>
      have after := lockstep.runAll_related same children id node node.children.numbered
      simp only [Node.numbered_renumber, beq_eq_decide, lockstep.added same after]
      exact .ok ⟨rfl, after⟩
  | setVariable name value mode isGlobal =>
      refine .bind_same _ fun operand => ?_
      exact (lockstep.changeVariable same mode name operand isGlobal).bind fun _ _ changed =>
        done changed
  | animate animation direction span =>
      refine .bind_same _ fun frames => ?_
      have animated := lockstep.animate same id animation direction frames
      simp only [lockstep.progress same, Node.signal_renumber]
      cases (state.scene.animate surroundings id animation direction frames).1 with
      | running => exact done animated
      | completed =>
          have completed := lockstep.note animated (.animationCompleted id)
          dsimp only
          split
          · exact done (lockstep.stop completed)
          · exact done completed
  | sound path => exact .bind_same _ fun path => lockstep.issue same _
  | playMusic path repetitions fadeIn =>
      exact .bind_same _ fun path => .bind_same _ fun repetitions => .bind_same _ fun fadeIn =>
        .bind_same _ fun fadeIn => lockstep.issue same _
  | rotate degrees absolute =>
      exact .bind_same _ fun degrees => done (lockstep.withActor same _ (by rfl))
  | spawnText text layer style => exact .bind_same _ fun text => lockstep.issue same _
  | move | eraseSelf => exact done (lockstep.withActor same _ (by rfl))
  | spawnActor template layer x y name =>
      exact .bind_same _ fun x => .bind_same _ fun y => lockstep.issue same _
  | setFrame animation direction frame =>
      exact .bind_same _ fun frame => .bind_same _ fun frame =>
        done (lockstep.withActor same _ (by rfl))
  | engineWrapper =>
      simp only [Node.event_renumber]
      cases node.children.event with
      | none => exact .ok ⟨rfl, same⟩
      | some edge => exact .ok (lockstep.follow_related same children id node .event edge)
  | onGround tolerance =>
      exact .bind_same _ fun tolerance => .ok (lockstep.branch_related same children id node _)
  | switch mode =>
      have decided := lockstep.decide_related same children id node mode node.children.numbered
      simp only [Node.numbered_renumber, decided.1]
      exact .ok (lockstep.branch_related decided.2 children id node _)
  | singleGuard =>
      simp only [Actor.mem_guards_renumber]
      split
      · exact .ok ⟨rfl, same⟩
      · have passed := lockstep.withActor same
          { state.scene.actor with guards := state.scene.actor.guards ++ [id] } rfl
        have guards : ({ state.scene.actor with guards := state.scene.actor.guards ++ [id] } :
            Actor).renumber rename =
            { state.scene.actor.renumber rename with
              guards := (state.scene.actor.renumber rename).guards ++ [rename id] } := by
          simp only [Actor.renumber, List.map_append, List.map_cons, List.map_nil]
        rw [guards] at passed
        exact .ok ⟨rfl, lockstep.runGuarded_related passed children id node⟩
  | collision mine other otherName =>
      simp only [lockstep.overlaps]
      exact .ok (lockstep.branch_related same children id node _)
  | mouseButton query =>
      simp only [lockstep.button]
      exact .ok (lockstep.branch_related same children id node _)
  | compare left right relations =>
      exact .bind_same _ fun left => .bind_same _ fun right => .bind_same _ fun decision =>
        .ok (lockstep.branch_related same children id node decision)
  | layerState layer hidden => exact .bind_same _ fun layer => lockstep.issue same _
  | templateLayer | closeMap | quit => exact lockstep.issue same _
  | changeMap path keepVariables => exact .bind_same _ fun path => lockstep.issue same _

/-- If the descents are in step, then so is the execution of a node. -/
theorem execute_related :
    Ending.Related related (surroundings.execute descend id node state)
      (others.execute descendOther (rename id) (node.renumber rename) other) := by
  have begun := lockstep.note same (.started id)
  rw [execute_eq, execute_eq]
  exact lockstep.conclude_related begun id node (lockstep.work_agrees begun children id node)

end Work

omit same

/-! ### Runs -/

/-- Runs in lockstep go the same way, whatever they start from and however many levels they
have.  By induction on the levels: the children of a node have one less. -/
theorem run_related (levels : Nat) :
    Descent.InStep rename related (surroundings.run levels) (others.run levels) := by
  induction levels with
  | zero =>
      intro id state other same
      simp only [run, lockstep.graph.nodes]
      cases surroundings.graph.nodes[id]? with
      | none => exact ⟨rfl, lockstep.note same (.stray id)⟩
      | some node =>
          rw [lockstep.maxDepth]
          exact ⟨rfl, lockstep.fail same node _⟩
  | succ levels ih =>
      intro id state other same
      simp only [run, lockstep.graph.nodes]
      cases surroundings.graph.nodes[id]? with
      | none => exact ⟨rfl, lockstep.note same (.stray id)⟩
      | some node => exact lockstep.execute_related same ih id node

end Surroundings.Lockstep

end Stagecraft
