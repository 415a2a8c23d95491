/-
Module: Stagecraft.Proofs.Turns
Purpose: What the events of an actor can change on the scene, what a turn therefore keeps,
  and which events it runs.
Main exports:
  Surroundings.SceneChange, Surroundings.Respects, Respects.evaluateNode, Respects.turn,
  Template.entrance, Surroundings.TurnOf, turn_cues, turns_cues
-/
import Stagecraft.Proofs.Performances
import Stagecraft.Simulation.Turn

namespace Stagecraft

variable {σ : Type}

/-! ### Changes of a scene -/

namespace Surroundings

/-- What one change by a node does to the scene.  Only a global variable reaches the map, and
animations are asked for in the name of the actor. -/
inductive SceneChange (surroundings : Surroundings σ) (id : NodeId) (node : Node Edge)
    (scene : Scene σ) : Scene σ → Prop where
  | nothing : SceneChange surroundings id node scene scene
  | actor (position velocity : Vec2) (rotation : Float32) (pose : Pose) (store : VariableStore)
      (guards : List NodeId) (isLeaving : Bool)
      (leaves : scene.actor.isLeaving = true → isLeaving = true) :
      SceneChange surroundings id node scene
        { scene with
          actor :=
            { scene.actor with position, velocity, rotation, pose, store, guards, isLeaving } }
  | map {name : String} {value : Parameter Value} {mode : SetMode}
      (isGlobal : node.kind = .setVariable name value mode true) (map : VariableStore) :
      SceneChange surroundings id node scene { scene with map }
  | request {request : Request} (asks : node.kind.Asks request) :
      SceneChange surroundings id node scene (scene.request request)
  | animate (kind : AnimationKind) (direction : Direction) (frames : FrameLength) :
      SceneChange surroundings id node scene
        (scene.animate surroundings id kind direction frames).2

variable {surroundings : Surroundings σ}

/-- A change by a node is, for the scene, one of a few. -/
theorem Change.scene {id : NodeId} {node : Node Edge} {before after : EvalState σ}
    (change : surroundings.Change id node before after) :
    surroundings.SceneChange id node before.scene after.scene := by
  cases change with
  | propel axis change free => cases axis <;> exact .actor _ _ _ _ _ _ _ fun leaves => leaves
  | land kind grounded =>
      simp only [EvalState.land]
      split
      · exact .actor _ _ _ _ _ _ _ fun leaves => leaves
      · exact .nothing
  | leave => exact .actor _ _ _ _ _ _ _ fun _ => rfl
  | move | turn | pose | pass => exact .actor _ _ _ _ _ _ _ fun leaves => leaves
  | @assign scene name value mode isGlobal operand kind changed =>
      cases isGlobal with
      | true =>
          obtain ⟨map, -, same⟩ := exists_of_map_eq_ok changed
          rw [EvalState.withScene, ← same]
          exact .map kind map
      | false =>
          obtain ⟨actor, stored, same⟩ := exists_of_map_eq_ok changed
          obtain ⟨position, velocity, rotation, store, rfl⟩ :=
            Actor.exists_of_change (eq_ok_of_mapError_eq_ok stored)
          rw [EvalState.withScene, ← same]
          exact .actor _ _ _ _ _ _ _ fun leaves => leaves
  | animate kind direction frames => exact .animate kind direction frames
  | issue asks => exact .request asks
  | measure | complete | stop => exact .nothing

/-! ### What everything in a turn keeps -/

/-- An actor that may have a turn: it stays, and its template is known. -/
def MayAct (surroundings : Surroundings σ) (actor : Actor) : Prop :=
  actor.isLeaving = false ∧
    ∃ template, surroundings.graph.template actor.template = .ok template

/-- Who may not act is passed over. -/
theorem turn_of_not_mayAct (keys : KeyName → KeyEdge) (touching : ActorId → Bool) {actor : Actor}
    (idle : ¬ surroundings.MayAct actor) (state : TurnState σ) :
    surroundings.turn keys touching actor state = (actor, state) := by
  simp only [turn]
  split
  · rfl
  · next stays =>
      split
      · rfl
      · next template known =>
          exact absurd ⟨by simpa using stays, template, known⟩ idle

/-- A property of scenes that no node of the graph destroys, and no beginning or end of a
sustained action either. -/
structure Respects (surroundings : Surroundings σ) (property : Scene σ → Prop) : Prop where
  change : ∀ {id : NodeId} {node : Node Edge} {before after : Scene σ},
    surroundings.graph.nodes[id]? = some node → surroundings.SceneChange id node before after →
      property before → property after
  sustain : ∀ (sustained : SustainedActions) {scene : Scene σ}, property scene →
    property { scene with actor.sustained := sustained }

namespace Respects

variable {property : Scene σ → Prop} {actor : Actor} {state : TurnState σ}

/-- What every node respects holds after an evaluation. -/
theorem evaluateNode (respects : surroundings.Respects property) (id : NodeId)
    (locks : AxisLocks) {scene : Scene σ} (holds : property scene) :
    property (surroundings.evaluateNode id locks scene).2 := by
  have keeps : surroundings.Keeps fun state => property state.scene :=
    { note := fun _ holds => holds
      fail := fun _ _ holds => holds
      change := fun stands change holds => respects.change stands change.scene holds }
  have begun : property (EvalState.begin scene locks).scene := holds
  obtain ⟨ended, holds, after, -⟩ := keeps.evaluateNode id begun
  rw [after]
  exact holds

/-- It holds after any performances of a dispatch. -/
theorem performs (respects : surroundings.Respects property) {start ended : Dispatched σ}
    {performances : List (Performance σ)}
    (performs : surroundings.Performs start performances ended)
    (holds : property start.scene) : property ended.scene := by
  induction performs with
  | rest => exact holds
  | adjust _ sustained adjusted _ ih =>
      rw [adjusted]
      exact respects.sustain sustained ih
  | invoke _ reason event locks ih => exact respects.evaluateNode event locks ih

theorem dispatch (respects : surroundings.Respects property) (template : Template)
    (keys : KeyName → KeyEdge) {scene : Scene σ} (holds : property scene) :
    property (surroundings.dispatch template keys scene).2 := by
  obtain ⟨ended, same, performs⟩ := surroundings.dispatch_performs template keys scene
  rw [same]
  exact respects.performs performs holds

/-- It holds after a response. -/
theorem respond (respects : surroundings.Respects property) (template : Template)
    (occasion : Occasion) (holds : property (state.scene actor)) :
    let ended := surroundings.respond template occasion actor state
    property (ended.2.scene ended.1) := by
  simp only [Surroundings.respond]
  split
  · next event _ _ => exact respects.evaluateNode event {} holds
  · exact holds

theorem respondToKeys (respects : surroundings.Respects property) (template : Template)
    (keys : KeyName → KeyEdge) (holds : property (state.scene actor)) :
    let ended := surroundings.respondToKeys template keys actor state
    property (ended.2.scene ended.1) := by
  simp only [Surroundings.respondToKeys]
  split
  · exact holds
  · exact respects.dispatch template keys holds

/-- A turn keeps the property if it holds of the actor that has entered. -/
theorem turn_of_mayAct (respects : surroundings.Respects property) (keys : KeyName → KeyEdge)
    (touching : ActorId → Bool) (ready : surroundings.MayAct actor)
    (entered : property (state.scene { actor with hasEntered := true })) :
    let ended := surroundings.turn keys touching actor state
    property (ended.2.scene ended.1) := by
  obtain ⟨stays, template, known⟩ := ready
  have begun : property ((surroundings.enter template actor state).2.scene
      (surroundings.enter template actor state).1) := by
    simp only [enter]
    split
    · next before =>
        rw [← before] at entered
        exact entered
    · exact respects.respond template .onSpawn entered
  have standing := respects.respond template .onAlways
    (respects.respondToKeys template keys begun)
  simp only [Surroundings.turn, stays, known, Bool.false_eq_true, if_false]
  split
  · exact respects.respond template .onCollision standing
  · exact standing

/-- Whether an actor may have a turn or not, the turn keeps what holds before and after its
entrance. -/
theorem turn (respects : surroundings.Respects property) (keys : KeyName → KeyEdge)
    (touching : ActorId → Bool) (holds : property (state.scene actor))
    (entered : property (state.scene { actor with hasEntered := true })) :
    let ended := surroundings.turn keys touching actor state
    property (ended.2.scene ended.1) := by
  by_cases ready : surroundings.MayAct actor
  · exact respects.turn_of_mayAct keys touching ready entered
  · rw [turn_of_not_mayAct keys touching ready]
    exact holds

end Respects

end Surroundings

/-! ### What a turn runs -/

namespace Cue

/-- The actor whose event was run. -/
def actor : Cue → ActorId
  | .response actor _ _ => actor
  | .keys actor _ => actor

/-- Whether it was the entering event. -/
def isEntrance : Cue → Bool
  | .response _ .onSpawn _ => true
  | _ => false

end Cue

/-- What an actor runs when it enters: the event of its template for this occasion, if there
is one. -/
def Template.entrance (template : Template) (id : ActorId) : List Cue :=
  template.responses.onSpawn.toList.map (.response id .onSpawn)

/-- Cues of an actor by which it does not enter. -/
def PlainCues (id : ActorId) (cues : List Cue) : Prop :=
  ∀ cue ∈ cues, cue.actor = id ∧ cue.isEntrance = false

/-- In the middle of a turn the same actor goes on with such cues. -/
structure GoesOn (before after : Actor × TurnState σ) : Prop where
  same : after.1.id = before.1.id
  plain : ∃ more, after.2.cues = before.2.cues ++ more ∧ PlainCues before.1.id more

namespace GoesOn

variable {before between after : Actor × TurnState σ}

theorem refl (before : Actor × TurnState σ) : GoesOn before before :=
  ⟨rfl, [], by simp, fun _ member => nomatch member⟩

theorem trans (first : GoesOn before between) (second : GoesOn between after) :
    GoesOn before after := by
  obtain ⟨sameOne, one, afterOne, plainOne⟩ := first
  obtain ⟨sameTwo, two, afterTwo, plainTwo⟩ := second
  constructor
  · exact sameTwo.trans sameOne
  · rw [sameOne] at plainTwo
    exact ⟨one ++ two, by rw [afterTwo, afterOne, List.append_assoc],
      List.forall_mem_append.mpr ⟨plainOne, plainTwo⟩⟩

/-- One more cue. -/
theorem add (actor : Actor) (state : TurnState σ) {scene : Scene σ}
    (same : scene.actor.id = actor.id) {cue : Cue} (whose : cue.actor = actor.id)
    (plain : cue.isEntrance = false) :
    GoesOn (actor, state) (state.after scene cue) := by
  constructor
  · exact same
  · apply Exists.intro [cue]
    exact ⟨rfl, fun other member => by rw [List.mem_singleton.mp member]; exact ⟨whose, plain⟩⟩

end GoesOn

namespace Surroundings

variable {surroundings : Surroundings σ}

/-- Nobody takes the number of another actor. -/
theorem respects_id (surroundings : Surroundings σ) (id : ActorId) :
    surroundings.Respects fun scene => scene.actor.id = id where
  change := by
    intro _ _ before after _ change same
    cases change <;> exact same
  sustain _ _ same := same

/-- A response other than the one to the entrance is plain. -/
theorem respond_goesOn (surroundings : Surroundings σ) (template : Template) {occasion : Occasion}
    (other : occasion ≠ .onSpawn) (actor : Actor) (state : TurnState σ) :
    GoesOn (actor, state) (surroundings.respond template occasion actor state) := by
  simp only [respond]
  split
  · next event _ _ =>
      have same := (surroundings.respects_id actor.id).evaluateNode event {}
        (show (state.scene actor).actor.id = actor.id from rfl)
      apply GoesOn.add actor state same rfl
      cases occasion with
      | onSpawn => exact absurd rfl other
      | onAlways | onCollision => rfl
  · exact .refl _

/-- So is what an actor does for the keys. -/
theorem respondToKeys_goesOn (surroundings : Surroundings σ) (template : Template)
    (keys : KeyName → KeyEdge) (actor : Actor) (state : TurnState σ) :
    GoesOn (actor, state) (surroundings.respondToKeys template keys actor state) := by
  simp only [respondToKeys]
  split
  · exact .refl _
  · have same := (surroundings.respects_id actor.id).dispatch template keys
      (show (state.scene actor).actor.id = actor.id from rfl)
    exact .add actor state same rfl rfl

/-- A new actor runs its entering event, any other actor nothing. -/
theorem enter_cues (surroundings : Surroundings σ) (template : Template) {actor : Actor}
    (stays : actor.isLeaving = false) (state : TurnState σ) :
    (surroundings.enter template actor state).1.id = actor.id ∧
      (surroundings.enter template actor state).2.cues =
        state.cues ++ if actor.hasEntered then [] else template.entrance actor.id := by
  simp only [enter]
  split
  · simp
  · simp only [respond, stays, Responses.event?, Template.entrance]
    cases template.responses.onSpawn with
    | none => simp
    | some event =>
        exact ⟨(surroundings.respects_id actor.id).evaluateNode event {} rfl, rfl⟩

/-- The cues of the turn of an actor: its entrance if it is new, and then others. -/
def TurnOf (surroundings : Surroundings σ) (actor : Actor) (cues : List Cue) : Prop :=
  ∃ template more, surroundings.graph.template actor.template = .ok template ∧
    PlainCues actor.id more ∧
      cues = (if actor.hasEntered then [] else template.entrance actor.id) ++ more

/-- The cues of a turn come behind those of the turns before it. -/
theorem turn_cues (keys : KeyName → KeyEdge) (touching : ActorId → Bool) {actor : Actor}
    (ready : surroundings.MayAct actor) (state : TurnState σ) :
    ∃ cues, (surroundings.turn keys touching actor state).2.cues = state.cues ++ cues ∧
      surroundings.TurnOf actor cues := by
  obtain ⟨stays, template, known⟩ := ready
  obtain ⟨same, begun⟩ := enter_cues surroundings template stays state
  have goesOn : GoesOn (surroundings.enter template actor state)
      (surroundings.turn keys touching actor state) := by
    simp only [turn, stays, known, Bool.false_eq_true, if_false]
    generalize surroundings.enter template actor state = entered
    have stood := (respondToKeys_goesOn surroundings template keys entered.1 entered.2).trans
      (respond_goesOn surroundings template (by decide : Occasion.onAlways ≠ .onSpawn) _ _)
    split
    · exact stood.trans (respond_goesOn surroundings template (by decide) _ _)
    · exact stood
  obtain ⟨-, more, ended, plain⟩ := goesOn
  rw [same] at plain
  rw [begun, List.append_assoc] at ended
  exact ⟨_, ended, template, more, known, plain, rfl⟩

/-! ### The turns of several actors -/

/-- What a turn does to an actor in whatever state it finds the stage, all turns do. -/
theorem forall₂_turns {related : Actor → Actor → Prop} (keys : KeyName → KeyEdge)
    (touching : ActorId → Bool) {cast : List Actor}
    (each : ∀ actor ∈ cast, ∀ state, related actor (surroundings.turn keys touching actor state).1)
    (state : TurnState σ) :
    List.Forall₂ related cast (surroundings.turns keys touching cast state).1 := by
  induction cast generalizing state with
  | nil => exact .nil
  | cons actor rest ih =>
      have others := ih (fun other member => each other (List.mem_cons_of_mem _ member))
      exact .cons (each actor List.mem_cons_self state) (others _)

/-- What every turn keeps, all turns keep. -/
theorem turns_keep (property : TurnState σ → Prop) (keys : KeyName → KeyEdge)
    (touching : ActorId → Bool) {cast : List Actor}
    (each : ∀ actor ∈ cast, ∀ state, property state →
      property (surroundings.turn keys touching actor state).2)
    {state : TurnState σ} (holds : property state) :
    property (surroundings.turns keys touching cast state).2 := by
  induction cast generalizing state with
  | nil => exact holds
  | cons actor rest ih =>
      apply ih
      · exact fun other member => each other (List.mem_cons_of_mem _ member)
      · exact each actor List.mem_cons_self state holds

/-- The cues of several turns are those of each, in the order of the turns. -/
theorem turns_cues (keys : KeyName → KeyEdge) (touching : ActorId → Bool) {cast : List Actor}
    (ready : ∀ actor ∈ cast, surroundings.MayAct actor) (state : TurnState σ) :
    ∃ parts, (surroundings.turns keys touching cast state).2.cues =
        state.cues ++ parts.flatten ∧
      List.Forall₂ surroundings.TurnOf cast parts := by
  induction cast generalizing state with
  | nil => exact ⟨[], by simp [turns], .nil⟩
  | cons actor rest ih =>
      obtain ⟨cues, here, turn⟩ := turn_cues keys touching (ready actor List.mem_cons_self) state
      obtain ⟨parts, later, turned⟩ :=
        ih (fun actor member => ready actor (List.mem_cons_of_mem _ member)) _
      apply Exists.intro (cues :: parts)
      constructor
      · simp only [turns, List.flatten_cons]
        rw [later, here, List.append_assoc]
      · exact .cons turn turned

end Surroundings

end Stagecraft
