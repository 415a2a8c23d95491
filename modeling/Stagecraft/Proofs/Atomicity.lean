/-
Module: Stagecraft.Proofs.Atomicity
Purpose: A node that comes upon a fault has changed nothing, so its work is a whole that
  is either done or at fault.
Main exports:
  Scene.changeVariable, Actor.exists_of_change, Surroundings.work, Surroundings.conclude,
  Attempt.DoneAs, Surroundings.attempt_doneAs, Surroundings.execute_eq,
  faulting_node_changes_nothing
-/
import Stagecraft.Evaluation.Rehearsal
import Stagecraft.Evaluation.Run
import Stagecraft.Graph.Linking
import Stagecraft.Proofs.Basic

namespace Stagecraft

variable {σ α β : Type}

/-!
An attempt changes the evaluation in place, and a fault does not take anything back.  Here
the work of a node is described as one step from a state to the next, which leaves no room
for a change before a fault.  Both come to the same, because a node reads everything
before it changes anything.
-/

/-! ### Work as a whole -/

/-- Change a variable of the map or of the actor. -/
def Scene.changeVariable (scene : Scene σ) (mode : SetMode) (name : String) (operand : Value)
    (isGlobal : Bool) : Except Fault (Scene σ) :=
  if isGlobal then
    ((scene.map.change mode name operand).mapError .variable).map fun map =>
      { scene with map }
  else
    ((scene.actor.change mode name operand).mapError .variable).map fun actor =>
      { scene with actor }

/-- A write to an actor reaches its motion and its variables. -/
theorem Actor.exists_of_change {actor changed : Actor} {mode : SetMode} {name : String}
    {operand : Value} (written : actor.change mode name operand = .ok changed) :
    ∃ position velocity rotation store,
      changed = { actor with position, velocity, rotation, store } := by
  unfold Actor.change at written
  split at written
  · next quantity _ =>
      split at written
      · cases written
        cases quantity <;> exact ⟨_, _, _, _, rfl⟩
      · cases written
  · obtain ⟨store, -, rfl⟩ := exists_of_map_eq_ok written
    exact ⟨_, _, _, _, rfl⟩

/-- A change of a variable reaches the variables of the map, and the motion and the
variables of the actor. -/
theorem Scene.exists_of_changeVariable {scene changed : Scene σ} {mode : SetMode}
    {name : String} {operand : Value} {isGlobal : Bool}
    (written : scene.changeVariable mode name operand isGlobal = .ok changed) :
    ∃ map position velocity rotation store,
      changed =
        { scene with map, actor := { scene.actor with position, velocity, rotation, store } } := by
  unfold Scene.changeVariable at written
  split at written
  · obtain ⟨map, -, rfl⟩ := exists_of_map_eq_ok written
    exact ⟨_, _, _, _, _, rfl⟩
  · obtain ⟨actor, stored, rfl⟩ := exists_of_map_eq_ok written
    obtain ⟨position, velocity, rotation, store, rfl⟩ :=
      Actor.exists_of_change (eq_ok_of_mapError_eq_ok stored)
    exact ⟨_, _, _, _, _, rfl⟩

namespace EvalState

def done (state : EvalState σ) : Except Fault (Ending σ) := .ok (.success, state)

def issue (state : EvalState σ) (request : Request) : Except Fault (Ending σ) :=
  (state.withScene (state.scene.request request)).done

end EvalState

namespace Surroundings

variable (surroundings : Surroundings σ)

/-- The work of a node as a whole. -/
def work (descend : Descent σ) (id : NodeId) (node : Node Edge) (state : EvalState σ) :
    Except Fault (Ending σ) :=
  let scene := state.scene
  match node.kind with
  | .accelerate x y xMax yMax => do
      let x ← scene.read x
      let y ← scene.read y
      let xMax ← scene.readOptional xMax
      let yMax ← scene.readOptional yMax
      let state := state.drive .x x fun v => accelerate v x xMax surroundings.time
      let state := state.drive .y y fun v => accelerate v y yMax surroundings.time
      state.done
  | .decelerate x y => do
      let x ← scene.read x
      let y ← scene.read y
      let state := state.drive .x x fun v => decelerate v x surroundings.time
      let state := state.drive .y y fun v => decelerate v y surroundings.time
      state.done
  | .move =>
      let actor := scene.actor
      let position := integrate actor.position actor.velocity surroundings.time
      (state.withActor { actor with position }).done
  | .fall acceleration maxSpeed animation => do
      let factor ← scene.read acceleration
      let limit ← scene.read maxSpeed
      let distance := surroundings.groundDistance scene
      let state := state.note (.measured id distance)
      if distance ≤ 0 then state.land.done
      else
        let state := state.drive .y factor fun v =>
          accelerate v factor (some limit) surroundings.time
        (state.hint surroundings id animation).done
  | .jump height duration slowFactor animation => do
      let height ← scene.read height
      let duration ← scene.read duration
      let slowFactor ← scene.read slowFactor
      let profile ← Scene.jumpProfile height duration slowFactor
      let state := state.propel .y fun _ => -profile.initialSpeed
      (state.hint surroundings id animation).done
  | .multi =>
      let after := surroundings.runAll descend id node node.children.numbered state
      .ok (.ofBool (after.faults.length == state.faults.length), after)
  | .setVariable name value mode isGlobal => do
      let operand ← scene.read value
      let scene ← scene.changeVariable mode name operand isGlobal
      (state.withScene scene).done
  | .animate animation direction span => do
      let frames ← scene.frameLength span
      let (progress, scene) := scene.animate surroundings id animation direction frames
      let state := state.withScene scene
      match progress with
      | .running => state.done
      | .completed =>
          let state := state.note (.animationCompleted id)
          if node.signal = some .stop then state.stop.done else state.done
  | .sound path => do
      let path ← scene.read path
      state.issue (.playSound path)
  | .playMusic path repetitions fadeIn => do
      let path ← scene.read path
      let repetitions ← scene.read repetitions
      let fadeIn ← scene.read fadeIn
      let fadeIn ← indexOf "FADE IN" fadeIn
      state.issue (.playMusic { path, repetitions, fadeIn })
  | .rotate degrees absolute => do
      let degrees ← scene.read degrees
      let actor := scene.actor
      let rotation := if absolute then degrees else actor.rotation + degrees
      (state.withActor { actor with rotation }).done
  | .spawnText text layer style => do
      let text ← scene.read text
      state.issue <| .spawnText
        { text, layer
          position := scene.actor.position
          color := style.color
          bold := style.bold
          italic := style.italic
          underline := style.underline }
  | .eraseSelf => (state.withActor { scene.actor with isLeaving := true }).done
  | .spawnActor template layer x y name => do
      let x ← scene.read x
      let y ← scene.read y
      let position := scene.actor.position.add { x, y }
      state.issue (.spawnActor { template, layer, position, name })
  | .setFrame animation direction frame => do
      let frame ← scene.read frame
      let frame ← indexOf "ANIMATION_FRAME" frame
      let actor := scene.actor
      (state.withActor { actor with pose := actor.pose.pin animation direction frame }).done
  | .engineWrapper =>
      match node.children.event with
      | some edge => .ok (surroundings.follow descend id node .event edge state)
      | none => .ok (.failure, state)
  | .onGround tolerance => do
      let tolerance ← scene.read tolerance
      let near := surroundings.groundDistance scene ≤ tolerance
      .ok (surroundings.branch descend id node near state)
  | .switch mode =>
      let (decision, state) :=
        surroundings.decide descend id node mode node.children.numbered state
      .ok (surroundings.branch descend id node decision state)
  | .singleGuard =>
      let actor := scene.actor
      if id ∈ actor.guards then .ok (.failure, state)
      else
        let state := state.withActor { actor with guards := actor.guards ++ [id] }
        .ok (.success, surroundings.runGuarded descend id node state)
  | .collision mine other otherName =>
      let hit := surroundings.overlaps scene.actor.id mine other otherName
      .ok (surroundings.branch descend id node hit state)
  | .mouseButton query =>
      let button := surroundings.button query.button
      let hit :=
        query.pressed && button.pressed || query.released && button.released ||
          query.down && button.down
      .ok (surroundings.branch descend id node hit state)
  | .compare left right relations => do
      let left ← scene.read left
      let right ← scene.read right
      let decision ← Value.compare relations left right
      .ok (surroundings.branch descend id node decision state)
  | .layerState layer hidden => do
      let layer ← scene.read layer
      state.issue (.setLayerHidden layer hidden)
  | .templateLayer source destination =>
      state.issue (.instantiateTemplate source destination)
  | .changeMap path keepVariables => do
      let path ← scene.read path
      state.issue (.changeMap path keepVariables)
  | .closeMap => state.issue .closeMap
  | .quit => state.issue .quit

/-- Draw the conclusion from the work of a node.  A fault becomes a failure, and
a success raises the signal of the node. -/
def conclude (id : NodeId) (node : Node Edge) (before : EvalState σ) :
    Except Fault (Ending σ) → Ending σ
  | .ok (.success, state) =>
      let raises := node.signal = some .stop ∧ ¬ node.kind.defersSignal
      let state := if raises then state.stop else state
      (.success, state.note (.finished id .success))
  | .ok (.failure, state) => (.failure, state.note (.finished id .failure))
  | .error fault => (.failure, (before.fail node fault).note (.finished id .failure))

end Surroundings

/-! ### Attempts leave nothing half done -/

namespace Attempt

/-- An attempt comes to the same as some work as a whole: where that is at fault, the
attempt leaves everything as it was. -/
def DoneAs (attempt : Attempt σ α) (before : EvalState σ) :
    Except Fault (α × EvalState σ) → Prop
  | .ok (value, after) => attempt.run.run before = (.ok value, after)
  | .error fault => attempt.run.run before = (.error fault, before)

/-- What cannot be read is a fault before anything else is done. -/
theorem DoneAs.ofExcept {before : EvalState σ} (result : Except Fault α)
    {next : α → Attempt σ β} {rest : α → Except Fault (β × EvalState σ)}
    (same : ∀ value, (next value).DoneAs before (rest value)) :
    (ofExcept result >>= next : Attempt σ β).DoneAs before (result >>= rest) := by
  cases result with
  | error fault => rfl
  | ok value => exact same value

/-- What an attempt looks at is the state as it was. -/
theorem DoneAs.get {before : EvalState σ} {next : EvalState σ → Attempt σ α}
    {work : Except Fault (α × EvalState σ)} (same : (next before).DoneAs before work) :
    (get >>= next : Attempt σ α).DoneAs before work := by
  cases work <;> exact same

/-- A question that comes first may be at fault; until then nothing has been done. -/
theorem DoneAs.ask {before : EvalState σ} (question : Scene σ → Except Fault α)
    {next : α → Attempt σ β} {rest : α → Except Fault (β × EvalState σ)}
    (same : ∀ value, (next value).DoneAs before (rest value)) :
    (ask question >>= next).DoneAs before (question before.scene >>= rest) :=
  .ofExcept (question before.scene) same

/-- What is to be put in place is known, or at fault, before that. -/
theorem DoneAs.put {before : EvalState σ} (question : Scene σ → Except Fault β)
    (change : β → EvalState σ → EvalState σ) :
    (do modify (change (← Attempt.ask question)) : Attempt σ Unit).DoneAs before
      ((question before.scene).map fun next => ((), change next before)) := by
  have asked : (do modify (change (← Attempt.ask question)) : Attempt σ Unit).DoneAs before
      (question before.scene >>= fun next => .ok ((), change next before)) :=
    .ask question fun next => rfl
  cases known : question before.scene <;> rw [known] at asked <;> exact asked

/-- A variable stays as it was if its new value is at fault. -/
theorem assign_doneAs (before : EvalState σ) (mode : SetMode) (name : String) (operand : Value)
    (isGlobal : Bool) :
    (assign mode name operand isGlobal).DoneAs before
      ((before.scene.changeVariable mode name operand isGlobal).map fun scene =>
        ((), before.withScene scene)) := by
  unfold assign Scene.changeVariable
  cases isGlobal with
  | true =>
      simp only [if_true, VariableStore.change, mapError_map, map_map]
      exact .put _ fun next state =>
        state.withScene { state.scene with map := state.scene.map.insert name next }
  | false =>
      simp only [Bool.false_eq_true, if_false, Actor.change, VariableStore.change]
      cases Quantity.ofName? name with
      | some quantity => cases operand.number? <;> rfl
      | none =>
          simp only [mapError_map, map_map]
          exact .put _ fun next state => state.withActor
            { state.scene.actor with store := state.scene.actor.store.insert name next }

/-- An attempt at fault leaves everything as it was. -/
theorem DoneAs.eq_of_fault {attempt : Attempt σ α} {before : EvalState σ}
    {work : Except Fault (α × EvalState σ)} (same : attempt.DoneAs before work) {fault : Fault}
    (faulted : (attempt.run.run before).1 = .error fault) :
    attempt.run.run before = (.error fault, before) := by
  cases work with
  | error other =>
      have ended : attempt.run.run before = (.error other, before) := same
      rw [ended] at faulted ⊢
      exact congrArg (·, before) faulted
  | ok ending =>
      have ended : attempt.run.run before = (.ok ending.1, ending.2) := same
      rw [ended] at faulted
      cases faulted

/-- An attempt goes on from the state that its first part leaves, unless that part is at
fault. -/
theorem run_bind (first : Attempt σ α) (next : α → Attempt σ β) (before : EvalState σ) :
    (first >>= next).run.run before =
      match first.run.run before with
      | (.ok value, after) => (next value).run.run after
      | (.error fault, after) => (.error fault, after) := by
  change (match first.run.run before with
    | (result, after) => (ExceptT.bindCont next result).run after) = _
  rcases first.run.run before with ⟨_ | _, after⟩ <;> rfl

/-- After a change that is done or at fault as a whole, success changes nothing more. -/
theorem DoneAs.andReturn {before : EvalState σ} {first : Attempt σ Unit}
    {changed : Except Fault (Scene σ)}
    (one : first.DoneAs before (changed.map fun scene => ((), before.withScene scene))) :
    (do first; return .success : Attempt σ Outcome).DoneAs before
      (changed >>= fun scene => (before.withScene scene).done) := by
  cases changed with
  | error fault =>
      have ended : first.run.run before = (.error fault, before) := one
      exact (run_bind first _ before).trans (by rw [ended])
  | ok scene =>
      have ended : first.run.run before = (.ok (), before.withScene scene) := one
      exact (run_bind first _ before).trans (by rw [ended]; rfl)

end Attempt

namespace Surroundings

variable (surroundings : Surroundings σ) (descend : Descent σ) (id : NodeId) (node : Node Edge)
  (state : EvalState σ)

/-- Step by step or as a whole: the work of a node of any kind comes to the same. -/
theorem attempt_doneAs :
    (surroundings.attempt descend id node).DoneAs state
      (surroundings.work descend id node state) := by
  unfold attempt work
  -- Kind by kind, whatever can be at fault is asked before the first change.
  cases node.kind with
  | accelerate x y xMax yMax =>
      exact .ask _ fun x => .ask _ fun y => .ask _ fun xMax => .ask _ fun yMax => rfl
  | decelerate x y => exact .ask _ fun x => .ask _ fun y => rfl
  | move => rfl
  | fall acceleration maxSpeed animation =>
      refine .ask _ fun factor => .ask _ fun limit => .get ?_
      by_cases grounded : surroundings.groundDistance state.scene ≤ 0
      · simp only [if_pos grounded]
        rfl
      · simp only [if_neg grounded]
        rfl
  | jump height duration slowFactor animation =>
      exact .ask _ fun height => .ask _ fun duration => .ask _ fun slowFactor =>
        .ofExcept _ fun profile => rfl
  | multi => rfl
  | setVariable name value mode isGlobal =>
      exact .ask _ fun operand => (Attempt.assign_doneAs state ..).andReturn
  | animate animation direction span =>
      refine .ask _ fun frames => .get ?_
      rcases state.scene.animate surroundings id animation direction frames
        with ⟨_ | _, scene⟩
      · rfl
      · by_cases signal : node.signal = some .stop
        · simp only [if_pos signal]
          rfl
        · simp only [if_neg signal]
          rfl
  | sound path => exact .ask _ fun path => rfl
  | playMusic path repetitions fadeIn =>
      exact .ask _ fun path => .ask _ fun repetitions => .ask _ fun fadeIn =>
        .ofExcept _ fun fadeIn => rfl
  | rotate degrees absolute => exact .ask _ fun degrees => rfl
  | spawnText text layer style => exact .ask _ fun text => rfl
  | eraseSelf => rfl
  | spawnActor template layer x y name => exact .ask _ fun x => .ask _ fun y => rfl
  | setFrame animation direction frame =>
      exact .ask _ fun frame => .ofExcept _ fun frame => rfl
  | engineWrapper => cases node.children.event <;> rfl
  | onGround tolerance => exact .ask _ fun tolerance => rfl
  | switch mode => rfl
  | singleGuard =>
      refine .get ?_
      by_cases passed : id ∈ state.scene.actor.guards
      · simp only [if_pos passed]
        rfl
      · simp only [if_neg passed]
        rfl
  | collision mine other otherName => rfl
  | mouseButton query => rfl
  | compare left right relations =>
      exact .ask _ fun left => .ask _ fun right => .ofExcept _ fun decision => rfl
  | layerState layer hidden => exact .ask _ fun layer => rfl
  | templateLayer source destination => rfl
  | changeMap path keepVariables => exact .ask _ fun path => rfl
  | closeMap => rfl
  | quit => rfl

/-- A node is executed as if its work were done as a whole. -/
theorem execute_eq :
    surroundings.execute descend id node state =
      conclude id node (state.note (.started id))
        (surroundings.work descend id node (state.note (.started id))) := by
  have whole := surroundings.attempt_doneAs descend id node (state.note (.started id))
  unfold execute
  cases worked : surroundings.work descend id node (state.note (.started id)) with
  | error fault =>
      rw [worked] at whole
      exact congrArg (close id node) whole
  | ok ending =>
      rw [worked] at whole
      rcases ending with ⟨_ | _, after⟩ <;> exact congrArg (close id node) whole

/-- **A node at fault changes nothing.**  Where the work of a node of any kind comes upon a
fault, it leaves the evaluation as it found it: the scene with the actor, the variables of
the map, the requests and the animations, the STOP signal, the axes, and the faults so
far.  In a run the node then fails, and this one fault is added under its name. -/
theorem faulting_node_changes_nothing {surroundings : Surroundings σ} {id : NodeId}
    {node : Node Edge} (stands : surroundings.graph.nodes[id]? = some node) {fault : Fault} :
    (∀ (descend : Descent σ) (state : EvalState σ),
      ((surroundings.attempt descend id node).run.run state).1 = .error fault →
        ((surroundings.attempt descend id node).run.run state).2 = state) ∧
    ∀ (levels : Nat) (state : EvalState σ),
      ((surroundings.attempt (surroundings.run levels) id node).run.run
          (state.note (.started id))).1 = .error fault →
        ∃ after, surroundings.run (levels + 1) id state = (.failure, after) ∧
          after.scene = state.scene ∧ after.signals = state.signals ∧
          after.faults = state.faults ++ [{ node := node.name, fault }] := by
  constructor
  · intro descend state faulted
    have whole := surroundings.attempt_doneAs descend id node state
    rw [whole.eq_of_fault faulted]
  · intro levels state faulted
    have whole := surroundings.attempt_doneAs (surroundings.run levels) id node
      (state.note (.started id))
    have executed := whole.eq_of_fault faulted
    refine ⟨((state.note (.started id)).fail node fault).note (.finished id .failure), ?_,
      rfl, rfl, rfl⟩
    simp only [run, stands, execute, executed, close]

end Surroundings

/-! ### An example: a leap that comes upon a fault halfway -/

/-- An acrobat who leaps forwards with a fixed force, and upwards as the variable `lift`
says. -/
def trampoline : Document :=
  { actors :=
      [ { name := "Acrobat"
          events :=
            [ { name := "Leap", kind := "accelerate"
                properties :=
                  [ { name := "XFACTOR", value := .number (.whole 2) },
                    { name := "YFACTOR", value := .text "*lift" } ] } ] } ] }

/-- The graph of the trampoline: the leap is number 0. -/
def trampolineGraph : BehaviorGraph := (BehaviorGraph.load trampoline).toOption.getD {}

def trampolineShow : Surroundings Controller :=
  rehearsal trampolineGraph 8 0.5 (.fixed false 0) []

/-- The acrobat has a word where a number should be. -/
def acrobatScene : Scene Controller :=
  { actor := { id := 1, template := "Acrobat", store := .ofList [("lift", .text "high")] }
    map := .empty
    requests := []
    animation := .instant }

/-- The force forwards is known when the other one turns out to be at fault; still the
acrobat does not move. -/
theorem faulting_node_changes_nothing_trampoline :
    let leap := trampolineGraph.nodes[0]?.getD default
    let begun := EvalState.begin acrobatScene {}
    let fault := Fault.variable (.typeMismatch "lift" { expected := "float", found := "string" })
    BehaviorGraph.load trampoline = .ok trampolineGraph ∧
      trampolineGraph.nodes[0]? = some leap ∧
      ((trampolineShow.attempt (trampolineShow.run 8) 0 leap).run.run
        (begun.note (.started 0))).1 = .error fault ∧
      ∃ after, trampolineShow.run 9 0 begun = (.failure, after) ∧
        after.scene = acrobatScene ∧ after.signals = {} ∧
        after.faults = [{ node := "Leap", fault }] := by
  intro leap begun fault
  have stands : trampolineShow.graph.nodes[0]? = some leap := by rfl
  have faulted : ((trampolineShow.attempt (trampolineShow.run 8) 0 leap).run.run
      (begun.note (.started 0))).1 = .error fault := by rfl
  have inRun := (Surroundings.faulting_node_changes_nothing stands).2 8 begun faulted
  exact ⟨by rfl, stands, faulted, inRun⟩

end Stagecraft
