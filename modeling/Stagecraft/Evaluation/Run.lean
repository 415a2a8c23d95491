/-
Module: Stagecraft.Evaluation.Run
Purpose: Evaluation of a node with everything below it.
Main exports:
  Surroundings.close, Surroundings.execute, Surroundings.run, Evaluation,
  Surroundings.evaluateNode, Surroundings.evaluate
-/
import Stagecraft.Evaluation.Work

namespace Stagecraft

/-- Whether a kind raises the STOP of its node itself, instead of with its
success: an animation does so when it is complete. -/
def NodeKind.defersSignal : NodeKind → Bool
  | .animate .. => true
  | _ => false

/-- The report of one evaluation: how it ended, whether STOP was raised, the
faults in the order of their appearance, the axes taken after it, and the
journal with the latest entry first. -/
structure Evaluation where
  outcome : Outcome
  stopRaised : Bool
  faults : List NodeFault
  locks : AxisLocks := {}
  journal : List JournalEntry := []
deriving Inhabited

namespace Surroundings

variable {σ : Type} (surroundings : Surroundings σ)

/-- Close the work of a node.  A fault becomes a failure, and a success raises the
signal of the node. -/
def close (id : NodeId) (node : Node Edge) : Except Fault Outcome × EvalState σ → Ending σ
  | (.ok .success, state) =>
      let raises := node.signal = some .stop ∧ ¬ node.kind.defersSignal
      let state := if raises then state.stop else state
      (.success, state.note (.finished id .success))
  | (.ok .failure, state) => (.failure, state.note (.finished id .failure))
  | (.error fault, state) =>
      (.failure, (state.fail node fault).note (.finished id .failure))

/-- Evaluate a node that stands in the graph. -/
def execute (descend : Descent σ) (id : NodeId) (node : Node Edge) (state : EvalState σ) :
    Ending σ :=
  let state := state.note (.started id)
  close id node ((surroundings.attempt descend id node).run.run state)

/-- Evaluate a node.  `levels` says how many levels of nodes may be nested; where
none is left the node is at fault. -/
def run : (levels : Nat) → Descent σ
  | 0, id, state =>
      match surroundings.graph.nodes[id]? with
      | some node => (.failure, state.fail node (.depthExceeded surroundings.maxDepth))
      | none => (.failure, state.note (.stray id))
  | levels + 1, id, state =>
      match surroundings.graph.nodes[id]? with
      | some node => surroundings.execute (run levels) id node state
      | none => (.failure, state.note (.stray id))

/-- Evaluate a node for the actor of a scene, with the axes that others hold. -/
def evaluateNode (id : NodeId) (locks : AxisLocks) (scene : Scene σ) :
    Evaluation × Scene σ :=
  let (outcome, state) :=
    surroundings.run (surroundings.maxDepth + 1) id (.begin scene locks)
  ({ outcome
     stopRaised := state.signals.stopped
     faults := state.faults
     locks := state.signals.locks
     journal := state.journal },
    state.scene)

/-- Evaluate the node of a name as the actor of a scene knows it. -/
def evaluate (root : String) (scene : Scene σ) : Evaluation × Scene σ :=
  let home := scene.actor.home
  match surroundings.graph.resolve? home root false with
  | some id => surroundings.evaluateNode id {} scene
  | none =>
      ({ outcome := .failure
         stopRaised := false
         faults := [{ node := root, fault := .lookup (.nameNotFound home root) }] },
        scene)

end Surroundings

end Stagecraft
