/-
Module: Stagecraft.Proofs.AxisPriority
Purpose: Among the sustained actions of a tick, rank decides who moves the actor
  along an axis.
Main exports:
  Actor.speed, BehaviorGraph.WritesNoSpeed, BehaviorGraph.LandsIn,
  evaluateNode_speed, ranked_actions_share_axes
-/
import Stagecraft.Evaluation.KeyDispatch
import Stagecraft.Evaluation.Rehearsal
import Stagecraft.Proofs.Activity

namespace Stagecraft

/-!
An evaluation changes a velocity component in four ways: it propels the actor
and claims the axis, it lands and stops a fall, or it writes one of two
reserved names.  With the last one set aside, every change leaves a trace: a
claim, or the entry of a fall that measured no distance to the ground.  None of
these ways is open on an axis that is held when the evaluation begins.
-/

variable {σ : Type}

/-- The component of the velocity of an actor along an axis. -/
def Actor.speed (actor : Actor) : Axis → Float32
  | .x => actor.velocity.x
  | .y => actor.velocity.y

/-- The reserved name of the speed along an axis. -/
def Axis.quantity : Axis → Quantity
  | .x => .xSpeed
  | .y => .ySpeed

namespace BehaviorGraph

/-- No node writes a component of the velocity under its reserved name. -/
def WritesNoSpeed (graph : BehaviorGraph) : Prop :=
  ∀ node ∈ graph.nodes, ∀ name value mode, node.kind = .setVariable name value mode false →
    ∀ axis : Axis, name ≠ axis.quantity.name

/-- A fall of the graph has found the actor on firm ground. -/
def LandsIn (graph : BehaviorGraph) (journal : List JournalEntry) : Prop :=
  ∃ id node acceleration maxSpeed animation distance,
    graph.nodes[id]? = some node ∧ node.kind = .fall acceleration maxSpeed animation ∧
      .measured id distance ∈ journal ∧ distance ≤ 0

theorem LandsIn.note {graph : BehaviorGraph} {journal : List JournalEntry}
    (lands : graph.LandsIn journal) (entry : JournalEntry) : graph.LandsIn (entry :: journal) := by
  obtain ⟨id, node, acceleration, maxSpeed, animation, distance, stands, kind, measured, below⟩ :=
    lands
  exact ⟨id, node, acceleration, maxSpeed, animation, distance, stands, kind,
    List.mem_cons_of_mem _ measured, below⟩

end BehaviorGraph

/-! ### Who changes a speed -/

/-- A quantity that is not the speed along an axis may be set without any effect on it. -/
theorem Actor.speed_setQuantity_of_ne (actor : Actor) {quantity : Quantity} {axis : Axis}
    (other : quantity ≠ axis.quantity) (x : Float32) :
    (actor.setQuantity quantity x).speed axis = actor.speed axis := by
  cases axis <;> cases quantity <;> first | rfl | exact absurd rfl other

/-- Writing a variable under a name that is reserved for no speed changes no
speed. -/
theorem Actor.speed_change {actor changed : Actor} {mode : SetMode} {name : String}
    {operand : Value} (written : actor.change mode name operand = .ok changed)
    (axis : Axis) (free : name ≠ axis.quantity.name) : changed.speed axis = actor.speed axis := by
  unfold Actor.change at written
  split at written
  · next quantity found =>
      have other : quantity ≠ axis.quantity := by
        rintro rfl
        exact free (Quantity.ofName?_eq_some_iff.mp found).symm
      split at written
      · cases written
        exact actor.speed_setQuantity_of_ne other _
      · cases written
  · obtain ⟨store, -, rfl⟩ := exists_of_map_eq_ok written
    cases axis <;> rfl

/-- Only the variable that is named for it changes the speed along an axis. -/
theorem Scene.speed_changeVariable {scene changed : Scene σ} {mode : SetMode} {name : String}
    {operand : Value} {isGlobal : Bool}
    (written : scene.changeVariable mode name operand isGlobal = .ok changed) (axis : Axis)
    (free : isGlobal = false → name ≠ axis.quantity.name) :
    changed.actor.speed axis = scene.actor.speed axis := by
  unfold Scene.changeVariable at written
  split at written
  · obtain ⟨map, -, rfl⟩ := exists_of_map_eq_ok written
    rfl
  · next isLocal =>
      obtain ⟨actor, stored, rfl⟩ := exists_of_map_eq_ok written
      exact Actor.speed_change (eq_ok_of_mapError_eq_ok stored) axis (free (by simpa using isLocal))

namespace EvalState

/-- The velocity along one axis does not depend on that along the other. -/
theorem speed_setVelocity (state : EvalState σ) (axis other : Axis) (v : Float32)
    (differs : other ≠ axis) :
    (state.setVelocity axis v).scene.actor.speed other = state.scene.actor.speed other := by
  cases axis <;> cases other <;> first | rfl | exact absurd rfl differs

end EvalState

/-! ### One evaluation -/

/-- What an evaluation that began with these axes held and this actor has done
to the speeds so far. -/
structure Steered (surroundings : Surroundings σ) (locks : AxisLocks) (start : Actor)
    (state : EvalState σ) : Prop where
  inherited : state.signals.inherited = locks
  held : ∀ axis, locks.holds axis = true → state.scene.actor.speed axis = start.speed axis
  traced : ∀ axis, state.scene.actor.speed axis = start.speed axis ∨
    state.signals.claimed.holds axis = true ∨
      axis = .y ∧ surroundings.graph.LandsIn state.journal

namespace Steered

variable {surroundings : Surroundings σ} {locks : AxisLocks} {start : Actor}
  {before after : EvalState σ}

/-- A change that keeps the speeds and forgets nothing keeps the record. -/
theorem of_same_speed (steered : Steered surroundings locks start before)
    (signals : after.signals.inherited = before.signals.inherited)
    (claims : after.signals.claimed = before.signals.claimed)
    (speeds : ∀ axis, after.scene.actor.speed axis = before.scene.actor.speed axis)
    (journal : surroundings.graph.LandsIn before.journal →
      surroundings.graph.LandsIn after.journal) :
    Steered surroundings locks start after where
  inherited := signals.trans steered.inherited
  held axis taken := (speeds axis).trans (steered.held axis taken)
  traced axis := by
    rw [speeds axis, claims]
    rcases steered.traced axis with same | claimed | ⟨vertical, lands⟩
    · exact .inl same
    · exact .inr (.inl claimed)
    · exact .inr (.inr ⟨vertical, journal lands⟩)

/-- An axis that the evaluation may use was not held when it began. -/
theorem not_held (steered : Steered surroundings locks start before) {axis : Axis}
    (free : before.signals.mayUse axis = true) : locks.holds axis ≠ true := by
  rw [Signals.mayUse, steered.inherited] at free
  simpa using free

/-- Propelling the actor claims the axis. -/
theorem propel (steered : Steered surroundings locks start before) {axis : Axis}
    (free : before.signals.mayUse axis = true) (v : Float32) :
    Steered surroundings locks start ((before.setVelocity axis v).claim axis) where
  inherited := steered.inherited
  held other taken := by
    have differs : other ≠ axis := by
      rintro rfl
      exact steered.not_held free taken
    exact (before.speed_setVelocity axis other v differs).trans (steered.held other taken)
  traced other := by
    have claims : ((before.setVelocity axis v).claim axis).signals.claimed =
        before.signals.claimed.hold axis := rfl
    rw [claims, AxisLocks.holds_hold]
    by_cases differs : other = axis
    · exact .inr (.inl (by simp [differs]))
    · have same := before.speed_setVelocity axis other v differs
      rcases steered.traced other with kept | claimed | landed
      · exact .inl (same.trans kept)
      · exact .inr (.inl (by simp [claimed]))
      · exact .inr (.inr landed)

/-- A fall that ends leaves its entry. -/
theorem land (steered : Steered surroundings locks start before)
    (lands : surroundings.graph.LandsIn before.journal) :
    Steered surroundings locks start before.land := by
  simp only [EvalState.land]
  split
  · next falling =>
      refine ⟨steered.inherited, ?_, ?_⟩
      · intro axis taken
        have differs : axis ≠ .y := by
          rintro rfl
          exact steered.not_held falling.2 taken
        exact (before.speed_setVelocity .y axis 0 differs).trans (steered.held axis taken)
      · intro axis
        by_cases vertical : axis = .y
        · exact .inr (.inr ⟨vertical, lands⟩)
        · have same := before.speed_setVelocity .y axis 0 vertical
          rcases steered.traced axis with kept | claimed | landed
          · exact .inl (same.trans kept)
          · exact .inr (.inl claimed)
          · exact .inr (.inr landed)
  · exact steered

/-- An entry in the journal keeps the record. -/
theorem note (steered : Steered surroundings locks start before) (entry : JournalEntry) :
    Steered surroundings locks start (before.note entry) :=
  steered.of_same_speed rfl rfl (fun _ => rfl) fun lands => lands.note entry

/-- Everything that happens in an evaluation keeps the record. -/
theorem keeps (quiet : surroundings.graph.WritesNoSpeed) (locks : AxisLocks) (start : Actor) :
    surroundings.Keeps (Steered surroundings locks start) where
  note entry steered := steered.note entry
  fail node fault steered := steered.of_same_speed rfl rfl (fun _ => rfl) fun lands => lands
  change := by
    intro id node before after stands change steered
    cases change with
    | propel axis change free => exact steered.propel free _
    | measure => exact steered.note _
    | land kind grounded =>
        apply (steered.note _).land
        exact ⟨id, node, _, _, _, _, stands, kind, List.mem_cons_self, grounded⟩
    | assign kind changed =>
        refine steered.of_same_speed rfl rfl (fun axis => ?_) fun lands => lands
        refine Scene.speed_changeVariable changed axis fun isLocal => ?_
        subst isLocal
        exact quiet node (List.mem_of_getElem? stands) _ _ _ kind axis
    | complete => exact steered.note _
    | move | turn | leave | pose | pass | animate | stop | issue =>
        exact steered.of_same_speed rfl rfl (fun _ => rfl) fun lands => lands

/-- Nothing has been done at the beginning. -/
theorem begin (surroundings : Surroundings σ) (locks : AxisLocks) (scene : Scene σ) :
    Steered surroundings locks scene.actor (.begin scene locks) where
  inherited := rfl
  held _ _ := rfl
  traced _ := .inl rfl

end Steered

namespace Surroundings

variable {surroundings : Surroundings σ}

/-- An evaluation leaves the speed along a held axis alone, and it holds every
axis along which it changed the speed, except for the end of a fall. -/
theorem evaluateNode_speed (quiet : surroundings.graph.WritesNoSpeed) (id : NodeId)
    (locks : AxisLocks) (scene : Scene σ) (axis : Axis) :
    let ended := surroundings.evaluateNode id locks scene
    (locks.holds axis = true →
      ended.1.locks.holds axis = true ∧ ended.2.actor.speed axis = scene.actor.speed axis) ∧
    (ended.2.actor.speed axis ≠ scene.actor.speed axis →
      ended.1.locks.holds axis = true ∨
        axis = .y ∧ surroundings.graph.LandsIn ended.1.journal) := by
  intro ended
  obtain ⟨state, steered, after, taken, journal⟩ :=
    (Steered.keeps quiet locks scene.actor).evaluateNode id (Steered.begin surroundings locks scene)
  have holds : ended.1.locks.holds axis =
      (locks.holds axis || state.signals.claimed.holds axis) := by
    rw [taken, Signals.locks, steered.inherited, AxisLocks.holds_union]
  rw [holds, journal, after]
  constructor
  · intro held
    exact ⟨by simp [held], steered.held axis held⟩
  · intro changed
    rcases steered.traced axis with same | claimed | landed
    · exact absurd same changed
    · exact .inl (by simp [claimed])
    · exact .inr landed

end Surroundings

/-! ### The ranked pass -/

/-- The speed along an axis in the middle of the pass. -/
def RankedPass.speed (pass : RankedPass σ) (axis : Axis) : Float32 :=
  pass.state.scene.actor.speed axis

namespace Surroundings

variable {surroundings : Surroundings σ}

/-- The evaluation of an action in the middle of the pass. -/
def evaluationOf (surroundings : Surroundings σ) (pass : RankedPass σ)
    (entry : KeyName × SustainedAction) : Evaluation :=
  (surroundings.evaluateNode entry.2.event pass.locks pass.state.scene).1

/-- The speed after one action of the pass is what its event leaves. -/
theorem speed_sustainOne (pass : RankedPass σ) (entry : KeyName × SustainedAction)
    (axis : Axis) :
    (surroundings.sustainOne pass entry).speed axis =
      (surroundings.evaluateNode entry.2.event pass.locks pass.state.scene).2.actor.speed axis := by
  simp only [sustainOne, RankedPass.speed]
  split <;> rfl

/-- One action leaves a held axis alone. -/
theorem sustainOne_held (quiet : surroundings.graph.WritesNoSpeed) (pass : RankedPass σ)
    (entry : KeyName × SustainedAction) {axis : Axis} (held : pass.locks.holds axis = true) :
    (surroundings.sustainOne pass entry).locks.holds axis = true ∧
      (surroundings.sustainOne pass entry).speed axis = pass.speed axis := by
  obtain ⟨kept, same⟩ :=
    (evaluateNode_speed quiet entry.2.event pass.locks pass.state.scene axis).1 held
  exact ⟨kept, (speed_sustainOne pass entry axis).trans same⟩

/-- One action holds every axis along which it changes the speed, except for the
end of a fall. -/
theorem sustainOne_changed (quiet : surroundings.graph.WritesNoSpeed) (pass : RankedPass σ)
    (entry : KeyName × SustainedAction) {axis : Axis}
    (changed : (surroundings.sustainOne pass entry).speed axis ≠ pass.speed axis) :
    (surroundings.sustainOne pass entry).locks.holds axis = true ∨
      axis = .y ∧ surroundings.graph.LandsIn (surroundings.evaluationOf pass entry).journal := by
  rw [speed_sustainOne] at changed
  exact (evaluateNode_speed quiet entry.2.event pass.locks pass.state.scene axis).2 changed

/-- Any number of actions leave a held axis alone. -/
theorem foldl_sustainOne_held (quiet : surroundings.graph.WritesNoSpeed)
    (entries : List (KeyName × SustainedAction)) {pass : RankedPass σ} {axis : Axis}
    (held : pass.locks.holds axis = true) :
    (entries.foldl surroundings.sustainOne pass).locks.holds axis = true ∧
      (entries.foldl surroundings.sustainOne pass).speed axis = pass.speed axis := by
  induction entries generalizing pass with
  | nil => exact ⟨held, rfl⟩
  | cons entry rest ih =>
      obtain ⟨kept, same⟩ := sustainOne_held quiet pass entry held
      obtain ⟨stillKept, stillSame⟩ := ih kept
      exact ⟨stillKept, stillSame.trans same⟩

theorem sustain_append (done more : List (KeyName × SustainedAction)) (state : Dispatched σ) :
    surroundings.sustain (done ++ more) state =
      more.foldl surroundings.sustainOne (surroundings.sustain done state) :=
  List.foldl_append

/-- Once an axis is held in the pass, all further actions leave it alone. -/
theorem sustain_held (quiet : surroundings.graph.WritesNoSpeed)
    (done more : List (KeyName × SustainedAction)) (state : Dispatched σ) {axis : Axis}
    (held : (surroundings.sustain done state).locks.holds axis = true) :
    (surroundings.sustain (done ++ more) state).locks.holds axis = true ∧
      (surroundings.sustain (done ++ more) state).speed axis =
        (surroundings.sustain done state).speed axis := by
  rw [sustain_append]
  exact foldl_sustainOne_held quiet more held

theorem sustain_snoc (done : List (KeyName × SustainedAction))
    (entry : KeyName × SustainedAction) (state : Dispatched σ) :
    surroundings.sustain (done ++ [entry]) state =
      surroundings.sustainOne (surroundings.sustain done state) entry :=
  sustain_append done [entry] state

/-- An action that changes the speed along `x` finds the axis free, so none of
the actions before it has driven it. -/
theorem free_of_changed (quiet : surroundings.graph.WritesNoSpeed)
    {done higher : List (KeyName × SustainedAction)} {entry : KeyName × SustainedAction}
    {state : Dispatched σ} {axis : Axis}
    (changed : (surroundings.sustain (done ++ [entry]) state).speed axis ≠
      (surroundings.sustain done state).speed axis) (before : higher <+: done) :
    (surroundings.sustain higher state).locks.holds axis = false := by
  rw [← Bool.not_eq_true]
  intro held
  rcases before with ⟨more, rfl⟩
  obtain ⟨stillHeld, -⟩ := sustain_held quiet higher more state held
  exact changed (sustain_held quiet (higher ++ more) [entry] state stillHeld).2

/-- Two actions of one pass that both change the speed along `x` are the same
one: the first of them holds the axis against the second. -/
theorem not_length_lt_of_changed (quiet : surroundings.graph.WritesNoSpeed)
    {ranked done other : List (KeyName × SustainedAction)}
    {entry otherEntry : KeyName × SustainedAction} {state : Dispatched σ}
    (here : done ++ [entry] <+: ranked) (there : other ++ [otherEntry] <+: ranked)
    (changed : (surroundings.sustain (done ++ [entry]) state).speed .x ≠
      (surroundings.sustain done state).speed .x)
    (otherChanged : (surroundings.sustain (other ++ [otherEntry]) state).speed .x ≠
      (surroundings.sustain other state).speed .x) : ¬ done.length < other.length := by
  intro earlier
  have otherHere : other <+: ranked := (List.prefix_append other [otherEntry]).trans there
  have within : done ++ [entry] <+: other :=
    List.prefix_of_prefix_length_le here otherHere
      (by simpa using Nat.succ_le_of_lt earlier)
  have held : (surroundings.sustain (done ++ [entry]) state).locks.holds .x = true := by
    rw [sustain_snoc] at changed ⊢
    rcases sustainOne_changed quiet _ entry changed with held | ⟨vertical, -⟩
    · exact held
    · cases vertical
  have free := free_of_changed quiet otherChanged within
  rw [held] at free
  cases free

/-- **Rank decides each axis.**  In the ranked pass of a dispatch, an axis that
some action has left held stays held, and no action after it changes the
component of the velocity along it.  An action that changes a component holds its
axis, unless the component is the vertical one and a fall found firm ground.  So
at most one action changes the horizontal component, and no action of a higher
rank has driven that axis. -/
theorem ranked_actions_share_axes (surroundings : Surroundings σ)
    (quiet : surroundings.graph.WritesNoSpeed) (template : Template)
    (keys : KeyName → KeyEdge) (scene : Scene σ) :
    let handled := surroundings.handleAll template keys scene
    let ranked := handled.sustained.ranked
    let after := fun entries => surroundings.sustain entries handled
    (∀ axis done more, done ++ more <+: ranked → (after done).locks.holds axis = true →
      (after (done ++ more)).locks.holds axis = true ∧
        (after (done ++ more)).speed axis = (after done).speed axis) ∧
    (∀ done entry, done ++ [entry] <+: ranked →
      ((after (done ++ [entry])).speed .x ≠ (after done).speed .x →
        (after (done ++ [entry])).locks.holds .x = true) ∧
      ((after (done ++ [entry])).speed .y ≠ (after done).speed .y →
        (after (done ++ [entry])).locks.holds .y = true ∨
          surroundings.graph.LandsIn (surroundings.evaluationOf (after done) entry).journal)) ∧
    (∀ done entry, done ++ [entry] <+: ranked →
      (after (done ++ [entry])).speed .x ≠ (after done).speed .x →
        (∀ higher, higher <+: done → (after higher).locks.holds .x = false) ∧
        ∀ other otherEntry, other ++ [otherEntry] <+: ranked →
          (after (other ++ [otherEntry])).speed .x ≠ (after other).speed .x → other = done) := by
  intro handled ranked after
  refine ⟨?_, ?_, ?_⟩
  · intro axis done more _ held
    exact sustain_held quiet done more handled held
  · intro done entry _
    simp only [after, sustain_snoc]
    constructor
    · intro changed
      rcases sustainOne_changed quiet _ entry changed with held | ⟨vertical, -⟩
      · exact held
      · cases vertical
    · intro changed
      rcases sustainOne_changed quiet _ entry changed with held | ⟨-, landed⟩
      · exact .inl held
      · exact .inr landed
  · intro done entry here changed
    refine ⟨fun higher before => free_of_changed quiet changed before, ?_⟩
    intro other otherEntry there otherChanged
    -- Who changes the speed holds the axis from then on, so neither turn lies behind the
    -- other.
    have notAfter := not_length_lt_of_changed quiet here there changed otherChanged
    have notBefore := not_length_lt_of_changed quiet there here otherChanged changed
    have sameLength : other.length = done.length := by omega
    have within : other <+: done :=
      List.prefix_of_prefix_length_le ((List.prefix_append _ _).trans there)
        ((List.prefix_append _ _).trans here) (Nat.le_of_eq sameLength)
    exact within.eq_of_length sameLength

/-! ### An example: two keys that pull to both sides -/

/-- A sustained binding of a key. -/
def sustainedBinding (key : String) (event : NodeId) (priority : Priority) : KeyBinding :=
  { key := { text := key }
    event := some event
    down := false
    up := false
    sustained := true
    priority
    stopEvent := none }

/-- A graph of two nodes that accelerate to the right and to the left. -/
def tugOfWar : Surroundings Controller :=
  rehearsal
    { nodes :=
        [ { name := "Right", home := .map
            kind := .accelerate (.literal 60) (.literal 0) none none },
          { name := "Left", home := .map
            kind := .accelerate (.literal (-60)) (.literal 0) none none } ] }
    8 0.5 (.fixed false 0) []

/-- A template that goes left and, with more weight, right. -/
def wrestler : Template :=
  { name := "Wrestler"
    bindings := [sustainedBinding "A" 1 .low, sustainedBinding "D" 0 .high]
    responses := {}
    hitboxes := [] }

/-- Both keys have just gone down. -/
def bothPressed : Dispatched Controller :=
  tugOfWar.handleAll wrestler (fun _ => { held := true, pressed := true })
    { actor := { id := 1, template := "Wrestler" }
      map := .empty
      requests := []
      animation := .instant }

/-- The wrestler goes right: the action of higher rank drives the axis, and the
other one leaves it alone. -/
theorem ranked_actions_share_axes_tugOfWar :
    tugOfWar.graph.WritesNoSpeed ∧
      ∃ right left : KeyName × SustainedAction,
        bothPressed.sustained.ranked = [right, left] ∧
          (tugOfWar.sustain [right] bothPressed).speed .x = 30 ∧
          (tugOfWar.sustain [right] bothPressed).locks.holds .x = true ∧
          (tugOfWar.sustain [right, left] bothPressed).speed .x = 30 := by
  have quiet : tugOfWar.graph.WritesNoSpeed := by
    intro node member name value mode kind
    simp only [tugOfWar, rehearsal, List.mem_cons, List.not_mem_nil, or_false] at member
    rcases member with rfl | rfl <;> cases kind
  obtain ⟨kept, claimed, -⟩ := ranked_actions_share_axes tugOfWar quiet wrestler
    (fun _ => { held := true, pressed := true })
    { actor := { id := 1, template := "Wrestler" }
      map := .empty
      requests := []
      animation := .instant }
  let right : KeyName × SustainedAction :=
    ({ text := "D" }, { event := 0, priority := .high, seq := 1, stopEvent := none })
  let left : KeyName × SustainedAction :=
    ({ text := "A" }, { event := 1, priority := .low, seq := 0, stopEvent := none })
  have ranked : bothPressed.sustained.ranked = [right, left] := by decide
  have goes : (tugOfWar.sustain [right] bothPressed).speed .x = 30 := by decide
  have start : (tugOfWar.sustain [] bothPressed).speed .x = 0 := by decide
  have held : (tugOfWar.sustain [right] bothPressed).locks.holds .x = true := by
    refine (claimed [] right ⟨[left], ranked.symm⟩).1 ?_
    rw [List.nil_append]
    exact fun same => absurd (goes.symm.trans (same.trans start)) (by decide)
  refine ⟨quiet, right, left, ranked, goes, held, ?_⟩
  exact (kept .x [right] [left] ⟨[], ranked.symm⟩ held).2.trans goes

end Surroundings

end Stagecraft
