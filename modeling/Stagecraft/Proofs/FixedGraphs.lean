/-
Module: Stagecraft.Proofs.FixedGraphs
Purpose: Where every parameter is fixed and no child is dynamic, nothing is looked up in
  vain: what loading has checked, no evaluation objects to.
Main exports:
  Parameter.isFixed, NodeKind.isFixed, NodeKind.HasIndices, FaultsIn, NodeKind.Risks,
  Surroundings.work_risks, BehaviorGraph.hasIndices_of_load, fixed_graph_looks_up_nothing
-/
import Stagecraft.Evaluation.Rehearsal
import Stagecraft.Proofs.Asking
import Stagecraft.Proofs.FaultSources
import Stagecraft.Proofs.Walk

namespace Stagecraft

variable {σ α β : Type}

/-! ### Fixed parameters -/

def Parameter.isFixed : Parameter α → Bool
  | .literal _ => true
  | .variable _ => false

def AnimationSpan.isFixed : AnimationSpan → Bool
  | .once => true
  | .gameFrames count | .cycles count | .animationFrames count => count.isFixed

namespace NodeKind

/-- Whether all parameters of a node are fixed in the document. -/
def isFixed : NodeKind → Bool
  | accelerate x y xMax yMax =>
      x.isFixed && y.isFixed && xMax.all Parameter.isFixed && yMax.all Parameter.isFixed
  | decelerate x y => x.isFixed && y.isFixed
  | fall acceleration maxSpeed _ => acceleration.isFixed && maxSpeed.isFixed
  | jump height duration slowFactor _ =>
      height.isFixed && duration.isFixed && slowFactor.isFixed
  | setVariable _ value _ _ => value.isFixed
  | animate _ _ span => span.isFixed
  | sound path => path.isFixed
  | playMusic path repetitions fadeIn => path.isFixed && repetitions.isFixed && fadeIn.isFixed
  | rotate degrees _ => degrees.isFixed
  | spawnText text _ _ => text.isFixed
  | spawnActor _ _ x y _ => x.isFixed && y.isFixed
  | setFrame _ _ frame => frame.isFixed
  | onGround tolerance => tolerance.isFixed
  | compare left right _ => left.isFixed && right.isFixed
  | layerState layer _ => layer.isFixed
  | changeMap path _ => path.isFixed
  | move | multi | eraseSelf | engineWrapper | switch _ | singleGuard | collision ..
  | mouseButton _ | templateLayer .. | closeMap | quit => true

/-- Fixed parameters that count from zero are not negative. -/
def HasIndices : NodeKind → Prop
  | playMusic _ _ (.literal fadeIn) => 0 ≤ fadeIn
  | setFrame _ _ (.literal frame) => 0 ≤ frame
  | _ => True

/-- The faults that are left to a node whose parameters are fixed: a jump may have no duration,
a change of a variable may not suit its value, and two values may not compare. -/
inductive Risks : NodeKind → Fault → Prop where
  | jump {height duration slowFactor : Parameter Float32} {animation : AnimationKind}
      (reason : String) :
      Risks (jump height duration slowFactor animation) (.invalidParameter "JUMP_DURATION" reason)
  | reserved {name : String} {value : Value} {mode : SetMode} {quantity : Quantity}
      (known : Quantity.ofName? name = some quantity) (other : value.number? = none) :
      Risks (setVariable name (.literal value) mode false)
        (.variable (.typeMismatch name { expected := "float", found := value.typeName }))
  | combine {name : String} {value : Parameter Value} {mode : SetMode} {isGlobal : Bool}
      (combines : mode ≠ .assign) (current operand : String) :
      Risks (setVariable name value mode isGlobal)
        (.variable (.invalidOperation name current operand))
  | compare {left right : Parameter Value} {relations : Relations} (one other : String) :
      Risks (compare left right relations) (.incomparable one other)

end NodeKind

/-! ### Faults of one computation -/

/-- All faults of a computation are among some. -/
def FaultsIn (allowed : Fault → Prop) (computation : Except Fault α) : Prop :=
  ∀ fault, computation = .error fault → allowed fault

namespace FaultsIn

variable {allowed : Fault → Prop}

theorem ok (value : α) : FaultsIn allowed (.ok value) := by
  intro fault failed
  cases failed

theorem error {fault : Fault} (may : allowed fault) :
    FaultsIn allowed (.error fault : Except Fault α) := by
  intro other failed
  cases failed
  exact may

theorem bind {first : Except Fault α} {next : α → Except Fault β} (one : FaultsIn allowed first)
    (two : ∀ value, FaultsIn allowed (next value)) : FaultsIn allowed (first >>= next) := by
  cases first with
  | error fault => exact error (one fault rfl)
  | ok value => exact two value

theorem map {first : Except Fault α} (one : FaultsIn allowed first) (f : α → β) :
    FaultsIn allowed (first.map f) := by
  cases first with
  | error fault => exact error (one fault rfl)
  | ok value => exact ok (f value)

end FaultsIn

namespace Scene

variable {allowed : Fault → Prop} (scene : Scene σ)

/-- A fixed parameter is read without fault. -/
theorem read_faultsIn [Accepts α] {parameter : Parameter α} (fixed : parameter.isFixed = true) :
    FaultsIn allowed (scene.read parameter) := by
  cases parameter with
  | literal value => exact .ok value
  | «variable» name => cases fixed

/-- What follows a fixed parameter knows its value. -/
theorem read_then_faultsIn [Accepts α] {value : α} {next : α → Except Fault β}
    (later : FaultsIn allowed (next value)) :
    FaultsIn allowed (scene.read (.literal value) >>= next) :=
  later

/-- A parameter that is fixed is never looked up, so that no reading of it fails. -/
theorem readOptional_faultsIn [Accepts α] {parameter : Option (Parameter α)}
    (fixed : parameter.all Parameter.isFixed = true) :
    FaultsIn allowed (scene.readOptional parameter) := by
  cases parameter with
  | none => exact .ok none
  | some parameter => exact (scene.read_faultsIn fixed).map some

theorem frameLength_faultsIn {span : AnimationSpan} (fixed : span.isFixed = true) :
    FaultsIn allowed (scene.frameLength span) := by
  cases span with
  | once => exact .ok FrameLength.once
  | gameFrames count | cycles count | animationFrames count =>
      exact (scene.read_faultsIn fixed).map _

end Scene

/-- A number that is not negative is an index. -/
theorem indexOf_faultsIn {allowed : Fault → Prop} (property : String) {n : Int32} (index : 0 ≤ n) :
    FaultsIn allowed (indexOf property n) := by
  rw [indexOf, if_neg (Int32.not_lt.mpr index)]
  exact .ok _

/-- A jump can only be at fault for its duration. -/
theorem Scene.jumpProfile_faultsIn {allowed : Fault → Prop} (height duration slowFactor : Float32)
    (may : ∀ reason, allowed (.invalidParameter "JUMP_DURATION" reason)) :
    FaultsIn allowed (Scene.jumpProfile height duration slowFactor) := by
  unfold jumpProfile
  split
  · exact .ok _
  · exact .error (may _)

/-- A comparison can only be at fault for values that are not comparable. -/
theorem Value.compare_faultsIn {allowed : Fault → Prop} (relations : Relations) (left right : Value)
    (may : ∀ one other, allowed (.incomparable one other)) :
    FaultsIn allowed (Value.compare relations left right) := by
  unfold Value.compare
  repeat' split
  all_goals first | exact .ok _ | exact .error (may _ _)

/-- A variable objects only to being combined with another value. -/
theorem VariableStore.change_faultsIn {allowed : Fault → Prop} (store : VariableStore)
    (mode : SetMode) (name : String) (operand : Value)
    (may : mode ≠ .assign → ∀ current,
      allowed (.variable (.invalidOperation name current operand.typeName))) :
    FaultsIn allowed ((store.change mode name operand).mapError .variable) := by
  unfold change next
  split
  · exact .ok _
  · next current _ =>
      cases combined : mode.combine? current operand with
      | some next => exact .ok _
      | none =>
          refine .error (may ?_ _)
          rintro rfl
          exact nomatch combined

/-- A change of a variable to a fixed value. -/
theorem Scene.changeVariable_risks (scene : Scene σ) (mode : SetMode) (name : String)
    (operand : Value) (isGlobal : Bool) :
    FaultsIn (NodeKind.setVariable name (.literal operand) mode isGlobal).Risks
      (scene.changeVariable mode name operand isGlobal) := by
  have combine : mode ≠ .assign → ∀ current,
      (NodeKind.setVariable name (.literal operand) mode isGlobal).Risks
        (.variable (.invalidOperation name current operand.typeName)) :=
    fun combines current => .combine combines current _
  cases isGlobal with
  | true => exact (VariableStore.change_faultsIn _ _ _ _ combine).map _
  | false =>
      simp only [changeVariable, Bool.false_eq_true, if_false, Actor.change]
      cases known : Quantity.ofName? name with
      | some quantity =>
          cases number : operand.number? with
          | some x => exact .ok _
          | none => exact .error (.reserved known number)
      | none =>
          refine .map ?_ _
          rw [mapError_map]
          exact (VariableStore.change_faultsIn _ _ _ _ combine).map _

namespace Surroundings

variable (surroundings : Surroundings σ) (descend : Descent σ) (id : NodeId) (node : Node Edge)

/-- A node whose parameters are fixed comes upon the faults of its kind only. -/
theorem work_risks (state : EvalState σ) (fixed : node.kind.isFixed = true)
    (indices : node.kind.HasIndices) :
    FaultsIn node.kind.Risks (surroundings.work descend id node state) := by
  have read {γ : Type} [Accepts γ] {parameter : Parameter γ} (given : parameter.isFixed = true) :
      FaultsIn node.kind.Risks (state.scene.read parameter) := state.scene.read_faultsIn given
  unfold work
  revert read fixed indices
  cases node.kind with
  | accelerate x y xMax yMax =>
      intro fixed _ read
      simp only [NodeKind.isFixed, Bool.and_eq_true] at fixed
      obtain ⟨⟨⟨fixedX, fixedY⟩, fixedXMax⟩, fixedYMax⟩ := fixed
      exact .bind (read fixedX) fun _ => .bind (read fixedY) fun _ =>
        .bind (state.scene.readOptional_faultsIn fixedXMax) fun _ =>
          .bind (state.scene.readOptional_faultsIn fixedYMax) fun _ => .ok _
  | decelerate x y =>
      intro fixed _ read
      simp only [NodeKind.isFixed, Bool.and_eq_true] at fixed
      exact .bind (read fixed.1) fun _ => .bind (read fixed.2) fun _ => .ok _
  | fall acceleration maxSpeed animation =>
      intro fixed _ read
      simp only [NodeKind.isFixed, Bool.and_eq_true] at fixed
      refine .bind (read fixed.1) fun factor => .bind (read fixed.2) fun limit => ?_
      dsimp only
      split <;> exact .ok _
  | jump height duration slowFactor animation =>
      intro fixed _ read
      simp only [NodeKind.isFixed, Bool.and_eq_true] at fixed
      exact .bind (read fixed.1.1) fun _ => .bind (read fixed.1.2) fun _ =>
        .bind (read fixed.2) fun _ =>
          .bind (Scene.jumpProfile_faultsIn _ _ _ .jump) fun _ => .ok _
  | setVariable name value mode isGlobal =>
      intro fixed _ _
      cases value with
      | «variable» other => cases fixed
      | literal operand =>
          exact state.scene.read_then_faultsIn
            (.bind (state.scene.changeVariable_risks mode name operand isGlobal) fun _ => .ok _)
  | animate animation direction span =>
      intro fixed _ _
      refine .bind (state.scene.frameLength_faultsIn fixed) fun frames => ?_
      dsimp only
      repeat' split
      all_goals exact .ok _
  | playMusic path repetitions fadeIn =>
      intro fixed indices read
      simp only [NodeKind.isFixed, Bool.and_eq_true] at fixed
      -- Only a variable could still be negative here, and none is left.
      cases fadeIn with
      | «variable» name => cases fixed.2
      | literal n =>
          exact .bind (read fixed.1.1) fun _ => .bind (read fixed.1.2) fun _ =>
            state.scene.read_then_faultsIn
              (.bind (indexOf_faultsIn "FADE IN" indices) fun _ => .ok _)
  | setFrame animation direction frame =>
      intro fixed indices _
      cases frame with
      | «variable» name => cases fixed
      | literal n =>
          exact state.scene.read_then_faultsIn
            (.bind (indexOf_faultsIn "ANIMATION_FRAME" indices) fun _ => .ok _)
  | sound parameter | rotate parameter | spawnText parameter | onGround parameter
  | layerState parameter | changeMap parameter =>
      intro fixed _ read
      exact .bind (read fixed) fun _ => .ok _
  | spawnActor template layer x y name =>
      intro fixed _ read
      simp only [NodeKind.isFixed, Bool.and_eq_true] at fixed
      exact .bind (read fixed.1) fun _ => .bind (read fixed.2) fun _ => .ok _
  | compare left right relations =>
      intro fixed _ read
      simp only [NodeKind.isFixed, Bool.and_eq_true] at fixed
      exact .bind (read fixed.1) fun _ => .bind (read fixed.2) fun _ =>
        .bind (Value.compare_faultsIn _ _ _ .compare) fun _ => .ok _
  | engineWrapper =>
      intro _ _ _
      cases node.children.event <;> exact .ok _
  | singleGuard =>
      intro _ _ _
      dsimp only
      split <;> exact .ok _
  | _ =>
      intro _ _ _
      exact .ok _

end Surroundings

/-! ### What loading has checked -/

namespace Definition

open PropertyBag

/-- A literal to which nothing was objected passes the check. -/
theorem passes_of_check {key : String} {objection : Objection} {passes : α → Bool} {value : α}
    {bag : PropertyBag}
    (sound : ((check key objection passes (.literal value)).run bag).2.problems = []) :
    passes value = true := by
  cases ok : passes value with
  | true => rfl
  | false =>
      simp only [check, ok] at sound
      exact absurd sound (List.concat_ne_nil _ _)

/-- A kind without problems has no negative index. -/
theorem hasIndices_kind {kindName : KindName} {bag : PropertyBag}
    (sound : ((kind kindName).run bag).2.problems = []) :
    ((kind kindName).run bag).1.1.HasIndices := by
  cases kindName with
  | playMusic =>
      simp only [kind, run_bind] at sound ⊢
      have checked := (asks_required "PATH" "").grows _ sound
      generalize (parameterOr "FADE IN" (0 : Int32)).run _ = given at checked ⊢
      rcases given with ⟨value | name, rest⟩
      · have index : 0 ≤ value := of_decide_eq_true (passes_of_check checked)
        exact index
      · exact True.intro
  | setFrame =>
      simp only [kind, run_bind] at sound ⊢
      have shown := (asks_direction "DIRECTION").grows _ sound
      have checked := (asks_animation "ANIMATION_TYPE" .current).grows _ shown
      generalize (parameterOr "ANIMATION_FRAME" (0 : Int32)).run _ = given at checked ⊢
      rcases given with ⟨value | name, rest⟩
      · have index : 0 ≤ value := of_decide_eq_true (passes_of_check checked)
        exact index
      · exact True.intro
  | setVariable =>
      simp only [kind, run_bind]
      split <;> simp only [run_bind] <;> exact True.intro
  | rotate | switch | mouseButton | layerState =>
      simp only [kind, run_bind]
      split <;> exact True.intro
  | compare =>
      simp only [kind, run_bind]
      split <;> split <;> exact True.intro
  | singleGuard =>
      simp only [kind, run_bind]
      split <;> exact True.intro
  | _ => exact True.intro

/-- What is wrong with the kind of a node is wrong with the node. -/
theorem exists_sound_kind_node (name : String) (home : Namespace) (kindName : KindName)
    (bag : PropertyBag) : ∃ start : PropertyBag,
      ((Definition.node name home kindName).run bag).1.kind =
          ((Definition.kind kindName).run start).1.1 ∧
        (((Definition.node name home kindName).run bag).2.problems = [] →
          ((Definition.kind kindName).run start).2.problems = []) := by
  simp only [Definition.node, run_bind]
  cases kindName.isTest <;> cases kindName.takesNumbered <;>
    exact ⟨_, rfl, fun sound => (List.append_eq_nil_iff.mp sound).1⟩

end Definition

/-- The literal indices of a node that was defined are not negative. -/
theorem NodeEntry.hasIndices_of_define {entry : NodeEntry} {home : Namespace}
    {node : Node Reference} (defined : entry.define home = .ok node) : node.kind.HasIndices := by
  obtain ⟨kindName, -, rfl, sound⟩ := define_eq_ok_iff.mp defined
  obtain ⟨start, made, checked⟩ :=
    Definition.exists_sound_kind_node entry.name home kindName (.ofEntries entry.properties)
  rw [made]
  exact Definition.hasIndices_kind (checked sound)

/-- No node of a loaded graph has a negative index. -/
theorem BehaviorGraph.hasIndices_of_load {document : Document} {graph : BehaviorGraph}
    (loaded : BehaviorGraph.load document = .ok graph) {id : NodeId} {node : Node Edge}
    (stands : graph.nodes[id]? = some node) : node.kind.HasIndices := by
  obtain ⟨catalogue, declares, errorless, rfl⟩ := load_eq_ok_iff.mp loaded
  rw [(declares.clean errorless).getElem?_linked] at stands
  obtain ⟨declared, standsDeclared, links⟩ := Option.bind_eq_some_iff.mp stands
  obtain ⟨entry, -, defines⟩ :=
    exists_of_forall₂_of_mem declares.nodes (List.mem_of_getElem? standsDeclared)
  rw [(Catalogue.eq_of_linkNode? links).2.1]
  exact NodeEntry.hasIndices_of_define defines.defined

/-! ### Fixed graphs -/

/-- All parameters of a graph are fixed, and no child is dynamic. -/
structure BehaviorGraph.Fixed (graph : BehaviorGraph) : Prop where
  parameters : ∀ (id : NodeId) (node : Node Edge), graph.nodes[id]? = some node →
    node.kind.isFixed = true
  children : graph.Static

/-- In a loaded graph that is fixed, every fault but those of the depth was met by an execution
of a node of that name, and is a risk of its kind. -/
theorem exists_risks_of_mem_faults {document : Document} {graph : BehaviorGraph}
    (loaded : BehaviorGraph.load document = .ok graph) (fixed : graph.Fixed)
    {surroundings : Surroundings σ} (shared : surroundings.graph = graph) {id : NodeId}
    {locks : AxisLocks} {scene : Scene σ} {entry : NodeFault}
    (member : entry ∈ (surroundings.evaluateNode id locks scene).1.faults) :
    entry.fault = .depthExceeded surroundings.maxDepth ∨
      ∃ execution ∈ surroundings.executions (surroundings.maxDepth + 1) id (.begin scene locks),
        ∃ node, execution.Meets surroundings node entry.fault ∧ node.name = entry.node ∧
          node.kind.Risks entry.fault := by
  subst shared
  rcases Surroundings.exists_meets_of_mem_faults fixed.children (surroundings.maxDepth + 1) id
    (.begin scene locks) member with before | deep | ⟨execution, inside, node, meets, name⟩
  · cases before
  · exact .inl deep
  · obtain ⟨stands, levels, failed⟩ := meets
    have risks := surroundings.work_risks (surroundings.run levels) execution.id node _
      (fixed.parameters _ node stands) (BehaviorGraph.hasIndices_of_load loaded stands) _ failed
    exact .inr ⟨execution, inside, node, ⟨stands, levels, failed⟩, name, risks⟩

/-- **A fixed graph looks up nothing in vain.**  Where every parameter of a loaded graph is fixed
and no child is dynamic, no evaluation misses a variable, a node that a variable names, or a
name, and none objects to the fade-in of a music or to the frame of an animation, whatever the
actor, the variables and the surroundings are like.  Where a type is at fault, an execution of
a node of that name wrote a value other than a number under a reserved name; and where values
do not combine, one was to add to a variable or to multiply it. -/
theorem fixed_graph_looks_up_nothing {document : Document} {graph : BehaviorGraph}
    (loaded : BehaviorGraph.load document = .ok graph) (fixed : graph.Fixed)
    {surroundings : Surroundings σ} (shared : surroundings.graph = graph) (id : NodeId)
    (locks : AxisLocks) (scene : Scene σ) :
    let executions := surroundings.executions (surroundings.maxDepth + 1) id (.begin scene locks)
    ∀ entry ∈ (surroundings.evaluateNode id locks scene).1.faults,
      (∀ name, entry.fault ≠ .variable (.notFound name)) ∧
      (∀ name, entry.fault ≠ .dynamicTarget name) ∧
      (∀ error, entry.fault ≠ .lookup error) ∧
      (∀ reason, entry.fault ≠ .invalidParameter "FADE IN" reason ∧
        entry.fault ≠ .invalidParameter "ANIMATION_FRAME" reason) ∧
      (∀ name mismatch, entry.fault = .variable (.typeMismatch name mismatch) →
        ∃ execution ∈ executions, ∃ node, execution.Meets surroundings node entry.fault ∧
          node.name = entry.node ∧ ∃ value mode quantity,
            node.kind = .setVariable name (.literal value) mode false ∧
              Quantity.ofName? name = some quantity ∧ value.number? = none) ∧
      ∀ name current operand, entry.fault = .variable (.invalidOperation name current operand) →
        ∃ execution ∈ executions, ∃ node, execution.Meets surroundings node entry.fault ∧
          node.name = entry.node ∧ ∃ value mode isGlobal,
            node.kind = .setVariable name value mode isGlobal ∧
              (mode = .add ∨ mode = .multiply) := by
  intro executions entry member
  rcases exists_risks_of_mem_faults loaded fixed shared member with
    deep | ⟨execution, inside, node, meets, named, risks⟩
  · rw [deep]
    exact ⟨nofun, nofun, nofun, fun _ => ⟨nofun, nofun⟩, nofun, nofun⟩
  · generalize kind : node.kind = its at risks
    generalize entry.fault = fault at meets risks ⊢
    cases risks with
    | jump reason =>
        refine ⟨nofun, nofun, nofun, fun _ => ⟨?_, ?_⟩, nofun, nofun⟩ <;> simp
    | reserved known other =>
        refine ⟨nofun, nofun, nofun, fun _ => ⟨nofun, nofun⟩, ?_, nofun⟩
        rintro name mismatch same
        cases same
        exact ⟨execution, inside, node, meets, named, _, _, _, kind, known, other⟩
    | @combine _ _ mode _ combines current operand =>
        refine ⟨nofun, nofun, nofun, fun _ => ⟨nofun, nofun⟩, nofun, ?_⟩
        rintro name current operand same
        cases same
        refine ⟨execution, inside, node, meets, named, _, _, _, kind, ?_⟩
        cases mode with
        | assign => exact absurd rfl combines
        | add => exact .inl rfl
        | multiply => exact .inr rfl
    | compare one other => exact ⟨nofun, nofun, nofun, fun _ => ⟨nofun, nofun⟩, nofun, nofun⟩

/-! ### An example: a workshop with fixed routines -/

/-- A mason who notes down the weight of a stone in words, and counts two more of them. -/
def workshop : Document :=
  { actors :=
      [ { name := "Mason"
          events :=
            [ { name := "Routine", kind := "multi"
                properties := [textProperty "1" "Weigh", textProperty "2" "Count"] },
              { name := "Weigh", kind := "set-var"
                properties := [textProperty "VAL_NAME" "__XSPEED", textProperty "VALUE" "heavy"] },
              { name := "Count", kind := "set-var"
                properties :=
                  [ textProperty "VAL_NAME" "stones",
                    { name := "VALUE", value := .number (.whole 2) },
                    { name := "+=", value := .bool true } ] } ] } ] }

/-- The graph of the workshop: the routine is number 0. -/
def workshopGraph : BehaviorGraph := (BehaviorGraph.load workshop).toOption.getD {}

def workshopDay : Surroundings Controller := rehearsal workshopGraph 8 0.5 (.fixed false 0) []

/-- The mason knows only that there are stones. -/
def masonScene : Scene Controller :=
  { actor := { id := 1, template := "Mason", store := .ofList [("stones", .bool true)] }
    map := .empty
    requests := []
    animation := .instant }

theorem workshopGraph_fixed : workshopGraph.Fixed where
  parameters id node stands := by
    have fixed : workshopGraph.nodes.map (·.kind.isFixed) = [true, true, true] := by rfl
    have known := List.mem_map_of_mem (f := (·.kind.isFixed)) (List.mem_of_getElem? stands)
    simpa [fixed] using known
  children id node stands role name := by
    have links : workshopGraph.nodes.map (·.children.toList) =
        [[(.numbered 1, .node 1), (.numbered 2, .node 2)], [], []] := by rfl
    have known := List.mem_map_of_mem (f := (·.children.toList)) (List.mem_of_getElem? stands)
    simp only [links, List.mem_cons, List.not_mem_nil, or_false] at known
    rcases known with same | same | same <;> simp [same]

/-- Both notes of the mason are at fault, and each fault was met by the node that it names. -/
theorem fixed_graph_looks_up_nothing_workshop :
    let executions := workshopDay.executions 9 0 (.begin masonScene {})
    let weight : NodeFault :=
      { node := "Weigh"
        fault := .variable
          (.typeMismatch "__XSPEED" { expected := "float", found := "string" }) }
    let count : NodeFault :=
      { node := "Count", fault := .variable (.invalidOperation "stones" "bool" "int") }
    BehaviorGraph.load workshop = .ok workshopGraph ∧ workshopGraph.Fixed ∧
      (workshopDay.evaluateNode 0 {} masonScene).1.faults = [weight, count] ∧
      (∃ execution ∈ executions, ∃ node, execution.Meets workshopDay node weight.fault ∧
        node.name = "Weigh" ∧ ∃ value mode quantity,
          node.kind = .setVariable "__XSPEED" (.literal value) mode false ∧
            Quantity.ofName? "__XSPEED" = some quantity ∧ value.number? = none) ∧
      ∃ execution ∈ executions, ∃ node, execution.Meets workshopDay node count.fault ∧
        node.name = "Count" ∧ ∃ value mode isGlobal,
          node.kind = .setVariable "stones" value mode isGlobal ∧
            (mode = .add ∨ mode = .multiply) := by
  intro executions weight count
  have loaded : BehaviorGraph.load workshop = .ok workshopGraph := by rfl
  have shared : workshopDay.graph = workshopGraph := rfl
  have faults : (workshopDay.evaluateNode 0 {} masonScene).1.faults = [weight, count] := by rfl
  have sources := fixed_graph_looks_up_nothing loaded workshopGraph_fixed shared 0 {} masonScene
  have weighs := sources weight (by rw [faults]; exact List.mem_cons_self)
  have counts := sources count (by rw [faults]; exact List.mem_cons_of_mem _ List.mem_cons_self)
  obtain ⟨-, -, -, -, mistyped, -⟩ := weighs
  obtain ⟨-, -, -, -, -, combined⟩ := counts
  exact ⟨loaded, workshopGraph_fixed, faults, mistyped _ _ rfl, combined _ _ _ rfl⟩

end Stagecraft
