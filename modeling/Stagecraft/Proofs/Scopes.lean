/-
Module: Stagecraft.Proofs.Scopes
Purpose: The name of a dynamic child is looked up as a name in its place would have been:
  it leads to the same node, or nowhere.
Main exports:
  Pursuit, Surroundings.targetFrom, Surroundings.workBy, Surroundings.workBy_congr,
  Surroundings.execute_eq_workBy, dynamic_children_follow_the_scopes_of_links
-/
import Stagecraft.Evaluation.Rehearsal
import Stagecraft.Proofs.Atomicity
import Stagecraft.Proofs.Loading
import Stagecraft.Proofs.Walk

namespace Stagecraft

variable {σ : Type}

/-!
A link is made from the kind of a node and the role of a child.  An evaluation need not
know about both: whoever follows a child can say there and then whether its name is to
be looked up in the map alone.  Here the work of a node is written down in this way, and
shown to be the same.
-/

/-! ### Children followed with a scope -/

/-- How children are followed: one of a role, with its name looked up in the map alone or
not. -/
abbrev Pursuit (σ : Type) := Role → Bool → Edge → EvalState σ → Ending σ

namespace Surroundings

variable (surroundings : Surroundings σ)

/-- The node that a child leads to.  The name of a dynamic one is looked up from a namespace,
or in the map alone. -/
def targetFrom (home : Namespace) (mapOnly : Bool) (scene : Scene σ) : Edge → Except Fault NodeId
  | .node id => .ok id
  | .variable name =>
      match scene.lookup name with
      | none => .error (.variable (.notFound name))
      | some value =>
          match value.text?.bind fun text => surroundings.graph.resolve? home text mapOnly with
          | some id => .ok id
          | none => .error (.dynamicTarget name)

/-- Follow a child with a scope. -/
def followFrom (descend : Descent σ) (id : NodeId) (node : Node Edge) : Pursuit σ :=
  fun role mapOnly edge state =>
    let state := state.note (.followed id role)
    match surroundings.targetFrom node.home mapOnly state.scene edge with
    | .ok child => descend child state
    | .error fault => (.failure, state.fail node fault)

section Pursuits

variable (pursue : Pursuit σ) (id : NodeId) (node : Node Edge)

/-- Follow the child for a decision. -/
def branchBy (decision : Bool) (state : EvalState σ) : Ending σ :=
  match decision, node.children.success, node.children.failure with
  | true, some edge, _ => pursue .success false edge state
  | false, _, some edge => pursue .failure false edge state
  | decision, _, _ => (.ofBool decision, state)

/-- Follow numbered children one after another until STOP is raised. -/
def runAllBy : List (Int × Edge) → EvalState σ → EvalState σ
  | [], state => state
  | (key, edge) :: rest, state =>
      let (_, state) := pursue (.numbered key) false edge state
      if state.signals.stopped then state else runAllBy rest state

/-- Follow numbered children one after another until one of them decides. -/
def decideBy (mode : SwitchMode) : List (Int × Edge) → EvalState σ → Bool × EvalState σ
  | [], state => (mode == .all, state)
  | (key, edge) :: rest, state =>
      match mode, pursue (.numbered key) false edge state with
      | .any, (.success, state) => (true, state)
      | .all, (.failure, state) => (false, state)
      | _, (_, state) => decideBy mode rest state

def runGuardedBy (state : EvalState σ) : EvalState σ :=
  match node.children.event with
  | some edge => (pursue .event false edge state).2
  | none => state

/-- The work of a node, with its children followed in a given way.  Nobody but an engine
wrapper wants a name to be looked up in the map alone. -/
def workBy (state : EvalState σ) : Except Fault (Ending σ) :=
  let scene := state.scene
  match node.kind with
  | .multi =>
      let after := runAllBy pursue node.children.numbered state
      .ok (.ofBool (after.faults.length == state.faults.length), after)
  | .engineWrapper =>
      match node.children.event with
      | some edge => .ok (pursue .event true edge state)
      | none => .ok (.failure, state)
  | .onGround tolerance => do
      let tolerance ← scene.read tolerance
      let near := surroundings.groundDistance scene ≤ tolerance
      .ok (branchBy pursue node near state)
  | .switch mode =>
      let (decision, state) := decideBy pursue mode node.children.numbered state
      .ok (branchBy pursue node decision state)
  | .singleGuard =>
      let actor := scene.actor
      if id ∈ actor.guards then .ok (.failure, state)
      else
        let state := state.withActor { actor with guards := actor.guards ++ [id] }
        .ok (.success, runGuardedBy pursue node state)
  | .collision mine other otherName =>
      let hit := surroundings.overlaps scene.actor.id mine other otherName
      .ok (branchBy pursue node hit state)
  | .mouseButton query =>
      let button := surroundings.button query.button
      let hit :=
        query.pressed && button.pressed || query.released && button.released ||
          query.down && button.down
      .ok (branchBy pursue node hit state)
  | .compare left right relations => do
      let left ← scene.read left
      let right ← scene.read right
      let decision ← Value.compare relations left right
      .ok (branchBy pursue node decision state)
  | _ => surroundings.work (fun _ state => (.failure, state)) id node state

end Pursuits

/-! ### The scopes that are asked for -/

section Congruence

variable {surroundings} {pursue other : Pursuit σ} {id : NodeId} {node : Node Edge}

/-- A multi looks at its children in the scope of its own namespace only. -/
theorem runAllBy_congr (same : ∀ role, pursue role false = other role false) :
    runAllBy pursue = runAllBy other := by
  funext entries state
  induction entries generalizing state with
  | nil => rfl
  | cons entry rest ih => simp only [runAllBy, same, ih]

/-- So do a selector and a sequence. -/
theorem decideBy_congr (same : ∀ role, pursue role false = other role false) (mode : SwitchMode) :
    decideBy pursue mode = decideBy other mode := by
  funext entries state
  induction entries generalizing state with
  | nil => rfl
  | cons entry rest ih => simp only [decideBy, same, ih]

/-- Only an engine wrapper looks at the map alone. -/
theorem isMapOnly_of_ne {kind : NodeKind} (plain : kind ≠ .engineWrapper) (role : Role) :
    isMapOnly kind role = false := by
  simp only [isMapOnly, beq_eq_false_iff_ne.mpr plain, Bool.and_false]

/-- The work of a node depends on the pursuit of children in the scopes of its kind alone. -/
theorem workBy_congr (same : ∀ role,
      pursue role (isMapOnly node.kind role) = other role (isMapOnly node.kind role))
    (state : EvalState σ) :
    surroundings.workBy pursue id node state = surroundings.workBy other id node state := by
  by_cases wraps : node.kind = .engineWrapper
  · have event := same .event
    have mapOnly : isMapOnly node.kind .event = true := by rw [wraps]; rfl
    rw [mapOnly] at event
    simp only [workBy, wraps, event]
  · have plain (role : Role) : pursue role false = other role false := by
      simpa only [isMapOnly_of_ne wraps] using same role
    cases kind : node.kind with
    | engineWrapper => exact absurd kind wraps
    | _ =>
        simp only [workBy, kind, branchBy, runAllBy_congr plain, decideBy_congr plain,
          runGuardedBy, plain]

theorem runAllBy_follow (descend : Descent σ) :
    runAllBy (fun role _ => surroundings.follow descend id node role) =
      surroundings.runAll descend id node := by
  funext entries state
  induction entries generalizing state with
  | nil => rfl
  | cons entry rest ih => simp only [runAllBy, runAll, ih]

theorem decideBy_follow (descend : Descent σ) (mode : SwitchMode) :
    decideBy (fun role _ => surroundings.follow descend id node role) mode =
      surroundings.decide descend id node mode := by
  funext entries state
  induction entries generalizing state with
  | nil => rfl
  | cons entry rest ih =>
      unfold decideBy decide
      rcases surroundings.follow descend id node (.numbered entry.1) entry.2 state with
        ⟨outcome, after⟩
      cases outcome with
      | success =>
          cases mode with
          | any => rfl
          | all => exact ih after
      | failure =>
          cases mode with
          | any => exact ih after
          | all => rfl

/-- If children are followed as in an evaluation, whatever the scope, the work is that of the
evaluation. -/
theorem workBy_follow (descend : Descent σ) (state : EvalState σ) :
    surroundings.workBy (fun role _ => surroundings.follow descend id node role) id node state =
      surroundings.work descend id node state := by
  unfold workBy work
  cases node.kind with
  | multi => simp only [runAllBy_follow]
  | switch mode =>
      simp only [decideBy_follow]
      rfl
  | _ => rfl

/-- A child is followed in the scope that linking has for its role. -/
theorem follow_eq_followFrom (descend : Descent σ) (role : Role) :
    surroundings.follow descend id node role =
      surroundings.followFrom descend id node role (isMapOnly node.kind role) := by
  funext edge state
  cases edge <;> rfl

end Congruence

/-- An execution is the same if its children are followed with the scopes of their kind. -/
theorem execute_eq_workBy (descend : Descent σ) (id : NodeId) (node : Node Edge)
    (state : EvalState σ) :
    surroundings.execute descend id node state =
      conclude id node (state.note (.started id))
        (surroundings.workBy (surroundings.followFrom descend id node) id node
          (state.note (.started id))) := by
  rw [execute_eq, ← workBy_follow]
  congr 1
  exact workBy_congr (fun role => follow_eq_followFrom descend role) _

/-! ### Names in place of variables -/

variable {surroundings} in
/-- What a dynamic child comes to, if its variable holds a text. -/
theorem targetFrom_variable {home : Namespace} {mapOnly : Bool} {scene : Scene σ}
    {name text : String}
    (holds : (scene.lookup name).bind Value.text? = some text) :
    surroundings.targetFrom home mapOnly scene (.variable name) =
      match surroundings.graph.resolve? home text mapOnly with
      | some id => .ok id
      | none => .error (.dynamicTarget name) := by
  obtain ⟨value, known, reads⟩ := Option.bind_eq_some_iff.mp holds
  simp only [targetFrom, known, reads, Option.bind_some]

end Surroundings

namespace Catalogue

variable {catalogue : Catalogue}

/-- The nodes of a graph that was resolved stand where the catalogue has them. -/
theorem exists_of_resolve {graph : BehaviorGraph} (intact : catalogue.broken = [])
    (resolved : catalogue.resolve = .ok graph) {id : NodeId} {node : Node Edge}
    (stands : graph.nodes[id]? = some node) :
    ∃ definition, catalogue.nodes[id]? = some definition ∧
      catalogue.linkNode? definition = some node := by
  obtain ⟨errorless, rfl⟩ := resolve_eq_ok_iff.mp resolved
  obtain ⟨silent, -, -⟩ := linkErrors_eq_nil_iff.mp errorless
  have linkable : ∀ definition ∈ catalogue.nodes,
      ∃ linked, catalogue.linkNode? definition = some linked := by
    intro definition member
    refine exists_linkNode?_iff.mpr fun child here => ?_
    exact Reported.exists_ok (silent definition member) (List.mem_map_of_mem here)
      (link_reported intact definition child.1 child.2)
  have same : catalogue.linked.nodes[id]? = (catalogue.nodes[id]?).bind catalogue.linkNode? :=
    getElem?_filterMap linkable id
  rw [same] at stands
  exact Option.bind_eq_some_iff.mp stands

/-- What a name in the place of a child comes to. -/
theorem link_named (intact : catalogue.broken = []) (definition : Node Reference) (role : Role)
    (name : String) :
    catalogue.link definition role (.named name) =
      match catalogue.linked.resolve? definition.home name (isMapOnly definition.kind role) with
      | some id => .ok (.node id)
      | none => .error (some (.unresolved definition.home definition.name name)) := by
  have whole (mapOnly : Bool) : catalogue.isKnownBroken definition.home name mapOnly = false := by
    simp [isKnownBroken, isBroken, intact]
  simp only [link, linkName, resolve?_linked, whole]
  cases catalogue.resolveName? definition.home name (isMapOnly definition.kind role) <;> rfl

end Catalogue

/-- **Dynamic children follow the scopes of links.**  Take a node of the graph of a catalogue
in which nothing is broken.  Whoever follows a child of it in an evaluation says whether the
name is to be looked up in the map alone; these scopes are all that matters, and they are
those of links.  With such a scope a dynamic child of whatever role, whose variable holds a
text, leads to the node to which the text would have been linked in its place, and is at fault
exactly if the text would have been reported as unresolved. -/
theorem dynamic_children_follow_the_scopes_of_links {catalogue : Catalogue} {graph : BehaviorGraph}
    (intact : catalogue.broken = []) (resolved : catalogue.resolve = .ok graph)
    {surroundings : Surroundings σ} (shared : surroundings.graph = graph) {id : NodeId}
    {node : Node Edge} (stands : graph.nodes[id]? = some node) :
    (∀ descend state, surroundings.execute descend id node state =
      Surroundings.conclude id node (state.note (.started id))
        (surroundings.workBy (surroundings.followFrom descend id node) id node
          (state.note (.started id)))) ∧
    (∀ (pursue other : Pursuit σ),
      (∀ role, pursue role (isMapOnly node.kind role) = other role (isMapOnly node.kind role)) →
        ∀ state, surroundings.workBy pursue id node state =
          surroundings.workBy other id node state) ∧
    ∃ definition, catalogue.nodes[id]? = some definition ∧
      catalogue.linkNode? definition = some node ∧
      ∀ (role : Role) (name text : String) (scene : Scene σ),
        (scene.lookup name).bind Value.text? = some text →
          let found := surroundings.targetFrom node.home (isMapOnly node.kind role) scene
            (.variable name)
          let link := catalogue.link definition role (.named text)
          (∀ child, found = .ok child ↔ link = .ok (.node child)) ∧
          (found = .error (.dynamicTarget name) ↔
            link = .error (some (.unresolved definition.home definition.name text))) := by
  obtain ⟨definition, defined, linked⟩ := Catalogue.exists_of_resolve intact resolved stands
  obtain ⟨-, rfl⟩ := Catalogue.resolve_eq_ok_iff.mp resolved
  obtain ⟨key, kind, -⟩ := Catalogue.eq_of_linkNode? linked
  have home : node.home = definition.home := congrArg Prod.fst key
  refine ⟨fun descend => surroundings.execute_eq_workBy descend id node,
    fun _ _ => Surroundings.workBy_congr, definition, defined, linked, ?_⟩
  intro role name text scene holds found link
  -- Both the link and the look at run time come down to resolving the name in one scope.
  have finds : found = _ := Surroundings.targetFrom_variable holds
  have links : link = _ := Catalogue.link_named intact definition role text
  rw [finds, links, shared, home, kind]
  cases catalogue.linked.resolve? definition.home text (isMapOnly definition.kind role) <;> simp

/-! ### An example: two songs of one name -/

/-- A herald has a song of his own, and so has the map.  His act begins with whatever the
variable `song` says, and his call hands it to the map. -/
def herald : Document :=
  { mapEvents := [{ name := "Song", kind := "move" }]
    actors :=
      [ { name := "Herald"
          events :=
            [ { name := "Song", kind := "move" },
              { name := "Act", kind := "multi", properties := [textProperty "1" "*song"] },
              { name := "Call", kind := "engine-wrapper"
                properties := [textProperty "EVENT" "*song"] } ] } ] }

/-- The declarations for the herald: the song of the map is number 0, his own one is
number 1, his act number 2, and his call number 3. -/
def heraldCatalogue : Catalogue := (Catalogue.ofDocument herald).1

def heraldGraph : BehaviorGraph := heraldCatalogue.resolve.toOption.getD {}

def heraldDay : Surroundings Controller := rehearsal heraldGraph 8 0.5 (.fixed false 0) []

/-- The herald with a song in mind. -/
def heraldScene (song : String) : Scene Controller :=
  { actor := { id := 1, template := "Herald", store := .ofList [("song", .text song)] }
    map := .empty
    requests := []
    animation := .instant }

/-- The call leads to the song of the map, as the name of the song would have been linked.  A
dirge is found neither now nor then. -/
theorem dynamic_children_follow_the_scopes_of_links_herald :
    let call := heraldGraph.nodes[3]?.getD default
    let definition := heraldCatalogue.nodes[3]?.getD default
    let found (song : String) :=
      heraldDay.targetFrom call.home (isMapOnly call.kind .event) (heraldScene song)
        (.variable "song")
    Catalogue.ofDocument herald = (heraldCatalogue, []) ∧ heraldCatalogue.broken = [] ∧
      heraldCatalogue.resolve = .ok heraldGraph ∧ heraldGraph.nodes[3]? = some call ∧
      call.home = .actor "Herald" ∧ call.children.event = some (.variable "song") ∧
      heraldCatalogue.link definition .event (.named "Song") = .ok (.node 0) ∧
      found "Song" = .ok 0 ∧
      heraldCatalogue.link definition .event (.named "Dirge") =
        .error (some (.unresolved (.actor "Herald") "Call" "Dirge")) ∧
      found "Dirge" = .error (.dynamicTarget "song") := by
  intro call definition found
  have resolved : heraldCatalogue.resolve = .ok heraldGraph := by rfl
  have stands : heraldGraph.nodes[3]? = some call := by rfl
  have shared : heraldDay.graph = heraldGraph := rfl
  obtain ⟨-, -, declared, defined, -, follows⟩ :=
    dynamic_children_follow_the_scopes_of_links (by rfl) resolved shared stands
  have same : heraldCatalogue.nodes[3]? = some definition := by rfl
  cases same.symm.trans defined
  have song := (follows .event "song" "Song" (heraldScene "Song") (by rfl)).1 0
  have dirge := (follows .event "song" "Dirge" (heraldScene "Dirge") (by rfl)).2
  have linked : heraldCatalogue.link definition .event (.named "Song") = .ok (.node 0) := by rfl
  have unresolved : heraldCatalogue.link definition .event (.named "Dirge") =
      .error (some (.unresolved (.actor "Herald") "Call" "Dirge")) := by rfl
  exact ⟨by rfl, by rfl, resolved, stands, by rfl, by rfl, linked, song.mpr linked, unresolved,
    dirge.mpr unresolved⟩

end Stagecraft
