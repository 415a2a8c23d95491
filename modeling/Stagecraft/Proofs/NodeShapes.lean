/-
Module: Stagecraft.Proofs.NodeShapes
Purpose: The shape of what a document loads to: which children the nodes of a kind have,
  and which edges, stop events and keys go together in a binding.
Main exports:
  NodeKind.takesNumbered, NodeKind.admits, Node.IsShaped, Definition.admits_node,
  KeyBinding.IsShaped, BehaviorGraph.loaded_shapes
-/
import Stagecraft.Proofs.FaithfulLinks
import Stagecraft.Proofs.PropertyOrder
import Stagecraft.Proofs.Trimming

namespace Stagecraft

open PropertyBag

/-! ### The children of a kind -/

namespace NodeKind

/-- Whether a kind takes numbered children. -/
def takesNumbered : NodeKind → Bool
  | multi | switch _ => true
  | _ => false

/-- Whether nodes of a kind may have a child of a role. -/
def admits (kind : NodeKind) : Role → Bool
  | .numbered _ => kind.takesNumbered
  | .success | .failure => kind.isTest
  | .event => kind.needsEvent

theorem takesNumbered_iff {kind : NodeKind} :
    kind.takesNumbered = true ↔ kind = .multi ∨ ∃ mode, kind = .switch mode := by
  cases kind <;> simp [takesNumbered]

theorem needsEvent_iff {kind : NodeKind} :
    kind.needsEvent = true ↔ kind = .engineWrapper ∨ kind = .singleGuard := by
  cases kind <;> simp [needsEvent]

end NodeKind

/-- A node has children of the roles that its kind admits, and no others.  The event of a
kind that has one is never missing. -/
structure Node.IsShaped {ρ : Type} (node : Node ρ) : Prop where
  admitted : ∀ role child, (role, child) ∈ node.children.toList → node.kind.admits role = true
  event : node.kind.needsEvent = true → node.children.event.isSome = true

namespace Node.IsShaped

variable {ρ τ : Type} {node : Node ρ}

/-- A node has numbered children only if its kind takes them. -/
theorem numbered (shaped : node.IsShaped) (nonempty : node.children.numbered ≠ []) :
    node.kind.takesNumbered = true := by
  obtain ⟨⟨key, child⟩, member⟩ := List.exists_mem_of_ne_nil _ nonempty
  exact shaped.admitted (.numbered key) child (Children.numbered_mem_toList.mpr member)

theorem isTest (shaped : node.IsShaped)
    (decides : node.children.success.isSome = true ∨ node.children.failure.isSome = true) :
    node.kind.isTest = true := by
  rcases decides with present | present
  · obtain ⟨child, given⟩ := Option.isSome_iff_exists.mp present
    exact shaped.admitted .success child (Children.success_mem_toList.mpr given)
  · obtain ⟨child, given⟩ := Option.isSome_iff_exists.mp present
    exact shaped.admitted .failure child (Children.failure_mem_toList.mpr given)

/-- A node has an event if and only if its kind needs one. -/
theorem isSome_event_iff (shaped : node.IsShaped) :
    node.children.event.isSome = true ↔ node.kind.needsEvent = true := by
  refine ⟨fun present => ?_, shaped.event⟩
  obtain ⟨child, given⟩ := Option.isSome_iff_exists.mp present
  exact shaped.admitted .event child (Children.event_mem_toList.mpr given)

/-- The shape of a node depends on its kind and on the roles of its children. -/
theorem of_roles {other : Node τ} (shaped : node.IsShaped) (kind : other.kind = node.kind)
    (roles : other.children.toList.map Prod.fst = node.children.toList.map Prod.fst) :
    other.IsShaped where
  admitted := by
    intro role child member
    have present : role ∈ node.children.toList.map Prod.fst :=
      roles ▸ List.mem_map_of_mem member
    obtain ⟨⟨same, reference⟩, stands, rfl⟩ := List.mem_map.mp present
    rw [kind]
    exact shaped.admitted same reference stands
  event := by
    intro needs
    rw [kind] at needs
    obtain ⟨reference, given⟩ := Option.isSome_iff_exists.mp (shaped.event needs)
    have present : Role.event ∈ other.children.toList.map Prod.fst :=
      roles ▸ List.mem_map_of_mem (Children.event_mem_toList.mpr given)
    obtain ⟨⟨role, child⟩, stands, rfl⟩ := List.mem_map.mp present
    exact Option.isSome_iff_exists.mpr ⟨child, Children.event_mem_toList.mp stands⟩

end Node.IsShaped

/-- Numbered children that are put in the place of others leave the other roles alone. -/
theorem Children.mem_toList_of_numbered {ρ : Type} {children : Children ρ}
    {numbered : List (Int × ρ)} {role : Role} {child : ρ}
    (member : (role, child) ∈ { children with numbered }.toList) :
    (∃ key, role = .numbered key) ∨ (role, child) ∈ children.toList := by
  cases role with
  | numbered key => exact .inl ⟨key, rfl⟩
  | success => exact .inr (by simpa only [success_mem_toList] using member)
  | failure => exact .inr (by simpa only [failure_mem_toList] using member)
  | event => exact .inr (by simpa only [event_mem_toList] using member)

/-! ### Definitions give nodes their shape -/

namespace Definition

variable {kindName : KindName}

/-- The name of a kind tells which children its nodes have.  An event comes along with the
kinds alone that need one. -/
theorem children_kind (kindName : KindName) (bag : PropertyBag) :
    let made := ((kind kindName).run bag).1
    made.1.takesNumbered = kindName.takesNumbered ∧ made.1.isTest = kindName.isTest ∧
      (made.2 = none ∨ made.1.needsEvent = true) := by
  cases kindName with
  | setVariable =>
      simp only [kind, run_bind]
      split <;> simp only [run_bind] <;> exact ⟨rfl, rfl, .inl rfl⟩
  | rotate | switch | mouseButton | layerState =>
      simp only [kind, run_bind]
      split <;> exact ⟨rfl, rfl, .inl rfl⟩
  | compare =>
      simp only [kind, run_bind]
      split <;> split <;> exact ⟨rfl, rfl, .inl rfl⟩
  | engineWrapper => exact ⟨rfl, rfl, .inr rfl⟩
  | singleGuard =>
      simp only [kind, run_bind]
      split <;> exact ⟨rfl, rfl, .inr rfl⟩
  | _ => exact ⟨rfl, rfl, .inl rfl⟩

/-- A node before its numbered children are known: the kind and the event belong together,
and without a test nothing follows on success or failure. -/
theorem exists_kind_asNode (name : String) (home : Namespace) (kindName : KindName)
    (bag : PropertyBag) : ∃ start : PropertyBag,
      let made := ((asNode name home kindName).run bag).1
      made.kind = ((kind kindName).run start).1.1 ∧
        made.children.event = ((kind kindName).run start).1.2 ∧
        (kindName.isTest = false →
          made.children.success = none ∧ made.children.failure = none) := by
  simp only [asNode, run_bind]
  cases kindName.isTest with
  | true =>
      simp only [if_true, run_bind]
      exact ⟨_, rfl, rfl, fun test => Bool.noConfusion test⟩
  | false => exact ⟨_, rfl, rfl, fun _ => ⟨rfl, rfl⟩⟩

theorem admits_asNode (name : String) (home : Namespace) (kindName : KindName)
    (bag : PropertyBag) :
    let made := ((asNode name home kindName).run bag).1
    made.kind.takesNumbered = kindName.takesNumbered ∧
      ∀ role child, (role, child) ∈ made.children.toList → made.kind.admits role = true := by
  intro made
  obtain ⟨start, sameKind, sameEvent, undecided⟩ := exists_kind_asNode name home kindName bag
  obtain ⟨numbers, test, event⟩ := children_kind kindName start
  refine ⟨(congrArg NodeKind.takesNumbered sameKind).trans numbers, ?_⟩
  intro role child member
  have decides : ∀ given : Option Reference, given = some child →
      (kindName.isTest = false → given = none) → made.kind.isTest = true := by
    rintro _ rfl absent
    rw [show made.kind = _ from sameKind, test]
    cases isTest : kindName.isTest with
    | true => rfl
    | false => exact nomatch absent isTest
  cases role with
  | numbered key =>
      have unnumbered : made.children.numbered = [] := numbered_asNode name home kindName bag
      rw [Children.numbered_mem_toList, unnumbered] at member
      exact nomatch member
  | success =>
      exact decides _ (Children.success_mem_toList.mp member) fun test => (undecided test).1
  | failure =>
      exact decides _ (Children.failure_mem_toList.mp member) fun test => (undecided test).2
  | event =>
      have given : ((kind kindName).run start).1.2 = some child :=
        sameEvent.symm.trans (Children.event_mem_toList.mp member)
      rw [show made.kind = _ from sameKind]
      exact event.resolve_left fun absent => nomatch given.symm.trans absent

/-- A node without problems has no children but those that its kind admits. -/
theorem admits_node {name : String} {home : Namespace} {bag : PropertyBag}
    (sound : ((node name home kindName).run bag).2.problems = []) (role : Role)
    (child : Reference)
    (member : (role, child) ∈ ((node name home kindName).run bag).1.children.toList) :
    ((node name home kindName).run bag).1.kind.admits role = true := by
  obtain ⟨numbers, plain⟩ := admits_asNode name home kindName bag
  cases takes : kindName.takesNumbered with
  | false =>
      rw [run_node_of_not_takesNumbered takes] at member ⊢
      exact plain role child member
  | true =>
      rw [run_node_of_takesNumbered takes] at sound member ⊢
      obtain ⟨numbered, made, -, -⟩ :=
        takeNumbered_ascending (numbered_asNode name home kindName bag) sound
      change (role, child) ∈ Children.toList ((takeNumbered _).run _).1 at member
      rw [made] at member
      rcases Children.mem_toList_of_numbered member with ⟨key, rfl⟩ | before
      · exact numbers.trans takes
      · exact plain role child before

end Definition

/-- Every node that is defined has the children of its kind. -/
theorem NodeEntry.isShaped_of_define {entry : NodeEntry} {home : Namespace}
    {node : Node Reference} (defined : entry.define home = .ok node) : node.IsShaped where
  admitted := by
    obtain ⟨kindName, -, rfl, sound⟩ := define_eq_ok_iff.mp defined
    exact Definition.admits_node sound
  event := event_of_define defined

/-- Links leave the nodes their shape. -/
theorem BehaviorGraph.Realizes.isShaped {graph : BehaviorGraph}
    {declared : Namespace × NodeEntry} {node : Node Edge}
    (realizes : graph.Realizes declared node) : node.IsShaped := by
  obtain ⟨definition, defined, kind, -, -, children⟩ := realizes.defined
  refine (NodeEntry.isShaped_of_define defined).of_roles kind ?_
  rw [← List.forall₂_eq_eq_eq, List.forall₂_map_left_iff, List.forall₂_map_right_iff]
  refine (children.imp fun _ _ leads => ?_).flip
  cases leads <;> rfl

/-! ### Bindings -/

/-- A binding has a key that is written as keys are known, and acts either as long as the
key is held or on its edges.  Only what is held is stopped. -/
structure KeyBinding.IsShaped (binding : KeyBinding) : Prop where
  named : binding.key.isEmpty = false
  normal : binding.key.IsNormal
  edges : binding.sustained = true ∧ binding.down = false ∧ binding.up = false ∨
    binding.sustained = false ∧ (binding.down = true ∨ binding.up = true) ∧
      binding.stopEvent = none

/-- What goes together in a declaration is settled: nothing but a held key does without
edges, and with them. -/
theorem BindingDeclaration.Coherent.settled_edges {binding : BindingDeclaration}
    (coherent : binding.Coherent) :
    binding.settled.sustained = true ∧ binding.settled.down = false ∧
        binding.settled.up = false ∨
      binding.settled.sustained = false ∧
        (binding.settled.down = true ∨ binding.settled.up = true) ∧
        binding.settled.stopEvent = none := by
  obtain ⟨edges, stops⟩ := coherent
  cases held : binding.sustained with
  | true =>
      rw [held, Bool.true_and, Bool.or_eq_false_iff] at edges
      exact .inl ⟨held, by simp [settled, held, edges.1], edges.2⟩
  | false =>
      rw [held, Bool.not_false, Bool.and_true, Option.isSome_eq_false_iff,
        Option.isNone_iff_eq_none] at stops
      refine .inr ⟨held, ?_, stops⟩
      cases up : binding.up with
      | true => exact .inr up
      | false => exact .inl (by simp [settled, held, up])

/-- A binding that names no event has none. -/
theorem BehaviorGraph.Names.eq_none {graph : BehaviorGraph} {home : Namespace}
    {reference : Option Reference} {event : Option NodeId}
    (names : graph.Names home reference event) (unnamed : reference = none) : event = none := by
  subst unnamed
  cases names
  rfl

/-- What an entry of a binding becomes has the shape of a binding. -/
theorem BehaviorGraph.Binds.isShaped {graph : BehaviorGraph} {home : Namespace}
    {entry : BindingEntry} {declaration : BindingDeclaration} {binding : KeyBinding}
    (declared : entry.declare = .ok declaration) (binds : graph.Binds home declaration binding) :
    binding.IsShaped := by
  obtain ⟨named, -, coherent, rfl⟩ := BindingEntry.declare_eq_ok_iff.mp declared
  have key : binding.key = .ofText entry.key := binds.key
  refine ⟨key ▸ named, key ▸ KeyName.isNormal_ofText entry.key, ?_⟩
  rw [binds.sustained, binds.down, binds.up]
  rcases coherent.settled_edges with held | ⟨edge, acts, unstopped⟩
  · exact .inl held
  · exact .inr ⟨edge, acts, binds.stopEvent.eq_none unstopped⟩

/-! ### Loaded graphs -/

namespace BehaviorGraph

variable {document : Document} {graph : BehaviorGraph}

/-- **What is loaded has its shape.**  In a loaded graph none but sequences and switches
have numbered children, none but tests have a child for success or failure, and engine
wrappers and guards alone have an event, all of them.  Every binding of a template has a
key in normal form, and it is either held, without an edge, or it acts on an edge, without
a stop event. -/
theorem loaded_shapes (loaded : BehaviorGraph.load document = .ok graph) :
    (∀ node ∈ graph.nodes,
      (node.children.numbered ≠ [] → node.kind = .multi ∨ ∃ mode, node.kind = .switch mode) ∧
      (node.children.success.isSome = true ∨ node.children.failure.isSome = true →
        node.kind.isTest = true) ∧
      (node.children.event.isSome = true ↔
        node.kind = .engineWrapper ∨ node.kind = .singleGuard)) ∧
    ∀ name template, graph.template name = .ok template → ∀ binding ∈ template.bindings,
      binding.key.isEmpty = false ∧ binding.key.IsNormal ∧
        (binding.sustained = true ∧ binding.down = false ∧ binding.up = false ∨
          binding.sustained = false ∧ (binding.down = true ∨ binding.up = true) ∧
            binding.stopEvent = none) := by
  obtain ⟨catalogue, declares, errorless, rfl⟩ := load_eq_ok_iff.mp loaded
  constructor
  · intro node member
    obtain ⟨entry, -, realizes⟩ :=
      exists_of_forall₂_of_mem (declares.realizes (declares.clean errorless)) member
    have shaped := realizes.isShaped
    exact ⟨fun nonempty => NodeKind.takesNumbered_iff.mp (shaped.numbered nonempty), shaped.isTest,
      shaped.isSome_event_iff.trans NodeKind.needsEvent_iff⟩
  · intro name template known binding member
    obtain ⟨entry, listed, rfl⟩ := List.mem_map.mp (declares.mem_of_template_linked known)
    rw [declares.template_linked listed] at known
    obtain rfl := Except.ok.inj known
    obtain ⟨source, -, declaration, declared, binds⟩ :=
      exists_of_forall₂_of_mem (declares.realizesTemplate errorless listed).bindings member
    exact ⟨(binds.isShaped declared).named, (binds.isShaped declared).normal,
      (binds.isShaped declared).edges⟩

/-- The act of the player is a sequence, its call wraps an event, and the key of the player
is held until the curtain falls. -/
theorem loaded_shapes_theatre :
    BehaviorGraph.load theatre = .ok theatreGraph ∧
      theatreGraph.nodes.map (fun node => (node.kind.takesNumbered, node.kind.needsEvent)) =
        [(true, false), (false, false), (false, false), (false, true), (true, false)] ∧
      (∀ node ∈ theatreGraph.nodes, (node.children.event.isSome = true ↔
        node.kind = .engineWrapper ∨ node.kind = .singleGuard)) ∧
      theatreGraph.template "Player" = .ok player ∧
      player.bindings.map (fun binding =>
        (binding.key.text, binding.sustained, binding.stopEvent)) = [("A", true, some 1)] ∧
      ∀ binding ∈ player.bindings, binding.key.IsNormal := by
  obtain ⟨nodes, bindings⟩ := loaded_shapes load_theatre
  exact ⟨load_theatre, by decide, fun node member => (nodes node member).2.2, template_player,
    by decide, fun binding member =>
      (bindings "Player" player template_player binding member).2.1⟩

end BehaviorGraph

end Stagecraft
