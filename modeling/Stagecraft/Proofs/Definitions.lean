/-
Module: Stagecraft.Proofs.Definitions
Purpose: When the entries of a document define nodes and bindings, and what the nodes
  are then like.
Main exports:
  NodeEntry.define_eq_ok_iff, BindingEntry.declare_eq_ok_iff,
  BindingEntry.ne_nil_of_declare, TemplateEntry.forall₂_declare,
  NodeKind.needsEvent, NodeEntry.event_of_define, BehaviorGraph.exists_event_of_needsEvent
-/
import Stagecraft.Proofs.Loading
import Mathlib.Logic.Basic

namespace Stagecraft

open PropertyBag

/-- An entry defines a node exactly if its kind is known and its properties raise no
problem. -/
theorem NodeEntry.define_eq_ok_iff {entry : NodeEntry} {home : Namespace}
    {node : Node Reference} :
    entry.define home = .ok node ↔ ∃ kindName, KindName.parse? entry.kind = some kindName ∧
      ((Definition.node entry.name home kindName).run (.ofEntries entry.properties)).1 = node ∧
      ((Definition.node entry.name home kindName).run
        (.ofEntries entry.properties)).2.problems = [] := by
  unfold define
  cases KindName.parse? entry.kind with
  | none => simp
  | some kindName =>
      simp only [Option.some.injEq, exists_eq_left']
      generalize (Definition.node entry.name home kindName).run (.ofEntries entry.properties) =
        result
      rcases result with ⟨other, bag⟩
      cases problems : bag.problems with
      | nil => simp [problems]
      | cons problem rest => simp [problems]

/-! ### Key bindings -/

/-- What the edges of a binding come to: one that asks for none acts when its key goes
down. -/
def BindingDeclaration.settled (binding : BindingDeclaration) : BindingDeclaration :=
  { binding with down := binding.down || !binding.sustained && !binding.up }

/-- Whether the edges and the stop event of a binding go together with its being
sustained or not. -/
def BindingDeclaration.Coherent (binding : BindingDeclaration) : Prop :=
  (binding.sustained && (binding.down || binding.up)) = false ∧
    (binding.stopEvent.isSome && !binding.sustained) = false

/-- An entry declares a binding exactly if it has a key, its properties raise no problem,
and they go together. -/
theorem BindingEntry.declare_eq_ok_iff {entry : BindingEntry}
    {declaration : BindingDeclaration} :
    entry.declare = .ok declaration ↔
      (KeyName.ofText entry.key).isEmpty = false ∧
      let result :=
        (Definition.binding (.ofText entry.key)).run (.ofEntries entry.properties)
      result.2.problems = [] ∧ result.1.Coherent ∧ result.1.settled = declaration := by
  simp only [declare]
  cases (KeyName.ofText entry.key).isEmpty with
  | true => simp
  | false =>
      simp only [Bool.false_eq_true, if_false, true_and]
      generalize (Definition.binding (.ofText entry.key)).run (.ofEntries entry.properties) =
        result
      rcases result with ⟨binding, bag⟩
      simp only [BindingDeclaration.Coherent]
      cases bag.problems with
      | cons problem rest => simp
      | nil =>
          cases binding.sustained && (binding.down || binding.up) with
          | true => simp
          | false =>
              cases binding.stopEvent.isSome && !binding.sustained with
              | true => simp
              | false => simp [BindingDeclaration.settled]

theorem BindingEntry.ne_nil_of_declare {entry : BindingEntry} {objections : List BindingObjection}
    (refused : entry.declare = .error objections) : objections ≠ [] := by
  simp only [declare] at refused
  rcases ite_eq_iff.mp refused with ⟨-, one⟩ | ⟨-, checked⟩
  · rw [← Except.error.inj one]
    exact List.cons_ne_nil _ _
  · rcases (Definition.binding (.ofText entry.key)).run (.ofEntries entry.properties)
      with ⟨binding, bag⟩
    rcases ite_eq_iff.mp checked with ⟨-, accepted⟩ | ⟨flawed, same⟩
    · exact nomatch accepted
    · rw [← Except.error.inj same]
      simpa only [List.isEmpty_iff] using flawed

/-- Where nothing is wrong with a template, all its bindings are declared. -/
theorem TemplateEntry.forall₂_declare {entry : TemplateEntry} (sound : entry.declare.2 = []) :
    List.Forall₂ (fun binding declaration => binding.declare = .ok declaration)
      entry.bindings entry.declare.1.bindings := by
  obtain ⟨bindings, -⟩ := List.append_eq_nil_iff.mp sound
  have all : ∀ binding ∈ entry.bindings, ∃ declaration,
      binding.declare.toOption = some declaration := by
    intro binding member
    have silent := List.flatMap_eq_nil_iff.mp bindings _ (List.mem_map_of_mem member)
    cases declared : binding.declare with
    | ok declaration => exact ⟨declaration, rfl⟩
    | error objections =>
        simp only [declared, List.map_eq_nil_iff] at silent
        exact absurd silent (binding.ne_nil_of_declare declared)
  have declared := (forall₂_filterMap all).imp fun _ _ => toOption_eq_some_iff.mp
  simpa only [TemplateEntry.declare, List.filterMap_map, Function.comp_def] using declared

/-! ### Events that have to be given -/

/-- The kinds that cannot do without an event. -/
def NodeKind.needsEvent : NodeKind → Bool
  | .engineWrapper | .singleGuard => true
  | _ => false

namespace Definition

/-- A node gets its kind from the properties that are left when those of every node are
taken. -/
theorem exists_kind_node (name : String) (home : Namespace) (kindName : KindName)
    (bag : PropertyBag) : ∃ start : PropertyBag,
      ((Definition.node name home kindName).run bag).1.kind =
        ((Definition.kind kindName).run start).1.1 := by
  simp only [Definition.node, run_bind]
  cases kindName.isTest <;> cases kindName.takesNumbered <;> exact ⟨_, rfl⟩

/-- Only two kinds define nodes that need an event. -/
theorem eq_of_needsEvent_kind {kindName : KindName} {bag : PropertyBag}
    (needs : ((kind kindName).run bag).1.1.needsEvent = true) :
    kindName = .engineWrapper ∨ kindName = .singleGuard := by
  cases kindName with
  | engineWrapper => exact .inl rfl
  | singleGuard => exact .inr rfl
  | setVariable | rotate | switch | mouseButton | layerState =>
      simp only [kind, run_bind] at needs
      split at needs <;> cases needs
  | compare =>
      simp only [kind, run_bind] at needs
      split at needs <;> split at needs <;> cases needs
  | _ => cases needs

/-- A required child that nothing is noted about is there. -/
theorem isSome_requiredChild {key : String} {bag : PropertyBag}
    (sound : ((requiredChild key).run bag).2.problems = []) :
    ((requiredChild key).run bag).1.isSome = true := by
  simp only [requiredChild, run_bind] at sound ⊢
  generalize (child key).run bag = result at sound ⊢
  rcases result with ⟨given, rest⟩
  cases given with
  | some reference => rfl
  | none => exact absurd sound (List.concat_ne_nil _ _)

/-- To leave out an event is a problem.  That of a guard may have either of two names. -/
theorem isSome_event_kind {kindName : KindName} {bag : PropertyBag}
    (needs : kindName = .engineWrapper ∨ kindName = .singleGuard)
    (sound : ((kind kindName).run bag).2.problems = []) :
    ((kind kindName).run bag).1.2.isSome = true := by
  rcases needs with rfl | rfl
  · exact isSome_requiredChild sound
  · simp only [kind, run_bind] at sound ⊢
    generalize (child "EVENT_NAME").run bag = result at sound ⊢
    rcases result with ⟨given, rest⟩
    cases given with
    | some event => rfl
    | none => exact isSome_requiredChild sound

/-- The event of a node that needs one is read along with its kind, and no problem of it is
lost. -/
theorem exists_event_node {kindName : KindName}
    (needs : kindName = .engineWrapper ∨ kindName = .singleGuard) (name : String)
    (home : Namespace) (bag : PropertyBag) :
    ∃ start : PropertyBag,
      ((Definition.node name home kindName).run bag).1.children.event =
        ((kind kindName).run start).1.2 ∧
      ((kind kindName).run start).2.problems ⊆
        ((Definition.node name home kindName).run bag).2.problems := by
  rcases needs with rfl | rfl <;> exact ⟨_, rfl, List.subset_append_left _ _⟩

end Definition

/-- A node that an entry defines has an event if it needs one. -/
theorem NodeEntry.event_of_define {entry : NodeEntry} {home : Namespace} {node : Node Reference}
    (defined : entry.define home = .ok node) (needs : node.kind.needsEvent = true) :
    node.children.event.isSome = true := by
  obtain ⟨kindName, -, rfl, sound⟩ := define_eq_ok_iff.mp defined
  obtain ⟨start, made⟩ :=
    Definition.exists_kind_node entry.name home kindName (.ofEntries entry.properties)
  rw [made] at needs
  have named := Definition.eq_of_needsEvent_kind needs
  obtain ⟨start, event, problems⟩ :=
    Definition.exists_event_node named entry.name home (.ofEntries entry.properties)
  rw [event]
  exact Definition.isSome_event_kind named (List.eq_nil_of_subset_nil (sound ▸ problems))

/-- A node of a loaded graph has an event if it needs one. -/
theorem BehaviorGraph.exists_event_of_needsEvent {document : Document} {graph : BehaviorGraph}
    (loaded : BehaviorGraph.load document = .ok graph) {id : NodeId} {node : Node Edge}
    (stands : graph.nodes[id]? = some node) (needs : node.kind.needsEvent = true) :
    ∃ edge, node.children.event = some edge := by
  obtain ⟨catalogue, declares, errorless, rfl⟩ := load_eq_ok_iff.mp loaded
  rw [(declares.clean errorless).getElem?_linked] at stands
  obtain ⟨declared, standsDeclared, links⟩ := Option.bind_eq_some_iff.mp stands
  obtain ⟨children, mapped, rfl⟩ := Option.map_eq_some_iff.mp links
  obtain ⟨-, -, -, event⟩ := Children.mapM?_eq_some_iff.mp mapped
  obtain ⟨entry, -, defines⟩ :=
    exists_of_forall₂_of_mem declares.nodes (List.mem_of_getElem? standsDeclared)
  obtain ⟨reference, given⟩ :=
    Option.isSome_iff_exists.mp (NodeEntry.event_of_define defines.defined needs)
  rw [given] at event
  cases leads : (catalogue.link declared .event reference).toOption with
  | none => simp [leads] at event
  | some edge => exact ⟨edge, by simpa [leads] using event.symm⟩

end Stagecraft
