/-
Module: Stagecraft.Proofs.Renumbering
Purpose: Graphs that differ in the numbers of their nodes alone, and the catalogues that
  link to them.
Main exports:
  exists_renumbering, Node.renumber, Template.renumber, BehaviorGraph.Renumbered,
  Catalogue.Reordered, Catalogue.Renumbered, Catalogue.Renumbered.linked
-/
import Mathlib.Logic.Equiv.Basic
import Stagecraft.Proofs.Loading

namespace Stagecraft

/-!
Numbers are handed out in the order of declaration, and nothing else about a node depends
on that order.  A catalogue in another order has other numbers; all links follow them, so
the linked graph is the same up to its numbers.
-/

/-! ### Numbers of a list in another order -/

/-- A renumbering of all numbers but the first. -/
def shifted (rename : Nat ≃ Nat) : Nat ≃ Nat where
  toFun
    | 0 => 0
    | i + 1 => rename i + 1
  invFun
    | 0 => 0
    | i + 1 => rename.symm i + 1
  left_inv := by rintro (_ | i) <;> simp
  right_inv := by rintro (_ | i) <;> simp

/-- A list in another order holds everything under other numbers. -/
theorem exists_renumbering {α : Type} {xs ys : List α} (perm : xs.Perm ys) :
    ∃ rename : Nat ≃ Nat, ∀ i, ys[rename i]? = xs[i]? := by
  induction perm with
  | nil => exact ⟨.refl _, fun _ => rfl⟩
  | cons x _ ih =>
      obtain ⟨rename, same⟩ := ih
      refine ⟨shifted rename, ?_⟩
      rintro (_ | i)
      · rfl
      · exact same i
  | swap x y rest =>
      refine ⟨.swap 0 1, ?_⟩
      rintro (_ | _ | i)
      · rfl
      · rfl
      · rw [Equiv.swap_apply_of_ne_of_ne (by omega) (by omega)]
        rfl
  | trans _ _ first second =>
      obtain ⟨rename, same⟩ := first
      obtain ⟨again, sameAgain⟩ := second
      exact ⟨rename.trans again, fun i => (sameAgain (rename i)).trans (same i)⟩

variable (rename : NodeId ≃ NodeId)

/-! ### The same graph with other numbers -/

def Edge.renumber : Edge → Edge
  | .node id => .node (rename id)
  | .variable name => .variable name

/-- All children transformed in their places. -/
def Children.map {ρ τ : Type} (f : ρ → τ) (children : Children ρ) : Children τ :=
  { numbered := children.numbered.map fun (key, child) => (key, f child)
    success := children.success.map f
    failure := children.failure.map f
    event := children.event.map f }

def Node.renumber (node : Node Edge) : Node Edge :=
  { node with children := node.children.map (Edge.renumber rename) }

def KeyBinding.renumber (binding : KeyBinding) : KeyBinding :=
  { binding with event := binding.event.map rename, stopEvent := binding.stopEvent.map rename }

def Responses.renumber (responses : Responses) : Responses :=
  { onSpawn := responses.onSpawn.map rename
    onAlways := responses.onAlways.map rename
    onCollision := responses.onCollision.map rename }

def Template.renumber (template : Template) : Template :=
  { template with
    bindings := template.bindings.map (KeyBinding.renumber rename)
    responses := template.responses.renumber rename }

/-- Graphs that differ in the numbers of their nodes alone: every node stands with its
namespace, name and work under its other number, every name has the other number of its
node, and templates run the same nodes. -/
structure BehaviorGraph.Renumbered (graph other : BehaviorGraph) : Prop where
  nodes : ∀ id, other.nodes[rename id]? = (graph.nodes[id]?).map (Node.renumber rename)
  names : ∀ home name, other.find? home name = (graph.find? home name).map rename
  templates : ∀ name, other.templates.find? name =
    (graph.templates.find? name).map (Template.renumber rename)

variable {rename}

namespace Node

variable (node : Node Edge)

@[simp] theorem home_renumber : (node.renumber rename).home = node.home := rfl

-- Not by `rfl`: a rewrite by definition leaves behind the decision procedures of conditions
-- on the kind and the signal.
@[simp] theorem kind_renumber : (node.renumber rename).kind = node.kind := by rw [renumber]

@[simp] theorem signal_renumber : (node.renumber rename).signal = node.signal := by
  rw [renumber]

@[simp] theorem numbered_renumber : (node.renumber rename).children.numbered =
    node.children.numbered.map fun (key, edge) => (key, edge.renumber rename) := rfl

@[simp] theorem success_renumber : (node.renumber rename).children.success =
    node.children.success.map (Edge.renumber rename) := rfl

@[simp] theorem failure_renumber : (node.renumber rename).children.failure =
    node.children.failure.map (Edge.renumber rename) := rfl

@[simp] theorem event_renumber : (node.renumber rename).children.event =
    node.children.event.map (Edge.renumber rename) := rfl

end Node

/-- If every namespace finds a name under its new number, then so does every scope. -/
theorem scoped?_eq_map {find other : Namespace → String → Option NodeId}
    (names : ∀ home name, other home name = (find home name).map rename) (home : Namespace)
    (name : String) (mapOnly : Bool) :
    scoped? other home name mapOnly = (scoped? find home name mapOnly).map rename := by
  unfold scoped?
  cases home with
  | map => simp [names]
  | actor template => cases mapOnly <;> simp [names, Option.map_or]

/-- A name resolves to the new number of its node. -/
theorem BehaviorGraph.Renumbered.resolve?_eq {graph other : BehaviorGraph}
    (renumbered : graph.Renumbered rename other) (home : Namespace) (name : String)
    (mapOnly : Bool) :
    other.resolve? home name mapOnly = (graph.resolve? home name mapOnly).map rename :=
  scoped?_eq_map renumbered.names home name mapOnly

/-- Every graph is itself under the same numbers. -/
theorem BehaviorGraph.Renumbered.refl (graph : BehaviorGraph) :
    graph.Renumbered (.refl NodeId) graph := by
  have edges : Edge.renumber (.refl NodeId) = id := by
    funext edge
    cases edge <;> rfl
  have nodes : Node.renumber (.refl NodeId) = id := by
    funext node
    simp only [Node.renumber, Children.map, edges, id_eq, List.map_id_fun', Option.map_id_fun]
  have templates : Template.renumber (.refl NodeId) = id := by
    funext template
    have bindings : KeyBinding.renumber (.refl NodeId) = id := by
      funext binding
      simp only [KeyBinding.renumber, Equiv.coe_refl, Option.map_id_fun, id_eq]
    simp only [Template.renumber, Responses.renumber, bindings, Equiv.coe_refl, Option.map_id_fun,
      List.map_id_fun, id_eq]
  constructor
  · intro id
    rw [nodes, Option.map_id_fun]
    rfl
  · intro home name
    rw [Equiv.coe_refl, Option.map_id_fun]
    rfl
  · intro name
    rw [templates, Option.map_id_fun]
    rfl

/-- A number and its other number belong to the same namespace and name, or to no node. -/
theorem BehaviorGraph.Renumbered.key_eq {graph other : BehaviorGraph}
    (renumbered : graph.Renumbered rename other) (id : NodeId) :
    (other.nodes[rename id]?).map Node.key = (graph.nodes[id]?).map Node.key := by
  rw [renumbered.nodes, Option.map_map]
  rfl

/-! ### Transformed links -/

/-- To map the children of a node and what comes of them may be done one after the other. -/
theorem Children.mapM?_map {ρ τ υ : Type} {f : Role → ρ → Option τ} {g : τ → υ}
    (children : Children ρ) :
    (children.mapM? fun role child => (f role child).map g) =
      (children.mapM? f).map (Children.map g) := by
  have numbered :
      (children.numbered.mapM fun (key, child) =>
          ((f (.numbered key) child).map g).map (key, ·)) =
        (children.numbered.mapM fun (key, child) => (f (.numbered key) child).map (key, ·)).map
          (List.map fun (key, child) => (key, g child)) := by
    rw [← mapM_map]
    simp only [Option.map_map, Function.comp_def]
  have single : ∀ (role : Role) (child : Option ρ),
      child.mapM (fun child => (f role child).map g) =
        (child.mapM (f role)).map (Option.map g) := by
    intro role child
    cases child with
    | none => rfl
    | some child => cases image : f role child <;> simp [image]
  simp only [mapM?, numbered, single]
  cases children.numbered.mapM fun (key, child) => (f (.numbered key) child).map (key, ·) with
  | none => rfl
  | some _ =>
      cases children.success.mapM (f .success) with
      | none => rfl
      | some _ =>
          cases children.failure.mapM (f .failure) with
          | none => rfl
          | some _ => cases children.event.mapM (f .event) <;> rfl

namespace Catalogue

/-- What is reported of links does not depend on what they lead to. -/
theorem reports_map {α β : Type} {f : α → β} (links : List (Except LinkFailure α)) :
    reports (links.map (Except.map f)) = reports links := by
  unfold reports
  rw [List.filterMap_map]
  congr 1
  funext link
  cases link <;> rfl

end Catalogue

theorem Responses.set_renumber (responses : Responses) (id : NodeId) (occasion : Occasion) :
    (responses.renumber rename).set (rename id) occasion =
      (responses.set id occasion).renumber rename := by
  cases occasion <;> rfl

/-- Responses are collected alike under the new numbers. -/
theorem Responses.foldl_set_renumber (linked : List (Occasion × NodeId)) (start : Responses) :
    (linked.map fun (occasion, id) => (occasion, rename id)).foldl
        (fun all (occasion, id) => all.set id occasion) (start.renumber rename) =
      (linked.foldl (fun all (occasion, id) => all.set id occasion) start).renumber rename := by
  induction linked generalizing start with
  | nil => rfl
  | cons response rest ih =>
      rcases response with ⟨occasion, id⟩
      simp only [List.map_cons, List.foldl_cons, set_renumber]
      exact ih _

/-! ### Catalogues in another order -/

/-- Catalogues with the same declarations in different orders. -/
structure Catalogue.Reordered (catalogue other : Catalogue) : Prop where
  nodes : catalogue.nodes.Perm other.nodes
  templates : catalogue.templates.Perm other.templates
  broken : other.broken = catalogue.broken

variable (rename) in
/-- Catalogues that hold the same declarations under different numbers. -/
structure Catalogue.Renumbered (catalogue other : Catalogue) : Prop where
  nodes : ∀ id, other.nodes[rename id]? = catalogue.nodes[id]?
  names : ∀ home name, other.find? home name = (catalogue.find? home name).map rename
  broken : other.broken = catalogue.broken

namespace Catalogue

variable {catalogue other : Catalogue}

/-- Where names differ, a name has the other number of its node. -/
theorem Reordered.exists_renumbered (reordered : catalogue.Reordered other)
    (distinct : (catalogue.nodes.map Node.key).Nodup) :
    ∃ rename : NodeId ≃ NodeId, catalogue.Renumbered rename other := by
  obtain ⟨rename, nodes⟩ := exists_renumbering reordered.nodes
  have distinctOther : (other.nodes.map Node.key).Nodup :=
    (reordered.nodes.map Node.key).nodup_iff.mp distinct
  refine ⟨rename, nodes, ?_, reordered.broken⟩
  intro home name
  apply Option.ext
  intro id
  rw [find?_eq_some_iff distinctOther, Option.map_eq_some_iff]
  simp only [find?_eq_some_iff distinct]
  constructor
  · rintro ⟨node, stands, key⟩
    refine ⟨rename.symm id, ⟨node, ?_, key⟩, rename.apply_symm_apply id⟩
    rw [← nodes, rename.apply_symm_apply, stands]
  · rintro ⟨former, ⟨node, stands, key⟩, rfl⟩
    exact ⟨node, by rw [nodes, stands], key⟩

namespace Renumbered

variable (renumbered : catalogue.Renumbered rename other)

include renumbered

/-- In a reordered catalogue a name links to the new number, or fails with the same report. -/
theorem linkName_eq (home : Namespace) (source name : String) (mapOnly : Bool) :
    other.linkName home source name mapOnly =
      (catalogue.linkName home source name mapOnly).map rename := by
  have resolves : other.resolveName? home name mapOnly =
      (catalogue.resolveName? home name mapOnly).map rename :=
    scoped?_eq_map renumbered.names home name mapOnly
  have broken : other.isKnownBroken home name mapOnly =
      catalogue.isKnownBroken home name mapOnly := by
    simp only [isKnownBroken, isBroken, renumbered.broken]
  simp only [linkName, resolves, broken]
  cases catalogue.resolveName? home name mapOnly with
  | some id => rfl
  | none => cases catalogue.isKnownBroken home name mapOnly <;> rfl

/-- The same holds of every reference of a node. -/
theorem link_eq (node : Node Reference) (role : Role) (reference : Reference) :
    other.link node role reference =
      (catalogue.link node role reference).map (Edge.renumber rename) := by
  cases reference with
  | «variable» name => rfl
  | named name =>
      simp only [link, renumbered.linkName_eq]
      cases catalogue.linkName node.home node.name name (isMapOnly node.kind role) <;> rfl

/-- The same holds of every event of a template. -/
theorem linkEvent_eq (template : TemplateDeclaration) (source : String)
    (reference : Reference) :
    other.linkEvent template source reference =
      (catalogue.linkEvent template source reference).map rename := by
  cases reference with
  | «variable» name => rfl
  | named name => exact renumbered.linkName_eq _ _ _ _

theorem linkEvent?_eq (template : TemplateDeclaration) (source : String)
    (reference : Option Reference) :
    other.linkEvent? template source reference =
      (catalogue.linkEvent? template source reference).map (Option.map rename) := by
  cases reference with
  | none => rfl
  | some reference =>
      simp only [linkEvent?, renumbered.linkEvent_eq]
      cases catalogue.linkEvent template source reference <;> rfl

/-- A node keeps its priority under its new number. -/
theorem priorityOf?_eq (id : NodeId) :
    other.priorityOf? (rename id) = catalogue.priorityOf? id := by
  simp only [priorityOf?, renumbered.nodes]

/-- A binding is linked alike, with the new numbers of its events. -/
theorem linkBinding_eq (template : TemplateDeclaration) (binding : BindingDeclaration) :
    other.linkBinding template binding =
      (catalogue.linkBinding template binding).map (KeyBinding.renumber rename) := by
  simp only [linkBinding, renumbered.linkEvent?_eq]
  cases catalogue.linkEvent? template ("binding " ++ binding.key.text) binding.event with
  | error failure => rfl
  | ok event =>
      cases catalogue.linkEvent? template ("binding " ++ binding.key.text) binding.stopEvent with
      | error failure => rfl
      | ok stopEvent =>
          have inherited : (event.map rename).bind other.priorityOf? =
              event.bind catalogue.priorityOf? := by
            cases event with
            | none => rfl
            | some id => exact renumbered.priorityOf?_eq id
          simp only [Except.map, bind, Except.bind, inherited]
          rfl

/-- A template is linked to the other numbers, with the same reports. -/
theorem linkTemplate_eq (template : TemplateDeclaration) :
    other.linkTemplate template =
      ((catalogue.linkTemplate template).1.renumber rename,
        (catalogue.linkTemplate template).2) := by
  have bindings : template.bindings.map (other.linkBinding template) =
      (template.bindings.map (catalogue.linkBinding template)).map
        (Except.map (KeyBinding.renumber rename)) := by
    rw [List.map_map]
    exact List.map_congr_left fun binding _ => renumbered.linkBinding_eq template binding
  have responses :
      (template.responses.map fun response =>
          (other.linkEvent template response.1.name response.2).map fun id => (response.1, id)) =
        (template.responses.map fun response =>
            (catalogue.linkEvent template response.1.name response.2).map
              fun id => (response.1, id)).map
          (Except.map fun response => (response.1, rename response.2)) := by
    rw [List.map_map]
    refine List.map_congr_left fun response _ => ?_
    simp only [Function.comp_apply, renumbered.linkEvent_eq]
    cases catalogue.linkEvent template response.1.name response.2 <;> rfl
  have start : ({} : Responses) = ({} : Responses).renumber rename := rfl
  simp only [linkTemplate, bindings, responses, reports_map, filterMap_toOption_map]
  rw [start, Responses.foldl_set_renumber]
  rfl

/-- A node is linked alike, with the new numbers of its children. -/
theorem linkNode?_eq (node : Node Reference) :
    other.linkNode? node = (catalogue.linkNode? node).map (Node.renumber rename) := by
  have links : ∀ role reference, (other.link node role reference).toOption =
      ((catalogue.link node role reference).toOption).map (Edge.renumber rename) := by
    intro role reference
    rw [renumbered.link_eq]
    cases catalogue.link node role reference <;> rfl
  simp only [linkNode?, links, Children.mapM?_map, Option.map_map]
  rfl

theorem childLinks_eq (node : Node Reference) :
    other.childLinks node =
      (catalogue.childLinks node).map (Except.map (Edge.renumber rename)) := by
  simp only [childLinks, List.map_map]
  exact List.map_congr_left fun child _ => renumbered.link_eq node child.1 child.2

/-- The same edges connect the nodes under their other numbers. -/
theorem edge_of_edge {source target : NodeId} (edge : other.edgeTable.Edge source target) :
    catalogue.edgeTable.Edge (rename.symm source) (rename.symm target) := by
  obtain ⟨node, role, reference, stands, child, made⟩ := Clean.edge_iff.mp edge
  refine Clean.edge_iff.mpr ⟨node, role, reference, ?_, child, ?_⟩
  · rw [← renumbered.nodes, rename.apply_symm_apply, stands]
  · rw [renumbered.link_eq] at made
    obtain ⟨former, linked, same⟩ := exists_of_map_eq_ok made
    cases former with
    | «variable» name => cases same
    | node id =>
        obtain rfl : rename id = target := Edge.node.inj same
        rw [linked, rename.symm_apply_apply]

end Renumbered

/-- If nothing is wrong with the links of a catalogue, nothing is wrong with them in another
order. -/
theorem Reordered.linkErrors_eq_nil (reordered : catalogue.Reordered other)
    (clean : catalogue.Clean) (errorless : catalogue.linkErrors = []) : other.linkErrors = [] := by
  obtain ⟨rename, renumbered⟩ := reordered.exists_renumbered clean.distinct
  obtain ⟨children, events, -⟩ := linkErrors_eq_nil_iff.mp errorless
  refine linkErrors_eq_nil_iff.mpr ⟨?_, ?_, ?_⟩
  · intro node member
    rw [renumbered.childLinks_eq, reports_map]
    exact children node (reordered.nodes.mem_iff.mpr member)
  · intro template member
    rw [renumbered.linkTemplate_eq]
    exact events template (reordered.templates.mem_iff.mpr member)
  · exact findCycles_eq_nil_of_acyclic
      (clean.acyclic_edgeTable.of_edges fun _ _ => renumbered.edge_of_edge)

/-- Catalogues with different numbers link to graphs that differ in these numbers alone. -/
theorem Renumbered.linked (renumbered : catalogue.Renumbered rename other)
    (templates : catalogue.templates.Perm other.templates) (clean : catalogue.Clean)
    (cleanOther : other.Clean)
    (distinct : (catalogue.templates.map TemplateDeclaration.name).Nodup) :
    catalogue.linked.Renumbered rename other.linked where
  nodes id := by
    rw [clean.getElem?_linked, cleanOther.getElem?_linked, renumbered.nodes, Option.map_bind]
    congr 1
    funext node
    exact renumbered.linkNode?_eq node
  names home name := by
    rw [find?_linked, find?_linked]
    exact renumbered.names home name
  templates name := by
    have distinctOther : (other.templates.map TemplateDeclaration.name).Nodup :=
      (templates.map TemplateDeclaration.name).nodup_iff.mp distinct
    apply Option.ext
    intro template
    rw [find?_templates_linked distinctOther, Option.map_eq_some_iff]
    simp only [find?_templates_linked distinct, renumbered.linkTemplate_eq]
    constructor
    · rintro ⟨declaration, member, named, rfl⟩
      exact ⟨_, ⟨declaration, templates.mem_iff.mpr member, named, rfl⟩, rfl⟩
    · rintro ⟨-, ⟨declaration, member, named, rfl⟩, rfl⟩
      exact ⟨declaration, templates.mem_iff.mp member, named, rfl⟩

end Catalogue

end Stagecraft
