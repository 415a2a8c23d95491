/-
Module: Stagecraft.Proofs.Links
Purpose: In a loaded graph every link leads to a node that can be seen from
  where the link starts, and no static edge leads back.
Main exports:
  BehaviorGraph.Visible, BehaviorGraph.Leads, Template.Runs, BehaviorGraph.Linked,
  Catalogue.Clean, BehaviorGraph.load_linked
-/
import Stagecraft.Graph.Linking
import Stagecraft.Proofs.CycleSearch
import Stagecraft.Proofs.Declarations

namespace Stagecraft

open Relation (TransGen)

/-!
A document loads only if nothing in it is broken and every name that it mentions
can be linked.  Then no node is left out of the graph, so the numbers of the
catalogue are positions of the graph.
-/

namespace BehaviorGraph

/-- A number belongs to a name exactly when the node there has the name. -/
def Indexed (graph : BehaviorGraph) : Prop :=
  ∀ home name id, graph.find? home name = some id ↔
    ∃ node, graph.nodes[id]? = some node ∧ node.key = (home, name)

/-- A node that has a name as seen from a namespace, or from the map alone. -/
def Visible (graph : BehaviorGraph) (home : Namespace) (mapOnly : Bool) (id : NodeId) : Prop :=
  ∃ name, graph.resolve? home name mapOnly = some id

/-- A static edge leads from one node to another. -/
def Leads (graph : BehaviorGraph) (source target : NodeId) : Prop :=
  ∃ node role, graph.nodes[source]? = some node ∧ (role, .node target) ∈ node.children.toList

end BehaviorGraph

/-- A node that a template runs on its own account: for a key, at the end of an
action, or in response to an occasion. -/
inductive Template.Runs (template : Template) (id : NodeId) : Prop where
  | event {binding : KeyBinding} (member : binding ∈ template.bindings)
      (runs : binding.event = some id)
  | stopEvent {binding : KeyBinding} (member : binding ∈ template.bindings)
      (runs : binding.stopEvent = some id)
  | response (occasion : Occasion) (runs : template.responses.event? occasion = some id)

/-- A graph whose numbers all have a meaning: names are those of the nodes,
children and events of templates are visible where they are mentioned, and static
edges form no cycle. -/
structure BehaviorGraph.Linked (graph : BehaviorGraph) : Prop where
  indexed : graph.Indexed
  child : ∀ {id : NodeId} {node role child}, graph.nodes[id]? = some node →
    (role, .node child) ∈ node.children.toList →
      graph.Visible node.home (isMapOnly node.kind role) child
  root : ∀ {name template id}, graph.template name = .ok template → template.Runs id →
    graph.Visible (.actor name) false id
  acyclic : ∀ id, ¬ TransGen graph.Leads id id

/-- What is visible from a namespace belongs to it or to the map. -/
theorem BehaviorGraph.Indexed.exists_of_visible {graph : BehaviorGraph} (indexed : graph.Indexed)
    {home : Namespace} {mapOnly : Bool} {id : NodeId} (visible : graph.Visible home mapOnly id) :
    ∃ node, graph.nodes[id]? = some node ∧
      (node.home = .map ∨ node.home = home ∧ mapOnly = false) := by
  rcases visible with ⟨name, found⟩
  unfold resolve? scoped? at found
  rcases Option.or_eq_some_iff.mp found with own | ⟨-, shared⟩
  · cases home with
    | map => cases own
    | actor template =>
        cases mapOnly with
        | true => cases own
        | false =>
            obtain ⟨node, stands, key⟩ := (indexed _ _ _).mp own
            exact ⟨node, stands, .inr ⟨congrArg Prod.fst key, rfl⟩⟩
  · obtain ⟨node, stands, key⟩ := (indexed _ _ _).mp shared
    exact ⟨node, stands, .inl (congrArg Prod.fst key)⟩

/-! ### Transformed children -/

namespace Children

variable {ρ τ : Type} {f : Role → ρ → Option τ} {children : Children ρ}

/-- The children of a node are mapped if those of every role are. -/
theorem mapM?_eq_some_iff {others : Children τ} :
    children.mapM? f = some others ↔
      children.numbered.mapM (fun child => (f (.numbered child.1) child.2).map (child.1, ·)) =
          some others.numbered ∧
        children.success.mapM (f .success) = some others.success ∧
        children.failure.mapM (f .failure) = some others.failure ∧
        children.event.mapM (f .event) = some others.event := by
  simp only [mapM?]
  constructor
  · intro mapped
    obtain ⟨numbered, first, mapped⟩ := Option.bind_eq_some_iff.mp mapped
    obtain ⟨success, second, mapped⟩ := Option.bind_eq_some_iff.mp mapped
    obtain ⟨failure, third, mapped⟩ := Option.bind_eq_some_iff.mp mapped
    obtain ⟨event, fourth, mapped⟩ := Option.bind_eq_some_iff.mp mapped
    cases mapped
    exact ⟨first, second, third, fourth⟩
  · rintro ⟨first, second, third, fourth⟩
    simp only [bind, pure]
    rw [first, second, third, fourth]
    rfl

theorem exists_optionMapM_eq_some {g : ρ → Option τ} {child : Option ρ}
    (all : ∀ source, child = some source → ∃ other, g source = some other) :
    ∃ other, child.mapM g = some other := by
  cases child with
  | none => exact ⟨none, rfl⟩
  | some source =>
      obtain ⟨other, maps⟩ := all source rfl
      exact ⟨some other, by simp [maps]⟩

/-- If every child can be transformed, all of them can. -/
theorem exists_mapM?_eq_some
    (all : ∀ role child, (role, child) ∈ children.toList → ∃ other, f role child = some other) :
    ∃ others, children.mapM? f = some others := by
  obtain ⟨numbered, first⟩ : ∃ numbered, children.numbered.mapM
      (fun child => (f (.numbered child.1) child.2).map (child.1, ·)) = some numbered := by
    apply exists_mapM_eq_some
    intro entry member
    obtain ⟨other, maps⟩ := all (.numbered entry.1) entry.2 (numbered_mem_toList.mpr member)
    exact ⟨(entry.1, other), by rw [maps]; rfl⟩
  obtain ⟨success, second⟩ := exists_optionMapM_eq_some
    fun source found => all .success source (success_mem_toList.mpr found)
  obtain ⟨failure, third⟩ := exists_optionMapM_eq_some
    fun source found => all .failure source (failure_mem_toList.mpr found)
  obtain ⟨event, fourth⟩ := exists_optionMapM_eq_some
    fun source found => all .event source (event_mem_toList.mpr found)
  exact ⟨{ numbered, success, failure, event },
    mapM?_eq_some_iff.mpr ⟨first, second, third, fourth⟩⟩

theorem forall₂_toList_of_mapM {g : ρ → Option τ} {child : Option ρ}
    {other : Option τ} (mapped : child.mapM g = some other) :
    List.Forall₂ (fun x y => g x = some y) child.toList other.toList := by
  cases child with
  | none =>
      cases mapped
      exact .nil
  | some x =>
      cases image : g x with
      | none => simp [image] at mapped
      | some y =>
          obtain rfl : some y = other := by simpa [image] using mapped
          exact .cons image .nil

/-- Transformed children stand in the places of the children that they come from. -/
theorem forall₂_toList {others : Children τ} (mapped : children.mapM? f = some others) :
    List.Forall₂ (fun child other => other.1 = child.1 ∧ f child.1 child.2 = some other.2)
      children.toList others.toList := by
  obtain ⟨numbered, success, failure, event⟩ := mapM?_eq_some_iff.mp mapped
  have single : ∀ (role : Role) {child : Option ρ} {other : Option τ},
      child.mapM (f role) = some other →
        List.Forall₂ (fun child other => other.1 = child.1 ∧ f child.1 child.2 = some other.2)
          (child.toList.map (role, ·)) (other.toList.map (role, ·)) := by
    intro role child other mapped
    rw [List.forall₂_map_left_iff, List.forall₂_map_right_iff]
    exact (forall₂_toList_of_mapM mapped).imp fun _ _ image => ⟨rfl, image⟩
  have first : List.Forall₂
      (fun child other => other.1 = child.1 ∧ f child.1 child.2 = some other.2)
      (children.numbered.map fun entry => (Role.numbered entry.1, entry.2))
      (others.numbered.map fun entry => (Role.numbered entry.1, entry.2)) := by
    rw [List.forall₂_map_left_iff, List.forall₂_map_right_iff]
    refine (forall₂_of_mapM numbered).imp ?_
    rintro ⟨key, child⟩ other image
    obtain ⟨edge, made, rfl⟩ := Option.map_eq_some_iff.mp image
    exact ⟨rfl, made⟩
  exact List.rel_append
    (List.rel_append (List.rel_append first (single .success success)) (single .failure failure))
    (single .event event)

/-- Every transformed child comes from a child of the same role. -/
theorem exists_of_mem_mapM? {others : Children τ} (mapped : children.mapM? f = some others)
    {role : Role} {other : τ} (member : (role, other) ∈ others.toList) :
    ∃ child, (role, child) ∈ children.toList ∧ f role child = some other := by
  obtain ⟨⟨_, child⟩, here, rfl, maps⟩ := exists_of_forall₂_of_mem (forall₂_toList mapped) member
  exact ⟨child, here, maps⟩

end Children

/-! ### Links that fail without a report -/

/-- A link that is made, or that fails with a report of its own. -/
def Reported {α : Type} (link : Except LinkFailure α) : Prop := link ≠ .error none

namespace Reported

variable {α β : Type}

theorem map {link : Except LinkFailure α} (reported : Reported link) (f : α → β) :
    Reported (link.map f) := by
  cases link with
  | ok value => exact fun silent => nomatch silent
  | error failure =>
      intro silent
      cases silent
      exact reported rfl

theorem bind {link : Except LinkFailure α} {next : α → Except LinkFailure β}
    (reported : Reported link) (after : ∀ value, Reported (next value)) :
    Reported (link >>= next) := by
  cases link with
  | ok value => exact after value
  | error failure =>
      intro silent
      cases silent
      exact reported rfl

/-- Where nothing is reported, every link is made. -/
theorem exists_ok {links : List (Except LinkFailure α)} (unreported : Catalogue.reports links = [])
    {link : Except LinkFailure α} (member : link ∈ links) (reported : Reported link) :
    ∃ value, link = .ok value := by
  cases link with
  | ok value => exact ⟨value, rfl⟩
  | error failure =>
      have silent := List.filterMap_eq_nil_iff.mp unreported _ member
      rw [show failure = Option.none from silent] at reported
      exact absurd rfl reported

end Reported

namespace Catalogue

variable {catalogue : Catalogue}

/-- In a catalogue without broken names, a name that is not found is reported. -/
theorem linkName_reported (intact : catalogue.broken = []) (home : Namespace)
    (source name : String) (mapOnly : Bool) :
    Reported (catalogue.linkName home source name mapOnly) := by
  have whole : catalogue.isKnownBroken home name mapOnly = false := by
    simp [isKnownBroken, isBroken, intact]
  simp only [linkName]
  split
  · exact fun silent => nomatch silent
  · rw [whole]
    exact fun silent => nomatch silent

/-- So is a reference that does not link. -/
theorem link_reported (intact : catalogue.broken = []) (node : Node Reference) (role : Role)
    (reference : Reference) : Reported (catalogue.link node role reference) := by
  cases reference with
  | «variable» name => exact fun silent => nomatch silent
  | named name => exact (linkName_reported intact _ _ _ _).map _

/-! ### The names of a linked catalogue -/

/-- The linked graph finds its nodes where the catalogue had them. -/
theorem find?_linked (catalogue : Catalogue) : catalogue.linked.find? = catalogue.find? := by
  funext home name
  simp only [BehaviorGraph.find?, find?, linked]
  rw [List.idxOf?, List.findIdx?_map]
  congr 1

/-- So a name resolves alike in both. -/
theorem resolve?_linked (catalogue : Catalogue) (home : Namespace) (name : String)
    (mapOnly : Bool) :
    catalogue.linked.resolve? home name mapOnly = catalogue.resolveName? home name mapOnly := by
  simp only [BehaviorGraph.resolve?, resolveName?]
  rw [find?_linked]

/-- A name that links is one that resolves in the graph. -/
theorem resolve?_of_linkName {home : Namespace} {source name : String} {mapOnly : Bool}
    {id : NodeId} (linked : catalogue.linkName home source name mapOnly = .ok id) :
    catalogue.linked.resolve? home name mapOnly = some id := by
  rw [resolve?_linked]
  unfold linkName at linked
  split at linked
  · next found => rw [found, Except.ok.inj linked]
  · split at linked <;> cases linked

theorem visible_of_linkName {home : Namespace} {source name : String} {mapOnly : Bool}
    {id : NodeId} (linked : catalogue.linkName home source name mapOnly = .ok id) :
    catalogue.linked.Visible home mapOnly id :=
  ⟨name, resolve?_of_linkName linked⟩

/-- A child that is linked to a node is visible from its parent. -/
theorem visible_of_link {node : Node Reference} {role : Role} {reference : Reference}
    {id : NodeId} (linked : catalogue.link node role reference = .ok (.node id)) :
    catalogue.linked.Visible node.home (isMapOnly node.kind role) id := by
  cases reference with
  | «variable» name => cases linked
  | named name =>
      obtain ⟨child, linked, same⟩ := exists_of_map_eq_ok linked
      cases same
      exact visible_of_linkName linked

/-- An event that is linked is visible from its template. -/
theorem visible_of_linkEvent {template : TemplateDeclaration} {source : String}
    {reference : Reference} {id : NodeId}
    (linked : catalogue.linkEvent template source reference = .ok id) :
    catalogue.linked.Visible template.home false id := by
  cases reference with
  | «variable» name => cases linked
  | named name => exact visible_of_linkName linked

theorem visible_of_linkEvent? {template : TemplateDeclaration} {source : String}
    {reference : Option Reference} {id : NodeId}
    (linked : catalogue.linkEvent? template source reference = .ok (some id)) :
    catalogue.linked.Visible template.home false id := by
  cases reference with
  | none => cases linked
  | some reference =>
      obtain ⟨event, linked, same⟩ := exists_of_map_eq_ok linked
      cases same
      exact visible_of_linkEvent linked

/-! ### The nodes of a linked catalogue -/

/-- A linked node is the declared one with its children linked. -/
theorem eq_of_linkNode? {node : Node Reference} {linked : Node Edge}
    (links : catalogue.linkNode? node = some linked) :
    linked.key = node.key ∧ linked.kind = node.kind ∧
      ∀ role edge, (role, edge) ∈ linked.children.toList → ∃ reference,
        (role, reference) ∈ node.children.toList ∧
          catalogue.link node role reference = .ok edge := by
  obtain ⟨children, mapped, same⟩ := Option.map_eq_some_iff.mp links
  cases same
  refine ⟨rfl, rfl, ?_⟩
  intro role edge member
  obtain ⟨reference, child, linked⟩ := Children.exists_of_mem_mapM? mapped member
  refine ⟨reference, child, ?_⟩
  cases made : catalogue.link node role reference with
  | error failure =>
      rw [made] at linked
      cases linked
  | ok value =>
      rw [made] at linked
      exact congrArg Except.ok (Option.some.inj linked)

/-- A node can be linked exactly if all of its children can. -/
theorem exists_linkNode?_iff {node : Node Reference} :
    (∃ linked, catalogue.linkNode? node = some linked) ↔
      ∀ child ∈ node.children.toList, ∃ edge, catalogue.link node child.1 child.2 = .ok edge := by
  simp only [linkNode?, Option.map_eq_some_iff, ← toOption_eq_some_iff]
  constructor
  · rintro ⟨linked, children, mapped, -⟩ child member
    obtain ⟨other, -, -, made⟩ :=
      exists_of_forall₂_of_mem (Children.forall₂_toList mapped).flip member
    exact ⟨_, made⟩
  · intro all
    obtain ⟨children, mapped⟩ :=
      Children.exists_mapM?_eq_some fun role child member => all (role, child) member
    exact ⟨_, children, mapped, rfl⟩

/-- A catalogue without errors: names differ, none is broken, all children can be
linked, and there are no cycles. -/
structure Clean (catalogue : Catalogue) : Prop where
  distinct : (catalogue.nodes.map Node.key).Nodup
  intact : catalogue.broken = []
  links : ∀ node ∈ catalogue.nodes, reports (catalogue.childLinks node) = []
  cycles : findCycles catalogue.edgeTable = []

namespace Clean

/-- In a clean catalogue every node links. -/
theorem exists_linkNode? (clean : catalogue.Clean) {node : Node Reference}
    (member : node ∈ catalogue.nodes) : ∃ linked, catalogue.linkNode? node = some linked := by
  apply exists_linkNode?_iff.mpr
  intro child here
  apply Reported.exists_ok (clean.links node member) (List.mem_map_of_mem here)
  exact link_reported clean.intact node child.1 child.2

/-- The nodes of the graph stand where the catalogue declares them. -/
theorem getElem?_linked (clean : catalogue.Clean) (id : NodeId) :
    catalogue.linked.nodes[id]? = (catalogue.nodes[id]?).bind catalogue.linkNode? :=
  getElem?_filterMap (fun _ member => clean.exists_linkNode? member) id

/-- The directory of the graph gives every node its own number. -/
theorem indexed (clean : catalogue.Clean) : catalogue.linked.Indexed := by
  intro home name id
  rw [find?_linked, find?_eq_some_iff clean.distinct, clean.getElem?_linked]
  constructor
  · rintro ⟨node, stands, key⟩
    obtain ⟨linked, links⟩ := clean.exists_linkNode? (List.mem_of_getElem? stands)
    refine ⟨linked, by rw [stands]; exact links, ?_⟩
    rw [(eq_of_linkNode? links).1, key]
  · rintro ⟨linked, stands, key⟩
    obtain ⟨node, stands, links⟩ := Option.bind_eq_some_iff.mp stands
    exact ⟨node, stands, by rw [← (eq_of_linkNode? links).1, key]⟩

/-- The graph has no more nodes than the catalogue. -/
theorem lt_length_of_visible (clean : catalogue.Clean) {home : Namespace} {mapOnly : Bool}
    {id : NodeId} (visible : catalogue.linked.Visible home mapOnly id) :
    id < catalogue.nodes.length := by
  obtain ⟨linked, stands, -⟩ := clean.indexed.exists_of_visible visible
  rw [clean.getElem?_linked] at stands
  obtain ⟨node, stands, -⟩ := Option.bind_eq_some_iff.mp stands
  exact (List.getElem?_eq_some_iff.mp stands).1

/-- The table of the catalogue has an edge where a static child is linked. -/
theorem edge_iff {source target : NodeId} :
    catalogue.edgeTable.Edge source target ↔ ∃ node role reference,
      catalogue.nodes[source]? = some node ∧ (role, reference) ∈ node.children.toList ∧
        catalogue.link node role reference = .ok (.node target) := by
  simp only [EdgeTable.Edge, EdgeTable.targets, edgeTable]
  rw [List.getElem?_map]
  cases stands : catalogue.nodes[source]? with
  | none => simp
  | some node =>
      simp only [Option.map_some, Option.getD_some, List.mem_filterMap, childLinks,
        List.mem_map]
      constructor
      · rintro ⟨link, ⟨⟨role, reference⟩, child, rfl⟩, leads⟩
        refine ⟨node, role, reference, rfl, child, ?_⟩
        cases made : catalogue.link node role reference with
        | error failure => simp [made, staticTarget?] at leads
        | ok edge => cases edge <;> simp_all [staticTarget?]
      · rintro ⟨here, role, reference, same, child, made⟩
        cases same
        exact ⟨_, ⟨(role, reference), child, rfl⟩, by rw [made]; rfl⟩

/-- A catalogue without reported cycles has none. -/
theorem acyclic_edgeTable (clean : catalogue.Clean) : catalogue.edgeTable.Acyclic := by
  apply acyclic_of_findCycles_eq_nil _ clean.cycles
  intro source target edge
  obtain ⟨node, role, reference, -, -, made⟩ := edge_iff.mp edge
  simpa [edgeTable] using clean.lt_length_of_visible (visible_of_link made)

/-- Nor do the static edges of the linked graph lead back to where they begin. -/
theorem acyclic (clean : catalogue.Clean) (id : NodeId) :
    ¬ TransGen catalogue.linked.Leads id id := by
  have edge : ∀ source target, catalogue.linked.Leads source target →
      catalogue.edgeTable.Edge source target := by
    rintro source target ⟨linked, role, stands, member⟩
    rw [clean.getElem?_linked] at stands
    obtain ⟨node, stands, links⟩ := Option.bind_eq_some_iff.mp stands
    obtain ⟨reference, child, made⟩ := (eq_of_linkNode? links).2.2 role _ member
    exact edge_iff.mpr ⟨node, role, reference, stands, child, made⟩
  intro cycle
  exact clean.acyclic_edgeTable id (TransGen.mono edge id id cycle)

end Clean

/-! ### The templates of a linked catalogue -/

/-- A response that counts is among those that were linked. -/
theorem mem_of_event?_foldl {linked : List (Occasion × NodeId)} {start : Responses}
    {occasion : Occasion} {id : NodeId}
    (found : (linked.foldl (fun all (occasion, id) => all.set id occasion) start).event? occasion =
      some id) : (occasion, id) ∈ linked ∨ start.event? occasion = some id := by
  induction linked generalizing start with
  | nil => exact .inr found
  | cons response rest ih =>
      rcases response with ⟨other, event⟩
      rcases ih found with later | before
      · exact .inl (List.mem_cons_of_mem _ later)
      · rw [Responses.event?_set] at before
        split at before
        · next same =>
            cases before
            exact .inl (by simp [same])
        · exact .inr before

theorem mem_filterMap_toOption {α : Type} {links : List (Except LinkFailure α)} {value : α}
    (member : value ∈ links.filterMap Except.toOption) : .ok value ∈ links := by
  obtain ⟨link, here, same⟩ := List.mem_filterMap.mp member
  cases link with
  | error failure => cases same
  | ok other =>
      cases same
      exact here

/-- The events of a binding that links are visible from its template. -/
theorem visible_of_linkBinding {template : TemplateDeclaration}
    {declaration : BindingDeclaration} {binding : KeyBinding}
    (linked : catalogue.linkBinding template declaration = .ok binding) {id : NodeId}
    (runs : binding.event = some id ∨ binding.stopEvent = some id) :
    catalogue.linked.Visible template.home false id := by
  obtain ⟨event, first, linked⟩ := exists_of_bind_eq_ok linked
  obtain ⟨stopEvent, second, linked⟩ := exists_of_bind_eq_ok linked
  cases linked
  rcases runs with rfl | rfl
  · exact visible_of_linkEvent? first
  · exact visible_of_linkEvent? second

/-- Whatever a linked template runs is visible from it. -/
theorem visible_of_runs {template : TemplateDeclaration} {id : NodeId}
    (runs : (catalogue.linkTemplate template).1.Runs id) :
    catalogue.linked.Visible template.home false id := by
  cases runs with
  | event member runs =>
      obtain ⟨declaration, -, linked⟩ := List.mem_map.mp (mem_filterMap_toOption member)
      exact visible_of_linkBinding linked (.inl runs)
  | stopEvent member runs =>
      obtain ⟨declaration, -, linked⟩ := List.mem_map.mp (mem_filterMap_toOption member)
      exact visible_of_linkBinding linked (.inr runs)
  | response occasion runs =>
      rcases mem_of_event?_foldl runs with member | absent
      · obtain ⟨⟨_, reference⟩, -, linked⟩ := List.mem_map.mp (mem_filterMap_toOption member)
        obtain ⟨event, linked, same⟩ := exists_of_map_eq_ok linked
        cases same
        exact visible_of_linkEvent linked
      · cases occasion <;> cases absent

/-- A known template is that of a declaration of its name. -/
theorem exists_of_template_linked {name : String} {template : Template}
    (known : catalogue.linked.template name = .ok template) :
    ∃ declaration ∈ catalogue.templates, declaration.name = name ∧
      (catalogue.linkTemplate declaration).1 = template := by
  unfold BehaviorGraph.template at known
  split at known
  · next found =>
      cases known
      obtain ⟨declaration, declared, same⟩ :=
        List.mem_map.mp (Dictionary.mem_of_find?_ofList found)
      exact ⟨declaration, declared, Prod.mk.inj same⟩
  · cases known

/-- A template is found under its name if names differ. -/
theorem find?_templates_linked (distinct : (catalogue.templates.map TemplateDeclaration.name).Nodup)
    {name : String} {template : Template} :
    catalogue.linked.templates.find? name = some template ↔
      ∃ declaration ∈ catalogue.templates,
        declaration.name = name ∧ (catalogue.linkTemplate declaration).1 = template := by
  constructor
  · intro found
    obtain ⟨declaration, member, same⟩ :=
      List.mem_map.mp (Dictionary.mem_of_find?_ofList found)
    exact ⟨declaration, member, Prod.mk.inj same⟩
  · rintro ⟨declaration, member, rfl, rfl⟩
    apply Dictionary.find?_ofList_of_mem
    · simpa [Function.comp_def] using distinct
    · exact List.mem_map.mpr ⟨declaration, member, rfl⟩

/-- The graph of a catalogue without errors is linked. -/
theorem Clean.linked (clean : catalogue.Clean) : catalogue.linked.Linked where
  indexed := clean.indexed
  child := by
    intro id linked role child stands member
    rw [clean.getElem?_linked] at stands
    obtain ⟨node, -, links⟩ := Option.bind_eq_some_iff.mp stands
    obtain ⟨key, kind, children⟩ := eq_of_linkNode? links
    obtain ⟨reference, -, made⟩ := children role _ member
    rw [kind, show linked.home = node.home from congrArg Prod.fst key]
    exact visible_of_link made
  root := by
    intro name template id known runs
    obtain ⟨declaration, -, rfl, rfl⟩ := exists_of_template_linked known
    exact visible_of_runs runs
  acyclic := clean.acyclic

/-- A catalogue with which nothing is wrong has no errors. -/
theorem clean_of_linkErrors {document : Document} (declared : ofDocument document = (catalogue, []))
    (errorless : catalogue.linkErrors = []) : catalogue.Clean := by
  have sound := Sound.ofDocument document
  rw [declared] at sound
  obtain ⟨others, cycles⟩ := List.append_eq_nil_iff.mp errorless
  obtain ⟨links, -⟩ := List.append_eq_nil_iff.mp others
  exact
    { distinct := sound.distinct
      intact := sound.intact rfl
      links := List.flatMap_eq_nil_iff.mp links
      cycles := List.map_eq_nil_iff.mp cycles }

end Catalogue

/-- Every graph that is loaded is linked. -/
theorem BehaviorGraph.load_linked {document : Document} {graph : BehaviorGraph}
    (loaded : BehaviorGraph.load document = .ok graph) : graph.Linked := by
  unfold load at loaded
  generalize declared : Catalogue.ofDocument document = declarations at loaded
  rcases declarations with ⟨catalogue, errors⟩
  simp only [List.isEmpty_iff, List.append_eq_nil_iff] at loaded
  split at loaded
  · next errorless =>
      rcases errorless with ⟨rfl, errorless⟩
      unfold Catalogue.resolve at loaded
      simp only [errorless, List.isEmpty_nil, if_true] at loaded
      cases loaded
      exact (Catalogue.clean_of_linkErrors declared errorless).linked
  · cases loaded

end Stagecraft
