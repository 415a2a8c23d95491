/-
Module: Stagecraft.Proofs.Omissions
Purpose: The graph of a document with errors leaves nodes out, and its numbers stay those
  of the declarations.
Main exports:
  designated, Reaches, Catalogue.Numbered, Catalogue.exists_linkNode?_iff_missing,
  Catalogue.keys_linked, Catalogue.numbered_names, omissions_shift_nodes,
  parade_walks_in_circles
-/
import Stagecraft.Proofs.Mentions

namespace Stagecraft

/-!
A graph may also be made of a document with errors.  A node that refers to a name declared
with errors raises no error of its own; it is left out.  The directory and the links keep
the numbers of the catalogue, in which every node has its place.  They are places of the
graph as long as no node is left out.
-/

/-- The namespace of the node that a name means where it is mentioned: the own namespace
if the name is declared there and more than the map is seen, and the map otherwise. -/
def designated (names : List (Namespace × String)) (home : Namespace) (mapOnly : Bool)
    (name : String) : Namespace :=
  if mapOnly = false ∧ (home, name) ∈ names then home else .map

/-- A reference that is mentioned in a namespace and the edge that it becomes: a variable
stays, and a name leads to the place of the node that it means, where `keys` lists the
nodes place by place. -/
inductive Reaches (names keys : List (Namespace × String)) (home : Namespace) (mapOnly : Bool) :
    Reference → Edge → Prop where
  | variable (name : String) : Reaches names keys home mapOnly (.variable name) (.variable name)
  | named {name : String} {id : NodeId}
      (stands : keys[id]? = some (designated names home mapOnly name, name)) :
      Reaches names keys home mapOnly (.named name) (.node id)

namespace Catalogue

/-- The numbers of a graph are places of `keys` at which stands what the directory or the
reference behind the number names. -/
structure Numbered (catalogue : Catalogue) (graph : BehaviorGraph)
    (keys : List (Namespace × String)) : Prop where
  index : ∀ {home name id}, graph.find? home name = some id → keys[id]? = some (home, name)
  child : ∀ linked ∈ graph.nodes, ∀ node ∈ catalogue.nodes, linked.key = node.key →
    List.Forall₂
      (fun child other => other.1 = child.1 ∧
        Reaches catalogue.names keys node.home (isMapOnly node.kind child.1) child.2 other.2)
      node.children.toList linked.children.toList
  binding : ∀ {name template}, graph.template name = .ok template →
    ∀ binding ∈ template.bindings, ∃ declaration ∈ catalogue.templates,
      declaration.name = name ∧ ∃ declared ∈ declaration.bindings, binding.key = declared.key ∧
        (∀ id, binding.event = some id → ∃ reference, declared.event = some reference ∧
          Reaches catalogue.names keys (.actor name) false reference (.node id)) ∧
        ∀ id, binding.stopEvent = some id → ∃ reference, declared.stopEvent = some reference ∧
          Reaches catalogue.names keys (.actor name) false reference (.node id)
  response : ∀ {name template}, graph.template name = .ok template →
    ∀ {occasion id}, template.responses.event? occasion = some id →
      ∃ declaration ∈ catalogue.templates, declaration.name = name ∧
        ∃ reference, (occasion, reference) ∈ declaration.responses ∧
          Reaches catalogue.names keys (.actor name) false reference (.node id)

variable {catalogue : Catalogue}

/-! ### Numbers of the catalogue -/

/-- A node is found under the place that its name has among the names. -/
theorem find?_eq_some_iff_names (distinct : catalogue.names.Nodup) {home : Namespace}
    {name : String} {id : NodeId} :
    catalogue.find? home name = some id ↔ catalogue.names[id]? = some (home, name) := by
  rw [find?_eq_some_iff distinct, names, List.getElem?_map, Option.map_eq_some_iff]

/-- A name is looked up at the place of the node that it means. -/
theorem names_of_resolveName? (distinct : catalogue.names.Nodup) {home : Namespace}
    {name : String} {mapOnly : Bool} {id : NodeId}
    (found : catalogue.resolveName? home name mapOnly = some id) :
    catalogue.names[id]? = some (designated catalogue.names home mapOnly name, name) := by
  unfold resolveName? scoped? at found
  rcases Option.or_eq_some_iff.mp found with own | ⟨notOwn, shared⟩
  · cases home with
    | map => cases own
    | actor template =>
        cases mapOnly with
        | true => cases own
        | false =>
            have here := (find?_eq_some_iff_names distinct).mp own
            rwa [designated, if_pos ⟨rfl, List.mem_of_getElem? here⟩]
  · have there := (find?_eq_some_iff_names distinct).mp shared
    cases home with
    | map => rwa [designated, ite_self]
    | actor template =>
        cases mapOnly with
        | true => exact there
        | false =>
            have absent : (.actor template, name) ∉ catalogue.names := by
              intro member
              have known := isSome_find?_iff.mpr member
              rw [show catalogue.find? (.actor template) name = none from notOwn] at known
              cases known
            rwa [designated, if_neg fun own => absent own.2]

/-- A name that links reaches the place of that name. -/
theorem reaches_of_linkName (distinct : catalogue.names.Nodup) {home : Namespace}
    {source name : String} {mapOnly : Bool} {id : NodeId}
    (linked : catalogue.linkName home source name mapOnly = .ok id) :
    Reaches catalogue.names catalogue.names home mapOnly (.named name) (.node id) := by
  apply Reaches.named
  apply names_of_resolveName? distinct
  rw [← resolve?_linked]
  exact resolve?_of_linkName linked

theorem reaches_of_link (distinct : catalogue.names.Nodup) {node : Node Reference} {role : Role}
    {reference : Reference} {edge : Edge}
    (linked : catalogue.link node role reference = .ok edge) :
    Reaches catalogue.names catalogue.names node.home (isMapOnly node.kind role) reference
      edge := by
  cases reference with
  | «variable» name =>
      cases linked
      exact .variable name
  | named name =>
      obtain ⟨id, found, rfl⟩ := exists_of_map_eq_ok linked
      exact reaches_of_linkName distinct found

theorem reaches_of_linkEvent (distinct : catalogue.names.Nodup) {template : TemplateDeclaration}
    {source : String} {reference : Reference} {id : NodeId}
    (linked : catalogue.linkEvent template source reference = .ok id) :
    Reaches catalogue.names catalogue.names template.home false reference (.node id) := by
  cases reference with
  | «variable» name => cases linked
  | named name => exact reaches_of_linkName distinct linked

/-- An event that links was asked for, and reaches the place of its name. -/
theorem reaches_of_linkEvent? (distinct : catalogue.names.Nodup) {template : TemplateDeclaration}
    {source : String} {reference : Option Reference} {event : Option NodeId}
    (linked : catalogue.linkEvent? template source reference = .ok event) :
    ∀ id, event = some id → ∃ other, reference = some other ∧
      Reaches catalogue.names catalogue.names template.home false other (.node id) := by
  rintro id rfl
  cases reference with
  | none => cases linked
  | some reference =>
      obtain ⟨event, found, same⟩ := exists_of_map_eq_ok linked
      cases same
      exact ⟨reference, rfl, reaches_of_linkEvent distinct found⟩

/-! ### What is left out -/

/-- A child can be linked exactly if it mentions no missing name. -/
theorem exists_link_iff {node : Node Reference} {role : Role} {reference : Reference} :
    (∃ edge, catalogue.link node role reference = .ok edge) ↔
      missing catalogue.names
        (reference.mention? node.home node.name (isMapOnly node.kind role)).toList = [] := by
  cases reference with
  | «variable» name => simp [link, missing, Reference.mention?]
  | named name =>
      rw [link, exists_map_eq_ok_iff, exists_linkName_iff]
      simp [missing, Reference.mention?]

/-- A node can be linked exactly if it mentions no missing name. -/
theorem exists_linkNode?_iff_missing {node : Node Reference} :
    (∃ linked, catalogue.linkNode? node = some linked) ↔
      missing catalogue.names node.mentions = [] := by
  rw [exists_linkNode?_iff, Node.mentions, List.filterMap_eq_flatMap_toList, missing_flatMap,
    List.flatMap_eq_nil_iff]
  simp only [exists_link_iff]

/-- The nodes of the graph are those that mention no missing name, in their order. -/
theorem keys_linked :
    catalogue.linked.nodes.map Node.key =
      (catalogue.nodes.filter fun node =>
        missing catalogue.names node.mentions = []).map Node.key := by
  simp only [linked]
  induction catalogue.nodes with
  | nil => rfl
  | cons node rest ih =>
      have kept : (∃ linked, catalogue.linkNode? node = some linked) ↔
          missing catalogue.names node.mentions = [] := exists_linkNode?_iff_missing
      cases links : catalogue.linkNode? node with
      | none =>
          have lacking : missing catalogue.names node.mentions ≠ [] := by simpa [links] using kept
          rw [List.filterMap_cons_none links, List.filter_cons_of_neg (by simpa using lacking), ih]
      | some linked =>
          have complete : missing catalogue.names node.mentions = [] := by simpa [links] using kept
          rw [List.filterMap_cons_some links, List.filter_cons_of_pos (by simpa using complete),
            List.map_cons, List.map_cons, ih, (eq_of_linkNode? links).1]

/-! ### The numbers of a graph -/

/-- The numbers of a graph are the places of the declared nodes. -/
theorem numbered_names (distinct : catalogue.names.Nodup) :
    catalogue.Numbered catalogue.linked catalogue.names where
  index found := by
    rw [find?_linked] at found
    exact (find?_eq_some_iff_names distinct).mp found
  child := by
    intro linked member node declared key
    obtain ⟨other, otherDeclared, links⟩ := List.mem_filterMap.mp member
    -- No two nodes of a catalogue share their names, so the linked node comes from this one.
    obtain rfl : other = node := by
      apply List.inj_on_of_nodup_map distinct otherDeclared declared
      rw [← key, (eq_of_linkNode? links).1]
    obtain ⟨children, mapped, rfl⟩ := Option.map_eq_some_iff.mp links
    refine (Children.forall₂_toList mapped).imp ?_
    rintro ⟨_, reference⟩ ⟨role, edge⟩ ⟨rfl, made⟩
    exact ⟨rfl, reaches_of_link distinct (toOption_eq_some_iff.mp made)⟩
  binding := by
    intro name template known binding member
    obtain ⟨declaration, declared, rfl, rfl⟩ := exists_of_template_linked known
    obtain ⟨source, sourceDeclared, linked⟩ := List.mem_map.mp (mem_filterMap_toOption member)
    obtain ⟨event, first, linked⟩ := exists_of_bind_eq_ok linked
    obtain ⟨stopEvent, second, linked⟩ := exists_of_bind_eq_ok linked
    cases linked
    exact ⟨declaration, declared, rfl, source, sourceDeclared, rfl,
      reaches_of_linkEvent? distinct first, reaches_of_linkEvent? distinct second⟩
  response := by
    intro name template known occasion id runs
    obtain ⟨declaration, declared, rfl, rfl⟩ := exists_of_template_linked known
    rcases mem_of_event?_foldl runs with member | absent
    · obtain ⟨⟨_, reference⟩, source, linked⟩ := List.mem_map.mp (mem_filterMap_toOption member)
      obtain ⟨event, linked, same⟩ := exists_of_map_eq_ok linked
      cases same
      exact ⟨declaration, declared, rfl, reference, source, reaches_of_linkEvent distinct linked⟩
    · cases occasion <;> cases absent

/-- The places of a graph are those of the declared nodes only if no node is left out. -/
theorem numbered_linked_iff (distinct : catalogue.names.Nodup) :
    catalogue.Numbered catalogue.linked (catalogue.linked.nodes.map Node.key) ↔
      ∀ node ∈ catalogue.nodes, missing catalogue.names node.mentions = [] := by
  constructor
  · intro numbered
    -- With fewer places than nodes, the directory has a number just behind the last place.
    have enough : catalogue.names.length ≤ (catalogue.linked.nodes.map Node.key).length := by
      by_contra fewer
      have here := List.getElem?_eq_getElem (Nat.not_le.mp fewer)
      rw [← find?_eq_some_iff_names distinct, ← find?_linked] at here
      have beyond := numbered.index here
      rw [List.getElem?_length] at beyond
      cases beyond
    have sizes : catalogue.names.length = catalogue.nodes.length := List.length_map _
    rw [keys_linked, List.length_map, sizes] at enough
    have all := List.length_filter_eq_length_iff.mp
      (Nat.le_antisymm (List.length_filter_le ..) enough)
    simpa using all
  · intro complete
    have all : catalogue.linked.nodes.map Node.key = catalogue.names := by
      rw [keys_linked, List.filter_eq_self.mpr (by simpa using complete), names]
    rw [all]
    exact numbered_names distinct

/-- A name is known to be broken if it would be on offer among the broken ones. -/
theorem isKnownBroken_iff {home : Namespace} {name : String} {mapOnly : Bool} :
    catalogue.isKnownBroken home name mapOnly = true ↔
      Offers catalogue.broken home mapOnly name := by
  simp [isKnownBroken, isBroken, Offers, or_comm]

/-- Where nothing is reported, every missing name was declared with errors. -/
theorem offers_broken_of_missing (errorless : catalogue.linkErrors = []) {node : Node Reference}
    (declared : node ∈ catalogue.nodes) {mention : Mention}
    (mentioned : mention ∈ missing catalogue.names node.mentions) :
    Offers catalogue.broken mention.home mention.mapOnly mention.name := by
  obtain ⟨member, absent⟩ := List.mem_filter.mp mentioned
  obtain ⟨⟨role, reference⟩, child, mentions⟩ := List.mem_filterMap.mp member
  have silent := (linkErrors_eq_nil_iff.mp errorless).1 node declared
  cases reference with
  | «variable» name => cases mentions
  | named name =>
      cases mentions
      have failure := List.filterMap_eq_nil_iff.mp silent _ (List.mem_map_of_mem child)
      rw [← isKnownBroken_iff]
      by_contra whole
      cases found : catalogue.resolveName? node.home name (isMapOnly node.kind role) with
      | some id => exact absurd (exists_resolveName?_iff.mp ⟨id, found⟩) (by simpa using absent)
      | none => simp [link, linkName, found, whole, Except.map] at failure

end Catalogue

/-- **Omissions shift nodes.**  A graph that is made of a document, with errors or without,
has those of the declared nodes that mention no missing name, in their order; every missing
name was declared with errors.  Its directory and its links keep the numbers of the
declarations.  These are the places of the graph exactly if no node is left out, as in every
document that loads. -/
theorem omissions_shift_nodes {document : Document} {graph : BehaviorGraph}
    (resolved : (Catalogue.ofDocument document).1.resolve = .ok graph) :
    let catalogue := (Catalogue.ofDocument document).1
    graph.nodes.map Node.key =
        (catalogue.nodes.filter fun node =>
          missing catalogue.names node.mentions = []).map Node.key ∧
      (∀ node ∈ catalogue.nodes, ∀ mention ∈ missing catalogue.names node.mentions,
        Offers catalogue.broken mention.home mention.mapOnly mention.name) ∧
      catalogue.Numbered graph catalogue.names ∧
      (catalogue.Numbered graph (graph.nodes.map Node.key) ↔
        ∀ node ∈ catalogue.nodes, missing catalogue.names node.mentions = []) ∧
      ∀ loaded, BehaviorGraph.load document = .ok loaded →
        loaded = graph ∧ catalogue.Numbered graph (graph.nodes.map Node.key) := by
  intro catalogue
  have distinct : catalogue.names.Nodup := (Catalogue.Sound.ofDocument document).distinct
  obtain ⟨errorless, rfl⟩ := Catalogue.resolve_eq_ok_iff.mp resolved
  have places := Catalogue.numbered_linked_iff distinct
  apply And.intro Catalogue.keys_linked
  apply And.intro fun node declared mention mentioned =>
    Catalogue.offers_broken_of_missing errorless declared mentioned
  apply And.intro (Catalogue.numbered_names distinct)
  apply And.intro places
  -- If the whole document loads, then nothing is broken and every node can be linked.
  intro loaded load
  obtain ⟨other, declares, errorless, rfl⟩ := BehaviorGraph.load_eq_ok_iff.mp load
  obtain rfl : catalogue = other :=
    congrArg Prod.fst (Catalogue.ofDocument_eq_iff.mpr declares)
  apply And.intro rfl
  apply places.mpr
  intro node declared
  have clean := declares.clean errorless
  exact Catalogue.exists_linkNode?_iff_missing.mp (clean.exists_linkNode? declared)

/-- A parade whose opening refers to a node of a kind that does not exist. -/
def parade : Document :=
  { mapEvents :=
      [ { name := "Bad", kind := "teleport" },
        { name := "Opening", kind := "multi", properties := [textProperty "1" "Bad"] },
        { name := "Walk", kind := "move" },
        { name := "Parade", kind := "multi", properties := [textProperty "1" "Walk"] } ] }

/-- The opening is left out, and no other node stands where it was declared. -/
theorem omissions_shift_nodes_parade :
    let catalogue := (Catalogue.ofDocument parade).1
    ∃ graph, catalogue.resolve = .ok graph ∧
      catalogue.names = [(.map, "Opening"), (.map, "Walk"), (.map, "Parade")] ∧
      graph.nodes.map Node.key = [(.map, "Walk"), (.map, "Parade")] ∧
      catalogue.Numbered graph catalogue.names ∧
      ¬ catalogue.Numbered graph (graph.nodes.map Node.key) := by
  intro catalogue
  have resolved : catalogue.resolve = .ok catalogue.linked := by rfl
  obtain ⟨-, -, numbered, here, -⟩ := omissions_shift_nodes resolved
  refine ⟨_, resolved, by decide, by decide, numbered, ?_⟩
  rw [here]
  decide

/-- The walk of the parade is the parade itself, and the number of the parade is no place of
the graph. -/
theorem parade_walks_in_circles :
    let catalogue := (Catalogue.ofDocument parade).1
    ∃ graph walk, catalogue.resolve = .ok graph ∧
      graph.find? .map "Parade" = some 2 ∧ graph.nodes[2]? = none ∧
      graph.find? .map "Walk" = some 1 ∧ graph.nodes[1]? = some walk ∧
      walk.key = (.map, "Parade") ∧ walk.children.toList = [(.numbered 1, .node 1)] ∧
      ¬ catalogue.Numbered graph (graph.nodes.map Node.key) := by
  intro catalogue
  refine ⟨catalogue.linked, _, rfl, by decide, by decide, by decide, rfl, by decide, by decide, ?_⟩
  intro numbered
  have found : catalogue.linked.find? .map "Parade" = some 2 := by decide
  exact absurd (numbered.index found) (by decide)

end Stagecraft
