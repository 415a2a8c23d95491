/-
Module: Stagecraft.Proofs.FaithfulLinks
Purpose: A loaded graph says what its document says: the declared nodes and templates
  in order, and every name led to the node it means where it is mentioned.
Main exports:
  BehaviorGraph.Means, BehaviorGraph.LeadsTo, BehaviorGraph.Names, BehaviorGraph.Binds,
  resolve?_eq_some_iff, Document.Declares.realizes, Document.Declares.realizesTemplate,
  links_are_faithful
-/
import Stagecraft.Proofs.Definitions
import Stagecraft.Proofs.Loading
import Stagecraft.Proofs.Walk

namespace Stagecraft

namespace BehaviorGraph

variable (graph : BehaviorGraph)

/-! ### What a name means -/

/-- A number at which a node of a namespace and a name stands. -/
def Holds (home : Namespace) (name : String) (id : NodeId) : Prop :=
  ∃ node, graph.nodes[id]? = some node ∧ node.home = home ∧ node.name = name

/-- The number that a name means where it is mentioned.  A node of the own namespace
comes first; one of the map counts where there is no such node, and where the map
alone is seen. -/
inductive Means (home : Namespace) (mapOnly : Bool) (name : String) (id : NodeId) : Prop where
  | own (seen : mapOnly = false) (here : graph.Holds home name id)
  | shared (notOwn : mapOnly = true ∨ ∀ other, ¬ graph.Holds home name other)
      (there : graph.Holds .map name id)

/-- A declared child and the linked child that it becomes: a variable stays, and a name
leads to the node that it means to the referring node. -/
inductive LeadsTo (node : Node Reference) : Role × Reference → Role × Edge → Prop where
  | variable (role : Role) (name : String) :
      LeadsTo node (role, .variable name) (role, .variable name)
  | named (role : Role) {name : String} {id : NodeId}
      (means : graph.Means node.home (isMapOnly node.kind role) name id) :
      LeadsTo node (role, .named name) (role, .node id)

/-- An event that a template may name, and the event that it then runs. -/
inductive Names (home : Namespace) : Option Reference → Option NodeId → Prop where
  | nothing : Names home none none
  | named {name : String} {id : NodeId} (means : graph.Means home false name id) :
      Names home (some (.named name)) (some id)

/-- A declared key binding of a namespace and the linked binding that it becomes. -/
structure Binds (home : Namespace) (declaration : BindingDeclaration) (binding : KeyBinding) :
    Prop where
  key : binding.key = declaration.key
  down : binding.down = declaration.down
  up : binding.up = declaration.up
  sustained : binding.sustained = declaration.sustained
  priority : binding.priority =
    (declaration.priority.or
      (binding.event.bind fun id => (graph.nodes[id]?).bind Node.priority)).getD .medium
  event : graph.Names home declaration.event binding.event
  stopEvent : graph.Names home declaration.stopEvent binding.stopEvent

variable {graph}

/-- The look-up finds what a name means. -/
theorem Indexed.resolve?_eq_some_iff (indexed : graph.Indexed) {home : Namespace}
    {name : String} {mapOnly : Bool} {id : NodeId} :
    graph.resolve? home name mapOnly = some id ↔ graph.Means home mapOnly name id := by
  have holds : ∀ home id, graph.find? home name = some id ↔ graph.Holds home name id := by
    intro home id
    rw [indexed home name id]
    simp only [Holds, Node.key, Prod.mk.injEq]
  have absent : ∀ home, graph.find? home name = none ↔ ∀ other, ¬ graph.Holds home name other := by
    intro home
    simp only [Option.eq_none_iff_forall_ne_some, ne_eq, holds]
  unfold resolve? scoped?
  rw [Option.or_eq_some_iff, holds]
  cases home with
  | map =>
      simp only [reduceCtorEq, false_or, true_and]
      constructor
      · intro there
        cases mapOnly with
        | true => exact .shared (.inl rfl) there
        | false => exact .own rfl there
      · rintro (⟨-, here⟩ | ⟨-, there⟩)
        · exact here
        · exact there
  | actor template =>
      -- A node of the actor hides that of the map, unless the map alone is asked.
      cases mapOnly with
      | true =>
          simp only [if_true, reduceCtorEq, false_or, true_and]
          constructor
          · exact .shared (.inl rfl)
          · rintro (⟨seen, -⟩ | ⟨-, there⟩)
            · cases seen
            · exact there
      | false =>
          simp only [Bool.false_eq_true, if_false, holds, absent]
          constructor
          · rintro (here | ⟨notOwn, there⟩)
            · exact .own rfl here
            · exact .shared (.inr notOwn) there
          · rintro (⟨-, here⟩ | ⟨hidden | notOwn, there⟩)
            · exact .inl here
            · cases hidden
            · exact .inr ⟨notOwn, there⟩

end BehaviorGraph

/-! ### Links keep their places -/

/-- Where nothing is reported, the links that are made are all links, one for one. -/
theorem Reported.forall₂_ok {α β : Type} {link : α → Except LinkFailure β} {xs : List α}
    (unreported : Catalogue.reports (xs.map link) = []) (reported : ∀ x ∈ xs, Reported (link x)) :
    List.Forall₂ (fun x value => link x = .ok value) xs
      ((xs.map link).filterMap Except.toOption) := by
  have linkable : ∀ x ∈ xs, ∃ value, (link x).toOption = some value := by
    intro x member
    obtain ⟨value, made⟩ :=
      Reported.exists_ok unreported (List.mem_map_of_mem member) (reported x member)
    exact ⟨value, toOption_eq_some_iff.mpr made⟩
  rw [List.filterMap_map]
  simpa only [toOption_eq_some_iff, Function.comp_def] using forall₂_filterMap linkable

namespace Catalogue

variable {catalogue : Catalogue}

/-- In a catalogue without broken names, an event that is not found is reported. -/
theorem linkEvent_reported (intact : catalogue.broken = []) (template : TemplateDeclaration)
    (source : String) (reference : Reference) :
    Reported (catalogue.linkEvent template source reference) := by
  cases reference with
  | «variable» name => exact fun silent => nomatch silent
  | named name => exact linkName_reported intact _ _ _ _

theorem linkEvent?_reported (intact : catalogue.broken = []) (template : TemplateDeclaration)
    (source : String) (reference : Option Reference) :
    Reported (catalogue.linkEvent? template source reference) := by
  cases reference with
  | none => exact fun silent => nomatch silent
  | some reference => exact (linkEvent_reported intact template source reference).map _

/-- So is a binding that does not link. -/
theorem linkBinding_reported (intact : catalogue.broken = []) (template : TemplateDeclaration)
    (binding : BindingDeclaration) : Reported (catalogue.linkBinding template binding) :=
  (linkEvent?_reported intact _ _ _).bind fun _ =>
    (linkEvent?_reported intact _ _ _).bind fun _ => fun silent => nomatch silent

/-! ### Links lead to what names mean -/

/-- A reference that links leads to the node of its name in the scope of its role. -/
theorem leadsTo_of_link (indexed : catalogue.linked.Indexed) {node : Node Reference} {role : Role}
    {reference : Reference} {edge : Edge}
    (linked : catalogue.link node role reference = .ok edge) :
    catalogue.linked.LeadsTo node (role, reference) (role, edge) := by
  cases reference with
  | «variable» name =>
      cases linked
      exact .variable role name
  | named name =>
      obtain ⟨id, found, rfl⟩ := exists_of_map_eq_ok linked
      exact .named role (indexed.resolve?_eq_some_iff.mp (resolve?_of_linkName found))

/-- An event that links is the node of its name in the namespace of the template. -/
theorem names_of_linkEvent (indexed : catalogue.linked.Indexed) {template : TemplateDeclaration}
    {source : String} {reference : Reference} {id : NodeId}
    (linked : catalogue.linkEvent template source reference = .ok id) :
    catalogue.linked.Names template.home (some reference) (some id) := by
  cases reference with
  | «variable» name => cases linked
  | named name => exact .named (indexed.resolve?_eq_some_iff.mp (resolve?_of_linkName linked))

theorem names_of_linkEvent? (indexed : catalogue.linked.Indexed) {template : TemplateDeclaration}
    {source : String} {reference : Option Reference} {event : Option NodeId}
    (linked : catalogue.linkEvent? template source reference = .ok event) :
    catalogue.linked.Names template.home reference event := by
  cases reference with
  | none =>
      cases linked
      exact .nothing
  | some reference =>
      obtain ⟨id, found, rfl⟩ := exists_of_map_eq_ok linked
      exact names_of_linkEvent indexed found

/-- A linked node is the declared one, and its children stand where the declared ones
stood. -/
theorem forall₂_of_linkNode? (indexed : catalogue.linked.Indexed) {node : Node Reference}
    {linked : Node Edge} (links : catalogue.linkNode? node = some linked) :
    linked.key = node.key ∧ linked.kind = node.kind ∧ linked.signal = node.signal ∧
      linked.priority = node.priority ∧
      List.Forall₂ (catalogue.linked.LeadsTo node) node.children.toList
        linked.children.toList := by
  obtain ⟨children, mapped, rfl⟩ := Option.map_eq_some_iff.mp links
  refine ⟨rfl, rfl, rfl, rfl, (Children.forall₂_toList mapped).imp ?_⟩
  rintro ⟨_, reference⟩ ⟨role, edge⟩ ⟨rfl, made⟩
  exact leadsTo_of_link indexed (toOption_eq_some_iff.mp made)

theorem Clean.priorityOf?_linked (clean : catalogue.Clean) (id : NodeId) :
    (catalogue.linked.nodes[id]?).bind Node.priority = catalogue.priorityOf? id := by
  rw [clean.getElem?_linked, priorityOf?]
  cases stands : catalogue.nodes[id]? with
  | none => rfl
  | some node =>
      obtain ⟨linked, links⟩ := clean.exists_linkNode? (List.mem_of_getElem? stands)
      simp only [Option.bind_some, links]
      exact (forall₂_of_linkNode? clean.indexed links).2.2.2.1

/-- A binding that links keeps its key and flags, and its events are those it names. -/
theorem Clean.binds_of_linkBinding (clean : catalogue.Clean) {template : TemplateDeclaration}
    {declaration : BindingDeclaration} {binding : KeyBinding}
    (linked : catalogue.linkBinding template declaration = .ok binding) :
    catalogue.linked.Binds template.home declaration binding := by
  obtain ⟨event, first, linked⟩ := exists_of_bind_eq_ok linked
  obtain ⟨stopEvent, second, linked⟩ := exists_of_bind_eq_ok linked
  cases linked
  exact
    { key := rfl
      down := rfl
      up := rfl
      sustained := rfl
      priority := by simp only [clean.priorityOf?_linked]
      event := names_of_linkEvent? clean.indexed first
      stopEvent := names_of_linkEvent? clean.indexed second }

end Catalogue

/-! ### Declarations of templates -/

/-- The response to an occasion that is declared last. -/
def lastResponse? (occasion : Occasion) (responses : List (Occasion × Reference)) :
    Option Reference :=
  responses.foldl
    (fun found (other, reference) => if occasion = other then some reference else found) none

/-- Of linked responses the last one to an occasion is kept. -/
theorem BehaviorGraph.names_event?_foldl {graph : BehaviorGraph} {home : Namespace}
    {declared : List (Occasion × Reference)} {linked : List (Occasion × NodeId)}
    (links : List.Forall₂
      (fun response other => other.1 = response.1 ∧
        graph.Names home (some response.2) (some other.2))
      declared linked) (occasion : Occasion) :
    graph.Names home (lastResponse? occasion declared)
      ((linked.foldl (fun all (occasion, id) => all.set id occasion)
        ({} : Responses)).event? occasion) := by
  have start : graph.Names home none (({} : Responses).event? occasion) := by
    cases occasion <;> exact .nothing
  unfold lastResponse?
  generalize (none : Option Reference) = found at start ⊢
  generalize ({} : Responses) = responses at start ⊢
  induction links generalizing found responses with
  | nil => exact start
  | cons here _ ih =>
      obtain ⟨same, names⟩ := here
      apply ih
      simp only [Responses.event?_set, same]
      split
      · exact names
      · exact start

/-- Where nothing is reported about a template, an occasion runs what its last response
means. -/
theorem Catalogue.Clean.names_response {catalogue : Catalogue} (clean : catalogue.Clean)
    {template : TemplateDeclaration}
    (silent : reports (template.responses.map fun (occasion, reference) =>
      (catalogue.linkEvent template occasion.name reference).map fun id => (occasion, id)) = [])
    (occasion : Occasion) :
    catalogue.linked.Names template.home (lastResponse? occasion template.responses)
      ((catalogue.linkTemplate template).1.responses.event? occasion) := by
  apply BehaviorGraph.names_event?_foldl
  refine (Reported.forall₂_ok silent ?_).imp ?_
  · rintro ⟨other, reference⟩ -
    exact (linkEvent_reported clean.intact template other.name reference).map _
  · rintro ⟨other, reference⟩ response made
    obtain ⟨id, links, rfl⟩ := exists_of_map_eq_ok made
    exact ⟨rfl, names_of_linkEvent clean.indexed links⟩

namespace BehaviorGraph

variable (graph : BehaviorGraph)

/-- A declared entry and the node that stands for it: the definition of the entry with
every child led to what it means. -/
structure Realizes (declared : Namespace × NodeEntry) (node : Node Edge) : Prop where
  home : node.home = declared.1
  name : node.name = declared.2.name
  defined : ∃ definition, declared.2.define declared.1 = .ok definition ∧
    node.kind = definition.kind ∧ node.signal = definition.signal ∧
    node.priority = definition.priority ∧
    List.Forall₂ (graph.LeadsTo definition) definition.children.toList node.children.toList

/-- An entry of a template and the template that stands for it: its bindings in order
and its responses, with every event led to what it means. -/
structure RealizesTemplate (entry : TemplateEntry) (template : Template) : Prop where
  name : template.name = entry.name
  hitboxes : template.hitboxes = entry.hitboxes.map HitboxEntry.hitbox
  bindings : List.Forall₂
    (fun declared binding => ∃ declaration, declared.declare = .ok declaration ∧
      graph.Binds (.actor entry.name) declaration binding)
    entry.bindings template.bindings
  responses : ∀ occasion, graph.Names (.actor entry.name)
    (lastResponse? occasion entry.declare.1.responses) (template.responses.event? occasion)

end BehaviorGraph

namespace Document.Declares

variable {document : Document} {catalogue : Catalogue} (declares : document.Declares catalogue)

include declares

/-- The linked nodes stand for the entries, one for one. -/
theorem realizes (clean : catalogue.Clean) :
    List.Forall₂ catalogue.linked.Realizes document.nodeEntries catalogue.linked.nodes := by
  have linkable : ∀ node ∈ catalogue.nodes, _ := fun _ member => clean.exists_linkNode? member
  refine (forall₂_comp declares.nodes (forall₂_filterMap linkable)).imp ?_
  rintro ⟨home, entry⟩ linked ⟨node, defines, links⟩
  obtain ⟨key, kind, signal, priority, children⟩ :=
    Catalogue.forall₂_of_linkNode? clean.indexed links
  obtain ⟨sameHome, sameName⟩ := Prod.mk.inj (key.trans defines.key)
  exact
    { home := sameHome
      name := sameName
      defined := ⟨node, defines.defined, kind, signal, priority, children⟩ }

/-- The linked template of an entry stands for it. -/
theorem realizesTemplate (errorless : catalogue.linkErrors = []) {entry : TemplateEntry}
    (member : entry ∈ document.actors) :
    catalogue.linked.RealizesTemplate entry (catalogue.linkTemplate entry.declare.1).1 := by
  have clean := declares.clean errorless
  obtain ⟨-, silent, -⟩ := Catalogue.linkErrors_eq_nil_iff.mp errorless
  obtain ⟨bindings, responses⟩ :=
    List.append_eq_nil_iff.mp (silent _ (declares.mem_templates member))
  have declared := entry.forall₂_declare (declares.sound entry member)
  have linked := Reported.forall₂_ok bindings fun binding _ =>
    Catalogue.linkBinding_reported clean.intact entry.declare.1 binding
  refine ⟨rfl, rfl, (forall₂_comp declared linked).imp ?_, clean.names_response responses⟩
  rintro binding linked ⟨declaration, made, links⟩
  exact ⟨declaration, made, clean.binds_of_linkBinding links⟩

/-- A linked template is known under the name of its entry. -/
theorem template_linked {entry : TemplateEntry} (member : entry ∈ document.actors) :
    catalogue.linked.template entry.name = .ok (catalogue.linkTemplate entry.declare.1).1 := by
  have found : catalogue.linked.templates.find? entry.name =
      some (catalogue.linkTemplate entry.declare.1).1 :=
    (Catalogue.find?_templates_linked declares.templates_distinct).mpr
      ⟨_, declares.mem_templates member, rfl, rfl⟩
  simp only [BehaviorGraph.template, found]

/-- The known templates are those of the entries. -/
theorem mem_of_template_linked {name : String} {template : Template}
    (known : catalogue.linked.template name = .ok template) :
    name ∈ document.actors.map TemplateEntry.name := by
  obtain ⟨declaration, listed, rfl, -⟩ := Catalogue.exists_of_template_linked known
  rw [declares.templates] at listed
  obtain ⟨entry, member, rfl⟩ := List.mem_map.mp listed
  exact List.mem_map_of_mem member

end Document.Declares

namespace BehaviorGraph

variable {graph : BehaviorGraph}

/-- **Links are faithful.**  A loaded graph has one node for each declared entry, in the
order of declaration and with the name, the namespace and the children of the entry;
every name leads to the node that it means where it is mentioned, and every variable
stays.  It has exactly the declared templates, each with its bindings in order and
their events led to what they mean to the template. -/
theorem links_are_faithful {document : Document}
    (loaded : BehaviorGraph.load document = .ok graph) :
    List.Forall₂ graph.Realizes document.nodeEntries graph.nodes ∧
      (document.actors.map TemplateEntry.name).Nodup ∧
      (∀ name, (∃ template, graph.template name = .ok template) ↔
        name ∈ document.actors.map TemplateEntry.name) ∧
      ∀ entry ∈ document.actors, ∃ template, graph.template entry.name = .ok template ∧
        graph.RealizesTemplate entry template := by
  obtain ⟨catalogue, declares, errorless, rfl⟩ := load_eq_ok_iff.mp loaded
  refine ⟨declares.realizes (declares.clean errorless), declares.templatesDistinct, ?_, ?_⟩
  · intro name
    constructor
    · rintro ⟨template, known⟩
      exact declares.mem_of_template_linked known
    · intro declared
      obtain ⟨entry, member, rfl⟩ := List.mem_map.mp declared
      exact ⟨_, declares.template_linked member⟩
  · intro entry member
    exact ⟨_, declares.template_linked member, declares.realizesTemplate errorless member⟩

/-- The engine wrapper of the player calls the curtain of the map, and the binding stops
with the player's own; the variable of the act stays. -/
theorem links_are_faithful_theatre :
    BehaviorGraph.load theatre = .ok theatreGraph ∧
      List.Forall₂ theatreGraph.Realizes theatre.nodeEntries theatreGraph.nodes ∧
      theatreGraph.nodes.map Node.key =
        [ (.map, "Curtain"), (.actor "Player", "Curtain"), (.actor "Player", "Secret"),
          (.actor "Player", "Call"), (.actor "Player", "Act") ] ∧
      theatreGraph.nodes.map (fun node => node.children.toList) =
        [ [(.numbered 1, .variable "cue")], [], [], [(.event, .node 0)],
          [(.numbered 1, .node 3), (.numbered 2, .variable "cue")] ] ∧
      (∃ template, theatreGraph.template "Player" = .ok template) ∧
      player.bindings.map (fun binding => (binding.event, binding.stopEvent)) =
        [(some 4, some 1)] := by
  obtain ⟨nodes, -, templates, -⟩ := links_are_faithful load_theatre
  exact ⟨load_theatre, nodes, by decide, by decide, (templates "Player").mpr (by decide),
    by decide⟩

end BehaviorGraph

end Stagecraft
