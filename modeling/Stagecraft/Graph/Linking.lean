/-
Module: Stagecraft.Graph.Linking
Purpose: From declarations to a linked graph: names become numbers, and
  unresolved names and cycles are reported.
Main exports:
  Catalogue.link, Catalogue.linkTemplate, Catalogue.linkErrors,
  Catalogue.linked, Catalogue.resolve, BehaviorGraph.load
-/
import Stagecraft.Graph.Behavior
import Stagecraft.Graph.Cycle

namespace Stagecraft

/-!
A name is looked up in the namespace of the node or template that mentions it
and then in the map.  The event of an engine wrapper is looked up in the map
alone.  Static edges may form no cycle; references to variables are left for
evaluation.

A name that was declared with errors has been reported already, so a reference
to it fails without a report of its own.
-/

/-- Why a name cannot be linked: with a report of its own, or without one
because the declaration was reported. -/
abbrev LinkFailure := Option LoadError

namespace Catalogue

/-- The node of a name as seen from a namespace. -/
def resolveName? (catalogue : Catalogue) (home : Namespace) (name : String)
    (mapOnly : Bool) : Option NodeId :=
  scoped? catalogue.find? home name mapOnly

/-- Whether the name might be one that was declared with errors. -/
def isKnownBroken (catalogue : Catalogue) (home : Namespace) (name : String)
    (mapOnly : Bool) : Bool :=
  !mapOnly && catalogue.isBroken home name || catalogue.isBroken .map name

/-- The number of a name, or why there is none.  `source` says who refers to
it. -/
def linkName (catalogue : Catalogue) (home : Namespace) (source name : String)
    (mapOnly : Bool) : Except LinkFailure NodeId :=
  match catalogue.resolveName? home name mapOnly with
  | some id => .ok id
  | none =>
      if catalogue.isKnownBroken home name mapOnly then .error none
      else .error (some (.unresolved home source name))

def link (catalogue : Catalogue) (node : Node Reference) (role : Role) :
    Reference → Except LinkFailure Edge
  | .variable name => .ok (.variable name)
  | .named name =>
      (catalogue.linkName node.home node.name name (isMapOnly node.kind role)).map .node

/-- Link an event that a template names. -/
def linkEvent (catalogue : Catalogue) (template : TemplateDeclaration) (source : String) :
    Reference → Except LinkFailure NodeId
  | .variable name =>
      .error (some (.property template.name (.invalid source (.variableReference name))))
  | .named name => catalogue.linkName template.home source name false

/-- Link an event that may be left out. -/
def linkEvent? (catalogue : Catalogue) (template : TemplateDeclaration) (source : String) :
    Option Reference → Except LinkFailure (Option NodeId)
  | none => .ok none
  | some reference => (catalogue.linkEvent template source reference).map some

/-- The priority of the node behind a number. -/
def priorityOf? (catalogue : Catalogue) (id : NodeId) : Option Priority :=
  (catalogue.nodes[id]?).bind fun node => node.priority

/-- Link a key binding.  Without a priority of its own it takes that of its
event. -/
def linkBinding (catalogue : Catalogue) (template : TemplateDeclaration)
    (binding : BindingDeclaration) : Except LinkFailure KeyBinding := do
  let source := "binding " ++ binding.key.text
  let event ← catalogue.linkEvent? template source binding.event
  let stopEvent ← catalogue.linkEvent? template source binding.stopEvent
  let inherited := event.bind catalogue.priorityOf?
  pure
    { key := binding.key
      event
      down := binding.down
      up := binding.up
      sustained := binding.sustained
      priority := (binding.priority.or inherited).getD .medium
      stopEvent }

/-- The reports among some links. -/
def reports (links : List (Except LinkFailure α)) : List LoadError :=
  links.filterMap fun link =>
    match link with
    | .ok _ => none
    | .error failure => failure

/-- Link a template.  Bindings and responses that cannot be linked are left
out; of several responses to one occasion the last one counts. -/
def linkTemplate (catalogue : Catalogue) (template : TemplateDeclaration) :
    Template × List LoadError :=
  let bindings := template.bindings.map (catalogue.linkBinding template)
  let responses := template.responses.map fun (occasion, reference) =>
    (catalogue.linkEvent template occasion.name reference).map fun id => (occasion, id)
  let linked := responses.filterMap Except.toOption
  ({ name := template.name
     bindings := bindings.filterMap Except.toOption
     responses := linked.foldl (fun all (occasion, id) => all.set id occasion) {}
     hitboxes := template.hitboxes },
    reports bindings ++ reports responses)

def childLinks (catalogue : Catalogue) (node : Node Reference) :
    List (Except LinkFailure Edge) :=
  node.children.toList.map fun (role, reference) => catalogue.link node role reference

/-- The node that an edge leads to for sure. -/
def staticTarget? : Except LinkFailure Edge → Option NodeId
  | .ok (.node id) => some id
  | _ => none

/-- The static edges of all nodes. -/
def edgeTable (catalogue : Catalogue) : EdgeTable :=
  catalogue.nodes.map fun node => (catalogue.childLinks node).filterMap staticTarget?

/-- The names along a cycle. -/
def namesOf (catalogue : Catalogue) (ids : List NodeId) : List String :=
  ids.map fun id => ((catalogue.nodes[id]?).map fun node => node.name).getD ""

/-- The unresolved names and the cycles of a catalogue. -/
def linkErrors (catalogue : Catalogue) : List LoadError :=
  (catalogue.nodes.flatMap fun node => reports (catalogue.childLinks node)) ++
    (catalogue.templates.flatMap fun template => (catalogue.linkTemplate template).2) ++
    (findCycles catalogue.edgeTable).map fun cycle => .cycle (catalogue.namesOf cycle)

/-- Link all children of a node, if all of them can be linked. -/
def linkNode? (catalogue : Catalogue) (node : Node Reference) : Option (Node Edge) :=
  (node.children.mapM? fun role reference => (catalogue.link node role reference).toOption).map
    fun children =>
      { name := node.name
        home := node.home
        kind := node.kind
        signal := node.signal
        priority := node.priority
        children }

/-- The graph of a catalogue.  Nodes that refer to names declared with errors are
left out; the numbers of the others stay those of the catalogue. -/
def linked (catalogue : Catalogue) : BehaviorGraph :=
  { nodes := catalogue.nodes.filterMap catalogue.linkNode?
    directory := catalogue.nodes.map fun node => (node.home, node.name)
    templates :=
      .ofList <| catalogue.templates.map fun template =>
        (template.name, (catalogue.linkTemplate template).1) }

/-- The graph of a catalogue, or everything that cannot be linked. -/
def resolve (catalogue : Catalogue) : Except (List LoadError) BehaviorGraph :=
  let errors := catalogue.linkErrors
  if errors.isEmpty then .ok catalogue.linked else .error errors

end Catalogue

/-- The graph of a document, or everything that is wrong with the document. -/
def BehaviorGraph.load (document : Document) : Except (List LoadError) BehaviorGraph :=
  let (catalogue, errors) := Catalogue.ofDocument document
  let errors := errors ++ catalogue.linkErrors
  if errors.isEmpty then catalogue.resolve else .error errors

end Stagecraft
