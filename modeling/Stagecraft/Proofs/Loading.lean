/-
Module: Stagecraft.Proofs.Loading
Purpose: A document loads exactly if every declaration in it is in order and every
  name can be linked; its catalogue then lists the declarations one by one.
Main exports:
  Document.nodeEntries, Defines, Document.Declares, Catalogue.ofDocument_eq_iff,
  Catalogue.linkErrors_eq_nil_iff, Catalogue.resolve_eq_ok_iff,
  BehaviorGraph.load_eq_ok_iff
-/
import Stagecraft.Proofs.Links

namespace Stagecraft

/-!
The catalogue is built entry by entry, and an entry is refused for what came before
it.  When nothing is refused the order leaves no trace but the numbers: the nodes of
the catalogue are the definitions of the entries, one for one.
-/

/-- The events of a template with the namespace in which they are declared. -/
def TemplateEntry.nodeEntries (entry : TemplateEntry) : List (Namespace × NodeEntry) :=
  entry.events.map fun node => (.actor entry.name, node)

/-- All node entries of a document with their namespaces, in the order of their
declaration: those of the map, then those of each template. -/
def Document.nodeEntries (document : Document) : List (Namespace × NodeEntry) :=
  document.mapEvents.map (fun node => (.map, node)) ++
    document.actors.flatMap TemplateEntry.nodeEntries

/-- An entry that has a name and defines a node. -/
structure Defines (declared : Namespace × NodeEntry) (node : Node Reference) : Prop where
  named : Text.isAllBlank declared.2.name = false
  defined : declared.2.define declared.1 = .ok node

theorem Defines.key {declared : Namespace × NodeEntry} {node : Node Reference}
    (defines : Defines declared node) : node.key = (declared.1, declared.2.name) :=
  NodeEntry.key_of_define defines.defined

/-- What a document declares when nothing is wrong with its declarations. -/
structure Document.Declares (document : Document) (catalogue : Catalogue) : Prop where
  nodes : List.Forall₂ Defines document.nodeEntries catalogue.nodes
  distinct : (catalogue.nodes.map Node.key).Nodup
  intact : catalogue.broken = []
  templates : catalogue.templates = document.actors.map fun entry => entry.declare.1
  sound : ∀ entry ∈ document.actors, entry.declare.2 = []
  templatesDistinct : (document.actors.map TemplateEntry.name).Nodup
  spawns : catalogue.spawnErrors = []

namespace Catalogue

variable {catalogue after : Catalogue}

/-! ### Declarations one after another -/

/-- Several entries are declared without errors if the first one is, and then the others. -/
theorem declareAll_cons_eq_iff {α : Type} {declare : Catalogue → α → Catalogue × List LoadError}
    {entry : α} {rest : List α} :
    declareAll declare catalogue (entry :: rest) = (after, []) ↔
      ∃ between, declare catalogue entry = (between, []) ∧
        declareAll declare between rest = (after, []) := by
  simp only [declareAll]
  constructor
  · intro declared
    obtain ⟨same, unreported⟩ := Prod.mk.inj declared
    obtain ⟨first, later⟩ := List.append_eq_nil_iff.mp unreported
    exact ⟨_, Prod.ext rfl first, Prod.ext same later⟩
  · rintro ⟨between, first, later⟩
    simp [first, later]

/-- What is found is what has been declared. -/
theorem isSome_find?_iff {home : Namespace} {name : String} :
    (catalogue.find? home name).isSome = true ↔
      (home, name) ∈ catalogue.nodes.map Node.key := by
  simp only [find?, List.findIdx?_isSome, List.any_eq_true, isAt_iff, List.mem_map]

/-- A node is declared without an error if its entry defines it and its name is
new. -/
theorem declareNode_eq_iff (intact : catalogue.broken = []) {home : Namespace}
    {entry : NodeEntry} :
    declareNode home catalogue entry = (after, []) ↔
      ∃ node, Defines (home, entry) node ∧ node.key ∉ catalogue.nodes.map Node.key ∧
        after = { catalogue with nodes := catalogue.nodes ++ [node] } := by
  have whole : catalogue.isBroken home entry.name = false := by simp [isBroken, intact]
  simp only [declareNode, whole, Bool.or_false, isSome_find?_iff]
  constructor
  · intro declared
    split at declared
    · cases declared
    · next named =>
        split at declared
        · cases declared
        · next fresh =>
            split at declared
            · next node defined =>
                cases declared
                have defines : Defines (home, entry) node := ⟨by simpa using named, defined⟩
                exact ⟨node, defines, by rwa [defines.key], rfl⟩
            · next errors refused =>
                obtain ⟨-, unreported⟩ := Prod.mk.inj declared
                exact absurd unreported (entry.ne_nil_of_define refused)
  · rintro ⟨node, defines, fresh, rfl⟩
    rw [defines.key] at fresh
    simp only [defines.named, defines.defined, fresh, if_false, Bool.false_eq_true]

/-- Nodes are declared without an error if their entries define them and their names
are new and differ. -/
theorem declareNodes_eq_iff (catalogue : Catalogue) (intact : catalogue.broken = [])
    (distinct : (catalogue.nodes.map Node.key).Nodup) {home : Namespace}
    {entries : List NodeEntry} :
    declareAll (declareNode home) catalogue entries = (after, []) ↔
      ∃ nodes, List.Forall₂ Defines (entries.map fun entry => (home, entry)) nodes ∧
        ((catalogue.nodes ++ nodes).map Node.key).Nodup ∧
        after = { catalogue with nodes := catalogue.nodes ++ nodes } := by
  -- The catalogue grows with every entry, so the induction is on the entries for all
  -- catalogues.
  induction entries generalizing catalogue with
  | nil =>
      constructor
      · intro declared
        cases declared
        exact ⟨[], .nil, by simpa using distinct, by simp⟩
      · rintro ⟨nodes, defined, -, rfl⟩
        cases defined
        simp [declareAll]
  | cons entry rest ih =>
      rw [declareAll_cons_eq_iff]
      constructor
      · rintro ⟨between, first, later⟩
        obtain ⟨node, defines, fresh, rfl⟩ := (declareNode_eq_iff intact).mp first
        have grown : ((catalogue.nodes ++ [node]).map Node.key).Nodup := by
          rw [List.map_append]
          exact nodup_concat_iff.mpr ⟨distinct, fresh⟩
        obtain ⟨nodes, defined, all, same⟩ :=
          (ih { catalogue with nodes := catalogue.nodes ++ [node] } intact grown).mp later
        refine ⟨node :: nodes, .cons defines defined, ?_, ?_⟩
        · simpa using all
        · simpa using same
      · rintro ⟨nodes, defined, all, rfl⟩
        obtain ⟨node, nodes, defines, defined, rfl⟩ := List.forall₂_cons_left_iff.mp defined
        rw [List.append_cons] at all
        have grown : ((catalogue.nodes ++ [node]).map Node.key).Nodup := by
          rw [List.map_append] at all
          exact all.of_append_left
        refine ⟨_, (declareNode_eq_iff intact).mpr ⟨node, defines, ?_, rfl⟩,
          (ih { catalogue with nodes := catalogue.nodes ++ [node] } intact grown).mpr
            ⟨nodes, ‹_›, all, by simp⟩⟩
        rw [List.map_append] at grown
        exact (nodup_concat_iff.mp grown).2

/-- A template is declared without an error if its nodes are, nothing is wrong with
its other declarations, and its name is new. -/
theorem declareTemplate_eq_iff (intact : catalogue.broken = [])
    (distinct : (catalogue.nodes.map Node.key).Nodup) {entry : TemplateEntry} :
    declareTemplate catalogue entry = (after, []) ↔
      entry.name ∉ catalogue.templates.map TemplateDeclaration.name ∧ entry.declare.2 = [] ∧
      ∃ nodes, List.Forall₂ Defines entry.nodeEntries nodes ∧
        ((catalogue.nodes ++ nodes).map Node.key).Nodup ∧
        after =
          { catalogue with
            nodes := catalogue.nodes ++ nodes
            templates := catalogue.templates ++ [entry.declare.1] } := by
  have taken : (catalogue.templates.any fun template => template.name == entry.name) = true ↔
      entry.name ∈ catalogue.templates.map TemplateDeclaration.name := by
    simp
  simp only [declareTemplate, taken]
  constructor
  · intro declared
    split at declared
    · cases declared
    · next fresh =>
        generalize nodesDeclared :
          declareAll (declareNode (.actor entry.name)) catalogue entry.events = result at declared
        rcases result with ⟨between, errors⟩
        obtain ⟨same, unreported⟩ := Prod.mk.inj declared
        obtain ⟨rfl, sound⟩ := List.append_eq_nil_iff.mp unreported
        obtain ⟨nodes, defined, all, rfl⟩ :=
          (declareNodes_eq_iff catalogue intact distinct).mp nodesDeclared
        exact ⟨fresh, sound, nodes, defined, all, same.symm⟩
  · rintro ⟨fresh, sound, nodes, defined, all, rfl⟩
    rw [(declareNodes_eq_iff catalogue intact distinct).mpr ⟨nodes, defined, all, rfl⟩]
    simp only [fresh, if_false, sound, List.append_nil]

/-- Templates are declared without an error if each of them is and their names are new
and differ. -/
theorem declareTemplates_eq_iff (catalogue : Catalogue) (intact : catalogue.broken = [])
    (distinct : (catalogue.nodes.map Node.key).Nodup)
    (templatesDistinct : (catalogue.templates.map TemplateDeclaration.name).Nodup)
    {entries : List TemplateEntry} :
    declareAll declareTemplate catalogue entries = (after, []) ↔
      (catalogue.templates.map TemplateDeclaration.name ++
          entries.map TemplateEntry.name).Nodup ∧
      (∀ entry ∈ entries, entry.declare.2 = []) ∧
      ∃ nodes, List.Forall₂ Defines (entries.flatMap TemplateEntry.nodeEntries) nodes ∧
        ((catalogue.nodes ++ nodes).map Node.key).Nodup ∧
        after =
          { catalogue with
            nodes := catalogue.nodes ++ nodes
            templates := catalogue.templates ++ entries.map fun entry => entry.declare.1 } := by
  induction entries generalizing catalogue with
  | nil =>
      constructor
      · intro declared
        cases declared
        exact ⟨by simpa using templatesDistinct, by simp, [], .nil, by simpa using distinct,
          by simp⟩
      · rintro ⟨-, -, nodes, defined, -, rfl⟩
        cases defined
        simp [declareAll]
  | cons entry rest ih =>
      -- The catalogue between the first template and the others.
      have later : ∀ nodes, ((catalogue.nodes ++ nodes).map Node.key).Nodup →
          (catalogue.templates.map TemplateDeclaration.name ++ [entry.name]).Nodup → _ :=
        fun nodes all names =>
          ih
            { catalogue with
              nodes := catalogue.nodes ++ nodes
              templates := catalogue.templates ++ [entry.declare.1] }
            intact all (by simpa [TemplateEntry.declare] using names)
      rw [declareAll_cons_eq_iff]
      constructor
      · rintro ⟨between, first, rest⟩
        obtain ⟨fresh, sound, nodes, defined, all, rfl⟩ :=
          (declareTemplate_eq_iff intact distinct).mp first
        have names : (catalogue.templates.map TemplateDeclaration.name ++ [entry.name]).Nodup :=
          nodup_concat_iff.mpr ⟨templatesDistinct, fresh⟩
        obtain ⟨allNames, allSound, others, othersDefined, allNodes, same⟩ :=
          (later nodes all names).mp rest
        refine ⟨by simpa [TemplateEntry.declare] using allNames, ?_, nodes ++ others, ?_, ?_, ?_⟩
        · exact List.forall_mem_cons.mpr ⟨sound, allSound⟩
        · exact List.rel_append defined othersDefined
        · simpa using allNodes
        · simpa using same
      · rintro ⟨allNames, allSound, nodes, defined, all, rfl⟩
        obtain ⟨sound, soundRest⟩ := List.forall_mem_cons.mp allSound
        obtain ⟨first, others, rfl, defined, othersDefined⟩ := exists_append_of_forall₂ defined
        rw [← List.append_assoc] at all
        rw [List.map_cons, List.append_cons] at allNames
        have grown : ((catalogue.nodes ++ first).map Node.key).Nodup := by
          rw [List.map_append] at all
          exact all.of_append_left
        have fresh := (nodup_concat_iff.mp allNames.of_append_left).2
        exact ⟨_, (declareTemplate_eq_iff intact distinct).mpr
          ⟨fresh, sound, first, defined, grown, rfl⟩,
          (later first grown allNames.of_append_left).mpr
            ⟨by simpa [TemplateEntry.declare] using allNames, soundRest, others, othersDefined,
              all, by simp⟩⟩

/-! ### The whole catalogue -/

/-- The catalogue of a document has no errors exactly if it is what the document
declares. -/
theorem ofDocument_eq_iff {document : Document} :
    ofDocument document = (catalogue, []) ↔ document.Declares catalogue := by
  have empty : (({} : Catalogue).nodes.map Node.key).Nodup := List.nodup_nil
  have mapDeclares {between : Catalogue} :
      declareAll (declareNode .map) {} document.mapEvents = (between, []) ↔ _ :=
    declareNodes_eq_iff {} rfl empty
  simp only [ofDocument]
  constructor
  · intro declared
    generalize mapDeclared : declareAll (declareNode .map) {} document.mapEvents = first at declared
    rcases first with ⟨between, mapErrors⟩
    generalize actorsDeclared :
      declareAll declareTemplate between document.actors = second at declared
    rcases second with ⟨last, actorErrors⟩
    obtain ⟨rfl, unreported⟩ := Prod.mk.inj declared
    obtain ⟨others, spawns⟩ := List.append_eq_nil_iff.mp unreported
    obtain ⟨rfl, rfl⟩ := List.append_eq_nil_iff.mp others
    obtain ⟨mapNodes, mapDefined, distinct, rfl⟩ := mapDeclares.mp mapDeclared
    obtain ⟨names, sound, actorNodes, defined, all, rfl⟩ :=
      (declareTemplates_eq_iff { nodes := [] ++ mapNodes } rfl distinct List.nodup_nil).mp
        actorsDeclared
    exact
      { nodes := List.rel_append mapDefined defined
        distinct := all
        intact := rfl
        templates := rfl
        sound
        templatesDistinct := names
        spawns }
  · intro declares
    -- The nodes of the map stand in front of all others.
    obtain ⟨mapNodes, actorNodes, listed, mapDefined, defined⟩ :=
      exists_append_of_forall₂ declares.nodes
    have all := declares.distinct
    rw [listed] at all
    have distinct : ((([] : List (Node Reference)) ++ mapNodes).map Node.key).Nodup := by
      rw [List.map_append] at all
      exact all.of_append_left
    rw [mapDeclares.mpr ⟨mapNodes, mapDefined, distinct, rfl⟩]
    have grown : declareAll declareTemplate { nodes := [] ++ mapNodes } document.actors =
        (catalogue, []) := by
      refine (declareTemplates_eq_iff { nodes := [] ++ mapNodes } rfl distinct List.nodup_nil).mpr
        ⟨declares.templatesDistinct, declares.sound, actorNodes, defined, all, ?_⟩
      rcases catalogue with ⟨nodes, broken, templates⟩
      simp only [Catalogue.mk.injEq]
      exact ⟨listed, declares.intact, declares.templates⟩
    simp only [grown, declares.spawns, List.append_nil]

/-- Nothing is wrong with the links of a catalogue exactly if no child and no event is
reported and no cycle is found. -/
theorem linkErrors_eq_nil_iff :
    catalogue.linkErrors = [] ↔
      (∀ node ∈ catalogue.nodes, reports (catalogue.childLinks node) = []) ∧
      (∀ template ∈ catalogue.templates, (catalogue.linkTemplate template).2 = []) ∧
      findCycles catalogue.edgeTable = [] := by
  simp only [linkErrors, List.append_eq_nil_iff, List.flatMap_eq_nil_iff, List.map_eq_nil_iff,
    and_assoc]

/-- The graph of a catalogue is what its links make of it, if all names can be linked. -/
theorem resolve_eq_ok_iff {graph : BehaviorGraph} :
    catalogue.resolve = .ok graph ↔ catalogue.linkErrors = [] ∧ catalogue.linked = graph := by
  simp only [resolve, List.isEmpty_iff]
  split
  · next errorless => simp [errorless]
  · next errors => simp [errors]

end Catalogue

/-- If nothing is wrong with the links, the catalogue is clean. -/
theorem Document.Declares.clean {document : Document} {catalogue : Catalogue}
    (declares : document.Declares catalogue) (errorless : catalogue.linkErrors = []) :
    catalogue.Clean :=
  Catalogue.clean_of_linkErrors (Catalogue.ofDocument_eq_iff.mpr declares) errorless

theorem Document.Declares.mem_templates {document : Document} {catalogue : Catalogue}
    (declares : document.Declares catalogue) {entry : TemplateEntry}
    (member : entry ∈ document.actors) : entry.declare.1 ∈ catalogue.templates := by
  rw [declares.templates]
  exact List.mem_map_of_mem member

/-- No two templates that are declared without errors share a name. -/
theorem Document.Declares.templates_distinct {document : Document} {catalogue : Catalogue}
    (declares : document.Declares catalogue) :
    (catalogue.templates.map TemplateDeclaration.name).Nodup := by
  simpa [declares.templates, TemplateEntry.declare, Function.comp_def]
    using declares.templatesDistinct

/-- A document loads exactly if what it declares can be linked, and the graph is then
what the links make of it. -/
theorem BehaviorGraph.load_eq_ok_iff {document : Document} {graph : BehaviorGraph} :
    BehaviorGraph.load document = .ok graph ↔
      ∃ catalogue : Catalogue, document.Declares catalogue ∧ catalogue.linkErrors = [] ∧
        catalogue.linked = graph := by
  unfold load
  generalize declared : Catalogue.ofDocument document = declarations
  rcases declarations with ⟨catalogue, errors⟩
  simp only [List.isEmpty_iff, List.append_eq_nil_iff]
  constructor
  · intro loaded
    split at loaded
    · next errorless =>
        rcases errorless with ⟨rfl, -⟩
        exact ⟨catalogue, Catalogue.ofDocument_eq_iff.mp declared,
          Catalogue.resolve_eq_ok_iff.mp loaded⟩
    · cases loaded
  · rintro ⟨other, declares, errorless, rfl⟩
    rw [Catalogue.ofDocument_eq_iff.mpr declares] at declared
    cases declared
    simp [Catalogue.resolve, errorless]

end Stagecraft
