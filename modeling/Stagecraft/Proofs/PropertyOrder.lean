/-
Module: Stagecraft.Proofs.PropertyOrder
Purpose: The order of properties has no influence on what a document loads as, and a
  property that says something twice keeps it from loading.
Main exports:
  NodeEntry.Shuffled, NodeEntry.define_of_shuffled, BindingEntry.declare_of_shuffled,
  Document.Shuffled, Document.SaysTwice, property_order_is_irrelevant
-/
import Stagecraft.Proofs.Leftovers
import Stagecraft.Proofs.Loading
import Stagecraft.Proofs.Walk

namespace Stagecraft

open PropertyBag (takeNumbered refuseRest_sound pairwise_of_takes_nil pairwise_of_takes_numbered
  takeNumbered_sound_iff takeNumbered_ascending takeNumbered_of_alike)

/-! ### Nodes -/

/-- Two properties of one trimmed name, letter case aside. -/
def PropertyEntry.Twins (first second : PropertyEntry) : Prop :=
  Text.sameName (Text.trim first.name) (Text.trim second.name) = true

/-- Two properties whose trimmed names are the same number. -/
def PropertyEntry.SameNumber (first second : PropertyEntry) : Prop :=
  ∃ n, Text.integer? Text.Range.int64 (Text.trim first.name) = some n ∧
    Text.integer? Text.Range.int64 (Text.trim second.name) = some n

/-- Names that differ in the bag of some entries differ among the entries. -/
theorem PropertyBag.pairwise_ofEntries (related : String → String → Prop)
    {entries : List PropertyEntry} (sound : (ofEntries entries).problems = [])
    (all : (ofEntries entries).remaining.Pairwise fun one other => related one.1 other.1) :
    entries.Pairwise fun one other => related (Text.trim one.name) (Text.trim other.name) := by
  rw [← List.pairwise_map] at all ⊢
  rwa [names_ofEntries sound] at all

/-- Entries in another order make alike bags. -/
theorem PropertyBag.alike_ofEntries {entries others : List PropertyEntry}
    (perm : entries.Perm others)
    (distinct : (ofEntries entries).remaining.Pairwise
      fun one other => ¬ PropertyBag.Twins one other) :
    (ofEntries entries).Alike (ofEntries others) where
  perm := by
    rw [ofEntries_eq, ofEntries_eq]
    exact perm.filterMap _
  distinct := distinct
  problems := by
    rw [ofEntries_eq, ofEntries_eq, ← List.length_eq_zero_iff, ← List.length_eq_zero_iff,
      (perm.filterMap PropertyEntry.problem?).length_eq]

/-- An entry for the same node with its properties in another order. -/
structure NodeEntry.Shuffled (entry other : NodeEntry) : Prop where
  name : other.name = entry.name
  kind : other.kind = entry.kind
  properties : entry.properties.Perm other.properties

/-- Whether an entry is one of a multi node or a switch. -/
def NodeEntry.TakesNumbered (entry : NodeEntry) : Prop :=
  ∃ kindName, KindName.parse? entry.kind = some kindName ∧ kindName.takesNumbered = true

namespace Definition

/-- No property that a kind asks for makes a numbered child. -/
theorem numbered_asNode (name : String) (home : Namespace) (kindName : KindName)
    (bag : PropertyBag) :
    ((asNode name home kindName).run bag).1.children.numbered = [] := by
  simp only [asNode, run_bind]
  cases kindName.isTest <;> rfl

variable {name : String} {home : Namespace} {kindName : KindName} {bag : PropertyBag}

/-- What nodes ask for and what they leave over, when nothing is wrong: no two properties
have one name, and where children are numbered no two have one number. -/
theorem node_sound (sound : ((node name home kindName).run bag).2.problems = []) :
    bag.problems = [] ∧ bag.remaining.Pairwise (fun one other => ¬ PropertyBag.Twins one other) ∧
      (kindName.takesNumbered = true →
        bag.remaining.Pairwise fun one other => ¬ PropertyBag.Clash one other) ∧
      Children.Ascending ((node name home kindName).run bag).1.children.numbered := by
  have asks := asks_asNode name home kindName
  have takes := asks.takes bag
  cases numbered : kindName.takesNumbered with
  | false =>
      rw [run_node_of_not_takesNumbered numbered] at sound ⊢
      obtain ⟨flawless, empty⟩ := refuseRest_sound.mp sound
      rw [empty] at takes
      refine ⟨asks.grows bag flawless, pairwise_of_takes_nil (pairwise_nodeKeys kindName) takes,
        by simp, ?_⟩
      rw [numbered_asNode]
      exact .nil
  | true =>
      rw [run_node_of_takesNumbered numbered] at sound ⊢
      have plain := numbered_asNode name home kindName bag
      obtain ⟨flawless, all, distinct⟩ := (takeNumbered_sound_iff plain).mp sound
      obtain ⟨listed, made, -, ascending⟩ := takeNumbered_ascending plain sound
      have apart := pairwise_of_takes_numbered (pairwise_nodeKeys kindName)
        integer?_of_mem_nodeKeys takes all distinct
      refine ⟨asks.grows bag flawless, apart.imp fun differ twins => differ (.inl twins),
        fun _ => apart, ?_⟩
      change Children.Ascending ((takeNumbered _).run _).1.numbered
      rw [made]
      exact ascending

/-- Alike bags define the same node. -/
theorem node_of_alike {other : PropertyBag} (alike : bag.Alike other)
    (sound : ((node name home kindName).run bag).2.problems = []) :
    ((node name home kindName).run other).2.problems = [] ∧
      ((node name home kindName).run other).1 = ((node name home kindName).run bag).1 := by
  obtain ⟨same, rest⟩ := (asks_asNode name home kindName).alike alike
  cases numbered : kindName.takesNumbered with
  | false =>
      rw [run_node_of_not_takesNumbered numbered] at sound
      rw [run_node_of_not_takesNumbered numbered, run_node_of_not_takesNumbered numbered]
      obtain ⟨flawless, empty⟩ := refuseRest_sound.mp sound
      refine ⟨refuseRest_sound.mpr ⟨rest.problems.mp flawless, ?_⟩, same.symm⟩
      exact (empty ▸ rest.perm).nil_eq.symm
  | true =>
      rw [run_node_of_takesNumbered numbered] at sound
      rw [run_node_of_takesNumbered numbered, run_node_of_takesNumbered numbered]
      have plain := numbered_asNode name home kindName bag
      generalize (asNode name home kindName).run bag = first at same rest sound plain ⊢
      generalize (asNode name home kindName).run other = second at same rest ⊢
      rcases first with ⟨made, left⟩
      rcases second with ⟨again, leftAgain⟩
      obtain rfl : made = again := same
      obtain ⟨soundOther, taken⟩ := takeNumbered_of_alike plain rest sound
      exact ⟨soundOther, by simp only [taken]⟩

end Definition

namespace NodeEntry

variable {entry other : NodeEntry} {home : Namespace} {node : Node Reference}

/-- The order of the properties has no influence on the node that an entry defines. -/
theorem define_of_shuffled (shuffled : entry.Shuffled other)
    (defined : entry.define home = .ok node) : other.define home = .ok node := by
  obtain ⟨kindName, known, made, sound⟩ := define_eq_ok_iff.mp defined
  obtain ⟨-, distinct, -, -⟩ := Definition.node_sound sound
  obtain ⟨soundOther, same⟩ :=
    Definition.node_of_alike (PropertyBag.alike_ofEntries shuffled.properties distinct) sound
  refine define_eq_ok_iff.mpr ⟨kindName, by rw [shuffled.kind]; exact known, ?_, ?_⟩
  · rw [shuffled.name, same, made]
  · rw [shuffled.name]
    exact soundOther

/-- No two properties of an entry that defines a node have one name, and where children
are numbered no two have one number. -/
theorem pairwise_of_define (defined : entry.define home = .ok node) :
    entry.properties.Pairwise (fun one other => ¬ one.Twins other) ∧
      (entry.TakesNumbered →
        entry.properties.Pairwise fun one other => ¬ one.SameNumber other) := by
  obtain ⟨kindName, known, -, sound⟩ := define_eq_ok_iff.mp defined
  obtain ⟨flawless, distinct, apart, -⟩ := Definition.node_sound sound
  refine ⟨?_, fun numbered => ?_⟩
  · exact PropertyBag.pairwise_ofEntries (fun one other => ¬ Text.sameName one other = true)
      flawless distinct
  · obtain ⟨other, knownOther, takes⟩ := numbered
    obtain rfl : other = kindName := Option.some.inj (knownOther.symm.trans known)
    exact PropertyBag.pairwise_ofEntries
      (fun one other => ¬ ∃ n, Text.integer? Text.Range.int64 one = some n ∧
        Text.integer? Text.Range.int64 other = some n)
      flawless ((apart takes).imp fun differ same => differ (.inr same))

/-- The numbered children of a node that an entry defines stand in strict order. -/
theorem ascending_of_define (defined : entry.define home = .ok node) :
    Children.Ascending node.children.numbered := by
  obtain ⟨kindName, known, rfl, sound⟩ := define_eq_ok_iff.mp defined
  exact (Definition.node_sound sound).2.2.2

end NodeEntry

/-! ### Bindings -/

/-- An entry for the same key with its properties in another order. -/
structure BindingEntry.Shuffled (entry other : BindingEntry) : Prop where
  key : other.key = entry.key
  properties : entry.properties.Perm other.properties

namespace Definition

variable {key : KeyName} {bag : PropertyBag}

/-- What bindings leave over, when nothing is wrong: no two properties have one name. -/
theorem binding_sound (sound : ((binding key).run bag).2.problems = []) :
    bag.problems = [] ∧
      bag.remaining.Pairwise fun one other => ¬ PropertyBag.Twins one other := by
  have asks := asks_asBinding key
  have takes := asks.takes bag
  rw [run_binding] at sound
  obtain ⟨flawless, empty⟩ := refuseRest_sound.mp sound
  rw [empty] at takes
  exact ⟨asks.grows bag flawless, pairwise_of_takes_nil pairwise_bindingKeys takes⟩

/-- Alike bags give the same binding. -/
theorem binding_of_alike {other : PropertyBag} (alike : bag.Alike other)
    (sound : ((binding key).run bag).2.problems = []) :
    ((binding key).run other).2.problems = [] ∧
      ((binding key).run other).1 = ((binding key).run bag).1 := by
  obtain ⟨same, rest⟩ := (asks_asBinding key).alike alike
  rw [run_binding] at sound
  rw [run_binding, run_binding]
  obtain ⟨flawless, empty⟩ := refuseRest_sound.mp sound
  refine ⟨refuseRest_sound.mpr ⟨rest.problems.mp flawless, ?_⟩, same.symm⟩
  exact (empty ▸ rest.perm).nil_eq.symm

end Definition

namespace BindingEntry

variable {entry other : BindingEntry} {declaration : BindingDeclaration}

/-- The order of the properties has no influence on what an entry declares. -/
theorem declare_of_shuffled (shuffled : entry.Shuffled other)
    (declared : entry.declare = .ok declaration) : other.declare = .ok declaration := by
  obtain ⟨keyed, sound, coherent, settled⟩ := declare_eq_ok_iff.mp declared
  obtain ⟨-, distinct⟩ := Definition.binding_sound sound
  obtain ⟨soundOther, same⟩ :=
    Definition.binding_of_alike (PropertyBag.alike_ofEntries shuffled.properties distinct) sound
  refine declare_eq_ok_iff.mpr ?_
  rw [shuffled.key]
  refine ⟨keyed, soundOther, ?_, ?_⟩
  · rw [same]
    exact coherent
  · rw [same, settled]

/-- No two properties of an entry that declares a binding have one name. -/
theorem pairwise_of_declare (declared : entry.declare = .ok declaration) :
    entry.properties.Pairwise fun one other => ¬ one.Twins other := by
  obtain ⟨-, sound, -⟩ := declare_eq_ok_iff.mp declared
  obtain ⟨flawless, distinct⟩ := Definition.binding_sound sound
  exact PropertyBag.pairwise_ofEntries (fun one other => ¬ Text.sameName one other = true)
    flawless distinct

end BindingEntry

/-! ### Templates and documents -/

/-- An entry for the same template with the properties of its events and bindings in
another order. -/
structure TemplateEntry.Shuffled (entry other : TemplateEntry) : Prop where
  name : other.name = entry.name
  events : List.Forall₂ NodeEntry.Shuffled entry.events other.events
  bindings : List.Forall₂ BindingEntry.Shuffled entry.bindings other.bindings
  responses : other.responses = entry.responses
  hitboxes : other.hitboxes = entry.hitboxes

/-- The same document with the properties of any nodes and bindings in another order. -/
structure Document.Shuffled (document other : Document) : Prop where
  mapEvents : List.Forall₂ NodeEntry.Shuffled document.mapEvents other.mapEvents
  actors : List.Forall₂ TemplateEntry.Shuffled document.actors other.actors
  solids : other.solids = document.solids

theorem NodeEntry.Shuffled.symm {entry other : NodeEntry} (shuffled : entry.Shuffled other) :
    other.Shuffled entry :=
  ⟨shuffled.name.symm, shuffled.kind.symm, shuffled.properties.symm⟩

theorem BindingEntry.Shuffled.symm {entry other : BindingEntry}
    (shuffled : entry.Shuffled other) : other.Shuffled entry :=
  ⟨shuffled.key.symm, shuffled.properties.symm⟩

theorem TemplateEntry.Shuffled.symm {entry other : TemplateEntry}
    (shuffled : entry.Shuffled other) : other.Shuffled entry :=
  ⟨shuffled.name.symm, shuffled.events.flip.imp fun _ _ => NodeEntry.Shuffled.symm,
    shuffled.bindings.flip.imp fun _ _ => BindingEntry.Shuffled.symm, shuffled.responses.symm,
    shuffled.hitboxes.symm⟩

theorem Document.Shuffled.symm {document other : Document} (shuffled : document.Shuffled other) :
    other.Shuffled document :=
  ⟨shuffled.mapEvents.flip.imp fun _ _ => NodeEntry.Shuffled.symm,
    shuffled.actors.flip.imp fun _ _ => TemplateEntry.Shuffled.symm, shuffled.solids.symm⟩

/-- A template with which nothing is wrong declares the same in another order of its
properties. -/
theorem TemplateEntry.declare_of_shuffled {entry other : TemplateEntry}
    (shuffled : entry.Shuffled other) (sound : entry.declare.2 = []) :
    other.declare = entry.declare := by
  have bindings : (other.bindings.map fun binding => (binding.key, binding.declare)) =
      entry.bindings.map fun binding => (binding.key, binding.declare) := by
    have declared : ∀ binding ∈ entry.bindings, ∃ declaration,
        binding.declare = .ok declaration := by
      intro binding member
      obtain ⟨declaration, -, made⟩ :=
        exists_of_forall₂_of_mem (entry.forall₂_declare sound).flip member
      exact ⟨declaration, made⟩
    have paired := (List.forall₂_and_left _ _).mpr ⟨declared, shuffled.bindings⟩
    refine map_eq_map_of_forall₂ (paired.imp ?_)
    rintro one other ⟨⟨declaration, made⟩, same⟩
    rw [same.key, made, BindingEntry.declare_of_shuffled same made]
  simp only [declare, bindings, shuffled.name, shuffled.responses, shuffled.hitboxes]

/-- The entries of a template in another order of their properties. -/
theorem TemplateEntry.Shuffled.nodeEntries {entry other : TemplateEntry}
    (shuffled : entry.Shuffled other) :
    List.Forall₂ (fun one other => other.1 = one.1 ∧ one.2.Shuffled other.2)
      entry.nodeEntries other.nodeEntries := by
  simp only [TemplateEntry.nodeEntries, shuffled.name]
  rw [List.forall₂_map_left_iff, List.forall₂_map_right_iff]
  exact shuffled.events.imp fun _ _ same => ⟨rfl, same⟩

/-- Shuffled documents declare shuffled nodes, one by one. -/
theorem Document.Shuffled.nodeEntries {document other : Document}
    (shuffled : document.Shuffled other) :
    List.Forall₂ (fun (one other : Namespace × NodeEntry) =>
        other.1 = one.1 ∧ one.2.Shuffled other.2)
      document.nodeEntries other.nodeEntries := by
  refine List.rel_append ?_ ?_
  · rw [List.forall₂_map_left_iff, List.forall₂_map_right_iff]
    exact shuffled.mapEvents.imp fun _ _ same => ⟨rfl, same⟩
  · exact List.rel_flatMap shuffled.actors fun _ _ => TemplateEntry.Shuffled.nodeEntries

/-- A document declares the same in another order of its properties. -/
theorem Document.Declares.of_shuffled {document other : Document} {catalogue : Catalogue}
    (shuffled : document.Shuffled other) (declares : document.Declares catalogue) :
    other.Declares catalogue := by
  have same : other.actors.map TemplateEntry.declare = document.actors.map TemplateEntry.declare :=
    map_eq_map_of_forall₂
      (((List.forall₂_and_left _ _).mpr ⟨declares.sound, shuffled.actors⟩).imp fun _ _ both =>
        TemplateEntry.declare_of_shuffled both.2 both.1)
  have names : other.actors.map TemplateEntry.name = document.actors.map TemplateEntry.name :=
    map_eq_map_of_forall₂ (shuffled.actors.imp fun _ _ => TemplateEntry.Shuffled.name)
  exact
    { nodes := by
        refine (forall₂_comp shuffled.symm.nodeEntries declares.nodes).imp ?_
        rintro one node ⟨between, ⟨home, same⟩, defines⟩
        refine ⟨?_, ?_⟩
        · rw [← same.name]
          exact defines.named
        · rw [← home]
          exact NodeEntry.define_of_shuffled same.symm defines.defined
      distinct := declares.distinct
      intact := declares.intact
      templates := by
        rw [declares.templates]
        simpa [Function.comp_def] using congrArg (List.map Prod.fst) same.symm
      sound := by
        have sound : ∀ result ∈ document.actors.map TemplateEntry.declare, result.2 = [] :=
          List.forall_mem_map.mpr declares.sound
        rw [← same] at sound
        exact List.forall_mem_map.mp sound
      templatesDistinct := names ▸ declares.templatesDistinct
      spawns := declares.spawns }

/-- A document that loads does so in any order of its properties, as the same graph. -/
theorem BehaviorGraph.load_of_shuffled {document other : Document} {graph : BehaviorGraph}
    (shuffled : document.Shuffled other) (loaded : BehaviorGraph.load document = .ok graph) :
    BehaviorGraph.load other = .ok graph := by
  obtain ⟨catalogue, declares, errorless, linked⟩ := load_eq_ok_iff.mp loaded
  exact load_eq_ok_iff.mpr ⟨catalogue, declares.of_shuffled shuffled, errorless, linked⟩

/-- Somewhere in a document two properties say the same: two of a node or of a binding
have one name, or two children of a multi node or a switch have one number. -/
inductive Document.SaysTwice (document : Document) : Prop where
  | node {home : Namespace} {entry : NodeEntry} {first second : PropertyEntry}
      (member : (home, entry) ∈ document.nodeEntries)
      (both : [first, second].Sublist entry.properties) (twins : first.Twins second)
  | number {home : Namespace} {entry : NodeEntry} {first second : PropertyEntry}
      (member : (home, entry) ∈ document.nodeEntries) (numbered : entry.TakesNumbered)
      (both : [first, second].Sublist entry.properties) (same : first.SameNumber second)
  | binding {template : TemplateEntry} {entry : BindingEntry} {first second : PropertyEntry}
      (known : template ∈ document.actors) (member : entry ∈ template.bindings)
      (both : [first, second].Sublist entry.properties) (twins : first.Twins second)

/-- A document that says something twice does not declare anything. -/
theorem Document.Declares.not_saysTwice {document : Document} {catalogue : Catalogue}
    (declares : document.Declares catalogue) : ¬ document.SaysTwice := by
  intro twice
  cases twice with
  | node member both twins =>
      obtain ⟨node, -, defines⟩ := exists_of_forall₂_of_mem declares.nodes.flip member
      have apart := (NodeEntry.pairwise_of_define defines.defined).1
      exact List.pairwise_iff_forall_sublist.mp apart both twins
  | number member numbered both same =>
      obtain ⟨node, -, defines⟩ := exists_of_forall₂_of_mem declares.nodes.flip member
      have apart := (NodeEntry.pairwise_of_define defines.defined).2 numbered
      exact List.pairwise_iff_forall_sublist.mp apart both same
  | @binding template _ _ _ known member both twins =>
      obtain ⟨declaration, -, declared⟩ := exists_of_forall₂_of_mem
        (template.forall₂_declare (declares.sound template known)).flip member
      have apart := BindingEntry.pairwise_of_declare declared
      exact List.pairwise_iff_forall_sublist.mp apart both twins

/-- Linking keeps the numbers of children. -/
theorem Catalogue.keys_of_linkNode? {catalogue : Catalogue} {node : Node Reference}
    {linked : Node Edge} (links : catalogue.linkNode? node = some linked) :
    linked.children.numbered.map Prod.fst = node.children.numbered.map Prod.fst := by
  obtain ⟨children, mapped, rfl⟩ := Option.map_eq_some_iff.mp links
  refine map_eq_map_of_forall₂ ((forall₂_of_mapM (Children.mapM?_eq_some_iff.mp mapped).1).imp ?_)
  intro child other image
  obtain ⟨edge, -, rfl⟩ := Option.map_eq_some_iff.mp image
  rfl

/-- **The order of properties is irrelevant, and no property is ignored.**  Documents that
differ in the order of the properties of their nodes and bindings load alike and as the
same graph.  The numbered children of a loaded node stand in strict order of their
numbers.  A document that says something twice does not load. -/
theorem property_order_is_irrelevant (document : Document) :
    (∀ other, document.Shuffled other → ∀ graph,
      BehaviorGraph.load document = .ok graph ↔ BehaviorGraph.load other = .ok graph) ∧
    (∀ graph, BehaviorGraph.load document = .ok graph →
      ∀ node ∈ graph.nodes, Children.Ascending node.children.numbered) ∧
    (document.SaysTwice → ∀ graph, BehaviorGraph.load document ≠ .ok graph) := by
  refine ⟨?_, ?_, ?_⟩
  · intro other shuffled graph
    exact ⟨BehaviorGraph.load_of_shuffled shuffled, BehaviorGraph.load_of_shuffled shuffled.symm⟩
  · intro graph loaded linked member
    obtain ⟨catalogue, declares, errorless, rfl⟩ := BehaviorGraph.load_eq_ok_iff.mp loaded
    obtain ⟨node, declared, links⟩ := List.mem_filterMap.mp member
    obtain ⟨entry, -, defines⟩ := exists_of_forall₂_of_mem declares.nodes declared
    -- Numbered children are put in order when the node is defined, and linking keeps their
    -- keys.
    have ascending := NodeEntry.ascending_of_define defines.defined
    rw [Children.Ascending, ← List.pairwise_map (f := Prod.fst)] at ascending ⊢
    rwa [Catalogue.keys_of_linkNode? links]
  · intro twice graph loaded
    obtain ⟨catalogue, declares, -, -⟩ := BehaviorGraph.load_eq_ok_iff.mp loaded
    exact declares.not_saysTwice twice

/-! ### An example: the theatre written in another order -/

/-- The theatre with the properties of its act and of its binding the other way round. -/
def theatreBackwards : Document :=
  { theatre with
    actors := theatre.actors.map fun entry =>
      { entry with
        events := entry.events.map fun node => { node with properties := node.properties.reverse }
        bindings := entry.bindings.map fun binding =>
          { binding with properties := binding.properties.reverse } } }

theorem theatre_shuffled : theatre.Shuffled theatreBackwards where
  mapEvents := List.forall₂_same.mpr fun _ _ => ⟨rfl, rfl, .refl _⟩
  actors := by
    refine List.forall₂_map_right_iff.mpr (List.forall₂_same.mpr fun entry _ => ?_)
    exact
      { name := rfl
        events := List.forall₂_map_right_iff.mpr
          (List.forall₂_same.mpr fun node _ => ⟨rfl, rfl, node.properties.reverse_perm.symm⟩)
        bindings := List.forall₂_map_right_iff.mpr
          (List.forall₂_same.mpr fun binding _ => ⟨rfl, binding.properties.reverse_perm.symm⟩)
        responses := rfl
        hitboxes := rfl }
  solids := rfl

/-- A multi node with two spellings of one number. -/
def stammer : Document :=
  { mapEvents :=
      [ { name := "Stammer", kind := "multi"
          properties := [textProperty "1" "Stammer", textProperty " +01" "*word"] } ] }

/-- The theatre loads alike in both orders, the children of its act in theirs; the stammer
does not load. -/
theorem property_order_is_irrelevant_theatre :
    theatre.Shuffled theatreBackwards ∧ BehaviorGraph.load theatreBackwards = .ok theatreGraph ∧
      (∀ node ∈ theatreGraph.nodes, Children.Ascending node.children.numbered) ∧
      stammer.SaysTwice ∧ ∀ graph, BehaviorGraph.load stammer ≠ .ok graph := by
  obtain ⟨orders, ascending, -⟩ := property_order_is_irrelevant theatre
  obtain ⟨-, -, refused⟩ := property_order_is_irrelevant stammer
  have twice : stammer.SaysTwice :=
    .number List.mem_cons_self ⟨.multi, by decide, rfl⟩ (.refl _) ⟨1, by decide, by decide⟩
  exact ⟨theatre_shuffled, (orders _ theatre_shuffled _).mp load_theatre,
    ascending _ load_theatre, twice, refused twice⟩

end Stagecraft
