/-
Module: Stagecraft.Proofs.Mentions
Purpose: Which names a document mentions, which of them mean nothing, and which of
  those are reported.
Main exports:
  Offers, Mention, missing, Document.mentions, Document.heeded, Document.HidesNothing,
  Complains, Catalogue.unresolved_linkErrors, missing_names_are_reported,
  landing_is_not_reported
-/
import Stagecraft.Proofs.FaithfulLinks
import Mathlib.Data.List.Flatten

namespace Stagecraft

/-!
A name is mentioned as a child of a node, as the event or the stop event of a key
binding, or in response to an occasion.  Each kind of mention is linked by a loop of
its own.  The loop over the bindings leaves a binding as soon as something is wrong
with its event, and so it pays no heed to the stop event behind it.
-/

/-- Whether a name that is mentioned in a namespace is one of some declared names: one
of the map, or one of the own namespace where more than the map is seen. -/
def Offers (names : List (Namespace × String)) (home : Namespace) (mapOnly : Bool)
    (name : String) : Prop :=
  (.map, name) ∈ names ∨ mapOnly = false ∧ (home, name) ∈ names

instance (names : List (Namespace × String)) (home : Namespace) (mapOnly : Bool)
    (name : String) : Decidable (Offers names home mapOnly name) :=
  inferInstanceAs (Decidable (_ ∨ _))

/-- A place where a name stands for an event: who mentions it, where it is looked up,
and whether the map alone is asked. -/
structure Mention where
  home : Namespace
  source : String
  name : String
  mapOnly : Bool
deriving DecidableEq

/-- The report about a name that means nothing. -/
def Mention.report (mention : Mention) : LoadError :=
  .unresolved mention.home mention.source mention.name

/-- Whether an error reports a name that means nothing. -/
def LoadError.isUnresolved : LoadError → Bool
  | .unresolved .. => true
  | _ => false

/-- The mentions of names that are not declared. -/
def missing (names : List (Namespace × String)) (mentions : List Mention) : List Mention :=
  mentions.filter fun mention => ¬ Offers names mention.home mention.mapOnly mention.name

/-- Of fewer mentions fewer are missing. -/
theorem missing_sublist (names : List (Namespace × String)) {first second : List Mention}
    (sublist : first.Sublist second) : (missing names first).Sublist (missing names second) :=
  sublist.filter _

theorem missing_append (names : List (Namespace × String)) (first second : List Mention) :
    missing names (first ++ second) = missing names first ++ missing names second :=
  List.filter_append ..

theorem missing_flatMap {α : Type} (names : List (Namespace × String)) (xs : List α)
    (mentions : α → List Mention) :
    missing names (xs.flatMap mentions) = xs.flatMap fun x => missing names (mentions x) :=
  List.filter_flatMap ..

/-! ### What a document mentions -/

/-- The name that a reference mentions.  A variable mentions none. -/
def Reference.mention? (home : Namespace) (source : String) (mapOnly : Bool) :
    Reference → Option Mention
  | .variable _ => none
  | .named name => some { home, source, name, mapOnly }

/-- The names that a node mentions as its children. -/
def Node.mentions (node : Node Reference) : List Mention :=
  node.children.toList.filterMap fun (role, reference) =>
    reference.mention? node.home node.name (isMapOnly node.kind role)

namespace BindingDeclaration

variable (names : List (Namespace × String)) (home : Namespace) (binding : BindingDeclaration)

/-- Who mentions the events of a binding. -/
def source : String := "binding " ++ binding.key.text

def eventMentions : List Mention :=
  binding.event.toList.filterMap (Reference.mention? home binding.source false)

def stopMentions : List Mention :=
  binding.stopEvent.toList.filterMap (Reference.mention? home binding.source false)

/-- All names that a binding mentions. -/
def mentions : List Mention := binding.eventMentions home ++ binding.stopMentions home

/-- Whether nothing is wrong with the event of a binding: there is none, or it has a
declared name. -/
def eventStands : Bool :=
  match binding.event with
  | none => true
  | some (.variable _) => false
  | some (.named name) => Offers names home false name

/-- The names of a binding that are looked up: that of its stop event only if nothing
is wrong with its event. -/
def heeded : List Mention :=
  binding.eventMentions home ++
    if binding.eventStands names home then binding.stopMentions home else []

end BindingDeclaration

namespace TemplateDeclaration

variable (template : TemplateDeclaration)

/-- The names that a template mentions in response to occasions. -/
def responseMentions : List Mention :=
  template.responses.filterMap fun (occasion, reference) =>
    reference.mention? template.home occasion.name false

/-- The names that a template mentions, where `ofBinding` picks those of a key binding in
a namespace. -/
def mentionsOf (ofBinding : Namespace → BindingDeclaration → List Mention) : List Mention :=
  template.bindings.flatMap (ofBinding template.home) ++ template.responseMentions

end TemplateDeclaration

/-- The names that nodes and templates mention, where `ofBinding` picks those of a key
binding in a namespace. -/
def mentionsOf (ofBinding : Namespace → BindingDeclaration → List Mention)
    (nodes : List (Node Reference)) (templates : List TemplateDeclaration) : List Mention :=
  nodes.flatMap Node.mentions ++
    templates.flatMap fun template => template.mentionsOf ofBinding

namespace Document

variable (document : Document)

def names : List (Namespace × String) :=
  document.nodeEntries.map fun (home, entry) => (home, entry.name)

/-- The nodes that the entries of a document define. -/
def definedNodes : List (Node Reference) :=
  document.nodeEntries.filterMap fun (home, entry) => (entry.define home).toOption

def declaredTemplates : List TemplateDeclaration :=
  document.actors.map fun entry => entry.declare.1

/-- All names that a document mentions where an event is meant. -/
def mentions : List Mention :=
  mentionsOf BindingDeclaration.mentions document.definedNodes document.declaredTemplates

/-- The names of a document that are looked up. -/
def heeded : List Mention :=
  mentionsOf (BindingDeclaration.heeded document.names) document.definedNodes
    document.declaredTemplates

/-- Whether no binding of a document has a stop event that means nothing behind an event
with which something is wrong. -/
def HidesNothing : Prop :=
  ∀ template ∈ document.declaredTemplates, ∀ binding ∈ template.bindings,
    binding.eventStands document.names template.home = true ∨
      missing document.names (binding.stopMentions template.home) = []

instance : Decidable document.HidesNothing :=
  inferInstanceAs (Decidable (∀ template ∈ _, ∀ binding ∈ _, _ ∨ _))

end Document

/-! ### Complaints about single links -/

/-- Links complain about some mentions if their reports about names are, in order, those
about the mentions that are missing. -/
def Complains (names : List (Namespace × String)) {α : Type}
    (links : List (Except LinkFailure α)) (mentions : List Mention) : Prop :=
  (Catalogue.reports links).filter LoadError.isUnresolved =
    (missing names mentions).map Mention.report

namespace Complains

variable {names : List (Namespace × String)} {α β : Type}

/-- Complaints about two rows of links are complaints about all of them. -/
theorem append {first second : List (Except LinkFailure α)} {here there : List Mention}
    (one : Complains names first here) (two : Complains names second there) :
    Complains names (first ++ second) (here ++ there) := by
  simp only [Complains, Catalogue.reports, missing_append, List.filterMap_append,
    List.filter_append, List.map_append] at one two ⊢
  rw [one, two]

/-- If each of some links complains about its mentions, all of them do. -/
theorem flatMap {link : β → Except LinkFailure α} {mentions : β → List Mention} {xs : List β}
    (each : ∀ x ∈ xs, Complains names [link x] (mentions x)) :
    Complains names (xs.map link) (xs.flatMap mentions) := by
  induction xs with
  | nil => rfl
  | cons x rest ih =>
      have later := ih fun x member => each x (List.mem_cons_of_mem _ member)
      exact (each x List.mem_cons_self).append later

/-- What is made of a link when it succeeds makes no difference. -/
theorem map {link : Except LinkFailure α} {mentions : List Mention}
    (complains : Complains names [link] mentions) (f : α → β) :
    Complains names [link.map f] mentions := by
  cases link with
  | ok value => exact complains
  | error failure => exact complains

/-- Of two links, one after the other, the second complains only if the first is made. -/
theorem bind {link : Except LinkFailure α} {next : α → Except LinkFailure β} {made : Bool}
    {here there : List Mention} (first : Complains names [link] here)
    (succeeds : (∃ value, link = .ok value) ↔ made = true)
    (second : ∀ value, Complains names [next value] there) :
    Complains names [link >>= next] (here ++ if made then there else []) := by
  cases link with
  | error failure =>
      have fails : made = false := by simpa using succeeds
      rw [fails, if_neg Bool.false_ne_true, List.append_nil]
      exact first
  | ok value =>
      obtain rfl : made = true := succeeds.mp ⟨value, rfl⟩
      have both : Complains names ([] ++ [next value]) (here ++ there) := by
        apply append _ (second value)
        exact first
      exact both

end Complains

namespace Catalogue

variable {catalogue : Catalogue}

def names (catalogue : Catalogue) : List (Namespace × String) := catalogue.nodes.map Node.key

/-- A name can be looked up exactly if it is offered. -/
theorem exists_resolveName?_iff {home : Namespace} {name : String} {mapOnly : Bool} :
    (∃ id, catalogue.resolveName? home name mapOnly = some id) ↔
      Offers catalogue.names home mapOnly name := by
  have found : ∀ home, (catalogue.find? home name).isSome ↔ (home, name) ∈ catalogue.names :=
    fun _ => isSome_find?_iff
  simp only [← Option.isSome_iff_exists, resolveName?, scoped?, Option.isSome_or, Bool.or_eq_true,
    found, Offers]
  rw [or_comm]
  cases home with
  | map => simp
  | actor template => cases mapOnly <;> simp [found]

/-- A name links if and only if it is on offer. -/
theorem exists_linkName_iff {home : Namespace} {source name : String} {mapOnly : Bool} :
    (∃ id, catalogue.linkName home source name mapOnly = .ok id) ↔
      Offers catalogue.names home mapOnly name := by
  rw [← exists_resolveName?_iff]
  unfold linkName
  cases catalogue.resolveName? home name mapOnly with
  | none => cases catalogue.isKnownBroken home name mapOnly <;> simp
  | some id => simp

/-- Where no name is broken, a name that cannot be linked is reported. -/
theorem complains_linkName (intact : catalogue.broken = []) (home : Namespace)
    (source name : String) (mapOnly : Bool) :
    Complains catalogue.names [catalogue.linkName home source name mapOnly]
      [{ home, source, name, mapOnly }] := by
  have whole : catalogue.isKnownBroken home name mapOnly = false := by
    simp [isKnownBroken, isBroken, intact]
  have offered : (∃ id, catalogue.resolveName? home name mapOnly = some id) ↔
      Offers catalogue.names home mapOnly name := exists_resolveName?_iff
  unfold Complains missing linkName
  cases found : catalogue.resolveName? home name mapOnly with
  | none =>
      have absent : ¬ Offers catalogue.names home mapOnly name := by simpa [found] using offered
      simp [whole, absent, reports, LoadError.isUnresolved, Mention.report]
  | some id =>
      have present : Offers catalogue.names home mapOnly name := by simpa [found] using offered
      simp [present, reports]

/-- There is a complaint about a reference if the name that it mentions is not on offer. -/
theorem complains_link (intact : catalogue.broken = []) (node : Node Reference) (role : Role)
    (reference : Reference) :
    Complains catalogue.names [catalogue.link node role reference]
      (reference.mention? node.home node.name (isMapOnly node.kind role)).toList := by
  cases reference with
  | «variable» name => rfl
  | named name => exact (complains_linkName intact _ _ _ _).map _

/-- An event that a variable names is refused, but not for its name. -/
theorem complains_linkEvent (intact : catalogue.broken = []) (template : TemplateDeclaration)
    (source : String) (reference : Reference) :
    Complains catalogue.names [catalogue.linkEvent template source reference]
      (reference.mention? template.home source false).toList := by
  cases reference with
  | «variable» name => rfl
  | named name => exact complains_linkName intact _ _ _ _

/-- The same for an event that may be left out. -/
theorem complains_linkEvent? (intact : catalogue.broken = []) (template : TemplateDeclaration)
    (source : String) (reference : Option Reference) :
    Complains catalogue.names [catalogue.linkEvent? template source reference]
      (reference.toList.filterMap (Reference.mention? template.home source false)) := by
  cases reference with
  | none => rfl
  | some reference =>
      have complains := (complains_linkEvent intact template source reference).map some
      cases reference <;> exact complains

/-- The event of a binding is linked exactly if nothing is wrong with it. -/
theorem exists_linkEvent?_iff {template : TemplateDeclaration} {source : String}
    {binding : BindingDeclaration} :
    (∃ event, catalogue.linkEvent? template source binding.event = .ok event) ↔
      binding.eventStands catalogue.names template.home = true := by
  simp only [BindingDeclaration.eventStands]
  cases binding.event with
  | none => simp [linkEvent?]
  | some reference =>
      rw [linkEvent?, exists_map_eq_ok_iff]
      cases reference with
      | «variable» name => simp [linkEvent]
      | named name => rw [linkEvent, exists_linkName_iff, decide_eq_true_eq]

/-- A binding complains about those of its names that are heeded. -/
theorem complains_linkBinding (intact : catalogue.broken = []) (template : TemplateDeclaration)
    (binding : BindingDeclaration) :
    Complains catalogue.names [catalogue.linkBinding template binding]
      (binding.heeded catalogue.names template.home) := by
  have first := complains_linkEvent? intact template binding.source binding.event
  have second := complains_linkEvent? intact template binding.source binding.stopEvent
  refine first.bind exists_linkEvent?_iff fun event => ?_
  rw [bind_pure_comp]
  exact second.map _

/-- A template complains about those of its names that are heeded. -/
theorem complains_linkTemplate (intact : catalogue.broken = []) (template : TemplateDeclaration) :
    ((catalogue.linkTemplate template).2).filter LoadError.isUnresolved =
      (missing catalogue.names
        (template.mentionsOf (BindingDeclaration.heeded catalogue.names))).map Mention.report := by
  have bindings : Complains catalogue.names
      (template.bindings.map (catalogue.linkBinding template))
      (template.bindings.flatMap (BindingDeclaration.heeded catalogue.names template.home)) :=
    .flatMap fun binding _ => complains_linkBinding intact template binding
  have responses : Complains catalogue.names
      (template.responses.map fun (occasion, reference) =>
        (catalogue.linkEvent template occasion.name reference).map fun id => (occasion, id))
      template.responseMentions := by
    rw [TemplateDeclaration.responseMentions, List.filterMap_eq_flatMap_toList]
    apply Complains.flatMap
    rintro ⟨occasion, reference⟩ -
    exact (complains_linkEvent intact template occasion.name reference).map _
  simp only [linkTemplate, TemplateDeclaration.mentionsOf, List.filter_append, missing_append,
    List.map_append]
  exact congrArg₂ (· ++ ·) bindings responses

/-- What is reported about names is about those of the mentions that are heeded. -/
theorem unresolved_linkErrors (intact : catalogue.broken = []) :
    catalogue.linkErrors.filter LoadError.isUnresolved =
      (missing catalogue.names
        (mentionsOf (BindingDeclaration.heeded catalogue.names) catalogue.nodes
          catalogue.templates)).map Mention.report := by
  have cycles : ((findCycles catalogue.edgeTable).map fun cycle =>
      LoadError.cycle (catalogue.namesOf cycle)).filter LoadError.isUnresolved = [] := by
    simp [List.filter_eq_nil_iff, LoadError.isUnresolved]
  have nodes : ∀ node, Complains catalogue.names (catalogue.childLinks node) node.mentions := by
    intro node
    rw [Node.mentions, List.filterMap_eq_flatMap_toList]
    apply Complains.flatMap
    rintro ⟨role, reference⟩ -
    exact complains_link intact node role reference
  simp only [linkErrors, List.filter_append, cycles, List.append_nil, mentionsOf, missing_append,
    missing_flatMap, List.map_append, List.filter_flatMap, List.map_flatMap]
  apply congrArg₂ (· ++ ·)
  · exact List.flatMap_congr fun node _ => nodes node
  · exact List.flatMap_congr fun template _ => complains_linkTemplate intact template

end Catalogue

/-! ### What stays hidden -/

/-- Where each part of one list is a sublist of the same part of another, the lists are
equal only part by part. -/
theorem flatMap_eq_flatMap_iff {α β : Type} {f g : α → List β} {xs : List α}
    (below : ∀ x ∈ xs, (f x).Sublist (g x)) :
    xs.flatMap f = xs.flatMap g ↔ ∀ x ∈ xs, f x = g x := by
  constructor
  · induction xs with
    | nil => exact fun _ _ member => nomatch member
    | cons x rest ih =>
        intro same
        obtain ⟨first, others⟩ := List.forall_mem_cons.mp below
        have more := (List.Sublist.flatMap_right rest others).length_le
        have lengths := congrArg List.length same
        simp only [List.flatMap_cons, List.length_append] at lengths
        have here : f x = g x := first.eq_of_length_le (by omega)
        rw [List.flatMap_cons, List.flatMap_cons, here] at same
        exact List.forall_mem_cons.mpr ⟨here, ih others (List.append_cancel_left same)⟩
  · exact List.flatMap_congr

variable {names : List (Namespace × String)}

namespace BindingDeclaration

variable {home : Namespace} {binding : BindingDeclaration}

theorem heeded_sublist : (binding.heeded names home).Sublist (binding.mentions home) := by
  unfold heeded mentions
  apply List.Sublist.append_left
  split
  · exact List.Sublist.refl _
  · exact List.nil_sublist _

/-- A binding hides nothing if nothing is wrong with its event, or its stop event is not
missing. -/
theorem missing_heeded_iff :
    missing names (binding.heeded names home) = missing names (binding.mentions home) ↔
      binding.eventStands names home = true ∨ missing names (binding.stopMentions home) = [] := by
  rw [heeded, mentions, missing_append, missing_append, List.append_cancel_left_eq]
  cases binding.eventStands names home with
  | true => simp
  | false => simp [missing]

end BindingDeclaration

namespace TemplateDeclaration

variable {template : TemplateDeclaration}

theorem heeded_sublist :
    (template.mentionsOf (BindingDeclaration.heeded names)).Sublist
      (template.mentionsOf BindingDeclaration.mentions) := by
  apply List.Sublist.append_right
  exact List.Sublist.flatMap_right _ fun _ _ => BindingDeclaration.heeded_sublist

/-- A template hides nothing if none of its bindings does. -/
theorem missing_heeded_iff :
    missing names (template.mentionsOf (BindingDeclaration.heeded names)) =
        missing names (template.mentionsOf BindingDeclaration.mentions) ↔
      ∀ binding ∈ template.bindings, binding.eventStands names template.home = true ∨
        missing names (binding.stopMentions template.home) = [] := by
  simp only [mentionsOf, missing_append, missing_flatMap, List.append_cancel_right_eq]
  rw [flatMap_eq_flatMap_iff fun _ _ => missing_sublist names BindingDeclaration.heeded_sublist]
  simp only [BindingDeclaration.missing_heeded_iff]

end TemplateDeclaration

namespace Document

variable {document : Document}

theorem heeded_sublist : document.heeded.Sublist document.mentions := by
  apply List.Sublist.append_left
  exact List.Sublist.flatMap_right _ fun _ _ => TemplateDeclaration.heeded_sublist

/-- All missing names of a document are heeded exactly if none is hidden. -/
theorem missing_heeded_iff :
    missing document.names document.heeded = missing document.names document.mentions ↔
      document.HidesNothing := by
  simp only [heeded, mentions, mentionsOf, missing_append, missing_flatMap,
    List.append_cancel_left_eq]
  rw [flatMap_eq_flatMap_iff fun _ _ =>
    missing_sublist document.names TemplateDeclaration.heeded_sublist]
  simp only [TemplateDeclaration.missing_heeded_iff, HidesNothing]

/-- The reports about the heeded names are those about all names, in whatever order,
exactly if none is hidden. -/
theorem reports_perm_iff :
    ((missing document.names document.heeded).map Mention.report).Perm
        ((missing document.names document.mentions).map Mention.report) ↔
      document.HidesNothing := by
  rw [← missing_heeded_iff]
  constructor
  · intro reordered
    apply (missing_sublist document.names heeded_sublist).eq_of_length
    simpa using reordered.length_eq
  · intro same
    rw [same]

namespace Declares

variable {catalogue : Catalogue} (declares : document.Declares catalogue)

include declares

theorem definedNodes_eq : document.definedNodes = catalogue.nodes :=
  filterMap_eq_of_forall₂ (declares.nodes.imp fun _ _ defines =>
    toOption_eq_some_iff.mpr defines.defined)

theorem names_eq : document.names = catalogue.names :=
  (map_eq_map_of_forall₂ (declares.nodes.imp fun _ _ defines => defines.key)).symm

/-- What is heeded in a document can be told from its catalogue. -/
theorem heeded_eq :
    document.heeded =
      mentionsOf (BindingDeclaration.heeded catalogue.names) catalogue.nodes
        catalogue.templates := by
  rw [heeded, declares.names_eq, declares.definedNodes_eq, declaredTemplates, declares.templates]

end Declares

end Document

/-- **Missing names are reported.**  Where nothing is wrong with its declarations, the
reports about the names of a document are one for each missing name that is heeded, in the
order of the mentions, and whenever there is one a single load makes all of them.  They are
one for each missing name at all exactly if no stop event that is missing stands behind an
event with which something is wrong. -/
theorem missing_names_are_reported {document : Document} {catalogue : Catalogue}
    (declared : Catalogue.ofDocument document = (catalogue, [])) :
    let reported := catalogue.linkErrors.filter LoadError.isUnresolved
    reported = (missing document.names document.heeded).map Mention.report ∧
      (reported.Perm ((missing document.names document.mentions).map Mention.report) ↔
        document.HidesNothing) ∧
      ∀ mention ∈ missing document.names document.heeded, ∃ errors,
        BehaviorGraph.load document = .error errors ∧
          errors.filter LoadError.isUnresolved = reported := by
  intro reported
  have declares := Catalogue.ofDocument_eq_iff.mp declared
  have heeded : reported = (missing document.names document.heeded).map Mention.report := by
    rw [declares.heeded_eq, declares.names_eq]
    exact Catalogue.unresolved_linkErrors declares.intact
  refine ⟨heeded, ?_, ?_⟩
  · rw [heeded]
    exact Document.reports_perm_iff
  · intro mention member
    have here : mention.report ∈ reported := heeded ▸ List.mem_map_of_mem member
    have flawed : catalogue.linkErrors ≠ [] := List.ne_nil_of_mem (List.mem_filter.mp here).1
    refine ⟨catalogue.linkErrors, ?_, rfl⟩
    simp [BehaviorGraph.load, declared, flawed]

/-- An airfield with a route to two places that do not exist, and a plane that misses three
more: the wrapper looks for its event on the map alone, and the key stops with nothing. -/
def airfield : Document :=
  { mapEvents :=
      [ { name := "Route", kind := "multi"
          properties :=
            [textProperty "1" "North", textProperty "2" "*wind", textProperty "3" "South"] },
        { name := "Takeoff", kind := "move" } ]
    actors :=
      [ { name := "Plane"
          events :=
            [ { name := "Radio", kind := "move" },
              { name := "Call", kind := "engine-wrapper"
                properties := [textProperty "EVENT" "Radio"] } ]
          bindings :=
            [ { key := "A"
                properties :=
                  [ textProperty "EVENT" "Takeoff", textProperty "STOP_EVENT" "Landing",
                    { name := "SUSTAINED", value := .bool true } ] } ]
          responses := [("ON_SPAWN", "Fuel"), ("ON_ALWAYS", "Radio")] } ] }

/-- All five are reported at once. -/
theorem missing_names_are_reported_airfield :
    ∃ errors, BehaviorGraph.load airfield = .error errors ∧
      (errors.filter LoadError.isUnresolved).filterMap LoadError.offender? =
        ["North", "South", "Radio", "Landing", "Fuel"] ∧
      (errors.filter LoadError.isUnresolved).Perm
        ((missing airfield.names airfield.mentions).map Mention.report) := by
  have declared : Catalogue.ofDocument airfield = ((Catalogue.ofDocument airfield).1, []) := rfl
  have hidesNothing : airfield.HidesNothing := by decide
  obtain ⟨heeded, all, load⟩ := missing_names_are_reported declared
  have radio : (⟨.actor "Plane", "Call", "Radio", true⟩ : Mention) ∈
    missing airfield.names airfield.heeded := by decide
  obtain ⟨errors, refused, same⟩ := load _ radio
  refine ⟨errors, refused, ?_, ?_⟩
  · rw [same, heeded]
    decide
  · rw [same]
    exact all.mpr hidesNothing

/-- A hero with a key for two events that do not exist. -/
def pilot : Document :=
  { actors :=
      [ { name := "Hero"
          bindings :=
            [ { key := "Space"
                properties :=
                  [ textProperty "EVENT" "Fly", textProperty "STOP_EVENT" "Land",
                    { name := "SUSTAINED", value := .bool true } ] } ] } ] }

/-- Only the first of the two is reported. -/
theorem landing_is_not_reported :
    ∃ catalogue, Catalogue.ofDocument pilot = (catalogue, []) ∧
      (missing pilot.names pilot.mentions).map Mention.name = ["Fly", "Land"] ∧
      catalogue.linkErrors.filterMap LoadError.offender? = ["Fly"] ∧
      ¬ (catalogue.linkErrors.filter LoadError.isUnresolved).Perm
        ((missing pilot.names pilot.mentions).map Mention.report) := by
  refine ⟨(Catalogue.ofDocument pilot).1, rfl, by decide, by decide, ?_⟩
  intro reordered
  exact absurd reordered.length_eq (by decide)

end Stagecraft
