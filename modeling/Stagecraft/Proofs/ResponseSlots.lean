/-
Module: Stagecraft.Proofs.ResponseSlots
Purpose: A template has one place for each occasion.  Which responses a document may have, and
  which of them take the places.
Main exports:
  Occasion.IsNamedBy, BehaviorGraph.Asks, BehaviorGraph.Accepts, declaredResponse?,
  lastResponse?_filterMap_eq_some_iff, Catalogue.Clean.responses_silent_iff, Document.answering,
  Document.Declares.answering_iff, BehaviorGraph.load_answering_iff,
  BehaviorGraph.KeepsResponses, BehaviorGraph.last_response_counts
-/
import Mathlib.Data.List.Induction
import Stagecraft.Proofs.FaithfulLinks

namespace Stagecraft

/-! ### What a response asks for -/

namespace Occasion

theorem ofName?_eq_some_iff {name : String} {occasion : Occasion} :
    ofName? name = some occasion ↔ occasion.name = name := by
  constructor
  · intro found
    simpa using List.find?_some found
  · rintro rfl
    cases occasion <;> decide

/-- The key of a response is the name of an occasion, in whatever letters and between whatever
blanks. -/
def IsNamedBy (occasion : Occasion) (key : String) : Prop :=
  occasion.name = Text.upper (Text.trim key)

instance (occasion : Occasion) (key : String) : Decidable (occasion.IsNamedBy key) :=
  inferInstanceAs (Decidable (_ = _))

/-- A key names one occasion at most. -/
theorem IsNamedBy.unique {key : String} {first second : Occasion} (one : first.IsNamedBy key)
    (two : second.IsNamedBy key) : first = second := by
  apply Option.some.inj
  rw [← ofName?_eq_some_iff.mpr one, ofName?_eq_some_iff.mpr two]

end Occasion

namespace BehaviorGraph

variable (graph : BehaviorGraph) (home : Namespace)

/-- A response that wants a node to be run on an occasion: its key names the occasion, and its
target, which is not blank, names the node. -/
structure Asks (response : String × String) (occasion : Occasion) (id : NodeId) : Prop where
  key : occasion.IsNamedBy response.1
  wanted : Text.isAllBlank response.2 = false
  target : graph.Names home (some (.parse response.2)) (some id)

/-- A response that is in order by itself. -/
structure Accepts (response : String × String) : Prop where
  key : ∃ occasion : Occasion, occasion.IsNamedBy response.1
  target : Text.isAllBlank response.2 = false →
    ∃ id, graph.Names home (some (.parse response.2)) (some id)

variable {graph} {home}

/-- A reference names one node at most. -/
theorem Indexed.names_unique (indexed : graph.Indexed) {reference : Reference}
    {first second : NodeId} (one : graph.Names home (some reference) (some first))
    (two : graph.Names home (some reference) (some second)) : first = second := by
  cases one with
  | named means =>
      cases two with
      | named other =>
          have found := indexed.resolve?_eq_some_iff.mpr means
          rw [indexed.resolve?_eq_some_iff.mpr other] at found
          exact (Option.some.inj found).symm

end BehaviorGraph

/-- A response under a key that names an occasion is declared for it, unless it is blank. -/
theorem declareResponse_eq_ok {response : String × String} {occasion : Occasion}
    (key : occasion.IsNamedBy response.1) (template : String) :
    declareResponse template response =
      .ok (if Text.isAllBlank response.2 then none else some (occasion, .parse response.2)) := by
  simp only [declareResponse, Occasion.ofName?_eq_some_iff.mpr key]
  split <;> rfl

/-- Only the key decides whether a response is declared. -/
theorem declareResponse_isOk_iff (template : String) (response : String × String) :
    (∃ declared, declareResponse template response = .ok declared) ↔
      ∃ occasion : Occasion, occasion.IsNamedBy response.1 := by
  constructor
  · rintro ⟨declared, made⟩
    unfold declareResponse at made
    cases found : Occasion.ofName? (Text.upper (Text.trim response.1)) with
    | none => simp [found] at made
    | some occasion => exact ⟨occasion, Occasion.ofName?_eq_some_iff.mp found⟩
  · rintro ⟨occasion, key⟩
    exact ⟨_, declareResponse_eq_ok key template⟩

/-- What a response declares, if it declares anything. -/
def declaredResponse? (template : String) (response : String × String) :
    Option (Occasion × Reference) :=
  (declareResponse template response).toOption.join

theorem declaredResponse?_eq_some_iff {template : String} {response : String × String}
    {declared : Occasion × Reference} :
    declaredResponse? template response = some declared ↔
      declared.1.IsNamedBy response.1 ∧ Text.isAllBlank response.2 = false ∧
        declared.2 = .parse response.2 := by
  rw [declaredResponse?, Option.join_eq_some_iff, toOption_eq_some_iff]
  constructor
  · intro made
    obtain ⟨occasion, key⟩ := (declareResponse_isOk_iff template response).mp ⟨_, made⟩
    rw [declareResponse_eq_ok key] at made
    cases blank : Text.isAllBlank response.2 with
    | true => simp [blank] at made
    | false =>
        simp only [blank, Bool.false_eq_true, if_false] at made
        cases made
        exact ⟨key, rfl, rfl⟩
  · obtain ⟨occasion, reference⟩ := declared
    rintro ⟨key, wanted, rfl⟩
    rw [declareResponse_eq_ok key, wanted]
    rfl

/-! ### The last response -/

/-- A response at the end replaces one before it to the same occasion. -/
theorem lastResponse?_concat (occasion : Occasion) (responses : List (Occasion × Reference))
    (last : Occasion × Reference) :
    lastResponse? occasion (responses ++ [last]) =
      if occasion = last.1 then some last.2 else lastResponse? occasion responses := by
  simp [lastResponse?]

/-- What a declaration has to say about an occasion. -/
def answerTo? (occasion : Occasion) (declared : Option (Occasion × Reference)) : Option Reference :=
  declared.bind fun response => if occasion = response.1 then some response.2 else none

theorem answerTo?_eq_some_iff {occasion : Occasion} {declared : Option (Occasion × Reference)}
    {reference : Reference} :
    answerTo? occasion declared = some reference ↔ declared = some (occasion, reference) := by
  rw [answerTo?, Option.bind_eq_some_iff]
  constructor
  · rintro ⟨response, rfl, answered⟩
    split at answered
    · next same =>
        cases answered
        rw [same]
    · cases answered
  · rintro rfl
    exact ⟨_, rfl, if_pos rfl⟩

/-- The last response is the first one that is met from the end.  The induction takes the responses
off the end, where a new one overrules all others. -/
theorem lastResponse?_filterMap {α : Type} (occasion : Occasion)
    (declare : α → Option (Occasion × Reference)) (xs : List α) :
    lastResponse? occasion (xs.filterMap declare) =
      xs.reverse.findSome? fun x => answerTo? occasion (declare x) := by
  induction xs using List.reverseRecOn with
  | nil => rfl
  | append_singleton xs x ih =>
      rw [List.filterMap_append, List.reverse_concat, List.findSome?_cons]
      cases made : declare x with
      | none => simp [made, ih, answerTo?]
      | some response =>
          rw [List.filterMap_cons_some made, List.filterMap_nil, lastResponse?_concat, ih]
          by_cases same : occasion = response.1 <;> simp [answerTo?, same]

/-- What counts is a response to the occasion with none behind it. -/
theorem lastResponse?_filterMap_eq_some_iff {α : Type} {occasion : Occasion}
    {declare : α → Option (Occasion × Reference)} {xs : List α} {reference : Reference} :
    lastResponse? occasion (xs.filterMap declare) = some reference ↔
      ∃ before x after, xs = before ++ x :: after ∧ declare x = some (occasion, reference) ∧
        ∀ later ∈ after, ∀ other, declare later ≠ some (occasion, other) := by
  have unanswered {x : α} : answerTo? occasion (declare x) = none ↔
      ∀ other, declare x ≠ some (occasion, other) := by
    simp only [Option.eq_none_iff_forall_ne_some, ne_eq, answerTo?_eq_some_iff]
  simp only [lastResponse?_filterMap, List.findSome?_eq_some_iff, answerTo?_eq_some_iff, unanswered]
  constructor
  · rintro ⟨after, x, before, parts, answers, silent⟩
    refine ⟨before.reverse, x, after.reverse, ?_, answers, ?_⟩
    · simpa using congrArg List.reverse parts
    · exact fun later member => silent later (List.mem_reverse.mp member)
  · rintro ⟨before, x, after, rfl, answers, silent⟩
    refine ⟨after.reverse, x, before.reverse, by simp, answers, ?_⟩
    exact fun later member => silent later (List.mem_reverse.mp member)

/-! ### Linking responses -/

namespace Catalogue

variable {catalogue : Catalogue}

/-- An event links exactly if the linked graph has a node for it. -/
theorem exists_linkEvent_iff (indexed : catalogue.linked.Indexed) (template : TemplateDeclaration)
    (source : String) (reference : Reference) :
    (∃ id, catalogue.linkEvent template source reference = .ok id) ↔
      ∃ id, catalogue.linked.Names template.home (some reference) (some id) := by
  constructor
  · rintro ⟨id, linked⟩
    exact ⟨id, names_of_linkEvent indexed linked⟩
  · rintro ⟨id, names⟩
    cases names with
    | named means =>
        refine ⟨id, ?_⟩
        have found := indexed.resolve?_eq_some_iff.mpr means
        rw [resolve?_linked] at found
        simp only [linkEvent, linkName, found]

/-- Nothing is reported about responses exactly if each of them names a node. -/
theorem Clean.responses_silent_iff (clean : catalogue.Clean) {template : TemplateDeclaration}
    {responses : List (Occasion × Reference)} :
    reports (responses.map fun (occasion, reference) =>
        (catalogue.linkEvent template occasion.name reference).map fun id => (occasion, id)) = [] ↔
      ∀ response ∈ responses,
        ∃ id, catalogue.linked.Names template.home (some response.2) (some id) := by
  constructor
  · rintro silent ⟨occasion, reference⟩ member
    obtain ⟨_, linked⟩ := Reported.exists_ok silent (List.mem_map_of_mem member)
      ((linkEvent_reported clean.intact template occasion.name reference).map _)
    obtain ⟨id, made, -⟩ := exists_of_map_eq_ok linked
    exact (exists_linkEvent_iff clean.indexed template occasion.name reference).mp ⟨id, made⟩
  · intro named
    refine List.filterMap_eq_nil_iff.mpr (List.forall_mem_map.mpr ?_)
    rintro ⟨occasion, reference⟩ member
    obtain ⟨id, made⟩ :=
      (exists_linkEvent_iff clean.indexed template occasion.name reference).mpr (named _ member)
    simp only [made, Except.map]

end Catalogue

/-! ### Documents with other responses -/

def TemplateEntry.answering (entry : TemplateEntry) (responses : List (String × String)) :
    TemplateEntry :=
  { entry with responses }

/-- A document in which the templates have other responses. -/
def Document.answering (document : Document)
    (responses : TemplateEntry → List (String × String)) : Document :=
  { document with actors := document.actors.map fun entry => entry.answering (responses entry) }

namespace TemplateEntry

theorem declare_responses (entry : TemplateEntry) :
    entry.declare.1.responses = entry.responses.filterMap (declaredResponse? entry.name) := by
  have same : declaredResponse? entry.name =
      fun response => (declareResponse entry.name response).toOption.join := rfl
  simp only [declare, List.filterMap_map, Function.comp_def, same]

/-- The responses of a template are those of its entry that are not blank. -/
theorem mem_declare_responses_iff {entry : TemplateEntry} {declared : Occasion × Reference} :
    declared ∈ entry.declare.1.responses ↔ ∃ response ∈ entry.responses,
      declared.1.IsNamedBy response.1 ∧ Text.isAllBlank response.2 = false ∧
        declared.2 = .parse response.2 := by
  simp only [declare_responses, List.mem_filterMap, declaredResponse?_eq_some_iff]

/-- Nothing is wrong with an entry exactly if its bindings are declared and the keys of its
responses name occasions. -/
theorem declare_eq_nil_iff {entry : TemplateEntry} :
    entry.declare.2 = [] ↔
      (∀ binding ∈ entry.bindings, ∃ declaration, binding.declare = .ok declaration) ∧
        ∀ response ∈ entry.responses,
          ∃ occasion : Occasion, occasion.IsNamedBy response.1 := by
  simp only [declare, List.append_eq_nil_iff, List.flatMap_eq_nil_iff, List.filterMap_eq_nil_iff,
    List.forall_mem_map]
  refine and_congr (forall₂_congr fun binding _ => ?_) (forall₂_congr fun response _ => ?_)
  · cases declared : binding.declare with
    | ok declaration => simp
    | error objections => simpa using binding.ne_nil_of_declare declared
  · rw [← declareResponse_isOk_iff entry.name response]
    cases declareResponse entry.name response <;> simp

end TemplateEntry

/-- A catalogue with the templates of a document in place of its own. -/
def Catalogue.withTemplatesOf (catalogue : Catalogue) (document : Document) : Catalogue :=
  { catalogue with templates := document.actors.map fun entry => entry.declare.1 }

theorem Catalogue.spawnErrors_withTemplatesOf {catalogue : Catalogue} {document : Document}
    (names : document.actors.map TemplateEntry.name =
      catalogue.templates.map TemplateDeclaration.name) :
    (catalogue.withTemplatesOf document).spawnErrors = catalogue.spawnErrors := by
  have known : ∀ name, (document.actors.map fun entry => entry.declare.1).any
      (fun declared => declared.name == name) =
        catalogue.templates.any fun declared => declared.name == name := by
    intro name
    have same := congrArg (fun names => names.any (· == name)) names
    simp only [List.any_map] at same ⊢
    exact same
  simp only [spawnErrors, withTemplatesOf, known]

/-- Other responses do not change which nodes a document declares. -/
theorem Document.nodeEntries_answering (document : Document)
    (responses : TemplateEntry → List (String × String)) :
    (document.answering responses).nodeEntries = document.nodeEntries := by
  simp only [Document.nodeEntries, Document.answering, List.flatMap_map]
  rfl

theorem Document.mem_actors_answering_iff {document : Document}
    {responses : TemplateEntry → List (String × String)} {property : TemplateEntry → Prop} :
    (∀ entry ∈ (document.answering responses).actors, property entry) ↔
      ∀ entry ∈ document.actors, property (entry.answering (responses entry)) :=
  List.forall_mem_map

/-- Responses have no part in what a document declares but for their keys, and for the templates
that hold them. -/
theorem Document.Declares.answering_iff {document : Document} {catalogue other : Catalogue}
    (declares : document.Declares catalogue)
    {responses : TemplateEntry → List (String × String)} :
    (document.answering responses).Declares other ↔
      (∀ entry ∈ document.actors, ∀ response ∈ responses entry,
        ∃ occasion : Occasion, occasion.IsNamedBy response.1) ∧
      other = catalogue.withTemplatesOf (document.answering responses) := by
  have sound : (∀ entry ∈ (document.answering responses).actors, entry.declare.2 = []) ↔
      ∀ entry ∈ document.actors, ∀ response ∈ responses entry,
        ∃ occasion : Occasion, occasion.IsNamedBy response.1 := by
    rw [Document.mem_actors_answering_iff]
    refine forall₂_congr fun entry member => ?_
    obtain ⟨bindings, -⟩ := TemplateEntry.declare_eq_nil_iff.mp (declares.sound entry member)
    rw [TemplateEntry.declare_eq_nil_iff]
    exact and_iff_right bindings
  have names : (document.answering responses).actors.map TemplateEntry.name =
      document.actors.map TemplateEntry.name := List.map_map
  -- The entries of nodes stay as they are, and each defines one node only.
  have unique : Relator.RightUnique Defines := by
    rintro declared node twin one two
    exact Except.ok.inj (one.defined.symm.trans two.defined)
  constructor
  · intro answered
    refine ⟨sound.mp answered.sound, ?_⟩
    have nodes := answered.nodes
    rw [Document.nodeEntries_answering] at nodes
    rcases other with ⟨others, broken, templates⟩
    simp only [Catalogue.withTemplatesOf, Catalogue.mk.injEq]
    exact ⟨unique.forall₂ nodes declares.nodes,
      answered.intact.trans declares.intact.symm, answered.templates⟩
  · rintro ⟨keys, rfl⟩
    exact
      { nodes := by
          rw [Document.nodeEntries_answering]
          exact declares.nodes
        distinct := declares.distinct
        intact := declares.intact
        templates := rfl
        sound := sound.mpr keys
        templatesDistinct := by
          rw [names]
          exact declares.templatesDistinct
        spawns := by
          rw [Catalogue.spawnErrors_withTemplatesOf]
          · exact declares.spawns
          · rw [names, declares.templates, List.map_map]
            rfl }

/-- Other responses are linked without a report exactly if each of them names a node. -/
theorem Catalogue.linkErrors_answering_iff {document : Document} {catalogue : Catalogue}
    (declares : document.Declares catalogue) (errorless : catalogue.linkErrors = [])
    (responses : TemplateEntry → List (String × String)) :
    (catalogue.withTemplatesOf (document.answering responses)).linkErrors = [] ↔
      ∀ entry ∈ document.actors,
        ∀ response ∈ (entry.answering (responses entry)).declare.1.responses, ∃ id,
          catalogue.linked.Names (.actor entry.name) (some response.2) (some id) := by
  -- Children, bindings and cycles are linked by the nodes alone, so the other templates leave
  -- their reports as they are.
  obtain ⟨children, templates, cycles⟩ := linkErrors_eq_nil_iff.mp errorless
  rw [linkErrors_eq_nil_iff, and_iff_right (by exact children), and_iff_left (by exact cycles),
    withTemplatesOf, List.forall_mem_map, Document.mem_actors_answering_iff]
  refine forall₂_congr fun entry member => ?_
  obtain ⟨bindings, -⟩ := List.append_eq_nil_iff.mp (templates _ (declares.mem_templates member))
  refine List.append_eq_nil_iff.trans ((and_iff_right (by exact bindings)).trans ?_)
  exact (declares.clean errorless).responses_silent_iff

namespace BehaviorGraph

variable {graph : BehaviorGraph}

/-- A document with other responses loads exactly if each of them is in order by itself. -/
theorem load_answering_iff {document : Document} (loaded : load document = .ok graph)
    (responses : TemplateEntry → List (String × String)) :
    (∃ other, load (document.answering responses) = .ok other) ↔
      ∀ entry ∈ document.actors, ∀ response ∈ responses entry,
        graph.Accepts (.actor entry.name) response := by
  obtain ⟨catalogue, declares, errorless, rfl⟩ := load_eq_ok_iff.mp loaded
  have links := Catalogue.linkErrors_answering_iff declares errorless responses
  simp only [load_eq_ok_iff, declares.answering_iff]
  constructor
  · rintro ⟨_, _, ⟨keys, rfl⟩, silent, -⟩ entry member response asked
    refine ⟨keys entry member response asked, fun wanted => ?_⟩
    obtain ⟨occasion, key⟩ := keys entry member response asked
    exact links.mp silent entry member (occasion, .parse response.2)
      (TemplateEntry.mem_declare_responses_iff.mpr ⟨response, asked, key, wanted, rfl⟩)
  · intro accepted
    refine ⟨_, _, ⟨fun entry member response asked => (accepted entry member response asked).key,
      rfl⟩, links.mpr ?_, rfl⟩
    rintro entry member ⟨occasion, reference⟩ declared
    obtain ⟨response, asked, -, wanted, rfl⟩ :=
      TemplateEntry.mem_declare_responses_iff.mp declared
    exact (accepted entry member response asked).target wanted

/-! ### Which response counts -/

/-- A declared response asks for the node that its reference names. -/
theorem asks_iff_declared {home : Namespace} {response : String × String} {occasion : Occasion}
    {id : NodeId} (template : String) :
    graph.Asks home response occasion id ↔ ∃ reference,
      declaredResponse? template response = some (occasion, reference) ∧
        graph.Names home (some reference) (some id) := by
  simp only [declaredResponse?_eq_some_iff]
  constructor
  · rintro ⟨key, wanted, target⟩
    exact ⟨_, ⟨key, wanted, rfl⟩, target⟩
  · rintro ⟨_, ⟨key, wanted, rfl⟩, target⟩
    exact ⟨key, wanted, target⟩

/-- An accepted response is silent about an occasion exactly if it asks for no node then. -/
theorem Accepts.declared_iff {home : Namespace} {response : String × String}
    (accepted : graph.Accepts home response) (template : String) (occasion : Occasion) :
    (∀ reference, declaredResponse? template response ≠ some (occasion, reference)) ↔
      ∀ id, ¬ graph.Asks home response occasion id := by
  simp only [asks_iff_declared template, not_exists, not_and]
  constructor
  · exact fun silent id reference declared => absurd declared (silent reference)
  · intro unasked reference declared
    obtain ⟨-, wanted, rfl⟩ := declaredResponse?_eq_some_iff.mp declared
    obtain ⟨id, target⟩ := accepted.target wanted
    exact unasked id _ declared target

namespace RealizesTemplate

variable {entry : TemplateEntry} {template : Template}

/-- A template runs on an occasion what the last response that asks for a node then asks for. -/
theorem event?_eq_some_iff (realizes : graph.RealizesTemplate entry template)
    (indexed : graph.Indexed)
    (accepted : ∀ response ∈ entry.responses, graph.Accepts (.actor entry.name) response)
    {occasion : Occasion} {id : NodeId} :
    template.responses.event? occasion = some id ↔
      ∃ before response after, entry.responses = before ++ response :: after ∧
        graph.Asks (.actor entry.name) response occasion id ∧
        ∀ later ∈ after, ∀ other, ¬ graph.Asks (.actor entry.name) later occasion other := by
  have names := realizes.responses occasion
  rw [TemplateEntry.declare_responses] at names
  constructor
  · intro runs
    rw [runs] at names
    -- The last declaration counts: those behind it have nothing to say about the occasion.
    generalize counts : lastResponse? occasion _ = last at names
    cases names with
    | named means =>
        obtain ⟨before, response, after, listed, declared, silent⟩ :=
          lastResponse?_filterMap_eq_some_iff.mp counts
        refine ⟨before, response, after, listed,
          (asks_iff_declared entry.name).mpr ⟨_, declared, .named means⟩, ?_⟩
        intro later member
        have inside : later ∈ entry.responses := by simp [listed, member]
        exact ((accepted later inside).declared_iff entry.name occasion).mp (silent later member)
  · rintro ⟨before, response, after, listed, asks, unasked⟩
    obtain ⟨reference, declared, target⟩ := (asks_iff_declared entry.name).mp asks
    have silent : ∀ later ∈ after, ∀ other,
        declaredResponse? entry.name later ≠ some (occasion, other) := by
      intro later member
      have inside : later ∈ entry.responses := by simp [listed, member]
      exact ((accepted later inside).declared_iff entry.name occasion).mpr (unasked later member)
    have counts := lastResponse?_filterMap_eq_some_iff.mpr
      ⟨before, response, after, listed, declared, silent⟩
    rw [counts] at names
    cases runs : template.responses.event? occasion with
    | none =>
        rw [runs] at names
        cases names
    | some other =>
        rw [runs] at names
        exact congrArg some (indexed.names_unique names target)

/-- A template answers every occasion for which one of its responses asks. -/
theorem exists_event?_of_asks (realizes : graph.RealizesTemplate entry template)
    {response : String × String} (member : response ∈ entry.responses) {occasion : Occasion}
    {id : NodeId} (asks : graph.Asks (.actor entry.name) response occasion id) :
    ∃ runs, template.responses.event? occasion = some runs := by
  have names := realizes.responses occasion
  rw [TemplateEntry.declare_responses, lastResponse?_filterMap] at names
  cases runs : template.responses.event? occasion with
  | some other => exact ⟨other, rfl⟩
  | none =>
      rw [runs] at names
      generalize counts : List.findSome? _ _ = last at names
      cases names
      have silent := List.findSome?_eq_none_iff.mp counts response (List.mem_reverse.mpr member)
      obtain ⟨reference, declared, -⟩ := (asks_iff_declared entry.name).mp asks
      rw [answerTo?_eq_some_iff.mpr declared] at silent
      cases silent

end RealizesTemplate

/-- Every response with a target is what the template runs on the occasion that it names. -/
def KeepsResponses (graph : BehaviorGraph) (entry : TemplateEntry) (template : Template) : Prop :=
  ∀ response ∈ entry.responses, Text.isAllBlank response.2 = false →
    ∃ occasion id, graph.Asks (.actor entry.name) response occasion id ∧
      template.responses.event? occasion = some id

/-- No response is lost exactly if those that ask on one occasion ask for one node. -/
theorem RealizesTemplate.keepsResponses_iff {entry : TemplateEntry} {template : Template}
    (realizes : graph.RealizesTemplate entry template) (indexed : graph.Indexed)
    (accepted : ∀ response ∈ entry.responses, graph.Accepts (.actor entry.name) response) :
    graph.KeepsResponses entry template ↔
      ∀ first ∈ entry.responses, ∀ second ∈ entry.responses, ∀ occasion one other,
        graph.Asks (.actor entry.name) first occasion one →
          graph.Asks (.actor entry.name) second occasion other → one = other := by
  constructor
  · intro keeps
    have runs : ∀ response ∈ entry.responses, ∀ occasion id,
        graph.Asks (.actor entry.name) response occasion id →
          template.responses.event? occasion = some id := by
      intro response member occasion id asks
      obtain ⟨named, kept, asked, runs⟩ := keeps response member asks.wanted
      rw [← asked.key.unique asks.key, runs, indexed.names_unique asked.target asks.target]
    intro first member second other occasion one two asksFirst asksSecond
    apply Option.some.inj
    rw [← runs first member occasion one asksFirst, runs second other occasion two asksSecond]
  · intro agree response member wanted
    obtain ⟨occasion, key⟩ := (accepted response member).key
    obtain ⟨id, target⟩ := (accepted response member).target wanted
    have asks : graph.Asks (.actor entry.name) response occasion id := ⟨key, wanted, target⟩
    obtain ⟨runs, stands⟩ := realizes.exists_event?_of_asks member asks
    obtain ⟨before, last, after, listed, lastAsks, -⟩ :=
      (realizes.event?_eq_some_iff indexed accepted).mp stands
    have inside : last ∈ entry.responses := by simp [listed]
    refine ⟨occasion, id, asks, ?_⟩
    rw [stands, agree last inside response member occasion runs id lastAsks asks]

/-- All responses of a document that loads are acceptable. -/
theorem accepts_of_load {document : Document} (loaded : load document = .ok graph)
    {entry : TemplateEntry} (member : entry ∈ document.actors) :
    ∀ response ∈ entry.responses, graph.Accepts (.actor entry.name) response := by
  have same : document.answering TemplateEntry.responses = document := by
    simp only [Document.answering, TemplateEntry.answering, List.map_id']
  refine (load_answering_iff loaded TemplateEntry.responses).mp ⟨graph, ?_⟩ entry member
  rw [same]
  exact loaded

/-- **The last response counts.**  Whether a document loads depends on its responses one by one:
each needs a key that is the name of an occasion, and a target that is blank or names a node, and
no response is refused for another one.  What a template runs on an occasion is the node that its
last response to that occasion asks for.  So the responses of a template are all kept exactly if no
two of them ask for different nodes on one occasion. -/
theorem last_response_counts {document : Document} (loaded : load document = .ok graph) :
    (∀ responses : TemplateEntry → List (String × String),
      (∃ other, load (document.answering responses) = .ok other) ↔
        ∀ entry ∈ document.actors, ∀ response ∈ responses entry,
          graph.Accepts (.actor entry.name) response) ∧
    ∀ entry ∈ document.actors, ∃ template, graph.template entry.name = .ok template ∧
      (∀ occasion id, template.responses.event? occasion = some id ↔
        ∃ before response after, entry.responses = before ++ response :: after ∧
          graph.Asks (.actor entry.name) response occasion id ∧
          ∀ later ∈ after, ∀ other, ¬ graph.Asks (.actor entry.name) later occasion other) ∧
      (graph.KeepsResponses entry template ↔
        ∀ first ∈ entry.responses, ∀ second ∈ entry.responses, ∀ occasion one other,
          graph.Asks (.actor entry.name) first occasion one →
            graph.Asks (.actor entry.name) second occasion other → one = other) := by
  refine ⟨load_answering_iff loaded, fun entry member => ?_⟩
  have accepted := accepts_of_load loaded member
  have indexed := (load_linked loaded).indexed
  obtain ⟨catalogue, declares, errorless, rfl⟩ := load_eq_ok_iff.mp loaded
  have realizes := declares.realizesTemplate errorless member
  exact ⟨_, declares.template_linked member,
    fun occasion id => realizes.event?_eq_some_iff indexed accepted,
    realizes.keepsResponses_iff indexed accepted⟩

end BehaviorGraph

/-- A hero who is told twice what to do on entering: to bow, and to wave. -/
def toldHero : TemplateEntry :=
  { name := "Hero"
    events := [ { name := "Bow", kind := "move" }, { name := "Wave", kind := "move" } ]
    responses := [("ON_SPAWN", "Bow"), ("on_spawn", "Wave")] }

def twiceTold : Document := { actors := [toldHero] }

namespace BehaviorGraph

/-- The bow is number 0 and the wave number 1. -/
def twiceToldGraph : BehaviorGraph := (load twiceTold).toOption.getD {}

theorem load_twiceTold : load twiceTold = .ok twiceToldGraph := by rfl

def toldTemplate : Template := (twiceToldGraph.template toldHero.name).toOption.getD default

theorem template_toldHero : twiceToldGraph.template toldHero.name = .ok toldTemplate := by rfl

theorem responses_toldTemplate : toldTemplate.responses = { onSpawn := some 1 } := by rfl

theorem resolve?_twiceTold :
    twiceToldGraph.resolve? (.actor toldHero.name) "Bow" false = some 0 ∧
      twiceToldGraph.resolve? (.actor toldHero.name) "Wave" false = some 1 :=
  ⟨by rfl, by rfl⟩

theorem names_twiceTold :
    twiceToldGraph.Names (.actor toldHero.name) (some (.parse "Bow")) (some 0) ∧
      twiceToldGraph.Names (.actor toldHero.name) (some (.parse "Wave")) (some 1) := by
  have indexed := (load_linked load_twiceTold).indexed
  exact ⟨.named (indexed.resolve?_eq_some_iff.mp resolve?_twiceTold.1),
    .named (indexed.resolve?_eq_some_iff.mp resolve?_twiceTold.2)⟩

theorem asks_twiceTold :
    twiceToldGraph.Asks (.actor toldHero.name) ("ON_SPAWN", "Bow") .onSpawn 0 ∧
      twiceToldGraph.Asks (.actor toldHero.name) ("on_spawn", "Wave") .onSpawn 1 :=
  ⟨⟨by decide, by decide, names_twiceTold.1⟩, ⟨by decide, by decide, names_twiceTold.2⟩⟩

/-- The hero waves on entering, and the bow is lost; told to do both all the time, it would load as
well. -/
theorem last_response_counts_hero :
    load twiceTold = .ok twiceToldGraph ∧
      (∃ other, load (twiceTold.answering fun _ =>
        [(" On_Always ", "Bow"), ("on_always", "Wave"), ("ON_SPAWN", " ")]) = .ok other) ∧
      ∃ template, twiceToldGraph.template toldHero.name = .ok template ∧
        template.responses.event? .onSpawn = some 1 ∧
        ¬ twiceToldGraph.KeepsResponses toldHero template := by
  obtain ⟨reloads, counts⟩ := last_response_counts load_twiceTold
  obtain ⟨template, known, runs, keeps⟩ := counts toldHero List.mem_cons_self
  obtain ⟨bow, wave⟩ := asks_twiceTold
  obtain ⟨bows, waves⟩ := names_twiceTold
  refine ⟨load_twiceTold, (reloads _).mpr ?_, template, known, ?_, ?_⟩
  · intro entry member response asked
    obtain rfl := List.mem_singleton.mp member
    simp only [List.mem_cons, List.not_mem_nil, or_false] at asked
    rcases asked with rfl | rfl | rfl
    · exact ⟨⟨.onAlways, by decide⟩, fun _ => ⟨0, bows⟩⟩
    · exact ⟨⟨.onAlways, by decide⟩, fun _ => ⟨1, waves⟩⟩
    · exact ⟨⟨.onSpawn, by decide⟩, fun wanted => absurd wanted (by decide)⟩
  · exact (runs .onSpawn 1).mpr ⟨[("ON_SPAWN", "Bow")], ("on_spawn", "Wave"), [], rfl, wave, nofun⟩
  · intro kept
    have same := keeps.mp kept ("ON_SPAWN", "Bow") List.mem_cons_self ("on_spawn", "Wave")
      (List.mem_cons_of_mem _ List.mem_cons_self) .onSpawn 0 1 bow wave
    exact absurd same (by decide)

/-- Two responses of the hero name one occasion, and yet the document loads.  The last one takes the
place of the other, so the hero never bows. -/
theorem bow_is_overwritten :
    load twiceTold = .ok twiceToldGraph ∧ toldHero ∈ twiceTold.actors ∧
      toldHero.responses = [("ON_SPAWN", "Bow"), ("on_spawn", "Wave")] ∧
      Text.upper (Text.trim "ON_SPAWN") = Text.upper (Text.trim "on_spawn") ∧
      twiceToldGraph.template toldHero.name = .ok toldTemplate ∧
      (∀ occasion, toldTemplate.responses.event? occasion ≠ some 0) ∧
      ¬ twiceToldGraph.KeepsResponses toldHero toldTemplate := by
  obtain ⟨bow, wave⟩ := asks_twiceTold
  have never : ∀ occasion, toldTemplate.responses.event? occasion ≠ some 0 := by
    intro occasion
    rw [responses_toldTemplate]
    cases occasion <;> simp [Responses.event?]
  refine ⟨load_twiceTold, List.mem_cons_self, rfl, bow.key.symm.trans wave.key,
    template_toldHero, never, ?_⟩
  intro keeps
  obtain ⟨occasion, id, asks, runs⟩ := keeps ("ON_SPAWN", "Bow") List.mem_cons_self bow.wanted
  rw [(load_linked load_twiceTold).indexed.names_unique asks.target bow.target] at runs
  exact never occasion runs

end BehaviorGraph

end Stagecraft
