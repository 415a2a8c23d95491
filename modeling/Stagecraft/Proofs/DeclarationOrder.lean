/-
Module: Stagecraft.Proofs.DeclarationOrder
Purpose: The order in which nodes and templates are declared has no influence on whether a
  document loads, and on evaluations none but the numbers of the nodes.
Main exports:
  TemplateEntry.Reordered, Document.Reordered, Document.Declares.exists_reordered,
  BehaviorGraph.exists_load_of_reordered, declaration_order_is_irrelevant
-/
import Mathlib.Data.List.Perm.Basic
import Stagecraft.Proofs.Correspondence
import Stagecraft.Proofs.Walk

namespace Stagecraft

/-- An entry for the same template with its events in another order. -/
structure TemplateEntry.Reordered (entry other : TemplateEntry) : Prop where
  name : other.name = entry.name
  events : entry.events.Perm other.events
  bindings : other.bindings = entry.bindings
  responses : other.responses = entry.responses
  hitboxes : other.hitboxes = entry.hitboxes

/-- The same document with the events of the map, the templates, and the events of each
template in another order. -/
structure Document.Reordered (document other : Document) : Prop where
  mapEvents : document.mapEvents.Perm other.mapEvents
  actors : ∃ moved, document.actors.Perm moved ∧
    List.Forall₂ TemplateEntry.Reordered moved other.actors
  solids : other.solids = document.solids

/-! ### Templates and entries in another order -/

namespace TemplateEntry.Reordered

variable {entry other : TemplateEntry} (reordered : entry.Reordered other)

include reordered

theorem symm : other.Reordered entry :=
  ⟨reordered.name.symm, reordered.events.symm, reordered.bindings.symm,
    reordered.responses.symm, reordered.hitboxes.symm⟩

/-- The order of its events has no influence on the rest of a template. -/
theorem declare_eq : other.declare = entry.declare := by
  simp only [declare, reordered.name, reordered.bindings, reordered.responses,
    reordered.hitboxes]

/-- An entry declares the same nodes however they are ordered. -/
theorem nodeEntries : entry.nodeEntries.Perm other.nodeEntries := by
  simp only [TemplateEntry.nodeEntries, reordered.name]
  exact reordered.events.map _

end TemplateEntry.Reordered

/-- All templates together declare the same nodes in either order. -/
theorem TemplateEntry.flatMap_nodeEntries_perm {entries others : List TemplateEntry}
    (same : List.Forall₂ TemplateEntry.Reordered entries others) :
    (entries.flatMap nodeEntries).Perm (others.flatMap nodeEntries) := by
  induction same with
  | nil => exact .refl _
  | cons here _ ih => exact here.nodeEntries.append ih

namespace Document.Reordered

variable {document other : Document} (reordered : document.Reordered other)

include reordered

theorem symm : other.Reordered document := by
  obtain ⟨moved, perm, same⟩ := reordered.actors
  obtain ⟨back, sameBack, permBack⟩ := List.perm_comp_forall₂ perm same
  exact
    { mapEvents := reordered.mapEvents.symm
      actors := ⟨back, permBack.symm, sameBack.flip.imp fun _ _ => TemplateEntry.Reordered.symm⟩
      solids := reordered.solids.symm }

theorem nodeEntries : document.nodeEntries.Perm other.nodeEntries := by
  obtain ⟨moved, perm, same⟩ := reordered.actors
  exact (reordered.mapEvents.map _).append
    ((perm.flatMap_right _).trans (TemplateEntry.flatMap_nodeEntries_perm same))

/-- What holds of templates apart from their events holds in another order. -/
theorem actors_map {α : Type} {view : TemplateEntry → α}
    (sees : ∀ {entry other : TemplateEntry}, entry.Reordered other → view other = view entry) :
    (document.actors.map view).Perm (other.actors.map view) := by
  obtain ⟨moved, perm, same⟩ := reordered.actors
  rw [map_eq_map_of_forall₂ (same.imp fun _ _ => sees)]
  exact perm.map view

end Document.Reordered

/-! ### Catalogues and graphs -/

/-- The same templates are known in another order, so the same nodes spawn them. -/
theorem Catalogue.Reordered.spawnErrors_eq_nil {catalogue other : Catalogue}
    (reordered : catalogue.Reordered other) (unreported : catalogue.spawnErrors = []) :
    other.spawnErrors = [] := by
  have known : ∀ name, (other.templates.any fun declared => declared.name == name) =
      catalogue.templates.any fun declared => declared.name == name :=
    fun name => reordered.templates.symm.any_eq
  simp only [spawnErrors, known, List.filterMap_eq_nil_iff] at unreported ⊢
  exact fun node member => unreported node (reordered.nodes.mem_iff.mpr member)

/-- A document declares the same in another order. -/
theorem Document.Declares.exists_reordered {document other : Document} {catalogue : Catalogue}
    (reordered : document.Reordered other) (declares : document.Declares catalogue) :
    ∃ image, other.Declares image ∧ catalogue.Reordered image := by
  obtain ⟨nodes, defined, perm⟩ :=
    List.perm_comp_forall₂ reordered.nodeEntries.symm declares.nodes
  have declarations := reordered.actors_map TemplateEntry.Reordered.declare_eq
  have names := reordered.actors_map TemplateEntry.Reordered.name
  have moved : catalogue.Reordered
      { nodes, templates := other.actors.map fun entry => entry.declare.1 } :=
    { nodes := perm.symm
      templates := by
        rw [declares.templates]
        simpa only [List.map_map, Function.comp_def] using declarations.map Prod.fst
      broken := declares.intact.symm }
  refine ⟨_, ?_, moved⟩
  exact
    { nodes := defined
      distinct := (perm.map Node.key).nodup_iff.mpr declares.distinct
      intact := rfl
      templates := rfl
      sound := by
        have sound : ∀ result ∈ document.actors.map TemplateEntry.declare, result.2 = [] :=
          List.forall_mem_map.mpr declares.sound
        exact fun entry member =>
          sound _ (declarations.mem_iff.mpr (List.mem_map_of_mem member))
      templatesDistinct := names.nodup_iff.mp declares.templatesDistinct
      spawns := moved.spawnErrors_eq_nil declares.spawns }

/-- A document that loads loads in another order as the same graph with other numbers. -/
theorem BehaviorGraph.exists_load_of_reordered {document other : Document} {graph : BehaviorGraph}
    (reordered : document.Reordered other) (loaded : BehaviorGraph.load document = .ok graph) :
    ∃ (rename : NodeId ≃ NodeId) (image : BehaviorGraph),
      BehaviorGraph.load other = .ok image ∧ graph.Renumbered rename image := by
  obtain ⟨catalogue, declares, errorless, rfl⟩ := load_eq_ok_iff.mp loaded
  have clean := declares.clean errorless
  obtain ⟨image, declaresImage, moved⟩ := declares.exists_reordered reordered
  have errorlessImage := moved.linkErrors_eq_nil clean errorless
  obtain ⟨rename, renumbered⟩ := moved.exists_renumbered clean.distinct
  exact ⟨rename, _, load_eq_ok_iff.mpr ⟨image, declaresImage, errorlessImage, rfl⟩,
    renumbered.linked moved.templates clean (declaresImage.clean errorlessImage)
      declares.templates_distinct⟩

/-- **The order of declarations is irrelevant.**  Documents that differ in the order of
their nodes and templates load alike, and their graphs are the same but for the numbers of
the nodes: a number and its other number belong to the same namespace and name.  From
corresponding scenes and in corresponding surroundings the node of a name is evaluated with
the same outcome, signals and faults, and the scenes that it leaves behind correspond
again. -/
theorem declaration_order_is_irrelevant {document other : Document}
    (reordered : document.Reordered other) :
    ((∃ graph, BehaviorGraph.load document = .ok graph) ↔
      ∃ image, BehaviorGraph.load other = .ok image) ∧
    ∀ graph image, BehaviorGraph.load document = .ok graph →
      BehaviorGraph.load other = .ok image →
        ∃ rename : NodeId ≃ NodeId, graph.Renumbered rename image ∧
          (∀ id, (image.nodes[rename id]?).map Node.key = (graph.nodes[id]?).map Node.key) ∧
          ∀ {σ τ : Type} {alike : σ → τ → Prop} (surroundings : Surroundings σ)
            (others : Surroundings τ), surroundings.graph = graph → others.graph = image →
            surroundings.Corresponds rename alike others →
              ∀ (root : String) (scene : Scene σ) (twin : Scene τ),
                scene.Corresponds rename alike twin →
                  (others.evaluate root twin).1 =
                      (surroundings.evaluate root scene).1.renumber rename ∧
                    (surroundings.evaluate root scene).2.Corresponds rename alike
                      (others.evaluate root twin).2 := by
  refine ⟨⟨?_, ?_⟩, ?_⟩
  · rintro ⟨graph, loaded⟩
    obtain ⟨-, image, loadedImage, -⟩ := BehaviorGraph.exists_load_of_reordered reordered loaded
    exact ⟨image, loadedImage⟩
  · rintro ⟨image, loaded⟩
    obtain ⟨-, graph, loadedGraph, -⟩ :=
      BehaviorGraph.exists_load_of_reordered reordered.symm loaded
    exact ⟨graph, loadedGraph⟩
  · intro graph image loaded loadedImage
    obtain ⟨rename, found, loadedFound, renumbered⟩ :=
      BehaviorGraph.exists_load_of_reordered reordered loaded
    -- A document loads as one graph only.
    obtain rfl : found = image := Except.ok.inj (loadedFound.symm.trans loadedImage)
    refine ⟨rename, renumbered, renumbered.key_eq, ?_⟩
    rintro σ τ alike surroundings others rfl rfl asks root scene twin same
    exact surroundings.evaluate_corresponds renumbered asks root same

/-! ### An example: the theatre with a bell, declared backwards -/

/-- The theatre with a bell that rings once, and with an usher. -/
def festival : Document :=
  { mapEvents :=
      { name := "Bell", kind := "single-guard", properties := [textProperty "EVENT" "Ring"] } ::
        theatre.mapEvents ++
      [ { name := "Ring", kind := "animate"
          properties := [{ name := "CYCLES", value := .number (.whole 2) }] } ]
    actors := theatre.actors ++
      [ { name := "Usher", events := [ { name := "Greet", kind := "move" } ] } ] }

/-- The festival with all nodes and templates declared in the opposite order. -/
def festivalBackwards : Document :=
  { mapEvents := festival.mapEvents.reverse
    actors := (festival.actors.map fun entry =>
      { entry with events := entry.events.reverse }).reverse }

theorem festival_reordered : festival.Reordered festivalBackwards where
  mapEvents := festival.mapEvents.reverse_perm.symm
  actors := by
    refine ⟨festival.actors.reverse, festival.actors.reverse_perm.symm, ?_⟩
    simp only [festivalBackwards, ← List.map_reverse]
    refine List.forall₂_map_right_iff.mpr (List.forall₂_same.mpr fun entry _ => ?_)
    exact ⟨rfl, entry.events.reverse_perm.symm, rfl, rfl, rfl⟩
  solids := rfl

/-- The graph of the festival: the bell is number 0, its ring number 2. -/
def festivalGraph : BehaviorGraph := (BehaviorGraph.load festival).toOption.getD {}

/-- The graph of the festival declared backwards: the bell is number 2, its ring
number 0. -/
def festivalBackwardsGraph : BehaviorGraph :=
  (BehaviorGraph.load festivalBackwards).toOption.getD {}

/-- The scene of a player whose cue is the bell, with timed animations. -/
def festivalScene : Scene Controller :=
  { theatreScene with
    actor := { theatreScene.actor with store := .ofList [("cue", .text "Bell")] }
    animation := .timed {} }

/-- The player acts in both festivals alike: the bell lets it pass once, and its ring goes
on, in each of them under its own numbers. -/
theorem declaration_order_is_irrelevant_festival :
    let first := (rehearsal festivalGraph 8 0.5 (.fixed false 0) []).evaluate "Act" festivalScene
    let second :=
      (rehearsal festivalBackwardsGraph 8 0.5 (.fixed false 0) []).evaluate "Act" festivalScene
    festival.Reordered festivalBackwards ∧
      BehaviorGraph.load festival = .ok festivalGraph ∧
      BehaviorGraph.load festivalBackwards = .ok festivalBackwardsGraph ∧
      (∃ rename : NodeId ≃ NodeId, festivalGraph.Renumbered rename festivalBackwardsGraph ∧
        second.1 = first.1.renumber rename ∧ second.2.actor = first.2.actor.renumber rename ∧
        second.2.animation = first.2.animation.renumber rename) ∧
      first.1.outcome = .success ∧ first.2.actor.guards = [0] ∧ second.2.actor.guards = [2] ∧
      (∃ run, first.2.animation = .timed { runs := [((1, 2), run)] }) ∧
      ∃ run, second.2.animation = .timed { runs := [((1, 0), run)] } := by
  intro first second
  have loaded : BehaviorGraph.load festival = .ok festivalGraph := by rfl
  have backwards : BehaviorGraph.load festivalBackwards = .ok festivalBackwardsGraph := by rfl
  obtain ⟨-, graphs⟩ := declaration_order_is_irrelevant festival_reordered
  obtain ⟨rename, renumbered, -, evaluations⟩ := graphs _ _ loaded backwards
  have same : festivalScene.Corresponds rename
      (fun one two => two = Controller.renumber rename one) festivalScene := ⟨rfl, rfl, rfl, rfl⟩
  obtain ⟨report, scenes⟩ := evaluations _ _ rfl rfl
    (rehearsal_corresponds festivalGraph festivalBackwardsGraph 8 0.5 (.fixed false 0) [])
    "Act" festivalScene festivalScene same
  exact ⟨festival_reordered, loaded, backwards,
    ⟨rename, renumbered, report, scenes.actor, scenes.animation⟩, by decide, by decide,
    by decide, ⟨_, by rfl⟩, ⟨_, by rfl⟩⟩

end Stagecraft
