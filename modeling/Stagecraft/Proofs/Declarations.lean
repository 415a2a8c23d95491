/-
Module: Stagecraft.Proofs.Declarations
Purpose: In the catalogue of a document every name belongs to one node of its
  namespace, and nothing is broken unless an error says so.
Main exports:
  Node.key, Catalogue.Sound, Catalogue.Sound.ofDocument, Catalogue.find?_eq_some_iff
-/
import Mathlib.Data.List.Nodup
import Stagecraft.Graph.Catalogue
import Stagecraft.Proofs.Basic

namespace Stagecraft

/-- The namespace and the name of a node. -/
def Node.key {ρ : Type} (node : Node ρ) : Namespace × String := (node.home, node.name)

namespace Definition

/-- A definition keeps the name and the namespace of its entry. -/
theorem key_node (name : String) (home : Namespace) (kindName : KindName) (bag : PropertyBag) :
    ((Definition.node name home kindName).run bag).1.key = (home, name) := by
  simp only [Definition.node]
  simp only [run_bind]
  split <;> simp only [run_bind] <;> split <;> rfl

end Definition

theorem NodeEntry.key_of_define {entry : NodeEntry} {home : Namespace} {node : Node Reference}
    (defined : entry.define home = .ok node) : node.key = (home, entry.name) := by
  unfold NodeEntry.define at defined
  split at defined
  · cases defined
  · next kindName _ =>
      split at defined
      next node bag defining =>
        split at defined
        · have key := Definition.key_node entry.name home kindName (.ofEntries entry.properties)
          rw [defining] at key
          rw [← Except.ok.inj defined]
          exact key
        · cases defined

/-- An entry is refused for a reason. -/
theorem NodeEntry.ne_nil_of_define {entry : NodeEntry} {home : Namespace}
    {errors : List LoadError} (refused : entry.define home = .error errors) : errors ≠ [] := by
  unfold NodeEntry.define at refused
  split at refused
  · rw [← Except.error.inj refused]
    exact List.cons_ne_nil _ _
  · split at refused
    split at refused
    · cases refused
    · next problems =>
        rw [← Except.error.inj refused]
        simpa using problems

namespace Catalogue

/-- What holds of a catalogue and the errors found so far: no two nodes share
their namespace and name, and as long as there are no errors no name is
broken. -/
structure Sound (catalogue : Catalogue) (errors : List LoadError) : Prop where
  distinct : (catalogue.nodes.map Node.key).Nodup
  intact : errors = [] → catalogue.broken = []

theorem isAt_iff {ρ : Type} {home : Namespace} {name : String} {node : Node ρ} :
    isAt home name node = true ↔ node.key = (home, name) := by
  simp [isAt, Node.key]

/-- A name without a number is the name of no node. -/
theorem key_notMem_of_find?_eq_none {catalogue : Catalogue} {home : Namespace} {name : String}
    (absent : catalogue.find? home name = none) :
    (home, name) ∉ catalogue.nodes.map Node.key := by
  intro member
  obtain ⟨node, here, key⟩ := List.mem_map.mp member
  have differs := List.findIdx?_eq_none_iff.mp absent node here
  rw [isAt_iff.mpr key] at differs
  cases differs

namespace Sound

variable {catalogue : Catalogue} {errors : List LoadError}

/-- An error on top of the others changes nothing about the nodes. -/
theorem more_errors (sound : catalogue.Sound errors) (more : List LoadError) :
    catalogue.Sound (errors ++ more) where
  distinct := sound.distinct
  intact none := sound.intact (List.append_eq_nil_iff.mp none).1

/-- Declaring a node keeps the catalogue sound: a name that is taken is refused,
and a name is broken only with an error. -/
theorem declareNode (sound : catalogue.Sound errors) (home : Namespace) (entry : NodeEntry) :
    (Catalogue.declareNode home catalogue entry).1.Sound
      (errors ++ (Catalogue.declareNode home catalogue entry).2) := by
  simp only [Catalogue.declareNode]
  split
  · exact sound.more_errors _
  · split
    · exact sound.more_errors _
    · next fresh =>
        split
        · next node defined =>
            refine ⟨?_, fun unreported => sound.intact (List.append_eq_nil_iff.mp unreported).1⟩
            have absent : catalogue.find? home entry.name = none := by
              cases found : catalogue.find? home entry.name with
              | none => rfl
              | some id => simp [found] at fresh
            have key := entry.key_of_define defined
            have new : node.key ∉ catalogue.nodes.map Node.key := by
              rw [key]
              exact key_notMem_of_find?_eq_none absent
            rw [List.map_append]
            exact nodup_concat_iff.mpr ⟨sound.distinct, new⟩
        · next more refused =>
            refine ⟨sound.distinct, fun unreported => ?_⟩
            exact absurd (List.append_eq_nil_iff.mp unreported).2 (entry.ne_nil_of_define refused)

/-- What every single declaration keeps, all of them keep. -/
theorem declareAll {α : Type} {declare : Catalogue → α → Catalogue × List LoadError}
    (keeps : ∀ (catalogue : Catalogue) (errors : List LoadError) (entry : α),
      catalogue.Sound errors →
        (declare catalogue entry).1.Sound (errors ++ (declare catalogue entry).2))
    (entries : List α) (sound : catalogue.Sound errors) :
    (Catalogue.declareAll declare catalogue entries).1.Sound
      (errors ++ (Catalogue.declareAll declare catalogue entries).2) := by
  induction entries generalizing catalogue errors with
  | nil => simpa [Catalogue.declareAll] using sound
  | cons entry rest ih =>
      have first := keeps catalogue errors entry sound
      simpa only [Catalogue.declareAll, List.append_assoc] using ih first

/-- A template more leaves the catalogue sound, with the errors of that template at the end. -/
theorem declareTemplate (sound : catalogue.Sound errors) (entry : TemplateEntry) :
    (Catalogue.declareTemplate catalogue entry).1.Sound
      (errors ++ (Catalogue.declareTemplate catalogue entry).2) := by
  simp only [Catalogue.declareTemplate]
  split
  · exact sound.more_errors _
  · have nodes := sound.declareAll
      (fun _ _ node sound => sound.declareNode (.actor entry.name) node) entry.events
    have all := nodes.more_errors entry.declare.2
    rw [List.append_assoc] at all
    exact ⟨all.distinct, all.intact⟩

/-- The catalogue of a document is sound. -/
theorem ofDocument (document : Document) :
    (Catalogue.ofDocument document).1.Sound (Catalogue.ofDocument document).2 := by
  have empty : Catalogue.Sound {} [] := ⟨List.nodup_nil, fun _ => rfl⟩
  have nodes := empty.declareAll (fun _ _ node sound => sound.declareNode .map node)
    document.mapEvents
  have templates := nodes.declareAll (fun _ _ template sound => sound.declareTemplate template)
    document.actors
  exact templates.more_errors _

end Sound

/-- In a sound catalogue a number belongs to a name exactly when the node there
has the name. -/
theorem find?_eq_some_iff {catalogue : Catalogue}
    (distinct : (catalogue.nodes.map Node.key).Nodup) {home : Namespace} {name : String}
    {id : NodeId} :
    catalogue.find? home name = some id ↔
      ∃ node, catalogue.nodes[id]? = some node ∧ node.key = (home, name) := by
  simp only [Catalogue.find?]
  rw [List.findIdx?_eq_some_iff_getElem]
  constructor
  · rintro ⟨inRange, here, -⟩
    exact ⟨_, List.getElem?_eq_getElem inRange, isAt_iff.mp here⟩
  · rintro ⟨node, here, key⟩
    obtain ⟨inRange, rfl⟩ := List.getElem?_eq_some_iff.mp here
    refine ⟨inRange, isAt_iff.mpr key, ?_⟩
    intro other earlier there
    have otherInRange : other < catalogue.nodes.length := Nat.lt_trans earlier inRange
    have keys : (catalogue.nodes.map Node.key)[other]? = (catalogue.nodes.map Node.key)[id]? := by
      simp only [List.getElem?_map, List.getElem?_eq_getElem inRange,
        List.getElem?_eq_getElem otherInRange, Option.map_some]
      rw [isAt_iff.mp there, key]
    have same : other = id :=
      (List.getElem?_inj (by simpa using otherInRange) distinct).mp keys
    omega

end Catalogue

end Stagecraft
