/-
Module: Stagecraft.Proofs.CycleSearch
Purpose: A table in which the search finds no cycle has none, and in a table without
  cycles it finds none.
Main exports:
  EdgeTable.Edge, EdgeTable.InRange, EdgeTable.Acyclic, EdgeTable.Layered,
  acyclic_of_findCycles_eq_nil, findCycles_eq_nil_of_acyclic
-/
import Mathlib.Logic.Relation
import Stagecraft.Graph.Cycle
import Stagecraft.Proofs.Basic

namespace Stagecraft

open Relation (TransGen)

/-!
As long as no cycle is found, the nodes are finished from the leaves upwards:
all edges of a finished node lead to nodes that were finished before it.  Such
a list of nodes admits no cycle.  The search reaches every node, because the
path repeats none and so never grows longer than the bound on its depth.
-/

namespace EdgeTable

/-- An edge of the table. -/
def Edge (table : EdgeTable) (source target : Nat) : Prop := target ∈ table.targets source

/-- All edges lead to nodes of the table. -/
def InRange (table : EdgeTable) : Prop :=
  ∀ source target, table.Edge source target → target < table.length

/-- No node leads back to itself. -/
def Acyclic (table : EdgeTable) : Prop := ∀ node, ¬ TransGen table.Edge node node

/-- Every node of a list leads only to nodes behind it. -/
def Layered (table : EdgeTable) : List Nat → Prop
  | [] => True
  | node :: rest => (∀ target, table.Edge node target → target ∈ rest) ∧ Layered table rest

namespace Layered

variable {table : EdgeTable} {nodes : List Nat}

/-- Edges do not leave a layered list. -/
theorem mem_of_edge (layered : table.Layered nodes) {source target : Nat}
    (member : source ∈ nodes) (edge : table.Edge source target) : target ∈ nodes := by
  induction nodes with
  | nil => cases member
  | cons node rest ih =>
      rcases List.mem_cons.mp member with rfl | later
      · exact List.mem_cons_of_mem _ (layered.1 target edge)
      · exact List.mem_cons_of_mem _ (ih layered.2 later)

/-- Nor do paths. -/
theorem mem_of_path (layered : table.Layered nodes) {source target : Nat}
    (member : source ∈ nodes) (path : TransGen table.Edge source target) : target ∈ nodes := by
  induction path with
  | single edge => exact layered.mem_of_edge member edge
  | tail _ edge ih => exact layered.mem_of_edge ih edge

/-- No node of a layered list lies on a cycle. -/
theorem not_cycle (layered : table.Layered nodes) {node : Nat} (member : node ∈ nodes) :
    ¬ TransGen table.Edge node node := by
  induction nodes with
  | nil => cases member
  | cons head rest ih =>
      intro cycle
      by_cases later : node ∈ rest
      · exact ih layered.2 later cycle
      · -- The first edge of the cycle leads into the rest, which nothing leaves.
        obtain rfl : node = head := (List.mem_cons.mp member).resolve_right later
        have back : node ∈ rest := by
          rcases TransGen.head'_iff.mp cycle with ⟨next, edge, path⟩
          have first := layered.1 next edge
          rcases Relation.reflTransGen_iff_eq_or_transGen.mp path with rfl | path
          · exact first
          · exact layered.2.mem_of_path first path
        exact later back

end Layered

end EdgeTable

namespace Search

variable {table : EdgeTable}

/-- What a search has done about some nodes: it has forgotten nothing, and if it
has found no cycle, the nodes are finished in layers. -/
structure Settles (table : EdgeTable) (nodes : List Nat) (before after : Search) : Prop where
  cycles : before.cycles <+: after.cycles
  finished : before.finished ⊆ after.finished
  layered : after.cycles = [] → table.Layered before.finished →
    table.Layered after.finished ∧ nodes ⊆ after.finished

namespace Settles

theorem refl (search : Search) : Settles table [] search search where
  cycles := List.prefix_rfl
  finished := List.Subset.refl _
  layered _ layered := ⟨layered, List.nil_subset _⟩

/-- A search that has found no cycle had found none before. -/
theorem cycles_eq_nil {nodes : List Nat} {before after : Search}
    (settles : Settles table nodes before after) (unreported : after.cycles = []) :
    before.cycles = [] := by
  have shorter := settles.cycles
  rw [unreported] at shorter
  exact List.prefix_nil.mp shorter

theorem trans {first second : List Nat} {before between after : Search}
    (one : Settles table first before between) (two : Settles table second between after) :
    Settles table (first ++ second) before after where
  cycles := one.cycles.trans two.cycles
  finished := List.Subset.trans one.finished two.finished
  layered unreported layered := by
    obtain ⟨layeredBetween, settledFirst⟩ := one.layered (two.cycles_eq_nil unreported) layered
    obtain ⟨layeredAfter, settledSecond⟩ := two.layered unreported layeredBetween
    exact ⟨layeredAfter,
      List.append_subset.mpr ⟨List.Subset.trans settledFirst two.finished, settledSecond⟩⟩

end Settles

/-- Looking along an edge settles its target, if visiting a new node does. -/
theorem follow_settles {visit : Nat → Search → Search} {path : List Nat} {target : Nat}
    (visits : target ∉ path → ∀ search, Settles table [target] search (visit target search))
    (search : Search) : Settles table [target] search (follow visit path search target) := by
  simp only [follow]
  split
  · refine ⟨List.prefix_append _ _, List.Subset.refl _, ?_⟩
    intro unreported
    exact absurd (List.append_eq_nil_iff.mp unreported).2 (by simp)
  · next fresh =>
      split
      · next known =>
          refine ⟨List.prefix_rfl, List.Subset.refl _, fun _ layered => ⟨layered, ?_⟩⟩
          exact List.cons_subset.mpr ⟨by simpa using known, List.nil_subset _⟩
      · exact visits (by simpa using fresh) search

/-- Looking along several edges settles all their targets. -/
theorem foldl_follow_settles {visit : Nat → Search → Search} {path targets : List Nat}
    (visits : ∀ target ∈ targets, target ∉ path →
      ∀ search, Settles table [target] search (visit target search)) (search : Search) :
    Settles table targets search (targets.foldl (follow visit path) search) := by
  induction targets generalizing search with
  | nil => exact .refl search
  | cons target rest ih =>
      have first := follow_settles (visits target List.mem_cons_self) search
      exact first.trans (ih (fun other member => visits other (List.mem_cons_of_mem _ member)) _)

/-- A visit settles its node.  The depth suffices for every path that can still
grow out of the one to the node. -/
theorem visit_settles (inRange : table.InRange) (fuel : Nat) {path : List Nat} {node : Nat}
    (nodup : (node :: path).Nodup) (within : ∀ other ∈ node :: path, other < table.length)
    (enough : table.length < path.length + fuel) (search : Search) :
    Settles table [node] search (visit table fuel path node search) := by
  induction fuel generalizing path node search with
  | zero =>
      have bound := length_le_of_nodup nodup within
      simp only [List.length_cons] at bound
      omega
  | succ fuel ih =>
      have targets : Settles table (table.targets node) search
          ((table.targets node).foldl (follow (visit table fuel (node :: path)) (node :: path))
            search) := by
        apply foldl_follow_settles
        intro target edge fresh between
        apply ih (List.nodup_cons.mpr ⟨fresh, nodup⟩)
        · intro other member
          rcases List.mem_cons.mp member with rfl | above
          · exact inRange node other edge
          · exact within other above
        · simp only [List.length_cons]
          omega
      refine ⟨targets.cycles, List.subset_cons_of_subset _ targets.finished, ?_⟩
      intro unreported layered
      obtain ⟨layeredAfter, settled⟩ := targets.layered unreported layered
      exact ⟨⟨fun target edge => settled edge, layeredAfter⟩,
        List.cons_subset.mpr ⟨List.mem_cons_self, List.nil_subset _⟩⟩

end Search

/-- The search finds a cycle if there is one. -/
theorem acyclic_of_findCycles_eq_nil {table : EdgeTable} (inRange : table.InRange)
    (unreported : findCycles table = []) : table.Acyclic := by
  have settles : Search.Settles table (List.range table.length) {}
      ((List.range table.length).foldl
        (Search.follow (Search.visit table (table.length + 1) []) []) {}) := by
    apply Search.foldl_follow_settles
    intro node member _ search
    apply Search.visit_settles inRange _ (by simp)
    · intro other same
      rw [List.mem_singleton.mp same]
      exact List.mem_range.mp member
    · simp
  obtain ⟨layered, all⟩ := settles.layered unreported trivial
  intro node cycle
  have inTable : node < table.length := by
    obtain ⟨last, _, edge⟩ := TransGen.tail'_iff.mp cycle
    exact inRange last node edge
  exact layered.not_cycle (all (List.mem_range.mpr inTable)) cycle

/-! ### What the search reports -/

namespace Search

/-- Looking along edges reports nothing if none of them leads back and the visits report
nothing. -/
theorem cycles_foldl_follow {visit : Nat → Search → Search} {path targets : List Nat}
    (forward : ∀ target ∈ targets, target ∉ path)
    (silent : ∀ target ∈ targets, ∀ search, (visit target search).cycles = search.cycles)
    (search : Search) : (targets.foldl (follow visit path) search).cycles = search.cycles := by
  induction targets generalizing search with
  | nil => rfl
  | cons target rest ih =>
      obtain ⟨fresh, forward⟩ := List.forall_mem_cons.mp forward
      obtain ⟨here, silent⟩ := List.forall_mem_cons.mp silent
      have first : (follow visit path search target).cycles = search.cycles := by
        simp only [follow, List.contains_iff_mem, fresh, if_false]
        split
        · rfl
        · exact here search
      rw [List.foldl_cons, ih forward silent, first]

variable {table : EdgeTable}

/-- In a table without cycles a visit reports nothing: every node of the path leads to the
node at its end, so no edge from there leads back. -/
theorem cycles_visit (acyclic : table.Acyclic) (fuel : Nat) {path : List Nat} {node : Nat}
    (leads : ∀ other ∈ path, TransGen table.Edge other node) (search : Search) :
    (visit table fuel path node search).cycles = search.cycles := by
  induction fuel generalizing path node search with
  | zero => rfl
  | succ fuel ih =>
      have onwards : ∀ target ∈ table.targets node, ∀ other ∈ node :: path,
          TransGen table.Edge other target := by
        intro target edge other member
        rcases List.mem_cons.mp member with rfl | above
        · exact .single edge
        · exact (leads other above).tail edge
      apply cycles_foldl_follow
      · intro target edge back
        exact acyclic target (onwards target edge target back)
      · intro target edge search
        exact ih (onwards target edge) search

end Search

/-- The search finds no cycle where there is none. -/
theorem findCycles_eq_nil_of_acyclic {table : EdgeTable} (acyclic : table.Acyclic) :
    findCycles table = [] := by
  apply Search.cycles_foldl_follow
  · exact fun _ _ => List.not_mem_nil
  · exact fun node _ search => Search.cycles_visit acyclic _ (by simp) search

/-- A table has no cycles if its edges can be sent to edges of a table without cycles. -/
theorem EdgeTable.Acyclic.of_edges {table other : EdgeTable} (acyclic : table.Acyclic)
    {send : Nat → Nat}
    (edges : ∀ source target, other.Edge source target → table.Edge (send source) (send target)) :
    other.Acyclic :=
  fun node cycle => acyclic (send node) (TransGen.lift send edges _ _ cycle)

end Stagecraft
