/-
Module: Stagecraft.Proofs.Grouping
Purpose: Children may be gathered in a multi of their own: the evaluation of the multi
  above it goes the same way, with the same faults.
Main exports:
  Blame, Surroundings.blames, Surroundings.faults_runAll, Surroundings.Mirrors,
  Surroundings.mirrors_append, Surroundings.mirrors_group, BehaviorGraph.Groups,
  grouping_is_transparent
-/
import Stagecraft.Proofs.Antecedents

namespace Stagecraft

variable {σ : Type}

/-! ### Whom a multi has to blame -/

/-- Whom a node has to blame for a fault: an edge of its own that leads nowhere, or a node
below it. -/
inductive Blame where
  | edge (fault : Fault)
  | below (entry : NodeFault)
deriving Repr, DecidableEq

/-- The entry among the faults of an evaluation, if the node has this name. -/
def Blame.entry (name : String) : Blame → NodeFault
  | .edge fault => { node := name, fault }
  | .below entry => entry

/-- The name does not matter for faults below. -/
theorem Blame.map_entry_below (name : String) (entries : List NodeFault) :
    (entries.map Blame.below).map (·.entry name) = entries := by
  simp only [List.map_map, Function.comp_def, entry, List.map_id']

theorem withinDepth_append {first second : List NodeFault} :
    WithinDepth (first ++ second) ↔ WithinDepth first ∧ WithinDepth second :=
  List.forall_mem_append

namespace Surroundings

variable (surroundings : Surroundings σ) (descend : Descent σ) (id : NodeId) (node : Node Edge)

/-- What there is to blame about one edge. -/
def edgeBlames (role : Role) (edge : Edge) (state : EvalState σ) : List Blame :=
  let state := state.note (.followed id role)
  match surroundings.target node role state.scene edge with
  | .ok child => ((descend child state).2.faultsSince state).map .below
  | .error fault => [.edge fault]

/-- What there is to blame about numbered children until STOP is raised. -/
def blames : List (Int × Edge) → EvalState σ → List Blame
  | [], _ => []
  | (key, edge) :: rest, state =>
      let (_, after) := surroundings.follow descend id node (.numbered key) edge state
      surroundings.edgeBlames descend id node (.numbered key) edge state ++
        if after.signals.stopped then [] else blames rest after

/-- What a run of a multi has to blame. -/
def multiBlames (levels : Nat) (id : NodeId) (state : EvalState σ) : List Blame :=
  match levels, surroundings.graph.nodes[id]? with
  | below + 1, some node =>
      surroundings.blames (surroundings.run below) id node node.children.numbered
        (state.note (.started id))
  | _, _ => []

variable {surroundings descend id node}

/-- A loop over children in two parts: the second one is left out if STOP is raised in the
first. -/
theorem runAll_append {first : List (Int × Edge)} (nonempty : first ≠ [])
    (second : List (Int × Edge)) (state : EvalState σ) :
    surroundings.runAll descend id node (first ++ second) state =
      let between := surroundings.runAll descend id node first state
      if between.signals.stopped then between
      else surroundings.runAll descend id node second between := by
  induction first generalizing state with
  | nil => exact absurd rfl nonempty
  | cons entry rest ih =>
      rcases ended : surroundings.follow descend id node (.numbered entry.1) entry.2 state
        with ⟨outcome, after⟩
      simp only [List.cons_append, runAll, ended]
      cases stopped : after.signals.stopped with
      | true => simp only [stopped, if_true]
      | false =>
          cases rest with
          | nil => simp [runAll, stopped]
          | cons => exact ih (List.cons_ne_nil _ _) after

/-- The faults of two rows of children are those of the first, and then those of the second
from where the first ends. -/
theorem blames_append {first : List (Int × Edge)} (nonempty : first ≠ [])
    (second : List (Int × Edge)) (state : EvalState σ) :
    surroundings.blames descend id node (first ++ second) state =
      let between := surroundings.runAll descend id node first state
      surroundings.blames descend id node first state ++
        if between.signals.stopped then []
        else surroundings.blames descend id node second between := by
  induction first generalizing state with
  | nil => exact absurd rfl nonempty
  | cons entry rest ih =>
      rcases ended : surroundings.follow descend id node (.numbered entry.1) entry.2 state
        with ⟨outcome, after⟩
      simp only [List.cons_append, runAll, blames, ended, List.append_assoc]
      congr 1
      cases stopped : after.signals.stopped with
      | true => simp only [stopped, if_true, List.append_nil]
      | false =>
          cases rest with
          | nil => simp [runAll, blames, stopped]
          | cons => exact ih (List.cons_ne_nil _ _) after

/-- The faults of a run are those that there were before, and those that it adds. -/
theorem faults_run (surroundings : Surroundings σ) (levels : Nat) (child : NodeId)
    (state : EvalState σ) :
    (surroundings.run levels child state).2.faults =
      state.faults ++ (surroundings.run levels child state).2.faultsSince state :=
  (run_reflects levels child ⟨rfl, rfl⟩).faults

theorem faults_follow (surroundings : Surroundings σ) (levels : Nat) (id : NodeId)
    (node : Node Edge) (role : Role) (edge : Edge) (state : EvalState σ) :
    (surroundings.follow (surroundings.run levels) id node role edge state).2.faults =
      state.faults ++ (surroundings.edgeBlames (surroundings.run levels) id node role edge
        state).map (·.entry node.name) := by
  simp only [follow, edgeBlames]
  cases surroundings.target node role (state.note (.followed id role)).scene edge with
  | ok child =>
      rw [Blame.map_entry_below]
      exact surroundings.faults_run levels child _
  | error fault => rfl

/-- The faults that a loop over children adds are those that there are to blame. -/
theorem faults_runAll (surroundings : Surroundings σ) (levels : Nat) (id : NodeId)
    (node : Node Edge) (entries : List (Int × Edge)) (state : EvalState σ) :
    (surroundings.runAll (surroundings.run levels) id node entries state).faults =
      state.faults ++ (surroundings.blames (surroundings.run levels) id node entries state).map
        (·.entry node.name) := by
  induction entries generalizing state with
  | nil => exact (List.append_nil _).symm
  | cons entry rest ih =>
      have first := surroundings.faults_follow levels id node (.numbered entry.1) entry.2 state
      rcases ended : surroundings.follow (surroundings.run levels) id node (.numbered entry.1)
        entry.2 state with ⟨outcome, after⟩
      rw [ended] at first
      simp only [runAll, blames, ended, List.map_append]
      split
      · simpa using first
      · rw [ih, first, List.append_assoc]

/-! ### Loops that mirror each other -/

/-- Evaluations of a node that add no fault of the depth are reflected by others. -/
def ReflectedBy (descend descendOther : Descent σ) : Prop :=
  ∀ id state other, EvalState.SameView state other →
    WithinDepth ((descend id state).2.faultsSince state) →
      Reflects (descend id state).2 ((descend id state).2.faultsSince state) other
        (descendOther id other).2

theorem run_reflectedBy (levels : Nat) :
    ReflectedBy (surroundings.run levels) (surroundings.run levels) :=
  fun id _ _ same _ => run_reflects levels id same

/-- An evaluation that stays within its depth is the same with one level more. -/
theorem run_reflectedBy_succ (levels : Nat) :
    ReflectedBy (surroundings.run levels) (surroundings.run (levels + 1)) :=
  fun _ _ _ same within => run_succ_reflects same within

/-- Two numbered children lead to the same nodes. -/
def LeadAlike (surroundings : Surroundings σ) (node nodeOther : Node Edge)
    (entry entryOther : Int × Edge) : Prop :=
  ∀ scene, surroundings.target nodeOther (.numbered entryOther.1) scene entryOther.2 =
    surroundings.target node (.numbered entry.1) scene entry.2

variable {descendOther : Descent σ} {nodeOther : Node Edge} {other : EvalState σ}

/-- Children that lead alike are followed alike, whatever nodes they belong to. -/
theorem follow_reflects (id idOther : NodeId) (reflected : ReflectedBy descend descendOther)
    {entry entryOther : Int × Edge} (alike : surroundings.LeadAlike node nodeOther entry entryOther)
    {state : EvalState σ} (same : state.SameView other)
    (within : WithinDepth ((surroundings.edgeBlames descend id node (.numbered entry.1) entry.2
      state).map (·.entry node.name))) :
    Reflects (surroundings.follow descend id node (.numbered entry.1) entry.2 state).2
      ((surroundings.edgeBlames descend id node (.numbered entry.1) entry.2 state).map
        (·.entry nodeOther.name)) other
      (surroundings.follow descendOther idOther nodeOther (.numbered entryOther.1)
        entryOther.2 other).2 := by
  have looked := same.note (.followed id (.numbered entry.1))
    (.followed idOther (.numbered entryOther.1))
  simp only [follow, edgeBlames, looked.scene, alike _] at within ⊢
  cases target : surroundings.target node (.numbered entry.1)
      (state.note (.followed id (.numbered entry.1))).scene entry.2 with
  | ok child =>
      simp only [target, Blame.map_entry_below] at within ⊢
      have reflects := reflected child _ _ looked within
      exact ⟨reflects.view, reflects.faults⟩
  | error fault =>
      exact ⟨⟨looked.scene, looked.signals⟩, rfl⟩

/-- Two multis with children that lead alike run alike. -/
theorem runAll_reflects (id idOther : NodeId) (reflected : ReflectedBy descend descendOther)
    {entries entriesOther : List (Int × Edge)}
    (alike : List.Forall₂ (surroundings.LeadAlike node nodeOther) entries entriesOther)
    {state : EvalState σ} (same : state.SameView other)
    (within : WithinDepth ((surroundings.blames descend id node entries state).map
      (·.entry node.name))) :
    Reflects (surroundings.runAll descend id node entries state)
      ((surroundings.blames descend id node entries state).map (·.entry nodeOther.name)) other
      (surroundings.runAll descendOther idOther nodeOther entriesOther other) := by
  induction alike generalizing state other with
  | nil => exact ⟨same, (List.append_nil _).symm⟩
  | @cons entry entryOther rest restOther first _ ih =>
      simp only [blames, List.map_append, withinDepth_append] at within
      have followed := follow_reflects id idOther reflected first same within.1
      simp only [runAll, blames, List.map_append, followed.view.signals]
      split
      · next stopped =>
          simp only [List.map_nil, List.append_nil]
          exact followed
      · next goesOn =>
          simp only [goesOn] at within
          have later := ih followed.view within.2
          refine ⟨later.view, ?_⟩
          rw [later.faults, followed.faults, List.append_assoc]

/-- Two loops over children mirror each other: from states that look the same they come to
states that look the same, and the second one adds the same faults, under the name of its own
node. -/
def Mirrors (surroundings : Surroundings σ) (descend : Descent σ) (id idOther : NodeId)
    (node nodeOther : Node Edge) (entries entriesOther : List (Int × Edge)) : Prop :=
  ∀ state other, EvalState.SameView state other →
    WithinDepth ((surroundings.blames descend id node entries state).map (·.entry node.name)) →
      Reflects (surroundings.runAll descend id node entries state)
        ((surroundings.blames descend id node entries state).map (·.entry nodeOther.name)) other
        (surroundings.runAll descend idOther nodeOther entriesOther other)

/-- Two rows of children each of which is mirrored are mirrored in a row. -/
theorem Mirrors.append {idOther : NodeId} {first second firstOther secondOther : List (Int × Edge)}
    (one : surroundings.Mirrors descend id idOther node nodeOther first firstOther)
    (two : surroundings.Mirrors descend id idOther node nodeOther second secondOther)
    (empty : first = [] ↔ firstOther = []) :
    surroundings.Mirrors descend id idOther node nodeOther (first ++ second)
      (firstOther ++ secondOther) := by
  intro state other same within
  by_cases none : first = []
  · subst none
    rw [empty.mp rfl]
    exact two state other same within
  · simp only [blames_append none, List.map_append, withinDepth_append] at within
    have before := one state other same within.1
    rw [runAll_append none, runAll_append (mt empty.mpr none), blames_append none,
      List.map_append]
    simp only [before.view.signals]
    split
    · simp only [List.map_nil, List.append_nil]
      exact before
    · next goesOn =>
        simp only [goesOn] at within
        have after := two _ _ before.view within.2
        refine ⟨after.view, ?_⟩
        rw [after.faults, before.faults, List.append_assoc]

/-! ### Edges in place of a multi -/

theorem isMapOnly_numbered (kind : NodeKind) (key : Int) :
    isMapOnly kind (.numbered key) = false := by
  have numbered : (Role.numbered key == .event) = false := beq_eq_false_iff_ne.mpr nofun
  simp only [isMapOnly, numbered, Bool.false_and]

theorem forall₂_edges {entries entriesOther : List (Int × Edge)}
    (edges : entriesOther.map Prod.snd = entries.map Prod.snd) :
    List.Forall₂ (fun entry entryOther => entryOther.2 = entry.2) entries entriesOther := by
  have whole : List.Forall₂ (fun edge edgeOther => edgeOther = edge) (entries.map Prod.snd)
      (entriesOther.map Prod.snd) := by
    rw [edges]
    exact List.forall₂_same.mpr fun _ _ => rfl
  simpa only [List.forall₂_map_left_iff, List.forall₂_map_right_iff] using whole

/-- Loops over the same edges of nodes with one home mirror each other. -/
theorem mirrors_of_edges (levels : Nat) (id idOther : NodeId) (home : nodeOther.home = node.home)
    {entries entriesOther : List (Int × Edge)}
    (edges : entriesOther.map Prod.snd = entries.map Prod.snd) :
    surroundings.Mirrors (surroundings.run levels) id idOther node nodeOther entries
      entriesOther := by
  intro state other same within
  refine runAll_reflects id idOther (run_reflectedBy levels) ?_ same within
  refine (forall₂_edges edges).imp fun entry entryOther edge scene => ?_
  rw [edge]
  cases entry.2 with
  | node child => rfl
  | «variable» name => simp only [target, home, isMapOnly_numbered]

/-- Static edges lead nowhere else than below, so what there is to blame about them goes by the
same names for any node. -/
theorem map_entry_blames_of_static {entries : List (Int × Edge)}
    (static : ∀ entry ∈ entries, ∃ child, entry.2 = .node child) (name other : String)
    (state : EvalState σ) :
    (surroundings.blames descend id node entries state).map (·.entry name) =
      (surroundings.blames descend id node entries state).map (·.entry other) := by
  induction entries generalizing state with
  | nil => rfl
  | cons entry rest ih =>
      obtain ⟨child, edge⟩ := static entry List.mem_cons_self
      simp only [blames, edgeBlames, edge, target, List.map_append, Blame.map_entry_below]
      congr 1
      split
      · rfl
      · exact ih (fun later member => static later (List.mem_cons_of_mem _ member)) _

/-- An end without STOP leaves the signals as they are. -/
theorem finish_signals_of_quiet (quiet : node.signal ≠ some .stop) (state : EvalState σ)
    (id : NodeId) (outcome : Outcome) :
    (state.finish id node outcome).signals = state.signals := by
  simp only [EvalState.finish, quiet, false_and, and_false, if_false]
  rfl

/-- A loop over one static edge comes to the run of the node to which it leads. -/
theorem runAll_node (key : Int) (child : NodeId) (state : EvalState σ) :
    surroundings.runAll descend id node [(key, .node child)] state =
      (descend child (state.note (.followed id (.numbered key)))).2 := by
  exact ite_self _

/-- A static child brings the faults of its own evaluation. -/
theorem blames_node (key : Int) (child : NodeId) (state : EvalState σ) :
    surroundings.blames descend id node [(key, .node child)] state =
      ((descend child (state.note (.followed id (.numbered key)))).2.faultsSince state).map
        .below := by
  simp only [blames, edgeBlames, target, ite_self, List.append_nil]
  rfl

/-- A run of a node without a level left adds a fault of the depth. -/
theorem exists_succ_of_withinDepth (stands : surroundings.graph.nodes[id]? = some node)
    {levels : Nat} {state : EvalState σ}
    (within : WithinDepth ((surroundings.run levels id state).2.faultsSince state)) :
    ∃ below, levels = below + 1 := by
  cases levels with
  | zero =>
      simp only [run, stands, EvalState.faultsSince, EvalState.fail, List.drop_left] at within
      exact absurd rfl (within _ List.mem_cons_self _)
  | succ below => exact ⟨below, rfl⟩

/-- A multi that raises no STOP and has static edges only is mirrored by these edges. -/
theorem mirrors_group (levels : Nat) (id idOther : NodeId) (key : Int) {innerId : NodeId}
    {inner : Node Edge}
    (stands : surroundings.graph.nodes[innerId]? = some inner) (kind : inner.kind = .multi)
    (quiet : inner.signal ≠ some .stop)
    (static : ∀ entry ∈ inner.children.numbered, ∃ child, entry.2 = .node child)
    {entries : List (Int × Edge)}
    (edges : entries.map Prod.snd = inner.children.numbered.map Prod.snd) :
    surroundings.Mirrors (surroundings.run levels) id idOther node nodeOther
      [(key, .node innerId)] entries := by
  intro state other same within
  rw [blames_node, Blame.map_entry_below] at within ⊢
  rw [runAll_node]
  let entered := state.note (.followed id (.numbered key))
  let begun := entered.note (.started innerId)
  have deep : WithinDepth ((surroundings.run levels innerId entered).2.faultsSince entered) :=
    within
  -- No fault of the depth is added, so a level is left for the members of the group.
  obtain ⟨below, rfl⟩ := exists_succ_of_withinDepth stands deep
  have faults : (surroundings.runAll (surroundings.run below) innerId inner
      inner.children.numbered begun).faultsSince state =
      (surroundings.blames (surroundings.run below) innerId inner inner.children.numbered
        begun).map (·.entry inner.name) := by
    rw [EvalState.faultsSince, faults_runAll]
    exact List.drop_left
  rw [run_succ stands, execute_multi kind] at within ⊢
  simp only [EvalState.faultsSince, EvalState.finish_faults] at faults within ⊢
  rw [faults] at within ⊢
  have alike : List.Forall₂ (surroundings.LeadAlike inner nodeOther) inner.children.numbered
      entries := by
    refine (List.forall₂_and_left _ _).mpr ⟨static, forall₂_edges edges⟩ |>.imp ?_
    rintro entry entryOther ⟨⟨child, edge⟩, equal⟩ scene
    rw [equal, edge]
    rfl
  have looks : begun.SameView other := ⟨same.scene, same.signals⟩
  have reflects := runAll_reflects innerId idOther (run_reflectedBy_succ below) alike looks within
  refine ⟨⟨?_, ?_⟩, ?_⟩
  · rw [EvalState.finish_scene, reflects.view.scene]
  · rw [finish_signals_of_quiet quiet, reflects.view.signals]
  · rw [reflects.faults, map_entry_blames_of_static static]

end Surroundings

/-! ### Grouping -/

/-- The edges to numbered children in their order. -/
def Children.edges {ρ : Type} (children : Children ρ) : List ρ := children.numbered.map Prod.snd

/-- A multi `outer` has gathered some of its edges in a multi `inner`, and `flat` has them as
edges of its own.  Otherwise `outer` and `flat` are alike. -/
structure Groups (outer flat inner : Node Edge) (innerId : NodeId) : Prop where
  outer_kind : outer.kind = .multi
  flat_kind : flat.kind = .multi
  inner_kind : inner.kind = .multi
  home : flat.home = outer.home
  signal : flat.signal = outer.signal
  quiet : inner.signal ≠ some .stop
  nonempty : inner.children.edges ≠ []
  static : ∀ edge ∈ inner.children.edges, ∃ child, edge = .node child
  edges : ∃ before after, outer.children.edges = before ++ .node innerId :: after ∧
    flat.children.edges = before ++ (inner.children.edges ++ after)

namespace Surroundings

variable {surroundings : Surroundings σ} {innerId : NodeId} {outer flat inner : Node Edge}

/-- The children of a multi with a group are mirrored by those of the multi without it. -/
theorem mirrors_of_groups (groups : Groups outer flat inner innerId)
    (stands : surroundings.graph.nodes[innerId]? = some inner) (levels : Nat)
    (outerId flatId : NodeId) :
    surroundings.Mirrors (surroundings.run levels) outerId flatId outer flat
      outer.children.numbered flat.children.numbered := by
  obtain ⟨before, after, outerEdges, flatEdges⟩ := groups.edges
  obtain ⟨outerBefore, outerRest, outerNumbered, beforeEdges, restEdges⟩ :=
    List.map_eq_append_iff.mp outerEdges
  obtain ⟨⟨key, edge⟩, outerAfter, rfl, edge_eq, afterEdges⟩ := List.map_eq_cons_iff.mp restEdges
  obtain ⟨flatBefore, flatRest, flatNumbered, flatBeforeEdges, flatRestEdges⟩ :=
    List.map_eq_append_iff.mp flatEdges
  obtain ⟨flatInner, flatAfter, rfl, innerEdges, flatAfterEdges⟩ :=
    List.map_eq_append_iff.mp flatRestEdges
  cases edge_eq
  rw [outerNumbered, flatNumbered]
  -- The edges before the group and behind it are the same in both multis.
  have earlier : surroundings.Mirrors (surroundings.run levels) outerId flatId outer flat
      outerBefore flatBefore :=
    mirrors_of_edges levels outerId flatId groups.home
      (flatBeforeEdges.trans beforeEdges.symm)
  have later : surroundings.Mirrors (surroundings.run levels) outerId flatId outer flat
      outerAfter flatAfter :=
    mirrors_of_edges levels outerId flatId groups.home (flatAfterEdges.trans afterEdges.symm)
  have group : surroundings.Mirrors (surroundings.run levels) outerId flatId outer flat
      [(key, .node innerId)] flatInner := by
    refine mirrors_group levels outerId flatId key stands groups.inner_kind groups.quiet ?_
      innerEdges
    exact fun entry member => groups.static _ (List.mem_map_of_mem member)
  have nonempty : flatInner ≠ [] := by
    rintro rfl
    exact groups.nonempty innerEdges.symm
  refine earlier.append (group.append later (by simp [nonempty])) ?_
  rw [← List.map_eq_nil_iff (f := Prod.snd), beforeEdges, ← flatBeforeEdges, List.map_eq_nil_iff]

end Surroundings

/-- What a multi concludes from the number of the faults. -/
theorem ofBool_length_append {faults before added : List NodeFault}
    (same : faults = before ++ added) :
    Outcome.ofBool (faults.length == before.length) = .ofBool (added.length == 0) := by
  rw [same, List.length_append]
  congr 1
  rw [Bool.eq_iff_iff, beq_iff_eq, beq_iff_eq]
  omega

/-- States that look the same look the same at the end of executions that end alike. -/
theorem EvalState.SameView.finish {state other : EvalState σ} (same : state.SameView other)
    {id idOther : NodeId} {node nodeOther : Node Edge} {outcome : Outcome}
    (signal : nodeOther.signal = node.signal) (kind : nodeOther.kind = node.kind) :
    (state.finish id node outcome).SameView (other.finish idOther nodeOther outcome) := by
  simp only [EvalState.finish, signal, kind]
  split
  · exact ⟨same.scene, congrArg Signals.stop same.signals⟩
  · exact ⟨same.scene, same.signals⟩

/-- **Grouping is transparent.**  Where a multi has gathered some of its edges in a multi of
its own, which raises no STOP, the run goes the same way as without the gathering, from any
state and with any number of levels, provided that it adds no fault of the depth: the outcome
is the same, and so are the scene with the actor, the variables of the map, the requests and
the animations, and the signals with STOP and the axes.  The same faults are added; those of
the multi about its own edges stand under its name. -/
theorem grouping_is_transparent {surroundings : Surroundings σ} {outerId flatId innerId : NodeId}
    {outer flat inner : Node Edge} (outer_stands : surroundings.graph.nodes[outerId]? = some outer)
    (flat_stands : surroundings.graph.nodes[flatId]? = some flat)
    (inner_stands : surroundings.graph.nodes[innerId]? = some inner)
    (groups : Groups outer flat inner innerId) {levels : Nat} {state : EvalState σ}
    (within : WithinDepth ((surroundings.run levels outerId state).2.faultsSince state)) :
    let grouped := surroundings.run levels outerId state
    let plain := surroundings.run levels flatId state
    let blames := surroundings.multiBlames levels outerId state
    plain.1 = grouped.1 ∧ plain.2.scene = grouped.2.scene ∧
      plain.2.signals = grouped.2.signals ∧
      grouped.2.faults = state.faults ++ blames.map (·.entry outer.name) ∧
      plain.2.faults = state.faults ++ blames.map (·.entry flat.name) := by
  intro grouped plain blames
  obtain ⟨below, rfl⟩ := Surroundings.exists_succ_of_withinDepth outer_stands within
  have ran : grouped = _ := (Surroundings.run_succ outer_stands below state).trans
    (Surroundings.execute_multi groups.outer_kind _ state)
  have ranFlat : plain = _ := (Surroundings.run_succ flat_stands below state).trans
    (Surroundings.execute_multi groups.flat_kind _ state)
  have blamed : blames = surroundings.blames (surroundings.run below) outerId outer
      outer.children.numbered (state.note (.started outerId)) := by
    simp only [blames, Surroundings.multiBlames, outer_stands]
  have faults := surroundings.faults_runAll below outerId outer outer.children.numbered
    (state.note (.started outerId))
  rw [← blamed] at faults
  have added : grouped.2.faultsSince state = blames.map (·.entry outer.name) := by
    rw [ran, EvalState.faultsSince, EvalState.finish_faults, faults]
    exact List.drop_left
  rw [added, blamed] at within
  -- The multis have begun under different numbers, but their views are the same.
  have mirrored := Surroundings.mirrors_of_groups groups inner_stands below outerId flatId
    (state.note (.started outerId)) (state.note (.started flatId)) ⟨rfl, rfl⟩ within
  rw [← blamed] at mirrored
  -- A multi succeeds if its loop adds no fault, and both loops add as many.
  have outcome : plain.1 = grouped.1 := by
    rw [ran, ranFlat]
    refine (ofBool_length_append mirrored.faults).trans ?_
    rw [List.length_map, ← List.length_map (·.entry outer.name)]
    exact (ofBool_length_append faults).symm
  have view : grouped.2.SameView plain.2 := by
    rw [ran, ranFlat] at outcome ⊢
    simp only at outcome ⊢
    rw [outcome]
    exact mirrored.view.finish groups.signal (groups.flat_kind.trans groups.outer_kind.symm)
  refine ⟨outcome, view.scene, view.signals, ?_, ?_⟩
  · rw [ran, EvalState.finish_faults, faults]
    rfl
  · rw [ranFlat, EvalState.finish_faults, mirrored.faults]
    rfl

/-! ### An example: a carnival with a band of its own -/

/-- A carnival goes with a guest who does not appear, a band, and a finale.  The march has the
members of the band in its own ranks. -/
def carnival : Document :=
  { mapEvents :=
      [ { name := "Carnival", kind := "multi"
          properties :=
            [textProperty "1" "*guest", textProperty "2" "Band", textProperty "3" "Finale"] },
        { name := "March", kind := "multi"
          properties :=
            [textProperty "1" "*guest", textProperty "2" "Trumpet", textProperty "3" "Drum",
              textProperty "4" "Cymbal", textProperty "5" "Finale"] },
        { name := "Band", kind := "multi"
          properties :=
            [textProperty "1" "Trumpet", textProperty "2" "Drum", textProperty "3" "Cymbal"] },
        { name := "Trumpet", kind := "move" },
        { name := "Drum", kind := "erase-self", properties := [textProperty "SIGNAL" "STOP"] },
        { name := "Cymbal", kind := "quit" },
        { name := "Finale", kind := "close-map" } ] }

/-- The graph of the carnival: its nodes are numbered as they are written. -/
def carnivalGraph : BehaviorGraph := (BehaviorGraph.load carnival).toOption.getD {}

/-- A carnival with just as many levels as it takes. -/
def carnivalDay : Surroundings Controller := rehearsal carnivalGraph 2 0.5 (.fixed false 0) []

/-- The name of the guest is no name of an event. -/
def carnivalScene : Scene Controller :=
  { actor := { id := 1, template := "Crowd" }
    map := .ofList [("guest", .text "Mayor")]
    requests := []
    animation := .instant }

/-- The drum ends both of them before the cymbal and the finale. -/
theorem grouping_is_transparent_carnival :
    let node (id : NodeId) := carnivalGraph.nodes[id]?.getD default
    let begun := EvalState.begin carnivalScene {}
    let grouped := carnivalDay.run 3 0 begun
    let plain := carnivalDay.run 3 1 begun
    BehaviorGraph.load carnival = .ok carnivalGraph ∧ Groups (node 0) (node 1) (node 2) 2 ∧
      WithinDepth (grouped.2.faultsSince begun) ∧
      plain.1 = grouped.1 ∧ plain.2.scene = grouped.2.scene ∧
      plain.2.signals = grouped.2.signals ∧ grouped.1 = .failure ∧
      grouped.2.signals.stopped = true ∧ grouped.2.scene.actor.isLeaving = true ∧
      grouped.2.scene.requests = [] ∧
      grouped.2.faults = [{ node := "Carnival", fault := .dynamicTarget "guest" }] ∧
      plain.2.faults = [{ node := "March", fault := .dynamicTarget "guest" }] := by
  intro node begun grouped plain
  have groups : Groups (node 0) (node 1) (node 2) 2 :=
    { outer_kind := by rfl
      flat_kind := by rfl
      inner_kind := by rfl
      home := by rfl
      signal := by rfl
      quiet := by decide +kernel
      nonempty := by decide +kernel
      static := by
        have edges : (node 2).children.edges = [.node 3, .node 4, .node 5] := by rfl
        simp [edges]
      edges := ⟨[.variable "guest"], [.node 6], by rfl, by rfl⟩ }
  have faults : grouped.2.faultsSince begun =
      [{ node := "Carnival", fault := .dynamicTarget "guest" }] := by rfl
  have within : WithinDepth (grouped.2.faultsSince begun) := by
    rw [faults]
    intro entry member limit
    simp only [List.mem_singleton.mp member]
    exact nofun
  have outer : carnivalDay.graph.nodes[0]? = some (node 0) := by rfl
  have flat : carnivalDay.graph.nodes[1]? = some (node 1) := by rfl
  have inner : carnivalDay.graph.nodes[2]? = some (node 2) := by rfl
  obtain ⟨outcome, scene, signals, -, blamed⟩ :=
    grouping_is_transparent outer flat inner groups within
  exact ⟨by rfl, groups, within, outcome, scene, signals, by rfl, by rfl, by rfl, by rfl, by rfl,
    blamed⟩

end Stagecraft
