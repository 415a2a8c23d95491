/-
Module: Stagecraft.Proofs.OneShot
Purpose: A one-shot guard lets its actor pass once, however often and from wherever it
  is reached.
Main exports:
  Tally, Surroundings.tallies, BehaviorGraph.Session.settles, guard_opens_once
-/
import Mathlib.Algebra.GroupWithZero.Nat
import Stagecraft.Evaluation.Rehearsal
import Stagecraft.Proofs.Definitions
import Stagecraft.Proofs.Loading
import Stagecraft.Proofs.Performances

namespace Stagecraft

variable {σ : Type}

/-! ### The tally of a guard -/

/-- How often the event of a guard has been followed. -/
def openings (guard : NodeId) (journal : List JournalEntry) : Nat :=
  journal.count (.followed guard .event)

/-- The guards that have let the actor pass. -/
def EvalState.guards (state : EvalState σ) : List NodeId := state.scene.actor.guards

/-- What may happen to a guard between two states of its actor, given its executions
and how often its event is followed: it was and stays shut, it is not met, or its first
execution opens it. -/
inductive Tally (guard : NodeId) (before after : List NodeId) :
    List (Execution σ) → Nat → Prop where
  | shut {visits : List (Execution σ)} (met : guard ∈ before) (stays : guard ∈ after)
      (all : ∀ visit ∈ visits, guard ∈ visit.before.guards) : Tally guard before after visits 0
  | untouched (fresh : guard ∉ before) (stays : guard ∉ after) : Tally guard before after [] 0
  | opened {first : Execution σ} {later : List (Execution σ)} (fresh : guard ∉ before)
      (passed : guard ∈ after) (opens : guard ∉ first.before.guards)
      (all : ∀ visit ∈ later, guard ∈ visit.before.guards) :
      Tally guard before after (first :: later) 1

namespace Tally

variable {guard : NodeId} {before between after : List NodeId}
  {visits more : List (Execution σ)} {times others : Nat}

theorem idle (same : guard ∈ before ↔ guard ∈ after) :
    Tally guard before after ([] : List (Execution σ)) 0 := by
  by_cases met : guard ∈ before
  · exact .shut met (same.mp met) (by simp)
  · exact .untouched met (mt same.mpr met)

theorem trans (first : Tally guard before between visits times)
    (second : Tally guard between after more others) :
    Tally guard before after (visits ++ more) (times + others) := by
  cases first with
  | shut met stays all =>
      cases second with
      | shut _ last rest => exact .shut met last (List.forall_mem_append.mpr ⟨all, rest⟩)
      | untouched fresh _ | opened fresh _ _ _ => exact absurd stays fresh
  | untouched fresh stays =>
      cases second with
      | shut met _ _ => exact absurd met stays
      | untouched _ last => exact .untouched fresh last
      | opened _ passed opens all => exact .opened fresh passed opens all
  | opened fresh passed opens all =>
      cases second with
      | shut _ last rest =>
          exact .opened fresh last opens (List.forall_mem_append.mpr ⟨all, rest⟩)
      | untouched unmet _ | opened unmet _ _ _ => exact absurd passed unmet

/-- A guard that has let its actor pass stays shut. -/
theorem of_mem (tally : Tally guard before after visits times) (met : guard ∈ before) :
    times = 0 ∧ guard ∈ after ∧ ∀ visit ∈ visits, guard ∈ visit.before.guards := by
  cases tally with
  | shut _ stays all => exact ⟨rfl, stays, all⟩
  | untouched fresh _ | opened fresh _ _ _ => exact absurd met fresh

/-- A fresh guard is opened once if it is met, by its first execution. -/
theorem of_notMem (tally : Tally guard before after visits times) (fresh : guard ∉ before) :
    times = min 1 visits.length ∧ (∀ visit ∈ visits.head?, guard ∉ visit.before.guards) ∧
      ∀ visit ∈ visits.tail, guard ∈ visit.before.guards := by
  cases tally with
  | shut met _ _ => exact absurd met fresh
  | untouched _ _ => simp
  | opened _ _ opens all => exact ⟨by simp, by simpa using opens, all⟩

end Tally

namespace Surroundings

variable {surroundings : Surroundings σ} {guard id : NodeId} {node : Node Edge}

/-- A change by another node leaves the guard as it was. -/
theorem Change.guard_unchanged {before after : EvalState σ}
    (change : surroundings.Change id node before after) (differs : id ≠ guard) :
    (guard ∈ before.guards ↔ guard ∈ after.guards) ∧
      openings guard after.journal = openings guard before.journal := by
  cases change with
  | propel axis change free => cases axis <;> exact ⟨.rfl, rfl⟩
  | measure | complete => exact ⟨.rfl, by simp [openings, EvalState.note]⟩
  | land kind grounded =>
      simp only [EvalState.land]
      split <;>
        exact ⟨.rfl, by simp [openings, EvalState.note, EvalState.setVelocity,
          EvalState.withActor, EvalState.withScene]⟩
  | pass kind fresh =>
      refine ⟨?_, rfl⟩
      simp [EvalState.guards, EvalState.withActor, EvalState.withScene, Ne.symm differs]
  | assign kind changed =>
      obtain ⟨_, _, _, _, _, rfl⟩ := Scene.exists_of_changeVariable changed
      exact ⟨.rfl, rfl⟩
  | move | turn | leave | pose | animate | stop | issue => exact ⟨.rfl, rfl⟩

/-- A guard that has let the actor pass fails, and changes nothing. -/
theorem execute_of_mem_guards {descend : Descent σ} (kind : node.kind = .singleGuard)
    {state : EvalState σ} (passed : id ∈ state.guards) :
    surroundings.execute descend id node state =
      (.failure, (state.note (.started id)).note (.finished id .failure)) := by
  have here : id ∈ (state.note (.started id)).scene.actor.guards := passed
  simp only [execute_eq, work, kind, if_pos here, conclude]

end Surroundings

/-- The state in which a fresh guard lets the actor pass. -/
def EvalState.passing (state : EvalState σ) (id : NodeId) : EvalState σ :=
  (state.note (.started id)).withActor
    { state.scene.actor with guards := state.scene.actor.guards ++ [id] }

/-- To pass a guard is not to open it. -/
theorem EvalState.openings_passing (state : EvalState σ) (id guard : NodeId) :
    openings guard (state.passing id).journal = openings guard state.journal := by
  simp [openings, passing, note, withActor, withScene]

namespace Surroundings

variable {surroundings : Surroundings σ} {guard id : NodeId} {node : Node Edge}

/-- A fresh guard comes to its event. -/
theorem arrivals_of_notMem_guards {descend : Descent σ} (kind : node.kind = .singleGuard)
    {edge : Edge} (event : node.children.event = some edge) {state : EvalState σ}
    (fresh : id ∉ state.guards) :
    surroundings.arrivals descend id node (state.note (.started id)) =
      surroundings.arrival id node .event edge (state.passing id) := by
  have here : id ∉ (state.note (.started id)).scene.actor.guards := fresh
  simp only [arrivals, kind, if_neg here, eventArrivals, event]
  rfl

variable (surroundings node) in
/-- A fresh guard succeeds however its event ends. -/
theorem execute_of_notMem_guards (descend : Descent σ) (kind : node.kind = .singleGuard)
    {edge : Edge} (event : node.children.event = some edge) {state : EvalState σ}
    (fresh : id ∉ state.guards) :
    ∃ after : EvalState σ,
      surroundings.execute descend id node state = (.success, after) ∧
      after.scene =
        (surroundings.follow descend id node .event edge (state.passing id)).2.scene ∧
      after.journal = .finished id .success ::
        (surroundings.follow descend id node .event edge (state.passing id)).2.journal := by
  have here : id ∉ (state.note (.started id)).scene.actor.guards := fresh
  simp only [execute_eq, work, kind, if_neg here, conclude, runGuarded, event]
  refine ⟨_, rfl, ?_, ?_⟩ <;> split <;> rfl

/-- A guard that was passed arrives nowhere. -/
theorem arrivals_of_mem_guards {descend : Descent σ} (kind : node.kind = .singleGuard)
    {state : EvalState σ} (passed : id ∈ state.guards) :
    surroundings.arrivals descend id node (state.note (.started id)) = [] := by
  have here : id ∈ (state.note (.started id)).scene.actor.guards := passed
  simp only [arrivals, kind, if_pos here]

/-- The executions of a guard within those that its elders and children come to. -/
def visitsBelow (surroundings : Surroundings σ) (guard : NodeId) (levels : Nat)
    (met : List (Arrival σ)) : List (Execution σ) :=
  (met.flatMap fun (child, found) => surroundings.executions levels child found).filter
    (·.id = guard)

/-- A property of runs: the tally of a guard is right. -/
def Tallies (surroundings : Surroundings σ) (guard : NodeId) (levels : Nat) : Prop :=
  ∀ id state, ∃ times,
    Tally guard state.guards (surroundings.run levels id state).2.guards
      ((surroundings.executions levels id state).filter (·.id = guard)) times ∧
    openings guard (surroundings.run levels id state).2.journal =
      openings guard state.journal + times

/-- The course of another node adds up the tallies of its children. -/
theorem Course.tally {levels : Nat} (tallies : surroundings.Tallies guard levels)
    (differs : id ≠ guard) {met : List (Arrival σ)} {before after : EvalState σ}
    (course : surroundings.Course (surroundings.run levels) id node before met after) :
    ∃ times, Tally guard before.guards after.guards (surroundings.visitsBelow guard levels met)
        times ∧
      openings guard after.journal = openings guard before.journal + times := by
  induction course with
  | start => exact ⟨0, .idle .rfl, rfl⟩
  | change _ change ih =>
      obtain ⟨times, tally, counted⟩ := ih
      obtain ⟨same, unopened⟩ := change.guard_unchanged differs
      exact ⟨times, by simpa using tally.trans (.idle same), unopened.trans counted⟩
  | look _ role ih =>
      obtain ⟨times, tally, counted⟩ := ih
      exact ⟨times, tally, by simpa [openings, EvalState.note, differs] using counted⟩
  | fail _ fault ih => exact ih
  | @enter met state _ child ih =>
      obtain ⟨times, tally, counted⟩ := ih
      obtain ⟨more, below, opened⟩ := tallies child state
      refine ⟨times + more, ?_, by omega⟩
      simpa [visitsBelow] using tally.trans below

variable (node) in
/-- The event of a guard that has just let the actor pass finds the guard shut. -/
theorem follow_shut {levels : Nat} (tallies : surroundings.Tallies id levels) (edge : Edge)
    {state : EvalState σ} (passed : id ∈ state.guards) :
    let ended := (surroundings.follow (surroundings.run levels) id node .event edge state).2
    id ∈ ended.guards ∧ openings id ended.journal = openings id state.journal + 1 ∧
      ∀ visit ∈ surroundings.visitsBelow id levels
        (surroundings.arrival id node .event edge state), id ∈ visit.before.guards := by
  simp only [follow, arrival]
  cases leads : surroundings.target node .event (state.note (.followed id .event)).scene edge with
  | error fault => exact ⟨passed, by simp [openings, EvalState.note, EvalState.fail], by
      simp [visitsBelow]⟩
  | ok child =>
      obtain ⟨times, tally, counted⟩ := tallies child (state.note (.followed id .event))
      obtain ⟨rfl, stays, all⟩ := tally.of_mem passed
      refine ⟨stays, ?_, by simpa [visitsBelow] using all⟩
      simpa [openings, EvalState.note] using counted

/-- The execution of a guard opens it if it is fresh, and nothing below opens it once
more. -/
theorem execute_guard_tally {levels : Nat} (below : surroundings.Tallies id levels)
    (kind : node.kind = .singleGuard) {edge : Edge} (event : node.children.event = some edge)
    (state : EvalState σ) {visit : Execution σ} (found : visit.before = state) :
    let ended := (surroundings.execute (surroundings.run levels) id node state).2
    ∃ times, Tally id state.guards ended.guards
        (visit :: surroundings.visitsBelow id levels
          (surroundings.arrivals (surroundings.run levels) id node (state.note (.started id))))
        times ∧
      openings id ended.journal = openings id state.journal + times := by
  subst found
  by_cases passed : id ∈ visit.before.guards
  · rw [arrivals_of_mem_guards kind passed, execute_of_mem_guards kind passed]
    exact ⟨0, .shut passed passed (by simpa [visitsBelow] using passed),
      by simp [openings, EvalState.note]⟩
  · obtain ⟨after, ended, scene, journal⟩ :=
      execute_of_notMem_guards surroundings node (surroundings.run levels) kind event passed
    have passing : id ∈ (visit.before.passing id).guards := by
      simp [EvalState.passing, EvalState.guards, EvalState.withActor, EvalState.withScene]
    obtain ⟨stays, counted, shut⟩ := follow_shut node below edge passing
    rw [arrivals_of_notMem_guards kind event passed, ended]
    refine ⟨1, .opened passed ?_ passed shut, ?_⟩
    · simpa only [EvalState.guards, scene] using stays
    · rw [journal, openings, List.count_cons_of_ne (by simp), ← openings, counted,
        EvalState.openings_passing]

/-- **The tally of a run.**  However deep it goes and wherever it leads, a guard is opened
by its first execution, and every later one finds it shut. -/
theorem tallies {node : Node Edge} (stands : surroundings.graph.nodes[guard]? = some node)
    (kind : node.kind = .singleGuard) {edge : Edge} (event : node.children.event = some edge)
    (levels : Nat) : surroundings.Tallies guard levels := by
  induction levels with
  | zero =>
      intro id state
      refine ⟨0, ?_, ?_⟩
      · simp only [run, executions]
        split <;> exact Tally.idle .rfl
      · simp only [run]
        split <;> simp [EvalState.note, EvalState.fail, openings]
  | succ levels ih =>
      intro id state
      simp only [executions, run]
      cases here : surroundings.graph.nodes[id]? with
      | none => exact ⟨0, Tally.idle .rfl, by simp [EvalState.note, openings]⟩
      | some other =>
          by_cases same : id = guard
          · subst same
            obtain rfl : other = node := Option.some.inj (here.symm.trans stands)
            rw [List.filter_cons_of_pos (by simp)]
            exact execute_guard_tally ih kind event state rfl
          · obtain ⟨outcome, worked, course, ended⟩ :=
              execute_course surroundings (surroundings.run levels) id other state
            obtain ⟨times, tally, counted⟩ := course.tally ih same
            simp only [ended]
            refine ⟨times, ?_, ?_⟩
            · rw [List.filter_cons_of_neg (by simpa using same)]
              exact tally
            · simpa [openings, EvalState.note] using counted

end Surroundings

/-! ### Sessions -/

/-- The executions of a node among those of some performances. -/
def visitsOf (id : NodeId) (performances : List (Performance σ)) : List (Execution σ) :=
  (performances.flatMap Performance.executions).filter (·.id = id)

/-- How often the event of a guard is followed in some performances. -/
def openingsIn (guard : NodeId) (performances : List (Performance σ)) : Nat :=
  (performances.map fun performance => openings guard performance.evaluation.journal).sum

namespace BehaviorGraph

variable {graph : BehaviorGraph} {guard : NodeId} {node : Node Edge} {edge : Edge}
  {first last : Scene σ} {performances : List (Performance σ)}

/-- What performances do to a guard. -/
def Settles (guard : NodeId) (first : Scene σ) (performances : List (Performance σ))
    (last : Scene σ) : Prop :=
  Tally guard first.actor.guards last.actor.guards (visitsOf guard performances)
    (openingsIn guard performances)

/-- Two rows of performances that settle the guard settle it in a row. -/
theorem Settles.trans {between : Scene σ} {more : List (Performance σ)}
    (one : Settles guard first performances between) (two : Settles guard between more last) :
    Settles guard first (performances ++ more) last := by
  simpa [Settles, visitsOf, openingsIn] using Tally.trans one two

theorem Settles.idle (same : last.actor.guards = first.actor.guards) :
    Settles guard first [] last :=
  Tally.idle (by rw [same])

theorem settles_evaluateNode (stands : graph.nodes[guard]? = some node)
    (kind : node.kind = .singleGuard) (event : node.children.event = some edge)
    {surroundings : Surroundings σ} (shared : surroundings.graph = graph) (id : NodeId)
    (locks : AxisLocks) (scene : Scene σ) :
    Settles guard scene [{ surroundings, event := id, locks, scene }]
      (surroundings.evaluateNode id locks scene).2 := by
  subst shared
  obtain ⟨times, tally, counted⟩ :=
    Surroundings.tallies stands kind event (surroundings.maxDepth + 1) id (.begin scene locks)
  have once : openings guard (surroundings.evaluateNode id locks scene).1.journal = times := by
    rw [show openings guard (EvalState.begin scene locks).journal = 0 from rfl,
      Nat.zero_add] at counted
    exact counted
  simp only [Settles, visitsOf, openingsIn, List.flatMap_cons, List.flatMap_nil, List.append_nil,
    List.map_cons, List.map_nil, List.sum_cons, List.sum_nil, Nat.add_zero, Performance.evaluation]
  rw [once]
  exact tally

/-- A dispatch settles a guard, performance by performance. -/
theorem settles_dispatch (stands : graph.nodes[guard]? = some node)
    (kind : node.kind = .singleGuard) (event : node.children.event = some edge)
    {surroundings : Surroundings σ} (shared : surroundings.graph = graph)
    {start ended : Dispatched σ} (performs : surroundings.Performs start performances ended) :
    Settles guard start.scene performances ended.scene := by
  induction performs with
  | rest => exact .idle rfl
  | adjust _ sustained scene calls ih =>
      refine (List.append_nil _ ▸ ih.trans (.idle ?_) : _)
      rw [scene]
  | invoke _ reason id locks ih =>
      exact ih.trans (settles_evaluateNode stands kind event shared id locks _)

/-- A session settles a guard. -/
theorem Session.settles (session : graph.Session first performances last)
    (stands : graph.nodes[guard]? = some node) (kind : node.kind = .singleGuard)
    (event : node.children.event = some edge) : Settles guard first performances last := by
  induction session with
  | begin => exact .idle rfl
  | meanwhile _ other guards ih => simpa using ih.trans (.idle guards)
  | @evaluate _ scene _ surroundings shared root ih =>
      refine ih.trans ?_
      simp only [Surroundings.evaluate, Surroundings.namedPerformances]
      cases surroundings.graph.resolve? scene.actor.home root false with
      | none => exact .idle rfl
      | some id => exact settles_evaluateNode stands kind event shared id {} scene
  | evaluateNode _ shared id locks ih =>
      exact ih.trans (settles_evaluateNode stands kind event shared id locks _)
  | @dispatch _ scene _ surroundings shared template keys ih =>
      obtain ⟨ended, same, performs⟩ := surroundings.dispatch_performs template keys scene
      rw [same]
      exact ih.trans (settles_dispatch stands kind event shared performs)

/-- A guard of a loaded graph has an event. -/
theorem exists_event_of_singleGuard {document : Document}
    (loaded : BehaviorGraph.load document = .ok graph) (stands : graph.nodes[guard]? = some node)
    (kind : node.kind = .singleGuard) : ∃ edge, node.children.event = some edge :=
  exists_event_of_needsEvent loaded stands (by rw [kind]; rfl)

/-- **One-shot guards.**  In whatever happens to an actor for which a guard is fresh, the
event of the guard is followed once if the guard is executed at all, and else never.  Its
first execution succeeds; every later one fails and leaves the scene, the signals and the
faults as they were. -/
theorem guard_opens_once {document : Document} (loaded : BehaviorGraph.load document = .ok graph)
    (stands : graph.nodes[guard]? = some node) (kind : node.kind = .singleGuard)
    (session : graph.Session first performances last) (fresh : guard ∉ first.actor.guards) :
    openingsIn guard performances = min 1 (visitsOf guard performances).length ∧
      (∀ visit ∈ (visitsOf guard performances).head?, visit.outcome = .success) ∧
      ∀ visit ∈ (visitsOf guard performances).tail,
        visit.outcome = .failure ∧ visit.after.scene = visit.before.scene ∧
          visit.after.signals = visit.before.signals ∧
          visit.after.faults = visit.before.faults := by
  obtain ⟨edge, event⟩ := exists_event_of_singleGuard loaded stands kind
  have settles : Tally guard first.actor.guards _ _ _ := session.settles stands kind event
  -- The tally of the whole session tells the visit that opens the guard from the later ones.
  obtain ⟨once, opens, shut⟩ := settles.of_notMem fresh
  have executed : ∀ visit ∈ visitsOf guard performances, ∃ surroundings : Surroundings σ, ∃ below,
      surroundings.execute (surroundings.run below) guard node visit.before =
        (visit.outcome, visit.after) := by
    intro visit member
    obtain ⟨among, same⟩ := List.mem_filter.mp member
    obtain ⟨performance, here, inside⟩ := List.mem_flatMap.mp among
    obtain ⟨other, below, found, ended⟩ := Surroundings.exists_of_mem_executions inside
    rw [session.graph_eq performance here, of_decide_eq_true same, stands] at found
    cases found
    rw [of_decide_eq_true same] at ended
    exact ⟨_, _, ended⟩
  refine ⟨once, ?_, ?_⟩
  · intro visit member
    obtain ⟨surroundings, below, ended⟩ := executed visit (List.mem_of_mem_head? member)
    obtain ⟨after, success, -⟩ :=
      Surroundings.execute_of_notMem_guards surroundings node (surroundings.run below) kind event
        (opens visit member)
    exact (Prod.mk.inj (ended.symm.trans success)).1
  · intro visit member
    obtain ⟨surroundings, below, ended⟩ := executed visit (List.mem_of_mem_tail member)
    rw [Surroundings.execute_of_mem_guards kind (shut visit member)] at ended
    obtain ⟨outcome, after⟩ := Prod.mk.inj ended
    rw [← outcome, ← after]
    exact ⟨rfl, rfl, rfl, rfl⟩

end BehaviorGraph

/-! ### An example: a gate that leads back to itself -/

/-- A guest behind whose gate is a hall with a variable way on. -/
def gatehouse : Document :=
  { actors :=
      [ { name := "Guest"
          events :=
            [ { name := "Gate", kind := "single-guard"
                properties := [{ name := "EVENT", value := .text "Hall" }] },
              { name := "Hall", kind := "multi"
                properties := [{ name := "1", value := .text "*way" }] } ] } ] }

/-- The graph of the gatehouse: the gate is number 0, the hall number 1. -/
def gatehouseGraph : BehaviorGraph := (BehaviorGraph.load gatehouse).toOption.getD {}

def gatehouseVisit : Surroundings Controller :=
  rehearsal gatehouseGraph 8 0.5 (.fixed false 0) []

/-- The scene of a guest whose way leads from the hall to the gate. -/
def gatehouseScene : Scene Controller :=
  { actor := { id := 1, template := "Guest", store := .ofList [("way", .text "Gate")] }
    map := .empty
    requests := []
    animation := .instant }

/-- The guest comes to the gate, from the hall to the gate once more, and later a third
time. -/
theorem guard_opens_once_gatehouse :
    let performances := gatehouseVisit.namedPerformances "Gate" gatehouseScene ++
      gatehouseVisit.namedPerformances "Gate"
        (gatehouseVisit.evaluate "Gate" gatehouseScene).2
    BehaviorGraph.load gatehouse = .ok gatehouseGraph ∧
      (∃ last, gatehouseGraph.Session gatehouseScene performances last) ∧
      0 ∉ gatehouseScene.actor.guards ∧
      (visitsOf 0 performances).map Execution.outcome = [.success, .failure, .failure] ∧
      openingsIn 0 performances = 1 := by
  intro performances
  have loaded : BehaviorGraph.load gatehouse = .ok gatehouseGraph := by rfl
  have shared : gatehouseVisit.graph = gatehouseGraph := rfl
  have session : gatehouseGraph.Session gatehouseScene performances _ :=
    (BehaviorGraph.Session.begin.evaluate shared "Gate").evaluate shared "Gate"
  have stands : gatehouseGraph.nodes[0]? = some (gatehouseGraph.nodes[0]?.getD default) := by rfl
  have visits :
      (visitsOf 0 performances).map Execution.outcome = [.success, .failure, .failure] := by
    decide
  obtain ⟨once, -⟩ :=
    BehaviorGraph.guard_opens_once loaded stands (by rfl) session List.not_mem_nil
  refine ⟨loaded, ⟨_, session⟩, List.not_mem_nil, visits, ?_⟩
  rw [once, ← List.length_map Execution.outcome, visits]
  rfl

end Stagecraft
