/-
Module: Stagecraft.Proofs.CycleReports
Purpose: The search reports simple cycles only, and a loop over a stack of cursors
  ends with the same reports.
Main exports:
  EdgeTable.SimpleCycle, Sweep, Sweep.step, Sweep.Reaches, Sweep.Mirrors,
  cycle_search_is_exact
-/
import Mathlib.Data.List.Chain
import Mathlib.Data.List.Nodup
import Mathlib.Logic.Function.Basic
import Stagecraft.Proofs.CycleSearch

namespace Stagecraft

open Relation (ReflTransGen)

variable {table : EdgeTable}

/-- Once around a cycle: along the edges back to the start, and to no node twice on
the way. -/
inductive EdgeTable.SimpleCycle (table : EdgeTable) : List Nat → Prop where
  | around {start : Nat} {others : List Nat}
      (edges : List.IsChain table.Edge (start :: others ++ [start]))
      (simple : (start :: others).Nodup) : SimpleCycle table (start :: others ++ [start])

/-! ### What a search reports -/

namespace Search

/-- An edge from the end of a path to one of its nodes closes a simple cycle. -/
theorem closedBy_simpleCycle {node target : Nat} {above : List Nat}
    (trail : List.IsChain (fun later earlier => table.Edge earlier later) (node :: above))
    (nodup : (node :: above).Nodup) (edge : table.Edge node target)
    (back : target ∈ node :: above) : table.SimpleCycle (closedBy target (node :: above)) := by
  obtain ⟨before, others, listed, fresh⟩ :=
    List.eq_append_cons_of_mem (List.mem_reverse.mpr back)
  have closed : closedBy target (node :: above) = target :: others ++ [target] := by
    rw [closedBy, listed, List.dropWhile_append_of_pos, List.dropWhile_cons_of_neg (by simp)]
    intro other member
    simpa using fun same : other = target => fresh (same ▸ member)
  have suffix : target :: others <:+ (node :: above).reverse := ⟨before, listed.symm⟩
  have last : (target :: others).getLast? = some node := by
    rw [← List.getLast?_append_cons before target others, ← listed, List.getLast?_reverse]
    rfl
  rw [closed]
  refine .around (List.isChain_append.mpr ⟨?_, .singleton target, ?_⟩) ?_
  · exact (List.isChain_reverse.mpr trail).suffix suffix
  · intro other ends next begins
    obtain rfl : node = other := Option.some.inj (last.symm.trans ends)
    obtain rfl : target = next := Option.some.inj begins
    exact edge
  · exact (List.nodup_reverse.mpr nodup).sublist suffix.sublist

/-- A search that has reported nothing but simple cycles. -/
def Sound (table : EdgeTable) (search : Search) : Prop :=
  ∀ cycle ∈ search.cycles, table.SimpleCycle cycle

/-- Looking along edges adds sound reports, if the edges that lead back close simple
cycles and the visits add sound reports. -/
theorem foldl_follow_sound {visit : Nat → Search → Search} {path targets : List Nat}
    (closes : ∀ target ∈ targets, target ∈ path → table.SimpleCycle (closedBy target path))
    (visits : ∀ target ∈ targets, target ∉ path →
      ∀ search, Sound table search → Sound table (visit target search))
    {search : Search} (sound : Sound table search) :
    Sound table (targets.foldl (follow visit path) search) := by
  induction targets generalizing search with
  | nil => exact sound
  | cons target rest ih =>
      obtain ⟨closing, closes⟩ := List.forall_mem_cons.mp closes
      obtain ⟨here, visits⟩ := List.forall_mem_cons.mp visits
      apply ih closes visits
      simp only [follow]
      split
      · next back =>
          intro cycle member
          rcases List.mem_append.mp member with known | new
          · exact sound cycle known
          · rw [List.mem_singleton.mp new]
            exact closing (by simpa using back)
      · next ahead =>
          split
          · exact sound
          · exact here (by simpa using ahead) search sound

/-- A visit adds sound reports, as the path to its node follows edges and repeats no
node. -/
theorem visit_sound (fuel : Nat) {path : List Nat} {node : Nat}
    (trail : List.IsChain (fun later earlier => table.Edge earlier later) (node :: path))
    (nodup : (node :: path).Nodup) {search : Search} (sound : Sound table search) :
    Sound table (visit table fuel path node search) := by
  induction fuel generalizing path node search with
  | zero => exact sound
  | succ fuel ih =>
      have looked : Sound table ((table.targets node).foldl
          (follow (visit table fuel (node :: path)) (node :: path)) search) := by
        apply foldl_follow_sound _ _ sound
        · intro target edge back
          exact closedBy_simpleCycle trail nodup edge back
        · intro target edge fresh search sound
          exact ih (.cons_cons edge trail) (List.nodup_cons.mpr ⟨fresh, nodup⟩) sound
      exact looked

end Search

/-- The search reports nothing but simple cycles. -/
theorem findCycles_sound (table : EdgeTable) :
    ∀ cycle ∈ findCycles table, table.SimpleCycle cycle := by
  apply Search.foldl_follow_sound
  · exact fun _ _ back => absurd back List.not_mem_nil
  · intro node _ _ search sound
    exact Search.visit_sound _ (.singleton node) (List.nodup_singleton node) sound
  · exact fun _ member => absurd member List.not_mem_nil

/-! ### The search as a loop

The same search can be made without recursion.  The loop keeps a stack of nodes, each
with the position of the edge along which to look next, and marks every node that it
has met.  Nothing bounds its rounds from the outside.
-/

/-- What the loop knows about a node: nothing, that it is on the stack, or that it is
done. -/
inductive Mark where
  | new
  | active
  | done
deriving Repr, DecidableEq, Inhabited

/-- The loop under way: the nodes that are still to be tried as starts, the stack with
the innermost node first, the marks, and the cycles found so far. -/
structure Sweep where
  starts : List Nat
  stack : List (Nat × Nat)
  marks : Nat → Mark
  cycles : List (List Nat)

namespace Sweep

def begin (table : EdgeTable) : Sweep :=
  { starts := List.range table.length, stack := [], marks := fun _ => .new, cycles := [] }

def enter (sweep : Sweep) (node : Nat) : Sweep :=
  { sweep with
    stack := (node, 0) :: sweep.stack
    marks := Function.update sweep.marks node .active }

/-- The part of the stack from a node on, from the outside inwards, and the node once
more; the whole stack if the node is not on it. -/
def closing (sweep : Sweep) (node : Nat) : List Nat :=
  let path := (sweep.stack.map Prod.fst).reverse
  path.drop ((path.findIdx? (· == node)).getD 0) ++ [node]

/-- Look along an edge. -/
def look (sweep : Sweep) (target : Nat) : Sweep :=
  match sweep.marks target with
  | .new => sweep.enter target
  | .active => { sweep with cycles := sweep.cycles ++ [sweep.closing target] }
  | .done => sweep

/-- One round of the loop.  There is none when no start is left. -/
def step (table : EdgeTable) (sweep : Sweep) : Option Sweep :=
  match sweep.stack with
  | [] =>
      match sweep.starts with
      | [] => none
      | start :: rest =>
          let sweep := { sweep with starts := rest }
          some (if sweep.marks start = .new then sweep.enter start else sweep)
  | (node, next) :: below =>
      match (table.targets node)[next]? with
      | some target => some (({ sweep with stack := (node, next + 1) :: below }).look target)
      | none =>
          some { sweep with
            stack := below
            marks := Function.update sweep.marks node .done }

/-- Any number of rounds. -/
abbrev Reaches (table : EdgeTable) : Sweep → Sweep → Prop :=
  ReflTransGen fun before after => step table before = some after

/-- The loop and the search have come to the same: the nodes on the stack are those of
the path, and the marks say which nodes are on the path and which are finished. -/
structure Mirrors (sweep : Sweep) (untried : List Nat) (frames : List (Nat × Nat))
    (search : Search) : Prop where
  starts : sweep.starts = untried
  stack : sweep.stack = frames
  active : ∀ node, sweep.marks node = .active ↔ node ∈ frames.map Prod.fst
  done : ∀ node, sweep.marks node = .done ↔ node ∈ search.finished
  cycles : sweep.cycles = search.cycles

namespace Mirrors

variable {sweep : Sweep} {untried : List Nat} {frames : List (Nat × Nat)} {search : Search}

/-- A node is new to the loop if it is neither on the path nor finished. -/
theorem new_iff (mirrors : sweep.Mirrors untried frames search) (node : Nat) :
    sweep.marks node = .new ↔ node ∉ frames.map Prod.fst ∧ node ∉ search.finished := by
  rw [← mirrors.active, ← mirrors.done]
  cases sweep.marks node <;> simp

/-- To enter a new node puts it on the path, with none of its children tried. -/
theorem enter (mirrors : sweep.Mirrors untried frames search) {node : Nat}
    (new : sweep.marks node = .new) :
    (sweep.enter node).Mirrors untried ((node, 0) :: frames) search where
  starts := mirrors.starts
  stack := by simp only [Sweep.enter, mirrors.stack]
  active other := by
    by_cases same : other = node
    · simp [Sweep.enter, same]
    · simp [Sweep.enter, same, mirrors.active]
  done other := by
    by_cases same : other = node
    · simp [Sweep.enter, same, ((mirrors.new_iff node).mp new).2]
    · simp [Sweep.enter, same, mirrors.done]
  cycles := mirrors.cycles

/-- The loop reports the cycle that the search reports. -/
theorem closing_eq (mirrors : sweep.Mirrors untried frames search) {node : Nat}
    (back : node ∈ frames.map Prod.fst) :
    sweep.closing node = Search.closedBy node (frames.map Prod.fst) := by
  have met : node ∈ (frames.map Prod.fst).reverse := List.mem_reverse.mpr back
  have found : (frames.map Prod.fst).reverse.findIdx? (· == node) =
      some ((frames.map Prod.fst).reverse.findIdx (· == node)) := by
    rw [List.findIdx?_eq_some_iff_findIdx_eq]
    exact ⟨List.findIdx_lt_length_of_exists ⟨node, met, by simp⟩, rfl⟩
  simp only [closing, mirrors.stack, found, Option.getD_some, Search.closedBy,
    List.dropWhile_eq_drop_findIdx_not, bne, Bool.not_not]

end Mirrors

/-- If visits go the same way, so does looking along the edges of a node from some
position on. -/
theorem reaches_foldl_follow {visit : Nat → Search → Search} {node : Nat}
    {below : List (Nat × Nat)} {untried : List Nat}
    (visits : ∀ target ∈ table.targets node, target ∉ node :: below.map Prod.fst →
      ∀ {next : Nat} {sweep : Sweep} {search : Search},
        sweep.Mirrors untried ((target, 0) :: (node, next) :: below) search →
        ∃ after, Reaches table sweep after ∧
          after.Mirrors untried ((node, next) :: below) (visit target search))
    {targets : List Nat} {next : Nat} (rest : (table.targets node).drop next = targets)
    {sweep : Sweep} {search : Search}
    (mirrors : sweep.Mirrors untried ((node, next) :: below) search) :
    ∃ after last, Reaches table sweep after ∧ (table.targets node)[last]? = none ∧
      after.Mirrors untried ((node, last) :: below)
        (targets.foldl (Search.follow visit (node :: below.map Prod.fst)) search) := by
  -- The top frame keeps a place in the list of targets.  The induction is on what is left of
  -- the list from there on.
  induction targets generalizing next sweep search with
  | nil =>
      refine ⟨sweep, next, .refl, ?_, mirrors⟩
      exact List.getElem?_eq_none (List.drop_eq_nil_iff.mp rest)
  | cons target later ih =>
      have here : (table.targets node)[next]? = some target := by
        rw [← List.head?_drop, rest]
        rfl
      have there : (table.targets node).drop (next + 1) = later := by
        rw [← List.tail_drop, rest]
        rfl
      have round : step table sweep =
          some (({ sweep with stack := (node, next + 1) :: below }).look target) := by
        simp only [step, mirrors.stack, here]
      have moved : ({ sweep with stack := (node, next + 1) :: below } : Sweep).Mirrors untried
          ((node, next + 1) :: below) search :=
        { mirrors with stack := rfl }
      generalize ({ sweep with stack := (node, next + 1) :: below } : Sweep) = onwards
        at round moved
      rw [List.foldl_cons]
      cases mark : onwards.marks target with
      | active =>
          -- The edge closes a cycle, which the loop cuts out of its stack and the search out
          -- of its path.
          have back := (moved.active target).mp mark
          have closed : (onwards.look target).Mirrors untried ((node, next + 1) :: below)
              (Search.follow visit (node :: below.map Prod.fst) search target) := by
            have known : target ∈ node :: below.map Prod.fst := back
            simp only [look, mark, Search.follow, List.contains_iff_mem, known, if_true]
            exact { moved with cycles := by rw [moved.cycles, moved.closing_eq back]; rfl }
          obtain ⟨after, last, reaches, ended, same⟩ := ih there closed
          exact ⟨after, last, .head round reaches, ended, same⟩
      | done =>
          have finished := (moved.done target).mp mark
          have ahead : target ∉ node :: below.map Prod.fst := by
            intro back
            rw [(moved.active target).mpr back] at mark
            cases mark
          have passed : (onwards.look target).Mirrors untried ((node, next + 1) :: below)
              (Search.follow visit (node :: below.map Prod.fst) search target) := by
            simp only [look, mark, Search.follow, List.contains_iff_mem, ahead, finished, if_true,
              if_false]
            exact moved
          obtain ⟨after, last, reaches, ended, same⟩ := ih there passed
          exact ⟨after, last, .head round reaches, ended, same⟩
      | new =>
          -- One round pushes the node, and the rounds of its own visit take it off again.
          obtain ⟨ahead, unfinished⟩ := (moved.new_iff target).mp mark
          have edge : target ∈ table.targets node := List.mem_of_getElem? here
          obtain ⟨visited, through, returned⟩ := visits target edge ahead (moved.enter mark)
          have followed : Search.follow visit (node :: below.map Prod.fst) search target =
              visit target search := by
            have ahead : target ∉ node :: below.map Prod.fst := ahead
            simp only [Search.follow, List.contains_iff_mem, ahead, unfinished, if_false]
          obtain ⟨after, last, reaches, ended, same⟩ := ih there (followed ▸ returned)
          refine ⟨after, last, .head round ?_, ended, same⟩
          simp only [look, mark]
          exact through.trans reaches

/-- The loop visits a node that it has put on its stack, and takes it off again.  The
depth suffices for every path that can still grow out of the stack. -/
theorem reaches_visit (inRange : table.InRange) (fuel : Nat) {node : Nat}
    {below : List (Nat × Nat)} {untried : List Nat}
    (nodup : (node :: below.map Prod.fst).Nodup)
    (within : ∀ other ∈ node :: below.map Prod.fst, other < table.length)
    (enough : table.length < below.length + fuel) {sweep : Sweep} {search : Search}
    (mirrors : sweep.Mirrors untried ((node, 0) :: below) search) :
    ∃ after, Reaches table sweep after ∧
      after.Mirrors untried below (Search.visit table fuel (below.map Prod.fst) node search) := by
  -- The path never holds a node twice, so the fuel lasts for as many nodes as there are.
  induction fuel generalizing node below sweep search with
  | zero =>
      have bound := length_le_of_nodup nodup within
      simp only [List.length_cons, List.length_map] at bound
      omega
  | succ fuel ih =>
      have looked : ∃ after last, Reaches table sweep after ∧
          (table.targets node)[last]? = none ∧
          after.Mirrors untried ((node, last) :: below)
            ((table.targets node).foldl (Search.follow
              (Search.visit table fuel (node :: below.map Prod.fst)) (node :: below.map Prod.fst))
              search) := by
        apply reaches_foldl_follow _ List.drop_zero mirrors
        intro target edge fresh next sweep search mirrors
        apply ih _ _ _ mirrors
        · exact List.nodup_cons.mpr ⟨fresh, nodup⟩
        · exact List.forall_mem_cons.mpr ⟨inRange node target edge, within⟩
        · simp only [List.length_cons]
          omega
      obtain ⟨between, last, reaches, ended, same⟩ := looked
      -- No target is left, so that the next round takes the node off the stack.
      have round : step table between = some { between with
          stack := below
          marks := Function.update between.marks node .done } := by
        simp only [step, same.stack, ended]
      refine ⟨_, reaches.tail round, same.starts, rfl, ?_, ?_, same.cycles⟩
      · intro other
        by_cases here : other = node
        · simpa [here] using (List.nodup_cons.mp nodup).1
        · simp [here, same.active]
      · intro other
        by_cases here : other = node
        · simp [here, Search.visit]
        · simp [here, same.done, Search.visit]

/-- From an empty stack the loop tries all starts that are left. -/
theorem reaches_starts (inRange : table.InRange) {untried : List Nat}
    (within : ∀ start ∈ untried, start < table.length) {sweep : Sweep} {search : Search}
    (mirrors : sweep.Mirrors untried [] search) :
    ∃ after, Reaches table sweep after ∧ after.Mirrors [] []
      (untried.foldl (Search.follow (Search.visit table (table.length + 1) []) []) search) := by
  induction untried generalizing sweep search with
  | nil => exact ⟨sweep, .refl, mirrors⟩
  | cons start rest ih =>
      obtain ⟨here, within⟩ := List.forall_mem_cons.mp within
      have moved : ({ sweep with starts := rest } : Sweep).Mirrors rest [] search :=
        { mirrors with starts := rfl }
      have round : step table sweep = some (
          if ({ sweep with starts := rest } : Sweep).marks start = .new then
            ({ sweep with starts := rest } : Sweep).enter start
          else { sweep with starts := rest }) := by
        simp only [step, mirrors.stack, mirrors.starts]
      generalize ({ sweep with starts := rest } : Sweep) = onwards at round moved
      rw [List.foldl_cons]
      by_cases mark : onwards.marks start = .new
      · rw [if_pos mark] at round
        obtain ⟨visited, through, returned⟩ := reaches_visit inRange (table.length + 1)
          (List.nodup_singleton start) (by simpa using here) (by simp) (moved.enter mark)
        have followed : Search.follow (Search.visit table (table.length + 1) []) [] search start =
            Search.visit table (table.length + 1) [] start search := by
          simp [Search.follow, ((moved.new_iff start).mp mark).2]
        obtain ⟨after, reaches, same⟩ := ih within (followed ▸ returned)
        exact ⟨after, .head round (through.trans reaches), same⟩
      · -- The stack is empty, so a start that is not new has been finished before.
        rw [if_neg mark] at round
        have finished : start ∈ search.finished := by
          simpa [moved.new_iff start] using mark
        have followed : Search.follow (Search.visit table (table.length + 1) []) [] search start =
            search := by
          simp [Search.follow, finished]
        obtain ⟨after, reaches, same⟩ := ih within (followed.symm ▸ moved)
        exact ⟨after, .head round reaches, same⟩

/-- The loop comes to its end, and then it has found what the search finds. -/
theorem exists_end (inRange : table.InRange) :
    ∃ last, Reaches table (.begin table) last ∧ step table last = none ∧
      last.cycles = findCycles table := by
  have begun : (begin table).Mirrors (List.range table.length) [] {} :=
    { starts := rfl
      stack := rfl
      active := by simp [begin]
      done := by simp [begin]
      cycles := rfl }
  obtain ⟨last, reaches, same⟩ :=
    reaches_starts inRange (fun _ => List.mem_range.mp) begun
  refine ⟨last, reaches, ?_, same.cycles⟩
  simp only [step, same.stack, same.starts]

end Sweep

/-- **The search for cycles is exact.**  On a table whose edges lead to its nodes, the
loop comes to an end; it has then found a cycle exactly if there is one; and every list
that it reports is a simple cycle. -/
theorem cycle_search_is_exact (inRange : table.InRange) :
    (∃ last, Sweep.Reaches table (.begin table) last ∧ Sweep.step table last = none ∧
      last.cycles = findCycles table) ∧
    (findCycles table = [] ↔ table.Acyclic) ∧
    ∀ cycle ∈ findCycles table, table.SimpleCycle cycle :=
  ⟨Sweep.exists_end inRange,
    ⟨acyclic_of_findCycles_eq_nil inRange, findCycles_eq_nil_of_acyclic⟩,
    findCycles_sound table⟩

/-! ### An example: a ring with a loop -/

/-- Three nodes in a ring, of which the last leads to itself as well. -/
def ringRoad : EdgeTable := [[1], [2], [0, 2]]

/-- Both the ring and the loop at its last node are found. -/
theorem cycle_search_is_exact_ringRoad :
    ringRoad.InRange ∧ findCycles ringRoad = [[0, 1, 2, 0], [2, 2]] ∧
      ringRoad.SimpleCycle [0, 1, 2, 0] ∧
      ringRoad.SimpleCycle [2, 2] ∧ ¬ ringRoad.Acyclic := by
  have inRange : ringRoad.InRange := by
    rintro (_ | _ | _ | source) target edge <;> revert target edge <;>
      simp [EdgeTable.Edge, EdgeTable.targets, ringRoad]
  have found : findCycles ringRoad = [[0, 1, 2, 0], [2, 2]] := by decide
  obtain ⟨-, exact, simple⟩ := cycle_search_is_exact inRange
  rw [found] at exact simple
  refine ⟨inRange, found, simple _ (by simp), simple _ (by simp), ?_⟩
  exact fun acyclic => absurd (exact.mpr acyclic) (by simp)

end Stagecraft
