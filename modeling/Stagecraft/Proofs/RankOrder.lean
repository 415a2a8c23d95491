/-
Module: Stagecraft.Proofs.RankOrder
Purpose: The turns of sustained actions have one order only, however the actions are
  stored and sorted.
Main exports:
  SustainedActions.begunKeys, SustainedActions.History, SustainedActions.Recorded,
  SustainedActions.ranking_is_total
-/
import Stagecraft.Proofs.DispatchRounds

namespace Stagecraft

variable {σ : Type}

/-!
An action is numbered by the actions that began before it, and the number is never used
again.  So of two actions of one priority the numbers tell which began later, and the
order of turns leaves nothing open.
-/

/-- Only actions of one number lead each other. -/
theorem SustainedAction.Leads.seq_eq {first second : SustainedAction}
    (ahead : first.Leads second) (behind : second.Leads first) : first.seq = second.seq := by
  rcases ahead with higher | ⟨same, since⟩
  · rcases behind with lower | ⟨equal, -⟩
    · exact absurd lower (Int32.lt_asymm higher)
    · exact absurd equal (Int32.ne_of_lt higher)
  · rcases behind with lower | ⟨-, before⟩
    · exact absurd same (Int32.ne_of_lt lower)
    · exact Nat.le_antisymm before since

/-! ### The record of what began -/

namespace SustainedActions

/-- The keys for which a dispatch begins actions, in order. -/
def begunKeys (template : Template) (keys : KeyName → KeyEdge) (before : SustainedActions) :
    List KeyName :=
  (before.begun keys (Template.duties template.bindings)).map Prod.fst

/-- Dispatches for an actor that had no actions yet: the keys for which they began
actions, in order, and the actions with which they leave the actor.  Each of them may
have its own surroundings and find the actor changed in all other respects. -/
inductive History (σ : Type) : List KeyName → SustainedActions → Prop where
  | idle : History σ [] {}
  | dispatch (surroundings : Surroundings σ) (template : Template) (keys : KeyName → KeyEdge)
      {scene : Scene σ} {begun : List KeyName}
      (earlier : History σ begun scene.actor.sustained) :
      History σ (begun ++ scene.actor.sustained.begunKeys template keys)
        (surroundings.dispatch template keys scene).2.actor.sustained

/-- The actions fit a record of the keys for which actions began: there is one for each
place in the record, and an action has the number of the last place of its key. -/
structure Recorded (begun : List KeyName) (actions : SustainedActions) : Prop where
  keyed : actions.Keyed
  counted : actions.nextSeq = begun.length
  latest : ∀ entry ∈ actions.active, ∃ earlier since,
    begun = earlier ++ entry.1 :: since ∧ earlier.length = entry.2.seq ∧ entry.1 ∉ since

variable {begun : List KeyName} {actions before : SustainedActions} {keys : KeyName → KeyEdge}

/-- The actions begun in a tick are numbered on from those before. -/
theorem seq_of_getElem?_begun {duties : List Duty} {place : Nat}
    {entry : KeyName × SustainedAction} (found : (before.begun keys duties)[place]? = some entry) :
    entry.2.seq = before.nextSeq + place := by
  simp only [SustainedActions.begun, List.getElem?_map, List.getElem?_zipIdx,
    Option.map_eq_some_iff] at found
  obtain ⟨_, ⟨duty, _, rfl⟩, rfl⟩ := found
  rfl

namespace Recorded

theorem idle : Recorded [] {} := by
  refine ⟨List.nodup_nil, rfl, ?_⟩
  intro entry member
  cases member

/-- To end actions harms nothing. -/
theorem without (recorded : actions.Recorded begun) (gone : KeyName → Bool) :
    (actions.without gone).Recorded begun where
  keyed := recorded.keyed.sublist (List.filter_sublist.map _)
  counted := recorded.counted
  latest entry member := recorded.latest entry (List.mem_filter.mp member).1

/-- The actions that begin are entered into the record. -/
theorem acting (recorded : before.Recorded begun) {duties : List Duty}
    (keyed : (before.acting keys duties).Keyed) :
    (before.acting keys duties).Recorded
      (begun ++ (before.begun keys duties).map Prod.fst) where
  keyed := keyed
  counted := by
    simp only [SustainedActions.acting]
    rw [recorded.counted, List.length_append, List.length_map]
  latest := by
    intro entry member
    unfold Keyed at keyed
    simp only [SustainedActions.acting] at member keyed
    rw [List.map_append, List.nodup_append'] at keyed
    obtain ⟨-, once, apart⟩ := keyed
    rcases List.mem_append.mp member with old | new
    · -- No action begins for a key that still has one.
      obtain ⟨earlier, since, listed, place, last⟩ :=
        recorded.latest entry (List.mem_filter.mp old).1
      refine ⟨earlier, since ++ (before.begun keys duties).map Prod.fst, ?_, place, ?_⟩
      · rw [listed, List.append_assoc, List.cons_append]
      · rw [List.mem_append, not_or]
        exact ⟨last, apart (List.mem_map_of_mem old)⟩
    · obtain ⟨ahead, behind, listed⟩ := List.append_of_mem new
      have found : (before.begun keys duties)[ahead.length]? = some entry := by
        rw [listed, List.getElem?_append_right (Nat.le_refl _), Nat.sub_self]
        rfl
      rw [listed, List.map_append, List.map_cons] at once ⊢
      refine ⟨begun ++ ahead.map Prod.fst, behind.map Prod.fst, ?_, ?_, ?_⟩
      · rw [List.append_assoc]
      · rw [seq_of_getElem?_begun found, recorded.counted, List.length_append, List.length_map]
      · exact (List.nodup_cons.mp (List.nodup_append.mp once).2.1).1

end Recorded

end SustainedActions

/-- A dispatch begins actions, and ends some. -/
theorem Surroundings.exists_sustained_dispatch (surroundings : Surroundings σ)
    (template : Template) (keys : KeyName → KeyEdge) {scene : Scene σ}
    (keyed : scene.actor.sustained.Keyed) :
    let acting := scene.actor.sustained.acting keys (Template.duties template.bindings)
    acting.Keyed ∧ ∃ gone,
      (surroundings.dispatch template keys scene).2.actor.sustained = acting.without gone := by
  obtain ⟨opened, ranked, closed, handled, keyedStill, turned, closes, whole⟩ :=
    surroundings.exists_rounds template keys keyed
  have left : closed.sustained = _ := closes.sustained
  rw [turned.sustained, SustainedActions.without_without, handled.sustained] at left
  rw [handled.sustained] at keyedStill
  intro acting
  rw [whole]
  exact ⟨keyedStill, _, left⟩

namespace SustainedActions

variable {begun : List KeyName} {actions : SustainedActions}

/-- Every history keeps the record. -/
theorem History.recorded (history : History σ begun actions) : actions.Recorded begun := by
  induction history with
  | idle => exact .idle
  | dispatch surroundings template keys earlier recorded =>
      obtain ⟨keyed, gone, left⟩ :=
        surroundings.exists_sustained_dispatch template keys recorded.keyed
      rw [left]
      exact (recorded.acting keyed).without gone

/-! ### The order of turns -/

namespace Recorded

variable {first later : KeyName × SustainedAction}

/-- The number of an action is the place of its key. -/
theorem getElem?_seq (recorded : actions.Recorded begun) {entry : KeyName × SustainedAction}
    (member : entry ∈ actions.active) : begun[entry.2.seq]? = some entry.1 := by
  obtain ⟨earlier, since, listed, place, -⟩ := recorded.latest entry member
  rw [listed, ← place, List.getElem?_append_right (Nat.le_refl _), Nat.sub_self]
  rfl

/-- The next number has not been given yet. -/
theorem seq_lt (recorded : actions.Recorded begun) {entry : KeyName × SustainedAction}
    (member : entry ∈ actions.active) : entry.2.seq < actions.nextSeq := by
  rw [recorded.counted]
  exact (List.getElem?_eq_some_iff.mp (recorded.getElem?_seq member)).1

/-- No two actions have one number. -/
theorem eq_of_seq_eq (recorded : actions.Recorded begun) (here : first ∈ actions.active)
    (there : later ∈ actions.active) (same : first.2.seq = later.2.seq) : first = later := by
  have key := recorded.getElem?_seq here
  rw [same, recorded.getElem?_seq there] at key
  exact List.inj_on_of_nodup_map recorded.keyed here there (Option.some.inj key).symm

/-- No two actions have the same number. -/
theorem nodup_seqs (recorded : actions.Recorded begun) :
    (actions.active.map fun entry => entry.2.seq).Nodup := by
  have nodup : actions.active.Nodup := recorded.keyed.of_map
  apply nodup.map_on
  intro first here later there same
  exact recorded.eq_of_seq_eq here there same

/-- An action that began later than another one began after the last time the other
one did. -/
theorem began_since (recorded : actions.Recorded begun) (here : first ∈ actions.active)
    (there : later ∈ actions.active) (less : later.2.seq < first.2.seq) :
    ∃ earlier since, begun = earlier ++ first.1 :: since ∧ later.1 ∈ earlier ∧
      later.1 ∉ first.1 :: since := by
  obtain ⟨earlier, since, listed, place, last⟩ := recorded.latest first here
  obtain ⟨ahead, behind, again, number, never⟩ := recorded.latest later there
  -- The last place of the other key lies in front of that of the first key.
  rw [← place, ← number] at less
  rw [again] at listed
  obtain ⟨between, rfl, rest⟩ : ∃ between, earlier = ahead ++ later.1 :: between ∧
      behind = between ++ first.1 :: since := by
    rcases List.append_eq_append_iff.mp listed with ⟨middle, front, back⟩ | ⟨middle, front, -⟩
    · cases middle with
      | nil =>
          rw [front, List.append_nil] at less
          exact absurd less (Nat.lt_irrefl _)
      | cons key between =>
          obtain ⟨rfl, rfl⟩ := List.cons.inj back
          exact ⟨between, front, rfl⟩
    · rw [front, List.length_append] at less
      exact absurd less (by omega)
  refine ⟨_, since, again.trans listed, by simp, ?_⟩
  rw [rest, List.mem_append, not_or] at never
  exact never.2

/-- What leads another action without being it comes strictly first. -/
theorem lex_of_leads (recorded : actions.Recorded begun) (here : first ∈ actions.active)
    (there : later ∈ actions.active) (differs : first ≠ later)
    (leads : first.2.Leads later.2) :
    Prod.Lex (· < ·) (· < ·) (later.2.priority.rank, later.2.seq)
      (first.2.priority.rank, first.2.seq) := by
  rcases leads with higher | ⟨same, since⟩
  · exact .left _ _ higher
  · have less : later.2.seq < first.2.seq := by
      apply Nat.lt_of_le_of_ne since
      intro equal
      exact differs (recorded.eq_of_seq_eq here there equal.symm)
    rw [same]
    exact .right _ less

/-- There is only one way to list the actions by rank. -/
theorem eq_of_pairwise (recorded : actions.Recorded begun)
    {one other : List (KeyName × SustainedAction)} (perm : one.Perm actions.active)
    (again : other.Perm actions.active)
    (ordered : one.Pairwise fun first later => first.2.Leads later.2)
    (sorted : other.Pairwise fun first later => first.2.Leads later.2) : one = other := by
  apply List.Perm.eq_of_pairwise _ ordered sorted (perm.trans again.symm)
  intro first later here there ahead behind
  apply recorded.eq_of_seq_eq (perm.mem_iff.mp here) (again.mem_iff.mp there)
  exact ahead.seq_eq behind

end Recorded

/-- **The order of turns is strict and leaves nothing open.**  Take any dispatches for an
actor that begins without actions.  Each action has a number of its own, below the count
of the actions begun so far.  Every key with an action has one turn, and the turns go
strictly down by priority and number; so they are the same in whatever order the actions
are stored, and whatever way of sorting them puts none behind one that it outranks.  Of two
actions of one priority that comes first whose key began an action more recently. -/
theorem ranking_is_total (history : History σ begun actions) :
    (actions.nextSeq = begun.length ∧
      (actions.active.map fun entry => entry.2.seq).Nodup ∧
      ∀ entry ∈ actions.active, entry.2.seq < actions.nextSeq) ∧
    (actions.ranked.Perm actions.active ∧
      ∀ key, (actions.ranked.map Prod.fst).count key = if actions.isActive key then 1 else 0) ∧
    actions.ranked.Pairwise (fun first later =>
      Prod.Lex (· < ·) (· < ·) (later.2.priority.rank, later.2.seq)
        (first.2.priority.rank, first.2.seq)) ∧
    (∀ stored : SustainedActions, stored.active.Perm actions.active →
      stored.ranked = actions.ranked) ∧
    (∀ sorted : List (KeyName × SustainedAction), sorted.Perm actions.active →
      sorted.Pairwise (fun first later => first.2.Leads later.2) → sorted = actions.ranked) ∧
    actions.ranked.Pairwise (fun first later =>
      first.2.priority = later.2.priority → ∃ earlier since,
        begun = earlier ++ first.1 :: since ∧ later.1 ∈ earlier ∧
          later.1 ∉ first.1 :: since) := by
  have recorded := history.recorded
  have perm := actions.ranked_perm
  have ordered := actions.ranked_pairwise
  have nodup : (actions.ranked.map Prod.fst).Nodup :=
    (perm.map Prod.fst).nodup_iff.mpr recorded.keyed
  -- No action leads itself in the ranking.
  have strict : actions.ranked.Pairwise fun first later =>
      Prod.Lex (· < ·) (· < ·) (later.2.priority.rank, later.2.seq)
        (first.2.priority.rank, first.2.seq) := by
    apply (List.Pairwise.and nodup.of_map ordered).imp_of_mem
    intro first later here there both
    exact recorded.lex_of_leads (perm.mem_iff.mp here) (perm.mem_iff.mp there) both.1 both.2
  refine ⟨⟨recorded.counted, recorded.nodup_seqs, fun entry => recorded.seq_lt⟩, ⟨perm, ?_⟩,
    strict, ?_, ?_, ?_⟩
  · intro key
    rw [nodup.count]
    simp only [isActive_iff_mem, (perm.map Prod.fst).mem_iff]
  · intro stored same
    exact recorded.eq_of_pairwise (stored.ranked_perm.trans same) perm stored.ranked_pairwise
      ordered
  · intro sorted same falling
    exact recorded.eq_of_pairwise same perm falling ordered
  · apply strict.imp_of_mem
    intro first later here there lex same
    apply recorded.began_since (perm.mem_iff.mp here) (perm.mem_iff.mp there)
    rw [same] at lex
    cases lex with
    | left _ _ higher => exact absurd rfl (Int32.ne_of_lt higher)
    | right _ less => exact less

/-! ### An example: the organ once more -/

/-- The keys of a bar: some are struck and held, some go up. -/
def organStrokes (struck lifted : List String) (key : KeyName) : KeyEdge :=
  if key.text ∈ struck then { held := true, pressed := true }
  else if key.text ∈ lifted then { released := true }
  else {}

def organLoft : Surroundings Controller := rehearsal organGraph 8 0.5 (.fixed false 0) []

/-- The organist after a bar. -/
def afterStrokes (struck lifted : List String) (scene : Scene Controller) : Scene Controller :=
  (organLoft.dispatch organist (organStrokes struck lifted) scene).2

/-- The organist before the first bar. -/
def organRest : Scene Controller := { organScene with actor.sustained := {} }

/-- The organist strikes the chord and the pedal note, lets the chord go, and strikes it
again together with the cymbal, which stops itself. -/
def organChord : Scene Controller :=
  afterStrokes ["C", "X"] [] (afterStrokes [] ["C"] (afterStrokes ["H", "C"] [] organRest))

theorem History.strokes {begun : List KeyName} {scene : Scene Controller}
    (earlier : History Controller begun scene.actor.sustained) (struck lifted : List String) :
    History Controller
      (begun ++ scene.actor.sustained.begunKeys organist (organStrokes struck lifted))
      (afterStrokes struck lifted scene).actor.sustained :=
  earlier.dispatch organLoft organist (organStrokes struck lifted)

theorem history_organChord :
    History Controller [organKey "C", organKey "H", organKey "C", organKey "X"]
      organChord.actor.sustained := by
  have first : organRest.actor.sustained.begunKeys organist (organStrokes ["H", "C"] []) =
      [organKey "C", organKey "H"] := by decide
  have second : (afterStrokes ["H", "C"] [] organRest).actor.sustained.begunKeys organist
      (organStrokes [] ["C"]) = [] := by decide
  have third : (afterStrokes [] ["C"]
      (afterStrokes ["H", "C"] [] organRest)).actor.sustained.begunKeys organist
        (organStrokes ["C", "X"] []) = [organKey "C", organKey "X"] := by decide
  have rest : History Controller [] organRest.actor.sustained := .idle
  have played := ((rest.strokes ["H", "C"] []).strokes [] ["C"]).strokes ["C", "X"] []
  rw [first, second, third] at played
  exact played

/-- The chord was struck before the pedal note, but also after it, so it has its turn first,
in whatever order the two are stored. -/
theorem ranking_is_total_organ :
    let actions := organChord.actor.sustained
    History Controller [organKey "C", organKey "H", organKey "C", organKey "X"] actions ∧
      actions.nextSeq = 4 ∧
      actions.ranked.map (fun turn => (turn.1, turn.2.seq)) =
        [(organKey "C", 2), (organKey "H", 1)] ∧
      ({ actions with active := actions.active.reverse } : SustainedActions).ranked =
        actions.ranked ∧
      (actions.ranked.map Prod.fst).count (organKey "X") = 0 := by
  intro actions
  obtain ⟨⟨counted, -⟩, ⟨-, once⟩, -, stored, -⟩ := ranking_is_total history_organChord
  refine ⟨history_organChord, counted, by decide, ?_, ?_⟩
  · exact stored _ (List.reverse_perm _)
  · have idle : actions.isActive (organKey "X") = false := by decide
    rw [once, idle]
    rfl

end SustainedActions

end Stagecraft
