/-
Module: Stagecraft.Proofs.Dispatch
Purpose: What the parts of a dispatch do to the sustained actions of the actor and
  to the list of calls.
Main exports:
  SustainedActions.Keyed, SustainedAction.Leads, SustainedActions.ranked_perm,
  ranked_pairwise, without, find?_without, find?_activate, find?_remove,
  Surroundings.evaluateNode_sustained, invoke_calls
-/
import Stagecraft.Evaluation.KeyDispatch
import Stagecraft.Proofs.Activity
import Stagecraft.Proofs.Links

namespace Stagecraft

variable {σ : Type}

/-! ### The actions of an actor -/

/-- An action has its turn before another one: by its priority, and of equal
priorities by having begun no earlier. -/
def SustainedAction.Leads (first later : SustainedAction) : Prop :=
  later.priority.rank < first.priority.rank ∨
    first.priority.rank = later.priority.rank ∧ later.seq ≤ first.seq

namespace SustainedAction.Leads

variable {first second third : SustainedAction}

theorem trans (ahead : first.Leads second) (behind : second.Leads third) :
    first.Leads third := by
  rcases ahead with higher | ⟨same, later⟩ <;> rcases behind with lower | ⟨equal, earlier⟩
  · exact .inl (Int32.lt_trans lower higher)
  · exact .inl (equal ▸ higher)
  · exact .inl (same ▸ lower)
  · exact .inr ⟨same.trans equal, Nat.le_trans earlier later⟩

theorem of_outranks (above : SustainedActions.outranks first second = true) :
    first.Leads second := by
  simp only [SustainedActions.outranks, Bool.or_eq_true, Bool.and_eq_true, decide_eq_true_eq,
    beq_iff_eq] at above
  exact above.imp_right fun both => ⟨both.1, Nat.le_of_lt both.2⟩

/-- An action that does not outrank another one is led by it. -/
theorem of_not_outranks (below : ¬ SustainedActions.outranks first second = true) :
    second.Leads first := by
  simp only [SustainedActions.outranks, Bool.or_eq_true, Bool.and_eq_true, decide_eq_true_eq,
    beq_iff_eq, not_or, not_and, Nat.not_lt] at below
  by_cases same : first.priority.rank = second.priority.rank
  · exact .inr ⟨same.symm, below.2 same⟩
  · exact .inl (Int32.lt_of_le_of_ne (Int32.not_lt.mp below.1) same)

end SustainedAction.Leads

namespace SustainedActions

variable {actions : SustainedActions}

/-- No key has two actions. -/
def Keyed (actions : SustainedActions) : Prop := (actions.active.map Prod.fst).Nodup

/-- The actions less those of some keys. -/
def without (actions : SustainedActions) (gone : KeyName → Bool) : SustainedActions :=
  { actions with active := actions.active.filter fun entry => !gone entry.1 }

theorem find?_without (actions : SustainedActions) (gone : KeyName → Bool) (key : KeyName) :
    (actions.without gone).find? key = if gone key then none else actions.find? key := by
  have kept := lookup_filter_fst actions.active (fun other => !gone other) key
  simp only [find?, without]
  rw [kept]
  cases gone key <;> rfl

theorem remove_eq_without (actions : SustainedActions) (key : KeyName) :
    actions.remove key = actions.without fun other => other == key :=
  rfl

theorem find?_remove (actions : SustainedActions) (key other : KeyName) :
    (actions.remove key).find? other = if other = key then none else actions.find? other := by
  rw [remove_eq_without, find?_without]
  simp only [beq_iff_eq]

/-- To activate a key replaces its action by a new one, with the next sequence number. -/
theorem find?_activate (actions : SustainedActions) (binding : KeyBinding) (event : NodeId)
    (other : KeyName) :
    (actions.activate binding event).find? other =
      if other = binding.key then
        some
          { event
            priority := binding.priority
            seq := actions.nextSeq
            stopEvent := binding.stopEvent }
      else actions.find? other := by
  have others : (actions.active.filter fun entry => entry.1 != binding.key).lookup other =
      if other = binding.key then none else actions.find? other :=
    find?_remove actions binding.key other
  simp only [activate]
  rw [find?, List.lookup_append, others, lookup_cons_eq_ite]
  by_cases same : other = binding.key <;> simp [same]

theorem mem_remove {entry : KeyName × SustainedAction} {key : KeyName}
    (member : entry ∈ (actions.remove key).active) : entry ∈ actions.active :=
  (List.mem_filter.mp member).1

/-- Every action then is an old one or the new one. -/
theorem mem_activate {entry : KeyName × SustainedAction} {binding : KeyBinding} {event : NodeId}
    (member : entry ∈ (actions.activate binding event).active) :
    entry ∈ actions.active ∨ entry.2.event = event ∧ entry.2.stopEvent = binding.stopEvent := by
  rcases List.mem_append.mp member with old | new
  · exact .inl (List.mem_filter.mp old).1
  · rw [List.mem_singleton.mp new]
    exact .inr ⟨rfl, rfl⟩

theorem Keyed.remove (keyed : actions.Keyed) (key : KeyName) : (actions.remove key).Keyed :=
  keyed.sublist (List.filter_sublist.map _)

/-- No key gets a second action. -/
theorem Keyed.activate (keyed : actions.Keyed) (binding : KeyBinding) (event : NodeId) :
    (actions.activate binding event).Keyed := by
  simp only [Keyed, SustainedActions.activate]
  rw [List.map_append, List.nodup_append]
  refine ⟨keyed.sublist (List.filter_sublist.map _), by simp, ?_⟩
  intro key old other new same
  obtain ⟨entry, kept, rfl⟩ := List.mem_map.mp old
  have differs := (List.mem_filter.mp kept).2
  simp only [List.map_cons, List.map_nil, List.mem_singleton] at new
  rw [same, new] at differs
  simp at differs

theorem placeByRank_perm (entry : KeyName × SustainedAction)
    (ranked : List (KeyName × SustainedAction)) :
    (placeByRank entry ranked).Perm (entry :: ranked) := by
  induction ranked with
  | nil => exact .refl _
  | cons first rest ih =>
      simp only [placeByRank]
      split
      · exact .refl _
      · exact (ih.cons first).trans (.swap entry first rest)

/-- Ranking drops no action and adds none. -/
theorem ranked_perm (actions : SustainedActions) : actions.ranked.Perm actions.active := by
  simp only [ranked]
  induction actions.active with
  | nil => exact .refl _
  | cons entry rest ih => exact (placeByRank_perm entry _).trans (ih.cons entry)

/-- An action is put behind those that lead it and before those that it leads. -/
theorem placeByRank_pairwise (entry : KeyName × SustainedAction)
    {ranked : List (KeyName × SustainedAction)}
    (ordered : ranked.Pairwise fun first later => first.2.Leads later.2) :
    (placeByRank entry ranked).Pairwise fun first later => first.2.Leads later.2 := by
  induction ranked with
  | nil => exact List.pairwise_singleton _ _
  | cons first rest ih =>
      obtain ⟨leads, ordered⟩ := List.pairwise_cons.mp ordered
      simp only [placeByRank]
      split
      · next above =>
          have ahead := SustainedAction.Leads.of_outranks above
          refine List.pairwise_cons.mpr ⟨?_, List.pairwise_cons.mpr ⟨leads, ordered⟩⟩
          intro other member
          rcases List.mem_cons.mp member with rfl | later
          · exact ahead
          · exact ahead.trans (leads other later)
      · next below =>
          refine List.pairwise_cons.mpr ⟨?_, ih ordered⟩
          intro other member
          rcases List.mem_cons.mp ((placeByRank_perm entry rest).mem_iff.mp member) with rfl | later
          · exact .of_not_outranks below
          · exact leads other later

/-- The actions are in the order of their turns. -/
theorem ranked_pairwise (actions : SustainedActions) :
    actions.ranked.Pairwise fun first later => first.2.Leads later.2 := by
  simp only [ranked]
  induction actions.active with
  | nil => exact .nil
  | cons entry rest ih => exact placeByRank_pairwise entry ih

end SustainedActions

/-! ### Evaluations leave the actions alone -/

/-- No variable holds the sustained actions. -/
theorem Scene.sustained_changeVariable {scene changed : Scene σ} {mode : SetMode}
    {name : String} {operand : Value} {isGlobal : Bool}
    (written : scene.changeVariable mode name operand isGlobal = .ok changed) :
    changed.actor.sustained = scene.actor.sustained := by
  obtain ⟨_, _, _, _, _, rfl⟩ := Scene.exists_of_changeVariable written
  rfl

namespace Surroundings

variable {surroundings : Surroundings σ}

theorem keeps_sustained (actions : SustainedActions) :
    surroundings.Keeps fun state => state.scene.actor.sustained = actions where
  note _ same := same
  fail _ _ same := same
  change := by
    intro id node before after _ change same
    cases change with
    | propel axis change free => cases axis <;> exact same
    | land kind grounded =>
        simp only [EvalState.land]
        split <;> exact same
    | assign kind changed => exact (Scene.sustained_changeVariable changed).trans same
    | measure | move | turn | leave | pose | pass | animate | complete | stop | issue =>
        exact same

/-- No event begins or ends an action. -/
theorem evaluateNode_sustained (id : NodeId) (locks : AxisLocks) (scene : Scene σ) :
    (surroundings.evaluateNode id locks scene).2.actor.sustained = scene.actor.sustained := by
  have keeps : surroundings.Keeps fun state =>
      state.scene.actor.sustained = scene.actor.sustained := keeps_sustained _
  have begun : (EvalState.begin scene locks).scene.actor.sustained = scene.actor.sustained := rfl
  obtain ⟨state, same, after, -⟩ := keeps.evaluateNode id begun
  rw [after]
  exact same

theorem invoke_sustained (reason : CallReason) (event : NodeId) (locks : AxisLocks)
    (state : Dispatched σ) :
    (surroundings.invoke reason event locks state).2.sustained = state.sustained :=
  evaluateNode_sustained event locks state.scene

/-- Every call is reported, with its evaluation, after those before it. -/
theorem invoke_calls (reason : CallReason) (event : NodeId) (locks : AxisLocks)
    (state : Dispatched σ) :
    (surroundings.invoke reason event locks state).2.report.calls =
      state.report.calls ++
        [{ reason, event, evaluation := (surroundings.invoke reason event locks state).1 }] :=
  rfl

end Surroundings

namespace Dispatched

theorem sustained_finish (state : Dispatched σ) (key : KeyName) :
    (state.finish key).sustained = state.sustained.remove key := rfl

theorem calls_finish (state : Dispatched σ) (key : KeyName) :
    (state.finish key).report.calls = state.report.calls := rfl

theorem sustained_cancel (state : Dispatched σ) (key : KeyName) :
    (state.cancel key).sustained = state.sustained.remove key := rfl

theorem calls_cancel (state : Dispatched σ) (key : KeyName) :
    (state.cancel key).report.calls = state.report.calls := rfl

end Dispatched

/-! ### What a dispatch keeps -/

/-- The events of some actions are all of one sort. -/
def SustainedActions.All (good : NodeId → Prop) (actions : SustainedActions) : Prop :=
  ∀ entry ∈ actions.active,
    good entry.2.event ∧ ∀ event, entry.2.stopEvent = some event → good event

/-- A dispatch under way whose actions have different keys, and whose actions and
calls have events of one sort. -/
structure Dispatched.Within (surroundings : Surroundings σ) (good : NodeId → Prop)
    (state : Dispatched σ) : Prop where
  keyed : state.sustained.Keyed
  actions : state.sustained.All good
  calls : ∀ call ∈ state.report.calls, good call.event ∧ ∃ locks scene,
    call.evaluation = (surroundings.evaluateNode call.event locks scene).1

namespace Dispatched.Within

open Surroundings

variable {surroundings : Surroundings σ} {good : NodeId → Prop} {state : Dispatched σ}

/-- A call of a fitting event keeps the dispatch to events of that sort. -/
theorem invoke (within : state.Within surroundings good) (reason : CallReason) {event : NodeId}
    (fits : good event) (locks : AxisLocks) :
    (surroundings.invoke reason event locks state).2.Within surroundings good where
  keyed := by
    rw [invoke_sustained]
    exact within.keyed
  actions := by
    rw [invoke_sustained]
    exact within.actions
  calls := by
    intro call member
    rw [invoke_calls] at member
    rcases List.mem_append.mp member with earlier | latest
    · exact within.calls call earlier
    · rw [List.mem_singleton.mp latest]
      exact ⟨fits, locks, state.scene, rfl⟩

/-- To take an action away harms nothing, whatever else is reported. -/
theorem remove (within : state.Within surroundings good) {key : KeyName} {after : Dispatched σ}
    (sustained : after.sustained = state.sustained.remove key)
    (calls : after.report.calls = state.report.calls) : after.Within surroundings good where
  keyed := by
    rw [sustained]
    exact within.keyed.remove key
  actions := by
    rw [sustained]
    exact fun entry member => within.actions entry (SustainedActions.mem_remove member)
  calls := by
    rw [calls]
    exact within.calls

theorem finish (within : state.Within surroundings good) (key : KeyName) :
    (state.finish key).Within surroundings good :=
  within.remove (sustained_finish state key) (calls_finish state key)

theorem cancel (within : state.Within surroundings good) (key : KeyName) :
    (state.cancel key).Within surroundings good :=
  within.remove (sustained_cancel state key) (calls_cancel state key)

theorem release (within : state.Within surroundings good) (key : KeyName) :
    (surroundings.release key state).Within surroundings good := by
  simp only [Surroundings.release]
  split
  · exact within
  · next action found =>
      split
      · exact within.finish key
      · next event stops =>
          obtain ⟨before, after, active, -⟩ := List.lookup_eq_some_iff.mp found
          have member : (key, action) ∈ state.sustained.active := by
            rw [active]
            exact List.mem_append_right _ List.mem_cons_self
          exact (within.finish key).invoke _ ((within.actions _ member).2 event stops) _

/-- To engage a key adds no events but those of its binding. -/
theorem engage (within : state.Within surroundings good) {binding : KeyBinding}
    {event : NodeId} (fits : good event)
    (stops : ∀ stop, binding.stopEvent = some stop → good stop) :
    (Surroundings.engage binding event state).Within surroundings good := by
  simp only [Surroundings.engage]
  split
  · exact within
  · refine ⟨within.keyed.activate binding event, ?_, within.calls⟩
    intro entry member
    rcases SustainedActions.mem_activate member with old | ⟨event, stop⟩
    · exact within.actions entry old
    · rw [event, stop]
      exact ⟨fits, stops⟩

theorem handle (within : state.Within surroundings good) (keys : KeyName → KeyEdge)
    {binding : KeyBinding} (fits : ∀ event, binding.event = some event → good event)
    (stops : ∀ stop, binding.stopEvent = some stop → good stop) :
    (surroundings.handle keys state binding).Within surroundings good := by
  simp only [Surroundings.handle]
  split
  · exact within
  · next event acts =>
      split
      · unfold handleSustained
        have engaged : (if (keys binding.key).pressed = true then
            Surroundings.engage binding event state else state).Within surroundings good := by
          split
          · exact within.engage (fits event acts) stops
          · exact within
        simp only
        split
        · exact engaged.release _
        · exact engaged
      · split
        · exact within.invoke _ (fits event acts) _
        · exact within

/-- A sustained action calls its own event and no other. -/
theorem sustainOne {pass : RankedPass σ} (within : pass.state.Within surroundings good)
    {entry : KeyName × SustainedAction} (fits : good entry.2.event) :
    (surroundings.sustainOne pass entry).state.Within surroundings good := by
  have invoked := within.invoke (.held entry.1) fits pass.locks
  simp only [Surroundings.sustainOne]
  split
  · exact invoked.cancel entry.1
  · exact invoked

/-- All bindings of a template are handled within the events that it runs. -/
theorem handleAll {template : Template} (runs : ∀ id, template.Runs id → good id)
    (keys : KeyName → KeyEdge) {scene : Scene σ} (keyed : scene.actor.sustained.Keyed)
    (actions : scene.actor.sustained.All good) :
    (surroundings.handleAll template keys scene).Within surroundings good := by
  have start : Within surroundings good { scene } :=
    ⟨keyed, actions, fun _ member => absurd member List.not_mem_nil⟩
  apply List.foldlRecOn _ _ start
  intro state within binding member
  exact within.handle keys (fun event acts => runs event (.event member acts))
    fun stop stops => runs stop (.stopEvent member stops)

theorem sustain (within : state.Within surroundings good)
    {entries : List (KeyName × SustainedAction)} (fits : ∀ entry ∈ entries, good entry.2.event) :
    (surroundings.sustain entries state).state.Within surroundings good := by
  simp only [Surroundings.sustain]
  refine List.foldlRecOn (motive := fun pass : RankedPass σ => pass.state.Within surroundings good)
    _ _ within ?_
  intro pass within entry member
  exact within.sustainOne (fits entry member)

theorem releaseTaps (within : state.Within surroundings good) (template : Template)
    (keys : KeyName → KeyEdge) :
    (surroundings.releaseTaps template keys state).Within surroundings good := by
  apply List.foldlRecOn _ _ within
  intro state within binding _
  exact within.release binding.key

end Dispatched.Within

namespace Surroundings

variable {surroundings : Surroundings σ} {good : NodeId → Prop}

/-- A dispatch runs only events of the template and of actions, and leaves the
actor with such actions. -/
theorem dispatch_within {template : Template} (runs : ∀ id, template.Runs id → good id)
    (keys : KeyName → KeyEdge) {scene : Scene σ} (keyed : scene.actor.sustained.Keyed)
    (actions : scene.actor.sustained.All good) :
    let ended := surroundings.dispatch template keys scene
    ended.2.actor.sustained.Keyed ∧ ended.2.actor.sustained.All good ∧
      ∀ call ∈ ended.1.calls, good call.event ∧ ∃ locks scene,
        call.evaluation = (surroundings.evaluateNode call.event locks scene).1 := by
  have handled : (surroundings.handleAll template keys scene).Within surroundings good :=
    .handleAll runs keys keyed actions
  have fits : ∀ entry ∈ (surroundings.handleAll template keys scene).sustained.ranked,
      good entry.2.event := by
    intro entry member
    exact (handled.actions entry ((SustainedActions.ranked_perm _).mem_iff.mp member)).1
  have ended := (handled.sustain fits).releaseTaps template keys
  exact ⟨ended.keyed, ended.actions, ended.calls⟩

/-- A dispatch leaves no key with two actions. -/
theorem dispatch_keyed (template : Template) (keys : KeyName → KeyEdge) {scene : Scene σ}
    (keyed : scene.actor.sustained.Keyed) :
    (surroundings.dispatch template keys scene).2.actor.sustained.Keyed := by
  have all : scene.actor.sustained.All fun _ => True := fun _ _ => ⟨trivial, fun _ _ => trivial⟩
  exact (dispatch_within (fun _ _ => trivial) keys keyed all).1

end Surroundings

end Stagecraft
