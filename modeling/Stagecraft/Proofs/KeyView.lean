/-
Module: Stagecraft.Proofs.KeyView
Purpose: A dispatch as a single key sees it: its action, and the events that run for
  the action and at its end.
Main exports:
  KeyBinding.sustains?, Template.sustains?, DispatchReport.eventsFor,
  DispatchReport.cancels, Dispatched.view, Surroundings.dispatch_key
-/
import Stagecraft.Proofs.Dispatch

namespace Stagecraft

variable {σ : Type}

/-!
All that matters to the action of a key is what its own sustained bindings do, so a
dispatch can be followed for each key by itself.  Several sustained bindings of one
key do no more than the first of them: it has begun the action, or ended it, before
the others are handled.
-/

/-- The event that a binding keeps up for a key, with the event for its end. -/
def KeyBinding.sustains? (binding : KeyBinding) (key : KeyName) :
    Option (NodeId × Option NodeId) :=
  if binding.sustained = true ∧ binding.key = key then
    binding.event.map fun event => (event, binding.stopEvent)
  else none

/-- The event that the first sustained binding of a key keeps up, with the event for
its end.  Bindings without an event do not count. -/
def Template.sustains? (template : Template) (key : KeyName) :
    Option (NodeId × Option NodeId) :=
  template.bindings.findSome? fun binding => binding.sustains? key

namespace DispatchReport

/-- The events that were run for a reason, in order. -/
def eventsFor (report : DispatchReport) (reason : CallReason) : List NodeId :=
  (report.calls.filter fun call => call.reason = reason).map Call.event

/-- Whether an event that was run for the action of a key raised STOP. -/
def cancels (report : DispatchReport) (key : KeyName) : Bool :=
  report.calls.any fun call => call.reason = .held key && call.evaluation.stopRaised

/-- A call adds its event to those of its own reason. -/
theorem eventsFor_add (report : DispatchReport) (call : Call) (reason : CallReason) :
    (report.add call).eventsFor reason =
      report.eventsFor reason ++ if call.reason = reason then [call.event] else [] := by
  simp only [eventsFor, add]
  rw [List.filter_append, List.map_append]
  by_cases same : call.reason = reason <;> simp [same]

/-- A key is cancelled if it was before, or if the call for it as a held key raises STOP. -/
theorem cancels_add (report : DispatchReport) (call : Call) (key : KeyName) :
    (report.add call).cancels key =
      (report.cancels key || (call.reason = .held key && call.evaluation.stopRaised)) := by
  simp [cancels, add]

end DispatchReport

/-- What concerns one key in a dispatch under way: the event of its action with that
for its end, the events that have run for the action and at its end, and whether STOP
has cancelled it. -/
structure KeyView where
  action : Option (NodeId × Option NodeId) := none
  held : List NodeId := []
  ended : List NodeId := []
  cancelled : Bool := false

/-- The action of a key with its two events. -/
def SustainedActions.events? (actions : SustainedActions) (key : KeyName) :
    Option (NodeId × Option NodeId) :=
  (actions.find? key).map fun action => (action.event, action.stopEvent)

/-- A dispatch as a key sees it. -/
def Dispatched.view (state : Dispatched σ) (key : KeyName) : KeyView :=
  { action := state.sustained.events? key
    held := state.report.eventsFor (.held key)
    ended := state.report.eventsFor (.ended key)
    cancelled := state.report.cancels key }

namespace KeyView

/-- An action begins unless there is one. -/
def start (view : KeyView) (action : NodeId × Option NodeId) : KeyView :=
  { view with action := view.action.or (some action) }

/-- The action ends, and the event for its end runs. -/
def finish (view : KeyView) : KeyView :=
  { view with action := none, ended := view.ended ++ (view.action.bind Prod.snd).toList }

/-- A sustained binding of the key is handled. -/
def act (edge : KeyEdge) (view : KeyView) (action : NodeId × Option NodeId) : KeyView :=
  let view := if edge.pressed then view.start action else view
  if edge.released && !edge.pressed then view.finish else view

/-- The event of the action runs, if there is one, and may raise STOP. -/
def hold (view : KeyView) (stop : Bool) : KeyView :=
  match view.action with
  | none => view
  | some action =>
      { view with
        action := if stop then none else some action
        held := view.held ++ [action.1]
        cancelled := view.cancelled || stop }

/-- An event runs, for the key or not. -/
def record (view : KeyView) (key : KeyName) (call : Call) : KeyView :=
  { view with
    held := view.held ++ if call.reason = .held key then [call.event] else []
    ended := view.ended ++ if call.reason = .ended key then [call.event] else []
    cancelled :=
      view.cancelled || (call.reason = .held key && call.evaluation.stopRaised) }

/-- An event that runs for another reason goes unnoticed. -/
theorem record_of_ne (view : KeyView) {key : KeyName} {call : Call}
    (held : call.reason ≠ .held key) (ended : call.reason ≠ .ended key) :
    view.record key call = view := by
  simp [record, held, ended]

/-- A second sustained binding changes nothing more. -/
theorem act_act (edge : KeyEdge) (view : KeyView) (first second : NodeId × Option NodeId) :
    (view.act edge first).act edge second = view.act edge first := by
  simp only [act, start, finish]
  cases edge.pressed <;> cases edge.released <;> simp

theorem foldl_act (edge : KeyEdge) (view : KeyView) (first : NodeId × Option NodeId)
    (rest : List (NodeId × Option NodeId)) :
    (first :: rest).foldl (act edge) view = view.act edge first := by
  rw [List.foldl_cons]
  induction rest with
  | nil => rfl
  | cons second rest ih => rw [List.foldl_cons, act_act, ih]

/-- The action of a key after its bindings are handled: that of the first sustained
binding, if the key went down, and none, if it went up. -/
def begun (edge : KeyEdge) (first before : Option (NodeId × Option NodeId)) :
    Option (NodeId × Option NodeId) :=
  if edge.pressed then first else if edge.released then none else before

/-- The turn of a key from the edge of its tick to the STOP of its event. -/
theorem hold_act (edge : KeyEdge) (sharp : ¬ (edge.pressed = true ∧ edge.released = true))
    {first before : Option (NodeId × Option NodeId)} (fits : before = none ∨ before = first)
    (stop : Bool) :
    (match first with
      | none => { action := before : KeyView }
      | some action => KeyView.act edge { action := before } action).hold stop =
      { action := if (begun edge first before).isSome && stop then none
          else begun edge first before
        held := ((begun edge first before).map Prod.fst).toList
        ended := if edge.released then (before.bind Prod.snd).toList else []
        cancelled := (begun edge first before).isSome && stop } := by
  rcases edge with ⟨heldNow, pressed, released⟩
  simp only [begun]
  cases first with
  | none =>
      obtain rfl : before = none := fits.elim id id
      simp [hold]
  | some action =>
      rcases fits with rfl | rfl <;> cases pressed <;> cases released <;>
        simp_all [hold, act, start, finish]

end KeyView

/-! ### The parts of a dispatch -/

namespace SustainedActions

theorem isActive_eq_isSome_events? (actions : SustainedActions) (key : KeyName) :
    actions.isActive key = (actions.events? key).isSome := by
  simp only [isActive, events?]
  rw [Option.isSome_map]

/-- To remove one key leaves the events of all others. -/
theorem events?_remove (actions : SustainedActions) (key other : KeyName) :
    (actions.remove key).events? other = if other = key then none else actions.events? other := by
  simp only [events?]
  rw [find?_remove]
  split <;> rfl

/-- To activate a key gives it the events of its binding and leaves those of all others. -/
theorem events?_activate (actions : SustainedActions) (binding : KeyBinding) (event : NodeId)
    (other : KeyName) :
    (actions.activate binding event).events? other =
      if other = binding.key then some (event, binding.stopEvent)
      else actions.events? other := by
  simp only [events?]
  rw [find?_activate]
  split <;> rfl

end SustainedActions

namespace Surroundings

variable {surroundings : Surroundings σ}

/-- The view on a key changes by what the call puts on record for it. -/
theorem view_invoke (reason : CallReason) (event : NodeId) (locks : AxisLocks)
    (state : Dispatched σ) (key : KeyName) :
    (surroundings.invoke reason event locks state).2.view key =
      (state.view key).record key
        { reason, event
          evaluation := (surroundings.invoke reason event locks state).1 } := by
  simp only [Dispatched.view, KeyView.record]
  rw [invoke_sustained]
  simp only [invoke]
  rw [DispatchReport.eventsFor_add, DispatchReport.eventsFor_add, DispatchReport.cancels_add]

/-- To take away the action of a key concerns that key only, whatever else is
reported. -/
theorem view_of_remove {state after : Dispatched σ} {key : KeyName}
    (sustained : after.sustained = state.sustained.remove key)
    (calls : after.report.calls = state.report.calls) (other : KeyName) :
    after.view other =
      if other = key then { state.view other with action := none } else state.view other := by
  simp only [Dispatched.view, DispatchReport.eventsFor, DispatchReport.cancels]
  rw [sustained, calls, SustainedActions.events?_remove]
  split <;> rfl

/-- To end the action of a key concerns that key only. -/
theorem view_release (key other : KeyName) (state : Dispatched σ) :
    (surroundings.release key state).view other =
      if other = key then (state.view other).finish else state.view other := by
  have finished := view_of_remove (state.sustained_finish key) (state.calls_finish key) other
  unfold release
  split
  · next absent =>
      split
      · next same =>
          subst same
          have idle : state.sustained.events? other = none := by
            simp [SustainedActions.events?, absent]
          simp [KeyView.finish, Dispatched.view, idle]
      · rfl
  · next action found =>
      have events : state.sustained.events? key = some (action.event, action.stopEvent) := by
        simp [SustainedActions.events?, found]
      split
      · next endless =>
          rw [finished]
          split
          · next same =>
              subst same
              simp [KeyView.finish, Dispatched.view, events, endless]
          · rfl
      · next event stops =>
          rw [view_invoke, finished]
          split
          · next same =>
              subst same
              simp [KeyView.finish, KeyView.record, Dispatched.view, events, stops]
          · next differs =>
              exact KeyView.record_of_ne _ nofun fun same => differs (by cases same; rfl)

/-- To begin an action concerns its key only. -/
theorem view_engage (binding : KeyBinding) (event : NodeId) (state : Dispatched σ)
    (key : KeyName) :
    (engage binding event state).view key =
      if key = binding.key then (state.view key).start (event, binding.stopEvent)
      else state.view key := by
  simp only [engage]
  split
  · next active =>
      split
      · next same =>
          subst same
          obtain ⟨action, found⟩ := Option.isSome_iff_exists.mp active
          simp [KeyView.start, Dispatched.view, SustainedActions.events?, found]
      · rfl
  · next idle =>
      have events := state.sustained.events?_activate binding event key
      split
      · next same =>
          rw [if_pos same] at events
          have absent : state.sustained.events? key = none := by
            subst same
            have absent : state.sustained.find? binding.key = none := by
              simpa [SustainedActions.isActive] using idle
            simp [SustainedActions.events?, absent]
          simp only [Dispatched.view, KeyView.start]
          simp only [KeyView.mk.injEq, absent, Option.none_or]
          exact ⟨events, rfl, rfl, rfl⟩
      · next differs =>
          rw [if_neg differs] at events
          simp only [Dispatched.view]
          simp only [KeyView.mk.injEq]
          exact ⟨events, rfl, rfl, rfl⟩

/-- A sustained binding acts on the view of its own key. -/
theorem view_handleSustained_self (binding : KeyBinding) (event : NodeId) (edge : KeyEdge)
    (state : Dispatched σ) :
    (surroundings.handleSustained binding event edge state).view binding.key =
      (state.view binding.key).act edge (event, binding.stopEvent) := by
  have started : (if edge.pressed = true then engage binding event state else state).view
      binding.key = if edge.pressed = true then
        (state.view binding.key).start (event, binding.stopEvent)
      else state.view binding.key := by
    split
    · rw [view_engage, if_pos rfl]
    · rfl
  simp only [handleSustained, KeyView.act]
  rw [← started]
  split
  · rw [view_release, if_pos rfl]
  · rfl

theorem view_handleSustained_of_ne (binding : KeyBinding) (event : NodeId) (edge : KeyEdge)
    (state : Dispatched σ) {key : KeyName} (differs : binding.key ≠ key) :
    (surroundings.handleSustained binding event edge state).view key = state.view key := by
  have started : (if edge.pressed = true then engage binding event state else state).view key =
      state.view key := by
    split
    · rw [view_engage, if_neg differs.symm]
    · rfl
  simp only [handleSustained]
  split
  · rw [view_release, if_neg differs.symm, started]
  · exact started

/-- To handle a binding concerns its key only, and that only if it is sustained. -/
theorem view_handle (keys : KeyName → KeyEdge) (state : Dispatched σ) (binding : KeyBinding)
    (key : KeyName) :
    (surroundings.handle keys state binding).view key =
      match binding.sustains? key with
      | none => state.view key
      | some action => (state.view key).act (keys key) action := by
  unfold handle KeyBinding.sustains?
  cases binding.event with
  | none => simp
  | some event =>
      simp only
      by_cases sustained : binding.sustained = true
      · rw [if_pos sustained]
        by_cases same : binding.key = key
        · subst same
          rw [if_pos ⟨sustained, rfl⟩]
          exact view_handleSustained_self binding event _ state
        · rw [if_neg fun both => same both.2]
          exact view_handleSustained_of_ne binding event _ state same
      · have plain : ¬ (binding.sustained = true ∧ binding.key = key) :=
          fun both => sustained both.1
        rw [if_neg sustained, if_neg plain]
        simp only
        split
        · rw [view_invoke]
          exact KeyView.record_of_ne _ nofun nofun
        · rfl

/-- All bindings together do to a key what the first sustained one of it does. -/
theorem view_handleAll (template : Template) (keys : KeyName → KeyEdge) (scene : Scene σ)
    (key : KeyName) :
    (surroundings.handleAll template keys scene).view key =
      match template.sustains? key with
      | none => Dispatched.view { scene } key
      | some action => (Dispatched.view { scene } key).act (keys key) action := by
  have folded : ∀ (bindings : List KeyBinding) (state : Dispatched σ),
      (bindings.foldl (surroundings.handle keys) state).view key =
        (bindings.filterMap fun binding => binding.sustains? key).foldl
          (KeyView.act (keys key)) (state.view key) := by
    intro bindings
    induction bindings with
    | nil => exact fun state => rfl
    | cons binding rest ih =>
        intro state
        rw [List.foldl_cons, ih, view_handle, List.filterMap_cons]
        cases binding.sustains? key with
        | none => rfl
        | some action => rfl
  simp only [handleAll, Template.sustains?]
  rw [folded, ← List.head?_filterMap]
  cases template.bindings.filterMap fun binding => binding.sustains? key with
  | nil => rfl
  | cons action rest => exact KeyView.foldl_act _ _ action rest

/-! ### The pass by rank -/

/-- One key taking its turn does not show in the view of another. -/
theorem view_sustainOne_of_ne (pass : RankedPass σ) (entry : KeyName × SustainedAction)
    {key : KeyName} (differs : entry.1 ≠ key) :
    (surroundings.sustainOne pass entry).state.view key = pass.state.view key := by
  have unnoticed : (surroundings.invoke (.held entry.1) entry.2.event pass.locks
      pass.state).2.view key = pass.state.view key := by
    rw [view_invoke]
    exact KeyView.record_of_ne _ (fun same => differs (by cases same; rfl)) nofun
  simp only [sustainOne]
  split
  · rw [view_of_remove (Dispatched.sustained_cancel _ entry.1)
      (Dispatched.calls_cancel _ entry.1), if_neg differs.symm, unnoticed]
  · exact unnoticed

/-- Actions of other keys do not concern a key. -/
theorem view_foldl_sustainOne_of_notMem {entries : List (KeyName × SustainedAction)}
    {key : KeyName} (absent : key ∉ entries.map Prod.fst) (pass : RankedPass σ) :
    (entries.foldl surroundings.sustainOne pass).state.view key = pass.state.view key := by
  induction entries generalizing pass with
  | nil => rfl
  | cons entry rest ih =>
      rw [List.map_cons, List.mem_cons, not_or] at absent
      rw [List.foldl_cons, ih absent.2, view_sustainOne_of_ne pass entry (Ne.symm absent.1)]

/-- The action of a key runs its event, and STOP cancels it. -/
theorem view_sustainOne_self (pass : RankedPass σ) {key : KeyName} {action : SustainedAction}
    (acts : (pass.state.view key).action = some (action.event, action.stopEvent)) :
    ∃ stop, (surroundings.sustainOne pass (key, action)).state.view key =
      (pass.state.view key).hold stop := by
  refine ⟨(surroundings.invoke (.held key) action.event pass.locks pass.state).1.stopRaised, ?_⟩
  simp only [sustainOne, KeyView.hold]
  rw [acts]
  simp only
  split
  · next raised =>
      rw [view_of_remove (Dispatched.sustained_cancel _ key) (Dispatched.calls_cancel _ key),
        if_pos rfl, view_invoke]
      simp [KeyView.record, raised]
  · next quiet =>
      rw [view_invoke]
      simp [KeyView.record, quiet, acts]

/-- In the pass by rank the action of a key has exactly one turn. -/
theorem view_sustain {state : Dispatched σ} (keyed : state.sustained.Keyed) (key : KeyName) :
    ∃ stop, (surroundings.sustain state.sustained.ranked state).state.view key =
      (state.view key).hold stop := by
  have perm := state.sustained.ranked_perm
  have nodup : (state.sustained.ranked.map Prod.fst).Nodup :=
    (perm.map Prod.fst).nodup_iff.mpr keyed
  simp only [sustain]
  cases found : state.sustained.find? key with
  | none =>
      have absent : key ∉ state.sustained.ranked.map Prod.fst := by
        intro member
        obtain ⟨entry, ranked, same⟩ := List.mem_map.mp member
        have differs := List.lookup_eq_none_iff.mp found entry (perm.mem_iff.mp ranked)
        simp [same] at differs
      have idle : (state.view key).action = none := by
        simp [Dispatched.view, SustainedActions.events?, found]
      refine ⟨false, ?_⟩
      rw [view_foldl_sustainOne_of_notMem absent, KeyView.hold, idle]
  | some action =>
      have acts : (state.view key).action = some (action.event, action.stopEvent) := by
        simp [Dispatched.view, SustainedActions.events?, found]
      obtain ⟨before, after, active, -⟩ := List.lookup_eq_some_iff.mp found
      have member : (key, action) ∈ state.sustained.ranked := by
        rw [perm.mem_iff, active]
        exact List.mem_append_right _ List.mem_cons_self
      -- No other action has the key, so the view of it changes in this turn only.
      obtain ⟨higher, lower, ranked⟩ := List.append_of_mem member
      rw [ranked, List.map_append, List.map_cons, List.nodup_append, List.nodup_cons] at nodup
      rcases nodup with ⟨-, ⟨absentLower, -⟩, apart⟩
      have absentHigher : key ∉ higher.map Prod.fst :=
        fun above => apart key above key List.mem_cons_self rfl
      rw [ranked, List.foldl_append, List.foldl_cons]
      have reached : (higher.foldl surroundings.sustainOne { state }).state.view key =
          state.view key := view_foldl_sustainOne_of_notMem absentHigher _
      rw [← reached] at acts
      obtain ⟨stop, turned⟩ := view_sustainOne_self
        (higher.foldl surroundings.sustainOne { state }) acts
      refine ⟨stop, ?_⟩
      rw [view_foldl_sustainOne_of_notMem absentLower, turned, reached]

/-! ### The whole dispatch -/

/-- No key goes down and up within one tick. -/
def Sharp (keys : KeyName → KeyEdge) : Prop :=
  ∀ key, ¬ ((keys key).pressed = true ∧ (keys key).released = true)

/-- Where no key goes down and up within the tick there are no taps to release. -/
theorem releaseTaps_of_sharp {keys : KeyName → KeyEdge} (sharp : Sharp keys)
    (template : Template) (state : Dispatched σ) :
    surroundings.releaseTaps template keys state = state := by
  have untapped : (template.bindings.filter fun binding => binding.isTapped keys) = [] := by
    rw [List.filter_eq_nil_iff]
    intro binding _ tapped
    simp only [KeyBinding.isTapped, Bool.and_eq_true] at tapped
    exact sharp binding.key ⟨tapped.1.2, tapped.2⟩
  simp only [releaseTaps]
  rw [untapped]
  rfl

/-- What a dispatch comes to for one key, told from the bindings of that key alone. -/
theorem dispatch_view {template : Template} {keys : KeyName → KeyEdge} (sharp : Sharp keys)
    {scene : Scene σ} (keyed : scene.actor.sustained.Keyed) (key : KeyName) :
    let ended := surroundings.dispatch template keys scene
    let begun : KeyView := { action := scene.actor.sustained.events? key }
    ∃ stop, Dispatched.view { scene := ended.2, report := ended.1 } key =
      (match template.sustains? key with
        | none => begun
        | some action => begun.act (keys key) action).hold stop := by
  have handled : (surroundings.handleAll template keys scene).Within surroundings fun _ => True :=
    .handleAll (fun _ _ => trivial) keys keyed fun _ _ => ⟨trivial, fun _ _ => trivial⟩
  obtain ⟨stop, held⟩ := view_sustain handled.keyed key
  refine ⟨stop, ?_⟩
  simp only [dispatch]
  rw [releaseTaps_of_sharp sharp]
  rw [view_handleAll] at held
  exact held

/-- **A dispatch as one key sees it.**  Suppose that the action of a key, if there is
one, is that of the first sustained binding.  Then a press begins that action and a
release ends it and runs the event for its end; the event of the action runs once,
and STOP cancels it. -/
theorem dispatch_key {template : Template} {keys : KeyName → KeyEdge} (sharp : Sharp keys)
    {scene : Scene σ} (keyed : scene.actor.sustained.Keyed) (key : KeyName)
    (fits : scene.actor.sustained.events? key = none ∨
      scene.actor.sustained.events? key = template.sustains? key) :
    let ended := surroundings.dispatch template keys scene
    let before := scene.actor.sustained.events? key
    let begun := KeyView.begun (keys key) (template.sustains? key) before
    ended.2.actor.sustained.events? key = (if ended.1.cancels key then none else begun) ∧
      ended.1.eventsFor (.held key) = (begun.map Prod.fst).toList ∧
      ended.1.eventsFor (.ended key) =
        if (keys key).released then (before.bind Prod.snd).toList else [] := by
  intro ended before begun
  obtain ⟨stop, view⟩ : ∃ stop, Dispatched.view { scene := ended.2, report := ended.1 } key = _ :=
    dispatch_view sharp keyed key
  rw [KeyView.hold_act (keys key) (sharp key) fits stop] at view
  obtain ⟨action, held, finished, cancelled⟩ := KeyView.mk.inj view
  rw [cancelled]
  exact ⟨action, held, finished⟩

end Surroundings

end Stagecraft
