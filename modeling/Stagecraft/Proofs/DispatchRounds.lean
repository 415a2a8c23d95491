/-
Module: Stagecraft.Proofs.DispatchRounds
Purpose: What a dispatch runs, releases and cancels, for whatever the keys do in one
  tick.
Main exports:
  DispatchReport.course, Dispatched.Releases, TakesTurn, Handled, Turned, Closed,
  Surroundings.dispatch_rounds
-/
import Stagecraft.Proofs.Acting
import Stagecraft.Proofs.Walk

namespace Stagecraft

variable {σ : Type}

/-! ### What is reported -/

namespace DispatchReport

/-- The events that were run and why, in order. -/
def course (report : DispatchReport) : List (CallReason × NodeId) :=
  report.calls.map fun call => (call.reason, call.event)

/-- The events of the course are those invoked, in this order. -/
theorem map_snd_course (report : DispatchReport) :
    report.course.map Prod.snd = report.invoked := by
  simp only [course, invoked, List.map_map]
  rfl

theorem course_add (report : DispatchReport) (call : Call) :
    (report.add call).course = report.course ++ [(call.reason, call.event)] := by
  simp [course, add]

end DispatchReport

/-- A dispatch before and after the key of an action is released. -/
structure Dispatched.Releases (key : KeyName) (before after : Dispatched σ) : Prop where
  sustained : after.sustained = before.sustained.remove key
  course : after.report.course = before.report.course ++ before.sustained.endCall key
  released : after.report.released =
    before.report.released ++ if before.sustained.isActive key then [key] else []
  cancelled : after.report.cancelled = before.report.cancelled
  cancels : after.report.cancels = before.report.cancels

/-- A dispatch before and after the turn of an action, which may raise STOP. -/
structure Dispatched.TakesTurn (turn : KeyName × SustainedAction) (stop : Bool)
    (before after : Dispatched σ) : Prop where
  sustained : after.sustained = before.sustained.without fun key => stop && key == turn.1
  course : after.report.course = before.report.course ++ [(.held turn.1, turn.2.event)]
  released : after.report.released = before.report.released
  cancelled : after.report.cancelled = before.report.cancelled ++ if stop then [turn.1] else []
  cancels : after.report.cancels =
    fun key => before.report.cancels key || (stop && key == turn.1)

namespace Surroundings

variable {surroundings : Surroundings σ}

theorem invoke_report (reason : CallReason) (event : NodeId) (locks : AxisLocks)
    (state : Dispatched σ) :
    (surroundings.invoke reason event locks state).2.report =
      state.report.add
        { reason, event, evaluation := (surroundings.invoke reason event locks state).1 } :=
  rfl

/-- Only the call of a held key can cancel. -/
theorem invoke_cancels_of_ne {reason : CallReason} (other : ∀ key, reason ≠ .held key)
    (event : NodeId) (locks : AxisLocks) (state : Dispatched σ) :
    (surroundings.invoke reason event locks state).2.report.cancels = state.report.cancels := by
  funext key
  rw [invoke_report, DispatchReport.cancels_add]
  simp [other key]

theorem releases_release (key : KeyName) (state : Dispatched σ) :
    state.Releases key (surroundings.release key state) := by
  cases found : state.sustained.find? key with
  | none =>
      have inactive : state.sustained.isActive key = false := by
        simp [SustainedActions.isActive, found]
      rw [release_of_inactive inactive]
      refine ⟨?_, ?_, ?_, rfl, rfl⟩
      · rw [SustainedActions.remove_eq_without, SustainedActions.without_of_inactive]
        intro other same
        rw [beq_iff_eq.mp same]
        exact inactive
      · simp [SustainedActions.endCall, found]
      · simp [inactive]
  | some action =>
      have active : state.sustained.isActive key = true := by
        simp [SustainedActions.isActive, found]
      cases stops : action.stopEvent with
      | none =>
          have ends : surroundings.release key state = state.finish key := by
            simp [release, found, stops]
          rw [ends]
          refine ⟨rfl, ?_, ?_, rfl, rfl⟩
          · simp [SustainedActions.endCall, found, stops, DispatchReport.course,
              Dispatched.calls_finish]
          · rw [active]
            rfl
      | some event =>
          have ends : surroundings.release key state =
              (surroundings.invoke (.ended key) event {} (state.finish key)).2 := by
            simp [release, found, stops]
          rw [ends]
          refine ⟨invoke_sustained _ event _ _, ?_, ?_, rfl, ?_⟩
          · rw [invoke_report, DispatchReport.course_add]
            simp [SustainedActions.endCall, found, stops, DispatchReport.course,
              Dispatched.calls_finish]
          · rw [active]
            rfl
          · apply invoke_cancels_of_ne
            intro other same
            cases same

/-- A held key is cancelled by an evaluation of its event that raises STOP. -/
theorem invoke_cancels_held (key : KeyName) (event : NodeId) (locks : AxisLocks)
    (state : Dispatched σ) :
    (surroundings.invoke (.held key) event locks state).2.report.cancels = fun other =>
      state.report.cancels other ||
        ((surroundings.invoke (.held key) event locks state).1.stopRaised && other == key) := by
  funext other
  rw [invoke_report, DispatchReport.cancels_add]
  by_cases same : other = key
  · subst same
    simp
  · have differs : key ≠ other := Ne.symm same
    rw [beq_false_of_ne same]
    simp [differs]

theorem takesTurn_sustainOne (pass : RankedPass σ) (turn : KeyName × SustainedAction) :
    ∃ stop, pass.state.TakesTurn turn stop (surroundings.sustainOne pass turn).state := by
  rcases turn with ⟨key, action⟩
  refine ⟨(surroundings.invoke (.held key) action.event pass.locks pass.state).1.stopRaised, ?_⟩
  have sustained := surroundings.invoke_sustained (.held key) action.event pass.locks pass.state
  have report := surroundings.invoke_report (.held key) action.event pass.locks pass.state
  have course := congrArg DispatchReport.course report
  rw [DispatchReport.course_add] at course
  have cancels := surroundings.invoke_cancels_held key action.event pass.locks pass.state
  simp only [sustainOne]
  cases raised : (surroundings.invoke (.held key) action.event pass.locks
      pass.state).1.stopRaised with
  | true =>
      rw [raised] at cancels
      refine ⟨?_, course, rfl, rfl, cancels⟩
      rw [if_pos rfl, Dispatched.sustained_cancel, sustained, SustainedActions.remove_eq_without]
      simp
  | false =>
      rw [raised] at cancels
      refine ⟨?_, course, rfl, (List.append_nil _).symm, cancels⟩
      have unchanged : (pass.state.sustained.without fun other => false && other == key) =
          pass.state.sustained :=
        SustainedActions.without_of_inactive fun _ missing => absurd missing Bool.false_ne_true
      exact sustained.trans unchanged.symm

end Surroundings

/-! ### The rounds -/

/-- What holds of a loop at its begin and is handed on with each item holds at its
end. -/
theorem foldl_of_prefixes {α τ : Type} {step : τ → α → τ} (holds : List α → τ → Prop)
    {items : List α} {start : τ} (begins : holds [] start)
    (next : ∀ done item rest state, items = done ++ item :: rest → holds done state →
      holds (done ++ [item]) (step state item)) :
    holds items (items.foldl step start) := by
  -- The prefix has to vary with the rest, so the induction is on the rest for every prefix.
  have onward : ∀ rest done state, items = done ++ rest → holds done state →
      holds items (rest.foldl step state) := by
    intro rest
    induction rest with
    | nil =>
        intro done state parts held
        rw [List.append_nil] at parts
        exact parts ▸ held
    | cons item rest ih =>
        intro done state parts held
        exact ih (done ++ [item]) _ (by simp [parts]) (next done item rest state parts held)
  exact onward items [] start rfl begins

theorem Duty.map_key_filter_append (chosen : Duty → Bool) (done : List Duty) (duty : Duty) :
    ((done ++ [duty]).filter chosen).map Duty.key =
      (done.filter chosen).map Duty.key ++ if chosen duty then [duty.key] else [] := by
  rw [List.filter_append, List.map_append]
  congr 1
  cases picked : chosen duty <;> simp [picked]

namespace Dispatched

/-- A dispatch that has handled some duties, from the actions before it. -/
structure Handled (keys : KeyName → KeyEdge) (before : SustainedActions) (done : List Duty)
    (state : Dispatched σ) : Prop where
  sustained : state.sustained = before.acting keys done
  course : state.report.course = done.flatMap (before.firstCalls keys)
  released : state.report.released = (done.filter fun duty =>
    duty.sustained && (keys duty.key).goesUp && before.isActive duty.key).map Duty.key
  cancelled : state.report.cancelled = []
  quiet : ∀ key, state.report.cancels key = false

namespace Handled

variable {surroundings : Surroundings σ} {keys : KeyName → KeyEdge} {before : SustainedActions}
  {done : List Duty} {state : Dispatched σ}

/-- A duty that has nothing to do. -/
theorem idle (handled : state.Handled keys before done) {duty : Duty}
    (begins : before.begins keys duty = false)
    (stays : (duty.sustained && (keys duty.key).goesUp) = false)
    (silent : before.firstCalls keys duty = []) :
    state.Handled keys before (done ++ [duty]) where
  sustained := by
    rw [handled.sustained, SustainedActions.acting_append_of_idle begins stays]
  course := by
    rw [handled.course, List.flatMap_append, List.flatMap_singleton, silent, List.append_nil]
  released := by
    rw [handled.released, Duty.map_key_filter_append, stays]
    simp
  cancelled := handled.cancelled
  quiet := handled.quiet

/-- A duty that runs its event for an edge of its key. -/
theorem edge (handled : state.Handled keys before done) {duty : Duty}
    (plain : duty.sustained = false) (fires : duty.binding.fires (keys duty.key) = true) :
    (surroundings.invoke (.edge duty.key) duty.event {} state).2.Handled keys before
      (done ++ [duty]) where
  sustained := by
    rw [Surroundings.invoke_sustained, handled.sustained, SustainedActions.acting_append_of_idle]
    · simp [SustainedActions.begins, plain]
    · rw [plain, Bool.false_and]
  course := by
    rw [Surroundings.invoke_report, DispatchReport.course_add, handled.course,
      List.flatMap_append, List.flatMap_singleton]
    simp [SustainedActions.firstCalls, plain, fires]
  released := by
    rw [Duty.map_key_filter_append, ← handled.released, plain]
    exact (List.append_nil _).symm
  cancelled := handled.cancelled
  quiet := by
    intro key
    have same : (surroundings.invoke (.edge duty.key) duty.event {} state).2.report.cancels =
        state.report.cancels := by
      apply Surroundings.invoke_cancels_of_ne
      intro other same
      cases same
    rw [same]
    exact handled.quiet key

theorem find?_eq (handled : state.Handled keys before done) {key : KeyName}
    (free : Duty.sustains done key = false) :
    state.sustained.find? key = before.find? key := by
  rw [handled.sustained, SustainedActions.find?_acting_of_not_sustains free]

/-- A duty whose key goes down. -/
theorem engage (handled : state.Handled keys before done) {duty : Duty}
    (sustained : duty.sustained = true) (pressed : (keys duty.key).pressed = true)
    (free : Duty.sustains done duty.key = false) :
    (Surroundings.engage duty.binding duty.event state).Handled keys before (done ++ [duty]) := by
  have stays : (duty.sustained && (keys duty.key).goesUp) = false := by
    simp [KeyEdge.goesUp, pressed]
  have silent : before.firstCalls keys duty = [] := by
    simp [SustainedActions.firstCalls, sustained, KeyEdge.goesUp, pressed]
  have same : state.sustained.isActive duty.binding.key = before.isActive duty.key :=
    congrArg Option.isSome (handled.find?_eq free)
  simp only [Surroundings.engage]
  rw [same]
  cases active : before.isActive duty.key with
  | true =>
      apply handled.idle _ stays silent
      simp [SustainedActions.begins, active]
  | false =>
      have begins : before.begins keys duty = true := by
        simp [SustainedActions.begins, sustained, pressed, active]
      refine ⟨?_, ?_, ?_, handled.cancelled, handled.quiet⟩
      · rw [SustainedActions.acting_append_of_begins begins free, ← handled.sustained]
        rfl
      · rw [List.flatMap_append, List.flatMap_singleton, silent, List.append_nil]
        exact handled.course
      · rw [Duty.map_key_filter_append, stays, ← handled.released]
        exact (List.append_nil _).symm

/-- A duty whose key goes up. -/
theorem release (handled : state.Handled keys before done) {duty : Duty}
    (sustained : duty.sustained = true) (up : (keys duty.key).goesUp = true)
    (free : Duty.sustains done duty.key = false) :
    (surroundings.release duty.key state).Handled keys before (done ++ [duty]) := by
  have releases := surroundings.releases_release duty.key state
  have same := handled.find?_eq free
  refine ⟨?_, ?_, ?_, releases.cancelled.trans handled.cancelled, ?_⟩
  · rw [releases.sustained, handled.sustained,
      SustainedActions.acting_append_of_goesUp sustained up free]
  · rw [releases.course, handled.course, List.flatMap_append, List.flatMap_singleton]
    simp [SustainedActions.firstCalls, sustained, up, SustainedActions.endCall, same]
  · rw [releases.released, handled.released, Duty.map_key_filter_append]
    simp [sustained, up, SustainedActions.isActive, same]
  · intro key
    rw [releases.cancels]
    exact handled.quiet key

/-- Every duty is handled for what its key does. -/
theorem handle (handled : state.Handled keys before done) {duty : Duty}
    (apart : ∀ first ∈ done, first.forestalls duty = false) :
    (surroundings.handle keys state duty.binding).Handled keys before (done ++ [duty]) := by
  rw [Surroundings.handle_duty]
  cases kind : duty.sustained with
  | false =>
      have begins : before.begins keys duty = false := by
        simp [SustainedActions.begins, kind]
      cases fires : duty.binding.fires (keys duty.key) with
      | true => exact handled.edge kind fires
      | false =>
          apply handled.idle begins
          · rw [kind, Bool.false_and]
          · simp [SustainedActions.firstCalls, kind, fires]
  | true =>
      have free : Duty.sustains done duty.key = false := Duty.not_sustains apart kind
      cases pressed : (keys duty.key).pressed with
      | true => exact handled.engage kind pressed free
      | false =>
          cases up : (keys duty.key).goesUp with
          | true => exact handled.release kind up free
          | false =>
              apply handled.idle (SustainedActions.begins_of_not_pressed pressed)
              · rw [up, Bool.and_false]
              · simp [SustainedActions.firstCalls, kind, up]

end Handled

/-- A dispatch in which some actions have had their turns, from the one before them. -/
structure Turned (state start : Dispatched σ) (done : List (KeyName × SustainedAction)) :
    Prop where
  sustained : state.sustained = start.sustained.without state.report.cancels
  course : state.report.course =
    start.report.course ++ done.map fun turn => (.held turn.1, turn.2.event)
  released : state.report.released = start.report.released
  cancelled : state.report.cancelled =
    start.report.cancelled ++ (done.map Prod.fst).filter state.report.cancels
  quiet : ∀ key, key ∉ done.map Prod.fst → state.report.cancels key = false

/-- Every action has its turn, and STOP cancels it. -/
theorem Turned.sustainOne {surroundings : Surroundings σ} {start : Dispatched σ}
    {done : List (KeyName × SustainedAction)} {pass : RankedPass σ}
    (turned : pass.state.Turned start done) {turn : KeyName × SustainedAction}
    (first : turn.1 ∉ done.map Prod.fst) :
    (surroundings.sustainOne pass turn).state.Turned start (done ++ [turn]) := by
  obtain ⟨stop, turns⟩ := surroundings.takesTurn_sustainOne pass turn
  refine ⟨?_, ?_, turns.released.trans turned.released, ?_, ?_⟩
  · rw [turns.sustained, turned.sustained, SustainedActions.without_without, turns.cancels]
  · rw [turns.course, turned.course]
    simp
  · rw [turns.cancelled, turned.cancelled, List.append_assoc, List.map_append,
      List.filter_append, turns.cancels]
    congr 2
    · apply List.filter_congr
      intro key member
      have differs : key ≠ turn.1 := fun same => first (same ▸ member)
      rw [beq_false_of_ne differs]
      simp
    · cases stop <;> simp [turned.quiet turn.1 first]
  · intro key absent
    simp only [List.map_append, List.mem_append, not_or, List.map_cons, List.map_nil,
      List.mem_singleton] at absent
    rw [turns.cancels]
    simp [turned.quiet key absent.1, absent.2]

/-- A dispatch that has released the tapped keys of some duties, from the one before
that. -/
structure Closed (keys : KeyName → KeyEdge) (state start : Dispatched σ) (done : List Duty) :
    Prop where
  sustained : state.sustained =
    start.sustained.without fun key => Duty.sustains done key && (keys key).isTap
  course : state.report.course =
    start.report.course ++ done.flatMap (start.sustained.lastCalls keys)
  released : state.report.released = start.report.released ++ (done.filter fun duty =>
    duty.sustained && (keys duty.key).isTap && start.sustained.isActive duty.key).map Duty.key
  cancelled : state.report.cancelled = start.report.cancelled
  cancels : state.report.cancels = start.report.cancels

/-- Every tapped key is released. -/
theorem Closed.releaseTap {surroundings : Surroundings σ} {keys : KeyName → KeyEdge}
    {start state : Dispatched σ} {done : List Duty} (closed : state.Closed keys start done)
    {duty : Duty} (apart : ∀ first ∈ done, first.forestalls duty = false) :
    (surroundings.releaseTap keys state duty.binding).Closed keys start (done ++ [duty]) := by
  rw [Surroundings.releaseTap_duty]
  cases tapped : duty.sustained && (keys duty.key).isTap with
  | true =>
      obtain ⟨sustained, tap⟩ := Bool.and_eq_true_iff.mp tapped
      -- No duty before it has the key, so its action is still the one from the start.
      have free : Duty.sustains done duty.key = false := Duty.not_sustains apart sustained
      have releases := surroundings.releases_release duty.key state
      have same : state.sustained.find? duty.key = start.sustained.find? duty.key := by
        rw [closed.sustained, SustainedActions.find?_without, free]
        rfl
      refine ⟨?_, ?_, ?_, releases.cancelled.trans closed.cancelled,
        releases.cancels.trans closed.cancels⟩
      · rw [if_pos rfl, releases.sustained, closed.sustained, SustainedActions.remove_eq_without,
          SustainedActions.without_without]
        congr 1
        funext key
        exact (Duty.sustains_append_and (fun key => (keys key).isTap) sustained tap done key).symm
      · rw [if_pos rfl, releases.course, closed.course, List.flatMap_append,
          List.flatMap_singleton]
        simp [SustainedActions.lastCalls, sustained, tap, SustainedActions.endCall, same]
      · rw [if_pos rfl, releases.released, closed.released, Duty.map_key_filter_append]
        simp [sustained, tap, SustainedActions.isActive, same]
  | false =>
      rw [if_neg Bool.false_ne_true]
      refine ⟨?_, ?_, ?_, closed.cancelled, closed.cancels⟩
      · rw [closed.sustained]
        congr 1
        funext key
        exact (Duty.sustains_append_and_of_not (fun key => (keys key).isTap) tapped done key).symm
      · rw [closed.course, List.flatMap_append, List.flatMap_singleton,
          SustainedActions.lastCalls, tapped]
        simp
      · rw [closed.released, Duty.map_key_filter_append, tapped]
        simp

end Dispatched

/-- A duty is not forestalled by those before it. -/
theorem Template.not_forestalls {bindings : List KeyBinding} {done rest : List Duty}
    {duty : Duty} (parts : duties bindings = done ++ duty :: rest) :
    ∀ first ∈ done, first.forestalls duty = false := by
  have pairwise := duties_pairwise bindings
  rw [parts, List.pairwise_append] at pairwise
  exact fun first member => pairwise.2.2 first member duty List.mem_cons_self

namespace Surroundings

variable {surroundings : Surroundings σ}

/-- The first round. -/
theorem handled_handleAll (template : Template) (keys : KeyName → KeyEdge) (scene : Scene σ) :
    (surroundings.handleAll template keys scene).Handled keys scene.actor.sustained
      (Template.duties template.bindings) := by
  have start : Dispatched.Handled keys scene.actor.sustained [] { scene } := by
    refine ⟨?_, rfl, rfl, rfl, fun _ => rfl⟩
    simp [SustainedActions.acting, SustainedActions.without, SustainedActions.begun,
      Duty.sustains, Dispatched.sustained]
  rw [handleAll_eq_foldl_duties]
  apply foldl_of_prefixes (fun done (state : Dispatched σ) =>
    state.Handled keys scene.actor.sustained done) start
  intro done duty rest state parts handled
  exact handled.handle (Template.not_forestalls parts)

/-- The round by rank. -/
theorem turned_sustain {state : Dispatched σ}
    (quiet : ∀ key, state.report.cancels key = false)
    {turns : List (KeyName × SustainedAction)} (nodup : (turns.map Prod.fst).Nodup) :
    (surroundings.sustain turns state).state.Turned state turns := by
  have start : state.Turned state [] := by
    refine ⟨?_, (List.append_nil _).symm, rfl, (List.append_nil _).symm, fun key _ => quiet key⟩
    rw [funext quiet]
    simp [SustainedActions.without]
  apply foldl_of_prefixes (fun done (pass : RankedPass σ) => pass.state.Turned state done) start
  intro done turn rest pass parts turned
  rw [parts, List.map_append, List.map_cons, List.nodup_append] at nodup
  exact turned.sustainOne fun member => nodup.2.2 turn.1 member turn.1 List.mem_cons_self rfl

/-- The round of the tapped keys. -/
theorem closed_releaseTaps (template : Template) (keys : KeyName → KeyEdge)
    (state : Dispatched σ) :
    (surroundings.releaseTaps template keys state).Closed keys state
      (Template.duties template.bindings) := by
  have start : state.Closed keys state [] := by
    refine ⟨?_, (List.append_nil _).symm, (List.append_nil _).symm, rfl, rfl⟩
    simp [SustainedActions.without, Duty.sustains]
  rw [releaseTaps_eq_foldl_duties]
  apply foldl_of_prefixes (fun done (after : Dispatched σ) => after.Closed keys state done) start
  intro done duty rest after parts closed
  exact closed.releaseTap (Template.not_forestalls parts)

/-- A dispatch goes in three rounds. -/
theorem exists_rounds (template : Template) (keys : KeyName → KeyEdge) {scene : Scene σ}
    (keyed : scene.actor.sustained.Keyed) :
    ∃ opened ranked closed : Dispatched σ,
      opened.Handled keys scene.actor.sustained (Template.duties template.bindings) ∧
      opened.sustained.Keyed ∧
      ranked.Turned opened opened.sustained.ranked ∧
      closed.Closed keys ranked (Template.duties template.bindings) ∧
      surroundings.dispatch template keys scene = (closed.report, closed.scene) := by
  have within : (surroundings.handleAll template keys scene).Within surroundings fun _ => True :=
    .handleAll (fun _ _ => trivial) keys keyed fun _ _ => ⟨trivial, fun _ _ => trivial⟩
  have handled := surroundings.handled_handleAll template keys scene
  have nodup := ((SustainedActions.ranked_perm _).map Prod.fst).nodup_iff.mpr within.keyed
  exact ⟨_, _, _, handled, within.keyed, turned_sustain handled.quiet nodup,
    closed_releaseTaps template keys _, rfl⟩

/-- **A dispatch runs, releases and cancels exactly what the keys ask for.**  Whatever the
keys do in a tick, taps included, and whatever actions the actor has, the events run in
three rounds:

* in the order of the bindings, the event of each binding that is not sustained, if the
  edge that it asks for occurs, and the event for the end of the action of each key that
  goes up and not down as well (`firstCalls`);
* by rank, the event of each action that the actor then has, once each (`acting`: what is
  left of the actions from before, and those that the first sustained binding of a key
  that goes down begins);
* for each tapped key whose action no STOP has cancelled, the event for its end.

The keys whose actions end in the first and in the last round are reported as released,
in that order, and those whose actions STOP has cancelled in the second one as cancelled.
Afterwards a key with a sustained binding to an event has an action exactly if it had one
or went down, did not go up, and no STOP has cancelled its action. -/
theorem dispatch_rounds (template : Template) (keys : KeyName → KeyEdge) {scene : Scene σ}
    (keyed : scene.actor.sustained.Keyed) :
    let before := scene.actor.sustained
    let duties := Template.duties template.bindings
    let acting := before.acting keys duties
    let ended := surroundings.dispatch template keys scene
    let report := ended.1
    ∃ turns : List (KeyName × SustainedAction),
      turns.Perm acting.active ∧ (turns.map Prod.fst).Nodup ∧
      turns.Pairwise (fun first later => first.2.Leads later.2) ∧
      report.invoked = report.course.map Prod.snd ∧
      report.course =
        duties.flatMap (before.firstCalls keys) ++
          turns.map (fun turn => (.held turn.1, turn.2.event)) ++
          duties.flatMap (fun duty =>
            if duty.sustained && (keys duty.key).isTap && !report.cancels duty.key then
              acting.endCall duty.key
            else []) ∧
      report.released =
        (duties.filter fun duty =>
            duty.sustained && (keys duty.key).goesUp && before.isActive duty.key).map Duty.key ++
          (duties.filter fun duty =>
            duty.sustained && (keys duty.key).isTap && !report.cancels duty.key).map Duty.key ∧
      report.cancelled = (turns.map Prod.fst).filter report.cancels ∧
      ∀ key, (∃ binding ∈ template.bindings,
          binding.key = key ∧ binding.sustained = true ∧ binding.event.isSome = true) →
        (ended.2.actor.sustained.isActive key = true ↔
          (before.isActive key = true ∨ (keys key).pressed = true) ∧
            (keys key).released = false ∧ report.cancels key = false) := by
  obtain ⟨opened, ranked, closed, handled, keyedStill, turned, closes, whole⟩ :=
    surroundings.exists_rounds template keys keyed
  rw [whole]
  intro before duties acting ended report
  have perm := opened.sustained.ranked_perm
  have nodup := (perm.map Prod.fst).nodup_iff.mpr keyedStill
  -- The last round runs no held key, so what is cancelled by then is cancelled at its
  -- beginning.
  have left : ranked.sustained = acting.without report.cancels := by
    rw [turned.sustained, handled.sustained, ← closes.cancels]
  refine ⟨opened.sustained.ranked, ?_, nodup, opened.sustained.ranked_pairwise,
    report.map_snd_course.symm, ?_, ?_, ?_, ?_⟩
  · rw [handled.sustained] at perm ⊢
    exact perm
  · have last : ranked.sustained.lastCalls keys = fun duty =>
        if duty.sustained && (keys duty.key).isTap && !report.cancels duty.key then
          acting.endCall duty.key
        else [] := by
      rw [left]
      exact funext (acting.lastCalls_without keys report.cancels)
    rw [← last, ← handled.course, ← turned.course]
    exact closes.course
  · -- A tapped key has begun its action or had one before: only STOP can have taken it.
    have tapped : ∀ duty ∈ duties,
        (duty.sustained && (keys duty.key).isTap && ranked.sustained.isActive duty.key) =
          (duty.sustained && (keys duty.key).isTap && !report.cancels duty.key) := by
      intro duty member
      cases tap : duty.sustained && (keys duty.key).isTap with
      | false => rfl
      | true =>
          obtain ⟨sustained, tap⟩ := Bool.and_eq_true_iff.mp tap
          have sustains := Duty.sustains_eq_true_iff.mpr ⟨duty, member, sustained, rfl⟩
          rw [left, SustainedActions.isActive_without_of_isTap sustains tap]
    rw [← handled.released, ← turned.released, ← List.filter_congr tapped]
    exact closes.released
  · have cancelled := closes.cancelled.trans turned.cancelled
    rw [handled.cancelled, ← closes.cancels] at cancelled
    exact cancelled
  · intro key sustained
    have sustains : Duty.sustains duties key = true := Template.sustains_duties_iff.mpr sustained
    have after : ended.2.actor.sustained = _ := closes.sustained
    rw [after, left]
    exact SustainedActions.isActive_left_iff sustains report.cancels

end Surroundings

/-! ### An example: an organ -/

def flagProperty (name : String) : PropertyEntry := { name, value := .bool true }

/-- An organist with a pedal note that hums for as long as its key is held, a chord that
is damped at its end, a cymbal that stops itself, and a bell for every stroke of a key. -/
def organ : Document :=
  { actors :=
      [ { name := "Organist"
          events :=
            [ { name := "Bell", kind := "move" },
              { name := "Hum", kind := "move" },
              { name := "Hush", kind := "move" },
              { name := "Chord", kind := "move" },
              { name := "Damp", kind := "move" },
              { name := "Cymbal", kind := "move", properties := [textProperty "SIGNAL" "STOP"] } ]
          bindings :=
            [ { key := "B"
                properties :=
                  [textProperty "EVENT" "Bell", flagProperty "DOWN", flagProperty "UP"] },
              { key := "C"
                properties :=
                  [ textProperty "EVENT" "Chord", textProperty "STOP_EVENT" "Damp",
                    flagProperty "SUSTAINED" ] },
              { key := "C"
                properties := [textProperty "EVENT" "Cymbal", flagProperty "SUSTAINED"] },
              { key := "X"
                properties :=
                  [ textProperty "EVENT" "Cymbal", textProperty "STOP_EVENT" "Damp",
                    textProperty "PRIORITY" "HIGH", flagProperty "SUSTAINED" ] },
              { key := "H"
                properties :=
                  [ textProperty "EVENT" "Hum", textProperty "STOP_EVENT" "Hush",
                    flagProperty "SUSTAINED" ] },
              { key := "P", properties := [flagProperty "SUSTAINED"] } ] } ] }

/-- The graph of the organ, with numbers 0 to 5. -/
def organGraph : BehaviorGraph := (BehaviorGraph.load organ).toOption.getD {}

def organist : Template := (organGraph.template "Organist").toOption.getD default

def organKey (letter : String) : KeyName := { text := letter }

/-- A bar in which all keys but one are tapped, and the pedal note ends. -/
def organBar (key : KeyName) : KeyEdge :=
  if key = organKey "H" then { released := true } else { pressed := true, released := true }

/-- The organist with the pedal note held. -/
def organScene : Scene Controller :=
  { actor :=
      { id := 1
        template := "Organist"
        sustained :=
          { active :=
              [ (organKey "H",
                  { event := 1, priority := .medium, seq := 0, stopEvent := some 2 }) ]
            nextSeq := 1 } }
    map := .empty
    requests := []
    animation := .instant }

/-- The bell rings once, the pedal note is hushed, the cymbal stops itself ahead of the
chord, and the chord is damped.  The second binding of the chord's key and the one without
an event do nothing. -/
theorem dispatch_rounds_organ :
    let organLoft := rehearsal organGraph 8 0.5 (.fixed false 0) []
    let ended := organLoft.dispatch organist organBar organScene
    BehaviorGraph.load organ = .ok organGraph ∧ organScene.actor.sustained.Keyed ∧
      ended.1.invoked = [0, 2, 5, 3, 4] ∧
      (∃ turns : List (KeyName × SustainedAction),
        turns.Perm
          [ (organKey "C", { event := 3, priority := .medium, seq := 1, stopEvent := some 4 }),
            (organKey "X", { event := 5, priority := .high, seq := 2, stopEvent := some 4 }) ] ∧
        ended.1.course =
          [(.edge (organKey "B"), 0), (.ended (organKey "H"), 2)] ++
            turns.map (fun turn => (.held turn.1, turn.2.event)) ++
            [(.ended (organKey "C"), 4)]) ∧
      ended.1.released = [organKey "H", organKey "C"] ∧
      ended.1.cancelled = [organKey "X"] ∧
      ended.2.actor.sustained.isActive (organKey "X") = false := by
  intro organLoft ended
  have keyed : organScene.actor.sustained.Keyed := List.nodup_singleton _
  have load : BehaviorGraph.load organ = .ok organGraph := rfl
  have invoked : ended.1.invoked = [0, 2, 5, 3, 4] := by decide
  have cancelled : ended.1.cancelled = [organKey "X"] := by decide
  have freed : ended.1.released = [organKey "H", organKey "C"] := by decide
  have bound : ∃ binding ∈ organist.bindings, binding.key = organKey "X" ∧
      binding.sustained = true ∧ binding.event.isSome = true := by decide
  have stopped : ended.1.cancels (organKey "X") = true := by decide
  have acting : (organScene.actor.sustained.acting organBar
      (Template.duties organist.bindings)).active =
        [ (organKey "C", { event := 3, priority := .medium, seq := 1, stopEvent := some 4 }),
          (organKey "X", { event := 5, priority := .high, seq := 2, stopEvent := some 4 }) ] := by
    decide
  have first : (Template.duties organist.bindings).flatMap
      (organScene.actor.sustained.firstCalls organBar) =
        [(.edge (organKey "B"), 0), (.ended (organKey "H"), 2)] := by decide
  have last : ((Template.duties organist.bindings).flatMap fun duty =>
      if duty.sustained && (organBar duty.key).isTap && !ended.1.cancels duty.key then
        (organScene.actor.sustained.acting organBar
          (Template.duties organist.bindings)).endCall duty.key
      else []) = [(.ended (organKey "C"), 4)] := by decide
  obtain ⟨turns, perm, -, -, -, course, -, -, active⟩ :=
    organLoft.dispatch_rounds organist organBar keyed
  rw [acting] at perm
  rw [first, last] at course
  refine ⟨load, keyed, invoked, ⟨turns, perm, course⟩, freed, cancelled, ?_⟩
  rw [← Bool.not_eq_true, active (organKey "X") bound]
  rintro ⟨-, -, quiet⟩
  rw [stopped] at quiet
  cases quiet

end Stagecraft
