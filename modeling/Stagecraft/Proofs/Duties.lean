/-
Module: Stagecraft.Proofs.Duties
Purpose: Which bindings of a template have a say in a dispatch: those with an event,
  and of the sustained ones of a key the first.
Main exports:
  Duty, Template.duties, Duty.sustains, Duty.Settling, Duty.Settling.foldl_duties,
  Surroundings.settling_handle, settling_releaseTap
-/
import Stagecraft.Proofs.KeyView

namespace Stagecraft

variable {σ : Type}

/-! ### The bindings that have a say -/

/-- A binding with the event that it runs or keeps up. -/
structure Duty where
  binding : KeyBinding
  event : NodeId
  acts : binding.event = some event

namespace Duty

def key (duty : Duty) : KeyName := duty.binding.key

/-- Whether a duty keeps its event up while the key is held. -/
def sustained (duty : Duty) : Bool := duty.binding.sustained

/-- The duty of a binding, unless it has no event. -/
def ofBinding? (binding : KeyBinding) : Option Duty :=
  match acts : binding.event with
  | none => none
  | some event => some { binding, event, acts }

/-- Whether a duty leaves another one nothing to do: both keep up events for one
key. -/
def forestalls (first other : Duty) : Bool :=
  first.sustained && other.sustained && first.key == other.key

/-- Whether some of several duties keeps up an event for a key. -/
def sustains (duties : List Duty) (key : KeyName) : Bool :=
  duties.any fun duty => duty.sustained && duty.key == key

theorem ofBinding?_eq_none_iff {binding : KeyBinding} :
    ofBinding? binding = none ↔ binding.event = none := by
  unfold ofBinding?
  split
  · next silent => simp [silent]
  · next event acts => simp [acts]

theorem binding_of_ofBinding? {binding : KeyBinding} {duty : Duty}
    (has : ofBinding? binding = some duty) : duty.binding = binding := by
  unfold ofBinding? at has
  split at has
  · cases has
  · cases has
    rfl

/-- One duty leaves another to do its part unless both sustain the same key. -/
theorem forestalls_eq_false_iff {first other : Duty} : first.forestalls other = false ↔
    (first.sustained = true → other.sustained = true → first.key ≠ other.key) := by
  simp [forestalls]

/-- What a duty forestalls goes without saying. -/
theorem sustains_cons_filter (duty : Duty) (rest : List Duty) (key : KeyName) :
    sustains (duty :: rest.filter fun other => !duty.forestalls other) key =
      (duty.sustained && duty.key == key || sustains rest key) := by
  simp only [sustains, List.any_cons, List.any_filter]
  cases own : duty.sustained && duty.key == key with
  | true => rfl
  | false =>
      have apart : ∀ other : Duty,
          (!duty.forestalls other && (other.sustained && other.key == key)) =
            (other.sustained && other.key == key) := by
        intro other
        by_cases same : other.key = key
        · subst same
          rcases Bool.and_eq_false_iff.mp own with plain | differs
          · simp [forestalls, plain]
          · simp [forestalls, differs]
        · simp [same]
      simp only [apart]

theorem sustains_append (duties : List Duty) (duty : Duty) (key : KeyName) :
    sustains (duties ++ [duty]) key =
      (sustains duties key || (duty.sustained && duty.key == key)) := by
  simp [sustains]

theorem sustains_eq_true_iff {duties : List Duty} {key : KeyName} :
    sustains duties key = true ↔ ∃ duty ∈ duties, duty.sustained = true ∧ duty.key = key := by
  simp [sustains]

/-- One more sustained duty adds its key to those of which something holds. -/
theorem sustains_append_and (holds : KeyName → Bool) {duty : Duty}
    (sustained : duty.sustained = true) (here : holds duty.key = true) (done : List Duty)
    (key : KeyName) :
    (sustains (done ++ [duty]) key && holds key) =
      (sustains done key && holds key || key == duty.key) := by
  rw [sustains_append, sustained]
  by_cases same : key = duty.key
  · subst same
    simp [here]
  · rw [beq_false_of_ne same, beq_false_of_ne (Ne.symm same)]
    simp

/-- A duty that does not sustain a held key makes no difference to what is sustained and
held. -/
theorem sustains_append_and_of_not (holds : KeyName → Bool) {duty : Duty}
    (never : (duty.sustained && holds duty.key) = false) (done : List Duty) (key : KeyName) :
    (sustains (done ++ [duty]) key && holds key) = (sustains done key && holds key) := by
  rw [sustains_append]
  by_cases same : duty.key = key
  · subst same
    rcases Bool.and_eq_false_iff.mp never with plain | never
    · simp [plain]
    · simp [never]
  · rw [beq_false_of_ne same]
    simp

/-- A duty that none of several others forestalls is the first one for its key. -/
theorem not_sustains {done : List Duty} {duty : Duty}
    (apart : ∀ first ∈ done, first.forestalls duty = false) (sustained : duty.sustained = true) :
    sustains done duty.key = false := by
  rw [← Bool.not_eq_true, sustains_eq_true_iff]
  rintro ⟨first, member, before, same⟩
  exact forestalls_eq_false_iff.mp (apart first member) before sustained same

end Duty

/-- The duties of some bindings, in order.  A sustained binding whose key an earlier
one already keeps up an event for has none. -/
def Template.duties : List KeyBinding → List Duty
  | [] => []
  | binding :: rest =>
      match Duty.ofBinding? binding with
      | none => duties rest
      | some duty => duty :: (duties rest).filter fun other => !duty.forestalls other

namespace Template

/-- No duty forestalls a later one. -/
theorem duties_pairwise (bindings : List KeyBinding) :
    (duties bindings).Pairwise fun first later => first.forestalls later = false := by
  induction bindings with
  | nil => exact .nil
  | cons binding rest ih =>
      simp only [duties]
      split
      · exact ih
      · next duty has =>
          refine List.pairwise_cons.mpr ⟨?_, ih.filter _⟩
          intro other member
          simpa using (List.mem_filter.mp member).2

/-- The keys with sustained duties are those with sustained bindings to events. -/
theorem sustains_duties_iff {bindings : List KeyBinding} {key : KeyName} :
    Duty.sustains (duties bindings) key = true ↔ ∃ binding ∈ bindings,
      binding.key = key ∧ binding.sustained = true ∧ binding.event.isSome = true := by
  induction bindings with
  | nil => simp [duties, Duty.sustains]
  | cons binding rest ih =>
      simp only [duties, List.exists_mem_cons_iff]
      split
      · next silent =>
          rw [ih, Duty.ofBinding?_eq_none_iff.mp silent]
          simp
      · next duty has =>
          obtain rfl := Duty.binding_of_ofBinding? has
          rw [Duty.sustains_cons_filter, Bool.or_eq_true, ih, duty.acts]
          simp [Duty.sustained, Duty.key, and_comm]

end Template

/-! ### Loops over the bindings -/

namespace Duty

/-- A step of a loop over bindings that is through with a key after the first
sustained binding of it. -/
structure Settling {τ : Type} (step : τ → KeyBinding → τ) (settled : KeyName → τ → Prop) :
    Prop where
  skip : ∀ state {binding : KeyBinding}, binding.event = none → step state binding = state
  settle : ∀ state (duty : Duty), duty.sustained = true →
    settled duty.key (step state duty.binding)
  stay : ∀ {state key} (binding : KeyBinding), settled key state →
    settled key (step state binding)
  idle : ∀ {state} (duty : Duty), duty.sustained = true → settled duty.key state →
    step state duty.binding = state

namespace Settling

variable {τ : Type} {step : τ → KeyBinding → τ} {settled : KeyName → τ → Prop}

/-- A duty that is settled leaves those that it forestalls nothing to do. -/
theorem foldl_filter (settling : Settling step settled) {first : Duty} {state : τ}
    (through : first.sustained = true → settled first.key state) (duties : List Duty) :
    (duties.filter fun other => !first.forestalls other).foldl
        (fun state duty => step state duty.binding) state =
      duties.foldl (fun state duty => step state duty.binding) state := by
  induction duties generalizing state with
  | nil => rfl
  | cons duty rest ih =>
      rw [List.filter_cons, List.foldl_cons]
      cases forestalled : first.forestalls duty with
      | false => exact ih fun sustained => settling.stay duty.binding (through sustained)
      | true =>
          simp only [forestalls, Bool.and_eq_true, beq_iff_eq] at forestalled
          rcases forestalled with ⟨⟨sustained, other⟩, same⟩
          rw [settling.idle duty other (same ▸ through sustained)]
          exact ih through

/-- Such a loop is one over the duties of the bindings. -/
theorem foldl_duties (settling : Settling step settled) (bindings : List KeyBinding)
    (state : τ) :
    bindings.foldl step state =
      (Template.duties bindings).foldl (fun state duty => step state duty.binding) state := by
  induction bindings generalizing state with
  | nil => rfl
  | cons binding rest ih =>
      rw [List.foldl_cons, ih, Template.duties]
      split
      · next silent => rw [settling.skip state (ofBinding?_eq_none_iff.mp silent)]
      · next duty has =>
          -- Once the duty is done, those that it forestalls may as well be done after it.
          obtain rfl := binding_of_ofBinding? has
          rw [List.foldl_cons, settling.foldl_filter fun sustained =>
            settling.settle state duty sustained]

end Settling

end Duty

/-! ### The loops of a dispatch -/

namespace KeyEdge

/-- The key goes up and does not go down. -/
def goesUp (edge : KeyEdge) : Bool := edge.released && !edge.pressed

/-- The key goes down and up. -/
def isTap (edge : KeyEdge) : Bool := edge.pressed && edge.released

end KeyEdge

namespace Surroundings

variable {surroundings : Surroundings σ}

/-- Whether a key is active can be told from the view on it. -/
theorem isActive_eq_isSome_view (state : Dispatched σ) (key : KeyName) :
    state.sustained.isActive key = (state.view key).action.isSome :=
  state.sustained.isActive_eq_isSome_events? key

/-- The action of a key is as the key makes it when a sustained binding is handled. -/
def Follows (keys : KeyName → KeyEdge) (key : KeyName) (state : Dispatched σ) : Prop :=
  ((keys key).pressed = true → state.sustained.isActive key = true) ∧
    ((keys key).goesUp = true → state.sustained.isActive key = false)

/-- A key follows its edge if all that happened to it is one act. -/
theorem follows_of_act {keys : KeyName → KeyEdge} {key : KeyName} {before after : Dispatched σ}
    {action : NodeId × Option NodeId}
    (acted : after.view key = (before.view key).act (keys key) action) :
    Follows keys key after := by
  simp only [Follows, isActive_eq_isSome_view]
  rw [acted]
  simp only [KeyView.act, KeyView.start, KeyView.finish, KeyEdge.goesUp]
  cases (keys key).pressed <;> cases (keys key).released <;> simp

theorem sustains?_of_sustained {duty : Duty} (sustained : duty.sustained = true) :
    duty.binding.sustains? duty.key = some (duty.event, duty.binding.stopEvent) := by
  simp only [KeyBinding.sustains?]
  rw [if_pos ⟨sustained, rfl⟩, duty.acts]
  rfl

theorem release_of_inactive {state : Dispatched σ} {key : KeyName}
    (inactive : state.sustained.isActive key = false) :
    surroundings.release key state = state := by
  have absent : state.sustained.find? key = none := by
    simpa [SustainedActions.isActive] using inactive
  simp only [release]
  rw [absent]

/-- What a duty does with its key: pressed, a sustained one begins its action, and ends
it when the key goes up. -/
theorem handle_duty (keys : KeyName → KeyEdge) (state : Dispatched σ) (duty : Duty) :
    surroundings.handle keys state duty.binding =
      if duty.sustained then
        if (keys duty.key).pressed then engage duty.binding duty.event state
        else if (keys duty.key).goesUp then surroundings.release duty.key state
        else state
      else if duty.binding.fires (keys duty.key) then
        (surroundings.invoke (.edge duty.key) duty.event {} state).2
      else state := by
  have acting : surroundings.handle keys state duty.binding =
      if duty.sustained then
        surroundings.handleSustained duty.binding duty.event (keys duty.key) state
      else if duty.binding.fires (keys duty.key) then
        (surroundings.invoke (.edge duty.key) duty.event {} state).2
      else state := by
    simp only [handle]
    rw [duty.acts]
    rfl
  rw [acting]
  congr 1
  rcases keys duty.key with ⟨held, pressed, released⟩
  cases pressed <;> cases released <;> rfl

/-- The first sustained binding of a key does all that is to be done to its action. -/
theorem settling_handle (keys : KeyName → KeyEdge) :
    Duty.Settling (surroundings.handle keys) (Follows keys) where
  skip state binding silent := by
    simp only [handle]
    rw [silent]
  settle state duty sustained := by
    have handled := surroundings.view_handle keys state duty.binding duty.key
    rw [sustains?_of_sustained sustained] at handled
    exact follows_of_act handled
  stay := by
    intro state key binding follows
    have handled := surroundings.view_handle keys state binding key
    cases sustains : binding.sustains? key with
    | none =>
        rw [sustains] at handled
        simpa only [Follows, isActive_eq_isSome_view, handled] using follows
    | some action =>
        rw [sustains] at handled
        exact follows_of_act handled
  idle := by
    intro state duty sustained follows
    rw [handle_duty, if_pos sustained]
    split
    · next pressed => exact if_pos (follows.1 pressed)
    · split
      · next up => exact release_of_inactive (follows.2 up)
      · rfl

/-- Release the key of a binding if it is tapped. -/
def releaseTap (surroundings : Surroundings σ) (keys : KeyName → KeyEdge)
    (state : Dispatched σ) (binding : KeyBinding) : Dispatched σ :=
  if binding.isTapped keys then surroundings.release binding.key state else state

/-- In the last round a duty releases its key if it is sustained and tapped. -/
theorem releaseTap_duty (keys : KeyName → KeyEdge) (state : Dispatched σ) (duty : Duty) :
    surroundings.releaseTap keys state duty.binding =
      if duty.sustained && (keys duty.key).isTap then surroundings.release duty.key state
      else state := by
  have tapped : duty.binding.isTapped keys = (duty.sustained && (keys duty.key).isTap) := by
    simp [KeyBinding.isTapped, duty.acts, Duty.sustained, Duty.key, KeyEdge.isTap, Bool.and_assoc]
  simp only [releaseTap]
  rw [tapped]
  rfl

/-- A tapped key is released once. -/
theorem settling_releaseTap (keys : KeyName → KeyEdge) :
    Duty.Settling (surroundings.releaseTap keys) fun key state =>
      (keys key).isTap = true → state.sustained.isActive key = false where
  skip state binding silent := by
    simp [releaseTap, KeyBinding.isTapped, silent]
  settle state duty sustained tapped := by
    rw [releaseTap_duty, if_pos (by simp [sustained, tapped]), isActive_eq_isSome_view,
      view_release, if_pos rfl]
    rfl
  stay := by
    intro state key binding free tapped
    simp only [releaseTap]
    split
    · rw [isActive_eq_isSome_view, view_release]
      split
      · rfl
      · rw [← isActive_eq_isSome_view]
        exact free tapped
    · exact free tapped
  idle := by
    intro state duty sustained free
    rw [releaseTap_duty]
    split
    · next both => exact release_of_inactive (free (Bool.and_eq_true_iff.mp both).2)
    · rfl

/-- All bindings are handled by their duties. -/
theorem handleAll_eq_foldl_duties (template : Template) (keys : KeyName → KeyEdge)
    (scene : Scene σ) :
    surroundings.handleAll template keys scene =
      (Template.duties template.bindings).foldl
        (fun state duty => surroundings.handle keys state duty.binding) { scene } :=
  (settling_handle keys).foldl_duties template.bindings { scene }

/-- All tapped keys are released by the duties. -/
theorem releaseTaps_eq_foldl_duties (template : Template) (keys : KeyName → KeyEdge)
    (state : Dispatched σ) :
    surroundings.releaseTaps template keys state =
      (Template.duties template.bindings).foldl
        (fun state duty => surroundings.releaseTap keys state duty.binding) state := by
  simp only [releaseTaps]
  rw [List.foldl_filter]
  exact (settling_releaseTap keys).foldl_duties template.bindings state

end Surroundings

end Stagecraft
