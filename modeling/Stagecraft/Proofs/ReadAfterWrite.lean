/-
Module: Stagecraft.Proofs.ReadAfterWrite
Purpose: What events read under a name after an actor was written to, for quantities of its
  motion and for its variables alike.
Main exports:
  VariableStore.find?_change, Actor.lookup_setQuantity, Actor.lookup_change,
  Actor.exists_change_assign_eq_error_iff, Attempt.assign_actor, Actor.lookup_change_assign,
  Actor.reads_what_was_written
-/
import Stagecraft.Proofs.Atomicity

namespace Stagecraft

/-! ### Variables -/

namespace VariableStore

variable {store after : VariableStore} {mode : SetMode} {name : String} {operand : Value}

/-- A variable that is assigned takes the operand, whatever it held. -/
theorem next_assign (store : VariableStore) (name : String) (operand : Value) :
    store.next .assign name operand = .ok operand := by
  unfold next
  cases store.find? name <;> rfl

/-- A change puts one value in place and leaves every other variable alone. -/
theorem find?_change (changed : store.change mode name operand = .ok after) :
    ∃ value, store.next mode name operand = .ok value ∧
      ∀ other, after.find? other = if other = name then some value else store.find? other := by
  obtain ⟨value, next, rfl⟩ := exists_of_map_eq_ok changed
  exact ⟨value, next, Dictionary.find?_insert store name value⟩

end VariableStore

/-! ### Reserved names -/

namespace Quantity

theorem mem_names_iff {name : String} :
    name ∈ all.map Quantity.name ↔ ∃ quantity : Quantity, quantity.name = name := by
  constructor
  · intro member
    obtain ⟨quantity, -, named⟩ := List.mem_map.mp member
    exact ⟨quantity, named⟩
  · rintro ⟨quantity, rfl⟩
    cases quantity <;> decide

theorem ofName?_name (quantity : Quantity) : ofName? quantity.name = some quantity :=
  ofName?_eq_some_iff.mpr rfl

/-- A name that belongs to no quantity is not reserved. -/
theorem ofName?_eq_none_iff {name : String} :
    ofName? name = none ↔ name ∉ all.map Quantity.name := by
  rw [mem_names_iff, Option.eq_none_iff_forall_not_mem]
  simp only [Option.mem_def, ofName?_eq_some_iff, not_exists]

end Quantity

namespace Value

theorem number?_float (x : Float32) : (float x).number? = some x := rfl

/-- Only whole numbers and floats stand for a number. -/
theorem number?_eq_none_iff {value : Value} :
    value.number? = none ↔ (∀ n, value ≠ .int n) ∧ ∀ x, value ≠ .float x := by
  cases value <;> simp [number?]

end Value

namespace Actor

variable {actor changed : Actor} {mode : SetMode} {name : String} {operand : Value}

/-- A quantity takes the new value, and the other four keep theirs. -/
theorem quantity_setQuantity (actor : Actor) (quantity other : Quantity) (x : Float32) :
    (actor.setQuantity quantity x).quantity other =
      if other = quantity then x else actor.quantity other := by
  cases quantity <;> cases other <;> rfl

/-- A quantity is not kept among the variables. -/
theorem store_setQuantity (actor : Actor) (quantity : Quantity) (x : Float32) :
    (actor.setQuantity quantity x).store = actor.store := by
  cases quantity <;> rfl

/-- A reserved name is read from the motion of the actor, whatever the variables hold. -/
theorem lookup_name (actor : Actor) (map : VariableStore) (quantity : Quantity) :
    actor.lookup map quantity.name = some (.float (actor.quantity quantity)) := by
  simp only [lookup, Quantity.ofName?_name]

/-- A quantity is read under its own name only. -/
theorem lookup_setQuantity (actor : Actor) (map : VariableStore) (quantity : Quantity)
    (x : Float32) (name : String) :
    (actor.setQuantity quantity x).lookup map name =
      if name = quantity.name then some (.float x) else actor.lookup map name := by
  by_cases same : name = quantity.name
  · subst same
    rw [lookup_name, quantity_setQuantity, if_pos rfl, if_pos rfl]
  · rw [if_neg same]
    simp only [lookup, store_setQuantity]
    cases found : Quantity.ofName? name with
    | none => rfl
    | some other =>
        have differs : other ≠ quantity := by
          rintro rfl
          exact same (Quantity.ofName?_eq_some_iff.mp found).symm
        simp only [quantity_setQuantity, if_neg differs]

/-- A write under a reserved name computes with the quantity as a number. -/
theorem change_name (actor : Actor) (mode : SetMode) (quantity : Quantity) {x : Float32}
    (number : operand.number? = some x) :
    actor.change mode quantity.name operand =
      .ok (actor.setQuantity quantity (mode.combineNumber (actor.quantity quantity) x)) := by
  simp only [change, Quantity.ofName?_name, number]

/-- A write to a variable takes the value that the variable takes, and leaves everything else
as it was, whatever the map holds. -/
theorem lookup_change (free : name ∉ Quantity.all.map Quantity.name)
    (written : actor.change mode name operand = .ok changed) :
    ∃ value, actor.store.next mode name operand = .ok value ∧
      ∀ map other,
        changed.lookup map other = if other = name then some value else actor.lookup map other := by
  have plain := Quantity.ofName?_eq_none_iff.mpr free
  simp only [change, plain] at written
  obtain ⟨store, stored, rfl⟩ := exists_of_map_eq_ok written
  obtain ⟨value, next, finds⟩ := VariableStore.find?_change stored
  refine ⟨value, next, ?_⟩
  intro map other
  by_cases same : other = name
  · subst same
    simp only [lookup, plain, finds, if_true, Option.some_or]
  · have kept : ∀ quantity, { actor with store }.quantity quantity = actor.quantity quantity := by
      intro quantity
      cases quantity <;> rfl
    simp only [lookup, finds, if_neg same, kept]

/-- An assignment fails only where a quantity is to become something else than a number. -/
theorem exists_change_assign_eq_error_iff :
    (∃ error, actor.change .assign name operand = .error error) ↔
      name ∈ Quantity.all.map Quantity.name ∧ operand.number? = none := by
  cases found : Quantity.ofName? name with
  | some quantity =>
      have reserved : name ∈ Quantity.all.map Quantity.name :=
        Quantity.mem_names_iff.mpr ⟨quantity, Quantity.ofName?_eq_some_iff.mp found⟩
      cases number : operand.number? <;> simp [change, found, number, reserved]
  | none =>
      have free := Quantity.ofName?_eq_none_iff.mp found
      simp [change, found, VariableStore.change, VariableStore.next_assign, Except.map, free]

end Actor

/-- Computing with a quantity comes to the same as computing with a variable that holds its
value. -/
theorem SetMode.combine?_float (mode : SetMode) (computes : mode ≠ .assign) (current : Float32)
    {operand : Value} {x : Float32} (number : operand.number? = some x) :
    mode.combine? (.float current) operand = some (.float (mode.combineNumber current x)) := by
  cases mode with
  | assign => exact absurd rfl computes
  | add => simp [combine?, combineNumber, Value.plus?, Value.number?_float, number]
  | multiply => simp [combine?, combineNumber, Value.times?, Value.number?_float, number]

namespace Attempt

variable {σ : Type}

/-- An event that writes to its actor puts the changed actor on the scene; where the write is
refused, everything stays as it was. -/
theorem assign_actor (state : EvalState σ) (mode : SetMode) (name : String) (operand : Value) :
    (assign mode name operand false).run.run state =
      match state.scene.actor.change mode name operand with
      | .ok changed => (.ok (), state.withActor changed)
      | .error error => (.error (.variable error), state) := by
  have whole := assign_doneAs state mode name operand false
  simp only [Scene.changeVariable, Bool.false_eq_true, if_false] at whole
  cases written : state.scene.actor.change mode name operand with
  | ok changed =>
      rw [written] at whole
      exact whole
  | error error =>
      rw [written] at whole
      exact whole

end Attempt

namespace Actor

/-- What an assignment puts under a name is read there, a number under a reserved name as a
float; every other name reads as before. -/
theorem lookup_change_assign {actor changed : Actor} {name : String} {operand : Value}
    (written : actor.change .assign name operand = .ok changed) (map : VariableStore) :
    (name ∈ Quantity.all.map Quantity.name →
        ∃ x, operand.number? = some x ∧ changed.lookup map name = some (.float x)) ∧
      (name ∉ Quantity.all.map Quantity.name → changed.lookup map name = some operand) ∧
      ∀ other, other ≠ name → changed.lookup map other = actor.lookup map other := by
  by_cases member : name ∈ Quantity.all.map Quantity.name
  · obtain ⟨quantity, rfl⟩ := Quantity.mem_names_iff.mp member
    have taken : operand.number? ≠ none := by
      intro wordless
      obtain ⟨error, refused⟩ := exists_change_assign_eq_error_iff.mpr ⟨member, wordless⟩
      rw [written] at refused
      cases refused
    obtain ⟨x, number⟩ := Option.ne_none_iff_exists'.mp taken
    rw [change_name actor .assign quantity number] at written
    cases written
    have reads := actor.lookup_setQuantity map quantity x
    refine ⟨fun _ => ⟨x, number, ?_⟩, fun free => absurd member free, fun other differs => ?_⟩
    · exact (reads quantity.name).trans (if_pos rfl)
    · exact (reads other).trans (if_neg differs)
  · obtain ⟨value, next, reads⟩ := lookup_change member written
    rw [VariableStore.next_assign] at next
    cases next
    refine ⟨fun reserved => absurd reserved member, fun _ => ?_, fun other differs => ?_⟩
    · exact (reads map name).trans (if_pos rfl)
    · exact (reads map other).trans (if_neg differs)

/-- **An actor reads what was written to it.**  Assigning a value under a name fails exactly if
the name is one of the five reserved ones and the value no number.  An event that writes then
leaves the evaluation, and with it the actor, as it found it; otherwise the changed actor is
all that is new.  After an assignment the name reads as the value, whatever the map holds
under it, and under a reserved name as the float that the value stands for; every other name
reads as before.  Adding a number to a quantity, or multiplying by one, leaves the value that
a variable would take which holds the quantity as a float. -/
theorem reads_what_was_written {σ : Type} (state : EvalState σ) (name : String)
    (operand : Value) :
    let actor := state.scene.actor
    let reserved := Quantity.all.map Quantity.name
    ((∃ error, actor.change .assign name operand = .error error) ↔
      name ∈ reserved ∧ (∀ n, operand ≠ .int n) ∧ ∀ x, operand ≠ .float x) ∧
    (∀ mode, (Attempt.assign mode name operand false).run.run state =
      match actor.change mode name operand with
      | .ok changed => (.ok (), state.withActor changed)
      | .error error => (.error (.variable error), state)) ∧
    (∀ changed, actor.change .assign name operand = .ok changed → ∀ map,
      (name ∈ reserved →
        ∃ x, operand.number? = some x ∧ changed.lookup map name = some (.float x)) ∧
      (name ∉ reserved → changed.lookup map name = some operand) ∧
      ∀ other, other ≠ name → changed.lookup map other = actor.lookup map other) ∧
    ∀ quantity x, operand.number? = some x → ∀ mode, mode ≠ .assign →
      ∀ (store : VariableStore) (twin : String),
        store.find? twin = some (.float (actor.quantity quantity)) →
        ∃ changed after value,
          actor.change mode quantity.name operand = .ok changed ∧
          store.change mode twin operand = .ok after ∧ after.find? twin = some value ∧
          ∀ map other, changed.lookup map other =
            if other = quantity.name then some value else actor.lookup map other := by
  intro actor reserved
  refine ⟨?_, ?_, ?_, ?_⟩
  · rw [← Value.number?_eq_none_iff]
    exact exists_change_assign_eq_error_iff
  · intro mode
    exact Attempt.assign_actor state mode name operand
  · intro changed written map
    exact lookup_change_assign written map
  · intro quantity x number mode computes store twin holds
    -- A quantity computes as a float under a plain name does.
    have combined := mode.combine?_float computes (actor.quantity quantity) number
    have changed := actor.change_name mode quantity number
    generalize mode.combineNumber (actor.quantity quantity) x = result at combined changed
    have next : store.next mode twin operand = .ok (.float result) := by
      simp only [VariableStore.next, holds, combined]
    refine ⟨_, store.insert twin (.float result), .float result, changed, ?_, ?_, ?_⟩
    · simp only [VariableStore.change, next, Except.map]
    · exact (Dictionary.find?_insert ..).trans (if_pos rfl)
    · intro map other
      exact actor.lookup_setQuantity map quantity result other

/-! ### An example: what the acrobat reads -/

/-- The acrobat may not be sent to a word, which changes nothing.  Three lifts are read as
three although the map knows nine, and the velocity stays what it was. -/
theorem reads_what_was_written_acrobat :
    let begun := EvalState.begin acrobatScene {}
    let actor := acrobatScene.actor
    let fault := Fault.variable
      (.typeMismatch "__XPOS" { expected := "float", found := "string" })
    (Attempt.assign .assign "__XPOS" (.text "left") false).run.run begun =
        (.error fault, begun) ∧
      ∃ changed, actor.change .assign "lift" (.int 3) = .ok changed ∧
        changed.lookup (.ofList [("lift", .int 9)]) "lift" = some (.int 3) ∧
        changed.lookup .empty "__XSPEED" = actor.lookup .empty "__XSPEED" := by
  intro begun actor fault
  obtain ⟨-, inPlace, -⟩ := reads_what_was_written begun "__XPOS" (.text "left")
  obtain ⟨-, -, reads, -⟩ := reads_what_was_written begun "lift" (.int 3)
  refine ⟨inPlace .assign, _, rfl, ?_, ?_⟩
  · exact (reads _ rfl (.ofList [("lift", .int 9)])).2.1 (by decide)
  · exact (reads _ rfl .empty).2.2 "__XSPEED" (by decide)

end Actor

end Stagecraft
