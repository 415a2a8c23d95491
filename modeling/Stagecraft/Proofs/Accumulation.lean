/-
Module: Stagecraft.Proofs.Accumulation
Purpose: What a variable holds after a node has added to it, multiplied it, or continued its
  text any number of times.
Main exports:
  Scene.put, Surroundings.repeatNode, Surroundings.SucceedsTo,
  Surroundings.evaluateNode_setVariable, Surroundings.succeedsTo_of_values,
  Surroundings.repeated_changes_have_closed_forms
-/
import Stagecraft.Proofs.ReadAfterWrite
import Mathlib.Algebra.Group.Int.Defs

namespace Stagecraft

variable {σ : Type}

/-! ### One variable of a scene -/

namespace Scene

/-- The variables of the map, or those of the actor. -/
def scope (scene : Scene σ) (isGlobal : Bool) : VariableStore :=
  if isGlobal then scene.map else scene.actor.store

def put (scene : Scene σ) (isGlobal : Bool) (name : String) (value : Value) : Scene σ :=
  if isGlobal then { scene with map := scene.map.insert name value }
  else { scene with actor := { scene.actor with store := scene.actor.store.insert name value } }

@[simp] theorem find?_scope_put (scene : Scene σ) (isGlobal : Bool) (name : String)
    (value : Value) : ((scene.put isGlobal name value).scope isGlobal).find? name = some value := by
  cases isGlobal with
  | true => exact (Dictionary.find?_insert ..).trans (if_pos rfl)
  | false => exact (Dictionary.find?_insert ..).trans (if_pos rfl)

/-- Of two values put into one variable the second stays. -/
@[simp] theorem put_put (scene : Scene σ) (isGlobal : Bool) (name : String)
    (first second : Value) :
    (scene.put isGlobal name first).put isGlobal name second =
      scene.put isGlobal name second := by
  cases isGlobal with
  | true => simp only [put, if_true, Dictionary.insert_insert]
  | false => simp only [put, Bool.false_eq_true, if_false, Dictionary.insert_insert]

/-- A variable whose next value is known takes it, and nothing else on the scene changes. -/
theorem changeVariable_eq_put {scene : Scene σ} {mode : SetMode} {name : String}
    {operand value : Value} {isGlobal : Bool}
    (free : isGlobal = false → name ∉ Quantity.all.map Quantity.name)
    (next : (scene.scope isGlobal).next mode name operand = .ok value) :
    scene.changeVariable mode name operand isGlobal = .ok (scene.put isGlobal name value) := by
  cases isGlobal with
  | true =>
      have next : scene.map.next mode name operand = .ok value := next
      simp only [changeVariable, put, if_true, VariableStore.change, next, Except.map,
        Except.mapError]
  | false =>
      have plain := Quantity.ofName?_eq_none_iff.mpr (free rfl)
      have next : scene.actor.store.next mode name operand = .ok value := next
      simp only [changeVariable, put, Bool.false_eq_true, if_false, Actor.change, plain,
        VariableStore.change, next, Except.map, Except.mapError]

end Scene

namespace VariableStore

variable {store : VariableStore} {mode : SetMode} {name : String} {operand : Value}

/-- A variable that is not there starts with the operand, whatever the mode. -/
theorem next_of_absent (absent : store.find? name = none) :
    store.next mode name operand = .ok operand := by
  simp only [next, absent]

theorem next_of_present {current value : Value} (present : store.find? name = some current)
    (combined : mode.combine? current operand = some value) :
    store.next mode name operand = .ok value := by
  simp only [next, present, combined]

end VariableStore

/-! ### One evaluation after the other -/

namespace Surroundings

variable (surroundings : Surroundings σ) (id : NodeId) (locks : AxisLocks)

/-- Evaluate a node a number of times, each time on the scene that the evaluation before has
left. -/
def repeatNode : Nat → Scene σ → List Evaluation × Scene σ
  | 0, scene => ([], scene)
  | count + 1, scene =>
      let (evaluation, between) := surroundings.evaluateNode id locks scene
      let (later, after) := repeatNode count between
      (evaluation :: later, after)

/-- So many evaluations of a node all succeed without a fault and lead from one scene to
another. -/
def SucceedsTo (count : Nat) (before after : Scene σ) : Prop :=
  ∃ evaluations, surroundings.repeatNode id locks count before = (evaluations, after) ∧
    evaluations.length = count ∧
    ∀ evaluation ∈ evaluations, evaluation.outcome = .success ∧ evaluation.faults = []

variable {surroundings id locks}

theorem SucceedsTo.cons {count : Nat} {before between after : Scene σ} {evaluation : Evaluation}
    (one : surroundings.evaluateNode id locks before = (evaluation, between))
    (success : evaluation.outcome = .success ∧ evaluation.faults = [])
    (rest : surroundings.SucceedsTo id locks count between after) :
    surroundings.SucceedsTo id locks (count + 1) before after := by
  obtain ⟨later, repeated, length, successes⟩ := rest
  refine ⟨evaluation :: later, ?_, congrArg Nat.succ length, ?_⟩
  · simp only [repeatNode, one, repeated]
  · exact List.forall_mem_cons.mpr ⟨success, successes⟩

/-! ### A node that changes a variable by a fixed value -/

variable {node : Node Edge} (stands : surroundings.graph.nodes[id]? = some node)
  {name : String} {mode : SetMode} {operand : Value} {isGlobal : Bool}
  (kind : node.kind = .setVariable name (.literal operand) mode isGlobal)
  (free : isGlobal = false → name ∉ Quantity.all.map Quantity.name)

include kind free in
/-- The work of a node that sets a variable, where the value to come is known. -/
theorem work_setVariable (surroundings : Surroundings σ) (descend : Descent σ) (id : NodeId)
    (state : EvalState σ) {value : Value}
    (next : (state.scene.scope isGlobal).next mode name operand = .ok value) :
    surroundings.work descend id node state =
      .ok (.success, state.withScene (state.scene.put isGlobal name value)) := by
  have changed := Scene.changeVariable_eq_put free next
  simp only [work, kind, Scene.read, Parameter.resolve_literal, Except.mapError]
  change (state.scene.changeVariable mode name operand isGlobal >>= _) = _
  rw [changed]
  rfl

include stands kind free in
/-- The node succeeds if the variable can take the operand, and changes nothing else. -/
theorem evaluateNode_setVariable (locks : AxisLocks) {scene : Scene σ} {value : Value}
    (next : (scene.scope isGlobal).next mode name operand = .ok value) :
    ∃ evaluation,
      surroundings.evaluateNode id locks scene = (evaluation, scene.put isGlobal name value) ∧
        evaluation.outcome = .success ∧ evaluation.faults = [] := by
  have worked := work_setVariable kind free surroundings (surroundings.run surroundings.maxDepth)
    id ((EvalState.begin scene locks).note (.started id)) next
  simp only [evaluateNode, run, stands, execute_eq, worked, conclude]
  split <;> exact ⟨_, rfl, rfl, rfl⟩

section Values

variable {values : Nat → Value}
  (steps : ∀ i, mode.combine? (values i) operand = some (values (i + 1)))

include stands kind free steps in
/-- Where the operand takes each of some values to the next, so do the evaluations. -/
theorem succeedsTo_of_values (locks : AxisLocks) (scene : Scene σ) (i count : Nat) :
    surroundings.SucceedsTo id locks count (scene.put isGlobal name (values i))
      (scene.put isGlobal name (values (i + count))) := by
  induction count generalizing i with
  | zero => exact ⟨[], rfl, rfl, by simp⟩
  | succ count ih =>
      have next : ((scene.put isGlobal name (values i)).scope isGlobal).next mode name operand =
          .ok (values (i + 1)) :=
        VariableStore.next_of_present (Scene.find?_scope_put ..) (steps i)
      obtain ⟨evaluation, one, success⟩ := evaluateNode_setVariable stands kind free locks next
      rw [Scene.put_put] at one
      have rest := ih (i + 1)
      rw [Nat.add_right_comm] at rest
      exact .cons one success rest

include stands kind free steps in
/-- The first evaluation finds the variable as it is, or absent; each later one finds what the
one before has left. -/
theorem succeedsTo_of_next (locks : AxisLocks) {scene : Scene σ}
    (first : (scene.scope isGlobal).next mode name operand = .ok (values 1)) {count : Nat}
    (once : 1 ≤ count) :
    surroundings.SucceedsTo id locks count scene (scene.put isGlobal name (values count)) := by
  obtain ⟨later, rfl⟩ := Nat.exists_eq_add_of_le' once
  -- The first time is apart: there may be no variable yet, and then the operand itself is put.
  obtain ⟨evaluation, one, success⟩ := evaluateNode_setVariable stands kind free locks first
  have rest := succeedsTo_of_values stands kind free steps locks scene 1 later
  rw [Nat.add_comm] at rest
  exact .cons one success rest

include stands kind free steps in
/-- The same for a variable that holds the value before the first one. -/
theorem succeedsTo_of_present (locks : AxisLocks) {scene : Scene σ} {start : Value}
    (begins : values 0 = start) (present : (scene.scope isGlobal).find? name = some start)
    {count : Nat} (once : 1 ≤ count) :
    surroundings.SucceedsTo id locks count scene (scene.put isGlobal name (values count)) := by
  have first := steps 0
  rw [begins] at first
  exact succeedsTo_of_next stands kind free steps locks
    (VariableStore.next_of_present present first) once

end Values

end Surroundings

/-! ### Closed forms -/

namespace Value

/-- The sum after so many additions of a number, reduced to 32 bits. -/
def sumAfter (start : Int) (operand : Int32) (count : Nat) : Value :=
  .int (.ofInt (start + count * operand.toInt))

/-- The product after so many multiplications by a number, reduced to 32 bits. -/
def productAfter (start : Int) (operand : Int32) (count : Nat) : Value :=
  .int (.ofInt (start * operand.toInt ^ count))

/-- The text after the text of a value was joined to it so many times. -/
def textAfter (start : String) (operand : Value) (count : Nat) : Value :=
  .text (start ++ String.join (List.replicate count operand.display))

/-- To add the operand once more leads from one sum to the next, with the same wrap-around. -/
theorem combine?_sumAfter (start : Int) (operand : Int32) (count : Nat) :
    SetMode.add.combine? (sumAfter start operand count) (.int operand) =
      some (sumAfter start operand (count + 1)) := by
  have wrapped : Int32.ofInt (start + count * operand.toInt) + operand =
      .ofInt (start + (count + 1 : Nat) * operand.toInt) := by
    calc Int32.ofInt (start + count * operand.toInt) + operand
      _ = .ofInt (start + count * operand.toInt) + .ofInt operand.toInt := by
          rw [Int32.ofInt_toInt]
      _ = .ofInt (start + count * operand.toInt + operand.toInt) := (Int32.ofInt_add _ _).symm
      _ = .ofInt (start + (count + 1 : Nat) * operand.toInt) := by
          rw [Int.natCast_add, Int.add_mul, Int.natCast_one, Int.one_mul, Int.add_assoc]
  simp only [sumAfter, SetMode.combine?, plus?, wrapped]

/-- To multiply once more leads from one product to the next. -/
theorem combine?_productAfter (start : Int) (operand : Int32) (count : Nat) :
    SetMode.multiply.combine? (productAfter start operand count) (.int operand) =
      some (productAfter start operand (count + 1)) := by
  have wrapped : Int32.ofInt (start * operand.toInt ^ count) * operand =
      .ofInt (start * operand.toInt ^ (count + 1)) := by
    calc Int32.ofInt (start * operand.toInt ^ count) * operand
      _ = .ofInt (start * operand.toInt ^ count) * .ofInt operand.toInt := by
          rw [Int32.ofInt_toInt]
      _ = .ofInt (start * operand.toInt ^ count * operand.toInt) := (Int32.ofInt_mul _ _).symm
      _ = .ofInt (start * operand.toInt ^ (count + 1)) := by
          rw [Int.mul_assoc, ← Int.pow_succ]
  simp only [productAfter, SetMode.combine?, times?, wrapped]

/-- To add to a text appends the operand once more. -/
theorem combine?_textAfter (start : String) (operand : Value) (count : Nat) :
    SetMode.add.combine? (textAfter start operand count) operand =
      some (textAfter start operand (count + 1)) := by
  have joined : String.join (List.replicate (count + 1) operand.display) =
      String.join (List.replicate count operand.display) ++ operand.display := by
    apply String.toList_inj.mp
    simp [String.toList_join, List.replicate_succ']
  simp only [textAfter, SetMode.combine?, plus?, joined, String.append_assoc]

theorem sumAfter_zero (start operand : Int32) :
    sumAfter start.toInt operand 0 = .int start := by
  simp [sumAfter]

theorem productAfter_zero (start operand : Int32) :
    productAfter start.toInt operand 0 = .int start := by
  simp [productAfter]

theorem textAfter_zero (start : String) (operand : Value) :
    textAfter start operand 0 = .text start := by
  simp [textAfter]

/-- One addition to nothing gives the operand, as if it had been added to zero. -/
theorem sumAfter_one (operand : Int32) : sumAfter 0 operand 1 = .int operand := by
  simp [sumAfter]

/-- One multiplication of nothing gives the operand, as if it had multiplied one. -/
theorem productAfter_one (operand : Int32) : productAfter 1 operand 1 = .int operand := by
  rw [productAfter, Int.one_mul, Int.pow_succ, Int.pow_zero, Int.one_mul, Int32.ofInt_toInt]

end Value

namespace Surroundings

/-- **Repeated changes have closed forms.**  Take a node that adds a fixed value to a variable
of the map or the actor, or multiplies the variable by it.  Any number of evaluations, one
after the other, all succeed without a fault, and nothing but the variable changes on the
scene.  A whole number to which a whole number is added is in the end the sum with all of
them, and one that is multiplied the product, reduced to 32 bits; a variable that did not
exist counts as zero for sums and as one for products.  A text is in the end continued by as
many copies of the text of the value, whatever its type. -/
theorem repeated_changes_have_closed_forms {surroundings : Surroundings σ} {id : NodeId}
    {node : Node Edge} (stands : surroundings.graph.nodes[id]? = some node)
    {name : String} {mode : SetMode} {operand : Value} {isGlobal : Bool}
    (kind : node.kind = .setVariable name (.literal operand) mode isGlobal)
    (free : isGlobal = false → name ∉ Quantity.all.map Quantity.name)
    (locks : AxisLocks) (scene : Scene σ) {count : Nat} (once : 1 ≤ count) :
    let held := (scene.scope isGlobal).find? name
    let Leaves := fun value =>
      surroundings.SucceedsTo id locks count scene (scene.put isGlobal name value)
    (mode = .add → ∀ v : Int32, operand = .int v →
      (∀ a : Int32, held = some (.int a) →
        Leaves (.int (.ofInt (a.toInt + count * v.toInt)))) ∧
      (held = none → Leaves (.int (.ofInt (count * v.toInt))))) ∧
    (mode = .multiply → ∀ v : Int32, operand = .int v →
      (∀ a : Int32, held = some (.int a) →
        Leaves (.int (.ofInt (a.toInt * v.toInt ^ count)))) ∧
      (held = none → Leaves (.int (.ofInt (v.toInt ^ count))))) ∧
    (mode = .add → ∀ s : String, held = some (.text s) →
      Leaves (.text (s ++ String.join (List.replicate count operand.display)))) := by
  intro held Leaves
  refine ⟨?_, ?_, ?_⟩
  · rintro rfl v rfl
    have sums (start : Int) := Value.combine?_sumAfter start v
    constructor
    · intro a present
      exact succeedsTo_of_present stands kind free (sums a.toInt) locks
        (Value.sumAfter_zero a v) present once
    · intro absent
      have first : (scene.scope isGlobal).next .add name (.int v) = .ok (Value.sumAfter 0 v 1) := by
        rw [Value.sumAfter_one]
        exact VariableStore.next_of_absent absent
      have leaves := succeedsTo_of_next stands kind free (sums 0) locks first once
      rwa [Value.sumAfter, Int.zero_add] at leaves
  · rintro rfl v rfl
    have products (start : Int) := Value.combine?_productAfter start v
    constructor
    · intro a present
      exact succeedsTo_of_present stands kind free (products a.toInt) locks
        (Value.productAfter_zero a v) present once
    · intro absent
      have first : (scene.scope isGlobal).next .multiply name (.int v) =
          .ok (Value.productAfter 1 v 1) := by
        rw [Value.productAfter_one]
        exact VariableStore.next_of_absent absent
      have leaves := succeedsTo_of_next stands kind free (products 1) locks first once
      rwa [Value.productAfter, Int.one_mul] at leaves
  · rintro rfl s present
    exact succeedsTo_of_present stands kind free (Value.combine?_textAfter s operand) locks
      (Value.textAfter_zero s operand) present once

end Surroundings

/-! ### An example: a counter that wraps around -/

/-- A turnstile that counts two thousand million visitors at a time. -/
def turnstile : Document :=
  { actors :=
      [ { name := "Gate"
          events :=
            [ { name := "Count", kind := "set-var"
                properties :=
                  [ { name := "VAL_NAME", value := .text "visitors" },
                    { name := "VALUE", value := .number (.whole 2000000000) },
                    { name := "+=", value := .bool true } ] } ] } ] }

/-- The graph of the turnstile: the counting is number 0. -/
def turnstileGraph : BehaviorGraph := (BehaviorGraph.load turnstile).toOption.getD {}

/-- The gate has counted five visitors. -/
def gateScene : Scene Controller :=
  { actor := { id := 1, template := "Gate", store := .ofList [("visitors", .int 5)] }
    map := .empty
    requests := []
    animation := .instant }

/-- The number after three times is that of six thousand million and five, reduced to 32
bits. -/
theorem repeated_changes_have_closed_forms_turnstile :
    let day : Surroundings Controller := rehearsal turnstileGraph 8 0.5 (.fixed false 0) []
    BehaviorGraph.load turnstile = .ok turnstileGraph ∧
      (gateScene.scope false).find? "visitors" = some (.int 5) ∧
      day.SucceedsTo 0 {} 3 gateScene (gateScene.put false "visitors" (.int 1705032709)) := by
  intro day
  have stands : day.graph.nodes[0]? = some (turnstileGraph.nodes[0]?.getD default) := by rfl
  have kind : (turnstileGraph.nodes[0]?.getD default).kind =
      .setVariable "visitors" (.literal (.int 2000000000)) .add false := by rfl
  have held : (gateScene.scope false).find? "visitors" = some (.int 5) := by decide
  have leaves := (Surroundings.repeated_changes_have_closed_forms stands kind
    (fun _ => by decide) {} gateScene (by decide : 1 ≤ 3)).1 rfl 2000000000 rfl
  refine ⟨by rfl, held, ?_⟩
  have sum : Int32.ofInt (Int32.toInt 5 + (3 : Nat) * Int32.toInt 2000000000) = 1705032709 := by
    decide
  have counted := leaves.1 5 held
  rw [sum] at counted
  exact counted

end Stagecraft
