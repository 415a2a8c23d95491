/-
Module: Stagecraft.Proofs.JumpParameters
Purpose: Which jumps with fixed parameters take off: what loading has checked of a duration and
  of a slow factor, and what it leaves to the check of their product when the node runs.
Main exports:
  JumpProfile.Vanishes, JumpProfile.isSome_of?_iff, JumpProfile.Vanishes.bounds,
  Definition.passes_jump, NodeEntry.passes_jump_of_define, Surroundings.run_jump,
  checked_jumps_take_off, jump_without_take_off_loads
-/
import Stagecraft.Proofs.FixedGraphs
import Stagecraft.Proofs.Products

namespace Stagecraft

open Number (exactSingle)
open PropertyBag

/-! ### Take-offs -/

namespace JumpProfile

/-- The time until the highest point is too short for a positive number: what the duration
and the part of it that goes upwards multiply to is at most half of the smallest one. -/
def Vanishes (duration slowFactor : Float32) : Prop :=
  ∃ time part : ℚ, (exactSingle duration).number? = some time ∧
    (exactSingle (1 - slowFactor)).number? = some part ∧ time * part ≤ 2 ^ (-150 : ℤ)

variable {height duration slowFactor : Float32}

/-- A profile exists if the jump takes some time to its apex. -/
theorem isSome_of?_iff_lt :
    (of? height duration slowFactor).isSome = true ↔ 0 < apexTimeOf duration slowFactor := by
  simp only [of?]
  split
  · next positive => exact iff_of_true rfl positive
  · next low => exact iff_of_false Bool.false_ne_true low

/-- A jump of positive duration that is not slowed down to nothing takes off unless the time
until its highest point vanishes. -/
theorem isSome_of?_iff (lasts : 0 < duration) (low : 0 ≤ slowFactor) (high : slowFactor < 1) :
    (of? height duration slowFactor).isSome = true ↔ ¬ Vanishes duration slowFactor := by
  rw [isSome_of?_iff_lt, apexTimeOf]
  obtain ⟨n, f, more, left, -⟩ := Number.exists_one_sub low high
  have positive := Number.zero_lt_iff.mp lasts
  generalize parts : duration.toModel.unpack = its at positive
  cases positive with
  | infinity =>
      -- No exact number stands for an infinite duration, so nothing vanishes.
      refine iff_of_true (Number.mul_pos_of_infinity parts left) ?_
      rintro ⟨time, part, finite, -⟩
      cases finite.symm.trans (Number.number?_of_infinity parts)
  | finite some =>
      rw [Number.mul_pos_iff_of_unpack parts left, ← not_le]
      refine not_congr ⟨fun small => ?_, ?_⟩
      · exact ⟨_, _, Number.number?_of_unpack parts, Number.number?_of_unpack left, small⟩
      · rintro ⟨time, part, first, second, small⟩
        cases first.symm.trans (Number.number?_of_unpack parts)
        cases second.symm.trans (Number.number?_of_unpack left)
        exact small

/-- Only very short jumps vanish, and among them only those that are slowed down. -/
theorem Vanishes.bounds (vanishes : Vanishes duration slowFactor) (lasts : 0 < duration)
    (low : 0 ≤ slowFactor) (high : slowFactor < 1) :
    0 < slowFactor ∧
      ∃ time, (exactSingle duration).number? = some time ∧ time ≤ 2 ^ (-126 : ℤ) := by
  obtain ⟨time, part, first, second, small⟩ := vanishes
  have positive := Number.zero_lt_iff.mp lasts
  generalize parts : duration.toModel.unpack = its at positive
  cases positive with
  | infinity => cases first.symm.trans (Number.number?_of_infinity parts)
  | @finite m e some =>
      cases first.symm.trans (Number.number?_of_unpack parts)
      constructor
      · rcases Number.parts_below_one low high with ⟨sign, zero⟩ | ⟨n, f, more, slows, -⟩
        · -- All of the duration goes upwards, and no duration is below the smallest number.
          have whole := Number.number?_of_unpack (Number.one_sub_of_zero zero)
          cases second.symm.trans whole
          have least := Number.two_zpow_le_of_unpack parts
          norm_num at least small
          linarith
        · rw [Number.zero_lt_iff, slows]
          exact .finite more
      · obtain ⟨n, f, more, left, large⟩ := Number.exists_one_sub low high
        cases second.symm.trans (Number.number?_of_unpack left)
        have size : (0 : ℚ) ≤ m * 2 ^ e := by positivity
        refine ⟨_, first, le_of_mul_le_mul_right (a := 2 ^ (-24 : ℤ)) ?_ (by norm_num)⟩
        calc (m * 2 ^ e : ℚ) * 2 ^ (-24 : ℤ)
          _ ≤ m * 2 ^ e * (n * 2 ^ f) := mul_le_mul_of_nonneg_left large size
          _ ≤ 2 ^ (-150 : ℤ) := small
          _ = 2 ^ (-126 : ℤ) * 2 ^ (-24 : ℤ) := by norm_num

end JumpProfile

/-! ### What loading checks -/

namespace Definition

/-- Only jumps define nodes that jump. -/
theorem eq_of_jump_kind {kindName : KindName} {bag : PropertyBag}
    {height duration slowFactor : Parameter Float32} {animation : AnimationKind}
    (made : ((kind kindName).run bag).1.1 = .jump height duration slowFactor animation) :
    kindName = .jump := by
  cases kindName with
  | jump => rfl
  | setVariable =>
      simp only [kind, run_bind] at made
      split at made <;> simp only [run_bind] at made <;> cases made
  | rotate | switch | mouseButton | layerState | singleGuard =>
      simp only [kind, run_bind] at made
      split at made <;> cases made
  | compare =>
      simp only [kind, run_bind] at made
      split at made <;> split at made <;> cases made
  | _ => cases made

/-- A jump without problems has passed the checks of its fixed parameters. -/
theorem passes_jump {bag : PropertyBag} {height : Parameter Float32}
    {duration slowFactor : Float32} {animation : AnimationKind}
    (sound : ((kind .jump).run bag).2.problems = [])
    (made : ((kind .jump).run bag).1.1 =
      .jump height (.literal duration) (.literal slowFactor) animation) :
    ¬ duration ≤ 0 ∧ 0 ≤ slowFactor ∧ slowFactor < 1 := by
  simp only [kind, run_bind] at sound made
  generalize (parameterOr "JUMP_HEIGHT" (400 : Float32)).run bag = first at sound made
  generalize (parameterOr "JUMP_DURATION" (0.5 : Float32)).run first.2 = second at sound made
  generalize (parameterOr "SLOW_FACTOR" (0 : Float32)).run second.2 = third at sound made
  obtain ⟨-, lasts, slows, -⟩ := NodeKind.jump.inj made
  rw [lasts, slows] at sound
  -- No later step takes a problem back, so each check is free of problems where it stands.
  have slowed := (asks_animation "ANIMATION_TYPE" .jump).grows _ sound
  have lasting := (asks_check "SLOW_FACTOR" .outsideUnit _ _).grows _ slowed
  have unit := passes_of_check slowed
  have long := passes_of_check lasting
  simp only [Bool.and_eq_true, Bool.not_eq_true', decide_eq_true_eq, decide_eq_false_iff_not]
    at unit long
  exact ⟨long, unit⟩

end Definition

/-- The literal numbers of a jump that was defined have passed both checks of the load. -/
theorem NodeEntry.passes_jump_of_define {entry : NodeEntry} {home : Namespace}
    {node : Node Reference} (defined : entry.define home = .ok node)
    {height : Parameter Float32} {duration slowFactor : Float32} {animation : AnimationKind}
    (kind : node.kind = .jump height (.literal duration) (.literal slowFactor) animation) :
    ¬ duration ≤ 0 ∧ 0 ≤ slowFactor ∧ slowFactor < 1 := by
  obtain ⟨kindName, -, rfl, sound⟩ := define_eq_ok_iff.mp defined
  obtain ⟨start, made, checked⟩ :=
    Definition.exists_sound_kind_node entry.name home kindName (.ofEntries entry.properties)
  rw [made] at kind
  obtain rfl := Definition.eq_of_jump_kind kind
  exact Definition.passes_jump (checked sound) kind

/-! ### What is left to check when a jump runs -/

namespace Surroundings

variable {σ : Type} {surroundings : Surroundings σ} {id : NodeId} {node : Node Edge}
  {height duration slowFactor : Float32} {animation : AnimationKind}

/-- A jump by literals needs a profile and nothing else. -/
theorem work_jump (kind : node.kind =
      .jump (.literal height) (.literal duration) (.literal slowFactor) animation)
    (descend : Descent σ) (state : EvalState σ) :
    surroundings.work descend id node state =
      (Scene.jumpProfile height duration slowFactor).bind fun profile =>
        ((state.propel .y fun _ => -profile.initialSpeed).hint surroundings id
          animation).done := by
  simp only [work, kind]
  rfl

/-- A jump with fixed parameters succeeds if it takes off.  Otherwise its duration is the one
fault that it adds. -/
theorem run_jump (stands : surroundings.graph.nodes[id]? = some node)
    (kind : node.kind =
      .jump (.literal height) (.literal duration) (.literal slowFactor) animation)
    (levels : Nat) (state : EvalState σ) :
    let ended := surroundings.run (levels + 1) id state
    ((JumpProfile.of? height duration slowFactor).isSome = true →
      ended.1 = .success ∧ ended.2.faults = state.faults) ∧
    ((JumpProfile.of? height duration slowFactor).isSome = false →
      ended.1 = .failure ∧ ended.2.faults = state.faults ++
        [{ node := node.name
           fault := .invalidParameter "JUMP_DURATION"
             ("apex time " ++ Number.writeSingle (JumpProfile.apexTimeOf duration slowFactor) ++
               " is not positive") }]) := by
  intro ended
  have run : ended = conclude id node (state.note (.started id))
      (surroundings.work (surroundings.run levels) id node (state.note (.started id))) :=
    (run_succ stands levels state).trans (execute_eq ..)
  rw [work_jump kind, Scene.jumpProfile] at run
  generalize JumpProfile.of? height duration slowFactor = profile at run
  cases profile with
  | some profile =>
      have same : (state.note (.started id)).SameReport _ :=
        (EvalState.SameReport.propel _ .y fun _ => -profile.initialSpeed).trans
          (.hint _ surroundings id animation)
      rw [run.trans (conclude_ok ..)]
      exact ⟨fun _ => ⟨rfl, (EvalState.finish_faults ..).trans same.faults⟩, nofun⟩
  | none =>
      rw [run.trans (conclude_error ..)]
      exact ⟨nofun, fun _ => ⟨rfl, EvalState.finish_faults ..⟩⟩

end Surroundings

/-! ### A playground -/

/-- A jump that is slowed down by a quarter. -/
def hop : NodeEntry :=
  { name := "Hop", kind := "jump"
    properties :=
      [ { name := "JUMP_HEIGHT", declared := some "float", value := .number (.whole 300) },
        { name := "SLOW_FACTOR", declared := some "float", value := .text "0.25" } ] }

/-- A jump of the smallest positive duration, nine tenths of which it comes down. -/
def twitch : NodeEntry :=
  { name := "Twitch", kind := "jump"
    properties :=
      [ { name := "JUMP_DURATION", declared := some "float", value := .text "1e-45" },
        { name := "SLOW_FACTOR", declared := some "float", value := .text "0.9" } ] }

/-- Both jumps, as events of the map. -/
def playground : Document := { mapEvents := [hop, twitch] }

/-- The graph of the playground: the hop is number 0, the twitch number 1. -/
def playgroundGraph : BehaviorGraph := (BehaviorGraph.load playground).toOption.getD {}

/-- An afternoon on the playground. -/
def afternoon : Surroundings Controller := rehearsal playgroundGraph 8 0.5 (.fixed false 0) []

/-- A child that stands still. -/
def childScene : Scene Controller :=
  { actor := { id := 1, template := "Child" }
    map := .empty
    requests := []
    animation := .instant }

theorem load_playground : BehaviorGraph.load playground = .ok playgroundGraph := by rfl

/-! ### Checked jumps -/

/-- **Only vanishing jumps are left to fail.**  Let an entry define without a problem a jump whose
parameters are fixed, and whose duration is a number or infinite.  It has a take-off exactly if
the time until its highest point does not vanish, and that time vanishes in very short jumps
alone, never without a slow factor.  Wherever a node of this kind runs, with a take-off it
succeeds and adds no fault, and without one it fails and adds the fault of its duration. -/
theorem checked_jumps_take_off {entry : NodeEntry} {home : Namespace} {declared : Node Reference}
    (defined : entry.define home = .ok declared) {height duration slowFactor : Float32}
    {animation : AnimationKind}
    (kind : declared.kind =
      .jump (.literal height) (.literal duration) (.literal slowFactor) animation)
    (measured : duration.isNaN = false) :
    ((JumpProfile.of? height duration slowFactor).isSome = true ↔
      ¬ JumpProfile.Vanishes duration slowFactor) ∧
    (JumpProfile.Vanishes duration slowFactor → 0 < slowFactor ∧
      ∃ time, (exactSingle duration).number? = some time ∧ time ≤ 2 ^ (-126 : ℤ)) ∧
    ∀ {σ : Type} (surroundings : Surroundings σ) (id : NodeId) (node : Node Edge),
      surroundings.graph.nodes[id]? = some node → node.kind = declared.kind →
        ∀ (levels : Nat) (state : EvalState σ),
          let ended := surroundings.run (levels + 1) id state
          (¬ JumpProfile.Vanishes duration slowFactor →
            ended.1 = .success ∧ ended.2.faults = state.faults) ∧
          (JumpProfile.Vanishes duration slowFactor →
            ended.1 = .failure ∧ ended.2.faults = state.faults ++
              [{ node := node.name
                 fault := .invalidParameter "JUMP_DURATION"
                   ("apex time " ++
                     Number.writeSingle (JumpProfile.apexTimeOf duration slowFactor) ++
                     " is not positive") }]) := by
  obtain ⟨long, low, high⟩ := NodeEntry.passes_jump_of_define defined kind
  -- The check lets pass what is not a number, but such a duration is excluded here.
  have lasts : 0 < duration := Number.zero_lt_of_not_le measured long
  have takesOff : (JumpProfile.of? height duration slowFactor).isSome = true ↔
      ¬ JumpProfile.Vanishes duration slowFactor := JumpProfile.isSome_of?_iff lasts low high
  refine ⟨takesOff, fun vanishes => vanishes.bounds lasts low high, ?_⟩
  intro σ surroundings id node stands same levels state
  obtain ⟨flies, stays⟩ := Surroundings.run_jump stands (same.trans kind) levels state
  refine ⟨fun apart => flies (takesOff.mpr apart), fun vanishes => stays ?_⟩
  exact Bool.eq_false_iff.mpr fun flies => takesOff.mp flies vanishes

/-- The hop takes off, and is not at fault when the child performs it. -/
theorem checked_jumps_take_off_hop :
    BehaviorGraph.load playground = .ok playgroundGraph ∧
      (∃ declared, hop.define .map = .ok declared ∧
        declared.kind = .jump (.literal 300) (.literal 0.5) (.literal 0.25) .jump) ∧
      (0.5 : Float32).isNaN = false ∧ ¬ JumpProfile.Vanishes 0.5 0.25 ∧
      (afternoon.evaluateNode 0 {} childScene).1.outcome = .success ∧
      (afternoon.evaluateNode 0 {} childScene).1.faults = [] := by
  obtain ⟨declared, defined⟩ : ∃ declared, hop.define .map = .ok declared := ⟨_, rfl⟩
  have kind : declared.kind = .jump (.literal 300) (.literal 0.5) (.literal 0.25) .jump := by
    cases defined
    rfl
  obtain ⟨takesOff, -, runs⟩ := checked_jumps_take_off defined kind (by rfl)
  have apart : ¬ JumpProfile.Vanishes 0.5 0.25 := takesOff.mp (by rfl)
  obtain ⟨node, stands⟩ : ∃ node, afternoon.graph.nodes[0]? = some node := ⟨_, rfl⟩
  have same : node.kind = declared.kind := by
    cases stands
    exact kind.symm
  have flies := (runs afternoon 0 node stands same 8 (.begin childScene {})).1 apart
  exact ⟨load_playground, ⟨declared, defined, kind⟩, rfl, apart, flies.1, flies.2⟩

/-- The twitch is loaded as well, but it has no take-off, and is at fault when the child
performs it. -/
theorem jump_without_take_off_loads :
    BehaviorGraph.load playground = .ok playgroundGraph ∧
      (playgroundGraph.nodes[1]?).map (·.kind) =
        some (.jump (.literal 400) (.literal (Float32.ofBits 1)) (.literal 0.9) .jump) ∧
      JumpProfile.of? 400 (Float32.ofBits 1) 0.9 = none ∧
      (afternoon.evaluateNode 1 {} childScene).1.faults =
        [ { node := "Twitch"
            fault := .invalidParameter "JUMP_DURATION" "apex time 0 is not positive" } ] :=
  ⟨load_playground, by rfl, by rfl, by rfl⟩

end Stagecraft
