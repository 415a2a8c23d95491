/-
Module: Stagecraft.Proofs.Asking
Purpose: Definitions ask for properties by name, each name at most once, and do not
  notice in which order the properties stand.
Main exports:
  PropertyBag.Twins, PropertyBag.Alike, PropertyBag.Takes, PropertyBag.Asks,
  KindName.keys, asks_kind, asks_asNode, asks_asBinding
-/
import Mathlib.Data.List.Forall2
import Stagecraft.Proofs.Definitions

namespace Stagecraft

namespace Text

/-! ### Names that differ in letter case -/

theorem sameName_symm {first second : String} (same : sameName first second = true) :
    sameName second first = true := by
  rw [sameName_iff] at same ⊢
  exact same.symm

theorem sameName_trans {first second third : String} (one : sameName first second = true)
    (two : sameName second third = true) : sameName first third = true := by
  rw [sameName_iff] at one two ⊢
  exact one.trans two

end Text

/-! ### Lists in which one entry at most has a property -/

/-- Where at most one entry has a property, a search does not depend on the order. -/
theorem find?_eq_of_perm {α : Type} {p : α → Bool} {first second : List α}
    (perm : first.Perm second)
    (unique : first.Pairwise fun x y => p x = true → p y = true → False) :
    first.find? p = second.find? p := by
  induction perm with
  | nil => rfl
  | cons x _ ih =>
      rw [List.find?_cons, List.find?_cons, ih (List.pairwise_cons.mp unique).2]
  | swap x y rest =>
      have clash := (List.pairwise_cons.mp unique).1 x List.mem_cons_self
      simp only [List.find?_cons]
      cases here : p y <;> cases there : p x <;> first | rfl | exact (clash here there).elim
  | trans one _ ih ih' =>
      refine (ih unique).trans (ih' (one.pairwise unique ?_))
      exact fun clash there here => clash here there

namespace PropertyBag

/-- Two properties of one name, letter case aside. -/
def Twins (first second : String × Parameter Value) : Prop :=
  Text.sameName first.1 second.1 = true

theorem Twins.symm {first second : String × Parameter Value} (twins : Twins first second) :
    Twins second first :=
  Text.sameName_symm twins

/-- Two properties that answer to one key are twins. -/
theorem twins_of_isNamed {key : String} {first second : String × Parameter Value}
    (one : isNamed key first = true) (two : isNamed key second = true) : Twins first second :=
  Text.sameName_trans one (Text.sameName_symm two)

/-- Bags that differ in the order of their properties and in what is wrong with them, but
not in whether anything is. -/
structure Alike (first second : PropertyBag) : Prop where
  perm : first.remaining.Perm second.remaining
  distinct : first.remaining.Pairwise fun one other => ¬ Twins one other
  problems : first.problems = [] ↔ second.problems = []

/-- Some properties are used up, each under a key of its own. -/
def Takes (keys : List String) (before after : List (String × Parameter Value)) : Prop :=
  ∃ asked taken, asked.Sublist keys ∧
    List.Forall₂ (fun key property => isNamed key property = true) asked taken ∧
    before.Perm (taken ++ after)

theorem Takes.refl (keys : List String) (properties : List (String × Parameter Value)) :
    Takes keys properties properties :=
  ⟨[], [], List.nil_sublist _, .nil, .refl _⟩

theorem Takes.trans {keys more : List String}
    {before between after : List (String × Parameter Value)}
    (first : Takes keys before between) (second : Takes more between after) :
    Takes (keys ++ more) before after := by
  obtain ⟨asked, taken, sub, named, perm⟩ := first
  obtain ⟨later, others, subLater, namedLater, permLater⟩ := second
  refine ⟨asked ++ later, taken ++ others, sub.append subLater,
    List.rel_append named namedLater, ?_⟩
  rw [List.append_assoc]
  exact perm.trans (permLater.append_left taken)

/-- Work that asks for properties by name, each key once: it answers alike bags alike,
uses up what it has asked for, and does not take back a problem. -/
structure Asks {α : Type} (keys : List String) (work : Using α) : Prop where
  alike : ∀ {first second : PropertyBag}, first.Alike second →
    (work.run first).1 = (work.run second).1 ∧ (work.run first).2.Alike (work.run second).2
  takes : ∀ bag : PropertyBag, Takes keys bag.remaining (work.run bag).2.remaining
  grows : ∀ bag : PropertyBag, (work.run bag).2.problems = [] → bag.problems = []

variable {α β : Type} {keys more : List String}

theorem asks_pure (keys : List String) (value : α) : Asks keys (pure value : Using α) where
  alike same := ⟨rfl, same⟩
  takes bag := .refl keys bag.remaining
  grows _ none := none

/-- A question after another asks for the keys of both, whatever the first one yields. -/
theorem asks_bind {first : Using α} {next : α → Using β} (asks : Asks keys first)
    (later : ∀ value, Asks more (next value)) : Asks (keys ++ more) (first >>= next) where
  alike := by
    intro one other same
    obtain ⟨answer, rest⟩ := asks.alike same
    simp only [run_bind, answer]
    exact (later _).alike rest
  takes bag := (asks.takes bag).trans ((later _).takes _)
  grows bag none := asks.grows bag ((later _).grows _ none)

theorem asks_note (problem : PropertyProblem) : Asks [] (note problem) where
  alike same :=
    ⟨rfl, same.perm, same.distinct, iff_of_false (List.concat_ne_nil _ _)
      (List.concat_ne_nil _ _)⟩
  takes bag := .refl [] bag.remaining
  grows _ none := absurd none (List.concat_ne_nil _ _)

theorem asks_object (key : String) (objection : Objection) : Asks [] (object key objection) :=
  asks_note _

/-- To take a property removes the first one of that name and no other. -/
theorem run_take (key : String) (bag : PropertyBag) :
    (take key).run bag =
      ((bag.remaining.find? (isNamed key)).map Prod.snd,
        { bag with remaining := bag.remaining.eraseP (isNamed key) }) := by
  cases found : bag.remaining.find? (isNamed key) with
  | none =>
      rw [List.eraseP_of_forall_not fun property member =>
        List.find?_eq_none.mp found property member]
      simp only [take, StateT.run_bind, StateT.run_get, pure_bind, found]
      rfl
  | some property =>
      simp only [take, StateT.run_bind, StateT.run_get, pure_bind, found]
      rfl

/-- The answer to a key is the one property of that name. -/
theorem asks_take (key : String) : Asks [key] (take key) where
  alike := by
    intro one other same
    have unique : one.remaining.Pairwise
        fun x y => isNamed key x = true → isNamed key y = true → False :=
      same.distinct.imp fun differ first second => differ (twins_of_isNamed first second)
    simp only [run_take, find?_eq_of_perm same.perm unique, true_and]
    exact ⟨same.perm.eraseP (isNamed key) unique, same.distinct.sublist List.eraseP_sublist,
      same.problems⟩
  takes bag := by
    rw [run_take]
    cases found : bag.remaining.find? (isNamed key) with
    | none =>
        rw [List.eraseP_of_forall_not fun property member =>
          List.find?_eq_none.mp found property member]
        exact .refl _ _
    | some property =>
        obtain ⟨named, before, after, listed, others⟩ := List.find?_eq_some_iff_append.mp found
        refine ⟨[key], [property], .refl _, .cons named .nil, ?_⟩
        rw [listed, List.eraseP_append_right _ (by simpa using others),
          List.eraseP_cons_of_pos named]
        exact List.perm_middle
  grows bag flawless := by
    rwa [run_take] at flawless

/-! ### What each way of asking asks for -/

theorem asks_then {key : String} {rest : List String} {first : Using α} {next : α → Using β}
    (asks : Asks [key] first) (later : ∀ value, Asks rest (next value)) :
    Asks (key :: rest) (first >>= next) :=
  asks_bind asks later

theorem asks_after {first : Using α} {next : α → Using β} (asks : Asks [] first)
    (later : ∀ value, Asks keys (next value)) : Asks keys (first >>= next) :=
  asks_bind asks later

theorem asks_last {first : Using α} {next : α → Using β} (asks : Asks keys first)
    (later : ∀ value, Asks [] (next value)) : Asks keys (first >>= next) :=
  List.append_nil keys ▸ asks_bind asks later

/-- An objection under a condition, before the work goes on. -/
theorem asks_if {condition : Prop} [Decidable condition] {first : Using Unit} {work : Using α}
    (asks : Asks [] first) (later : Asks keys work) :
    Asks keys (if condition then first >>= fun _ => work else work) := by
  split
  · exact asks_after asks fun _ => later
  · exact later

section Primitives

variable (key : String)

theorem asks_parameter (α : Type) [Accepts α] : Asks [key] (parameter α key) := by
  refine asks_then (asks_take key) fun given => ?_
  cases given with
  | none => exact asks_pure [] _
  | some property =>
      simp only
      split
      · exact asks_pure [] _
      · exact asks_after (asks_object key _) fun _ => asks_pure [] _

theorem asks_parameterOr {α : Type} [Accepts α] (fallback : α) :
    Asks [key] (parameterOr key fallback) :=
  asks_then (asks_parameter key α) fun _ => asks_pure [] _

theorem asks_required {α : Type} [Accepts α] (fallback : α) :
    Asks [key] (required key fallback) := by
  have asks := asks_parameterOr key fallback
  have warned := asks_after (asks_note (.missing key)) fun _ => asks
  have answered : ∀ bag : PropertyBag, (required key fallback).run bag =
      if bag.remaining.any (isNamed key) then (parameterOr key fallback).run bag
      else (note (.missing key) >>= fun _ => parameterOr key fallback).run bag := by
    intro bag
    change StateT.run (if (!bag.remaining.any (isNamed key)) = true then _ else _) bag = _
    cases bag.remaining.any (isNamed key) <;> rfl
  constructor
  · intro first second same
    rw [answered, answered, same.perm.any_eq]
    split
    · exact asks.alike same
    · exact warned.alike same
  · intro bag
    rw [answered]
    split
    · exact asks.takes bag
    · exact warned.takes bag
  · intro bag
    rw [answered]
    split
    · exact asks.grows bag
    · exact warned.grows bag

theorem asks_literal (α : Type) [Accepts α] : Asks [key] (literal α key) := by
  refine asks_then (asks_take key) fun given => ?_
  rcases given with _ | value | name
  · exact asks_pure [] _
  · simp only
    split
    · exact asks_pure [] _
    · exact asks_after (asks_object key _) fun _ => asks_pure [] _
  · exact asks_after (asks_object key _) fun _ => asks_pure [] _

theorem asks_flag (fallback : Bool) : Asks [key] (flag key fallback) :=
  asks_then (asks_literal key Bool) fun _ => asks_pure [] _

theorem asks_text : Asks [key] (text key) :=
  asks_then (asks_literal key String) fun _ => asks_pure [] _

theorem asks_someText : Asks [key] (someText key) :=
  asks_then (asks_literal key String) fun _ => asks_pure [] _

theorem asks_requiredText : Asks [key] (requiredText key) := by
  refine asks_then (asks_someText key) fun given => ?_
  cases given with
  | some text => exact asks_pure [] _
  | none => exact asks_after (asks_note _) fun _ => asks_pure [] _

theorem asks_word (meaning : String → Option α) (unknown : String → Objection) :
    Asks [key] (word key meaning unknown) := by
  refine asks_then (asks_literal key String) fun given => ?_
  cases given with
  | none => exact asks_pure [] _
  | some text =>
      simp only
      split
      · exact asks_pure [] _
      · exact asks_after (asks_object key _) fun _ => asks_pure [] _

theorem asks_animation (fallback : AnimationKind) : Asks [key] (animation key fallback) :=
  asks_then (asks_word key _ _) fun _ => asks_pure [] _

theorem asks_direction : Asks [key] (direction key) :=
  asks_then (asks_word key _ _) fun _ => asks_pure [] _

/-- A priority is asked for under its own name, whichever of its forms is given. -/
theorem asks_priority : Asks ["PRIORITY"] priority := by
  refine asks_then (asks_take "PRIORITY") fun given => ?_
  rcases given with _ | value | name
  · exact asks_pure [] _
  · simp only
    split
    · exact asks_pure [] _
    · exact asks_after (asks_object _ _) fun _ => asks_pure [] _
  · exact asks_after (asks_object _ _) fun _ => asks_pure [] _

theorem asks_child : Asks [key] (child key) := by
  refine asks_then (asks_take key) fun given => ?_
  rcases given with _ | value | name
  · exact asks_pure [] _
  · cases value with
    | text name => exact asks_pure [] _
    | _ => exact asks_after (asks_object key _) fun _ => asks_pure [] _
  · exact asks_pure [] _

theorem asks_requiredChild : Asks [key] (requiredChild key) := by
  refine asks_then (asks_child key) fun given => ?_
  cases given with
  | some reference => exact asks_pure [] _
  | none => exact asks_after (asks_note _) fun _ => asks_pure [] _

/-- A check looks at a parameter that is there already and asks for nothing. -/
theorem asks_check (objection : Objection) (passes : α → Bool) (parameter : Parameter α) :
    Asks [] (Definition.check key objection passes parameter) := by
  cases parameter with
  | literal value =>
      simp only [Definition.check]
      split
      · exact asks_pure [] _
      · exact asks_object key objection
  | «variable» name => exact asks_pure [] _

theorem asks_parameterOrElse {α : Type} [Accepts α] (other : String) (fallback : α) :
    Asks [key, other] (Definition.parameterOrElse key other fallback) := by
  refine asks_then (asks_parameter key α) fun given => ?_
  cases given with
  | some parameter => exact asks_pure _ _
  | none => exact asks_parameterOr other fallback

end Primitives

/-- The length of an animation is asked for under all three names, also if the first one is
given. -/
theorem asks_animationSpan :
    Asks ["GAME_FRAMES", "CYCLES", "ANIMATION_FRAMES"] Definition.animationSpan := by
  refine asks_then (asks_parameter _ Int32) fun gameFrames => ?_
  refine asks_then (asks_parameter _ Int32) fun cycles => ?_
  refine asks_then (asks_parameter _ Int32) fun animationFrames => ?_
  simp only
  split
  · exact asks_pure [] _
  · exact asks_pure [] _
  · exact asks_after (asks_object _ _) fun _ => asks_pure [] _

end PropertyBag

/-! ### The keys of kinds and bindings -/

open PropertyBag

/-- The properties that a kind asks for, in this order. -/
def KindName.keys : KindName → List String
  | accelerate => ["XFACTOR", "YFACTOR", "XMAX_SPEED", "YMAX_SPEED"]
  | decelerate => ["XFACTOR", "YFACTOR"]
  | fall => ["ACCELERATION", "MAX_SPEED", "MAX_VELOCITY", "ANIMATION_TYPE"]
  | jump => ["JUMP_HEIGHT", "JUMP_DURATION", "SLOW_FACTOR", "ANIMATION_TYPE"]
  | setVariable _ => ["VAL_NAME", "VALUE", "+=", "*=", "GLOBAL"]
  | animate => ["ANIMATION_TYPE", "DIRECTION", "GAME_FRAMES", "CYCLES", "ANIMATION_FRAMES"]
  | sound => ["PATH"]
  | playMusic => ["REPETITIONS", "REPITITIONS", "FADE IN", "PATH"]
  | rotate => ["DEGREE", "ABSOLUTE", "RELATIVE"]
  | spawnText => ["TEXT", "LAYER_NAME", "COLOR", "BOLD", "ITALIC", "UNDERLINE"]
  | spawnActor => ["ACTOR_NAME", "LAYER_NAME", "X_POS", "Y_POS", "SPAWN_NAME"]
  | setFrame => ["ANIMATION_FRAME", "ANIMATION_TYPE", "DIRECTION"]
  | engineWrapper => ["EVENT"]
  | onGround => ["TOLERANCE"]
  | switch => ["AND", "OR"]
  | singleGuard => ["EVENT_NAME", "EVENT"]
  | collision => ["MY_HITBOX", "OTHER_HITBOX", "OTHER_NAME"]
  | mouseButton => ["MOUSE_BUTTON_INDEX", "PRESSED", "RELEASED", "DOWN"]
  | compare => ["VAL1", "VAL2", "==", "!=", "<", ">"]
  | layerState => ["LAYER_NAME", "HIDE", "UNHIDE"]
  | templateLayer => ["SOURCE", "DESTINATION"]
  | changeMap => ["PATH", "PRESERVE"]
  | move | multi | eraseSelf | closeMap | quit => []

/-- Every kind asks for its keys, each of them once. -/
theorem asks_kind (kindName : KindName) : Asks kindName.keys (Definition.kind kindName) := by
  cases kindName with
  | accelerate =>
      refine asks_then (asks_parameterOr _ _) fun _ => ?_
      refine asks_then (asks_parameterOr _ _) fun _ => ?_
      refine asks_then (asks_parameter _ _) fun _ => ?_
      exact asks_then (asks_parameter _ _) fun _ => asks_pure [] _
  | decelerate =>
      refine asks_then (asks_parameterOr _ _) fun _ => ?_
      exact asks_then (asks_parameterOr _ _) fun _ => asks_pure [] _
  | move | multi | eraseSelf | closeMap | quit => exact asks_pure [] _
  | fall =>
      refine asks_then (asks_parameterOr _ _) fun _ => ?_
      refine asks_bind (asks_parameterOrElse _ _ _) fun _ => ?_
      exact asks_then (asks_animation _ _) fun _ => asks_pure [] _
  | jump =>
      refine asks_then (asks_parameterOr _ _) fun _ => ?_
      refine asks_then (asks_parameterOr _ _) fun duration => ?_
      refine asks_then (asks_parameterOr _ _) fun slowFactor => ?_
      refine asks_after (asks_check _ _ _ duration) fun _ => ?_
      refine asks_after (asks_check _ _ _ slowFactor) fun _ => ?_
      exact asks_then (asks_animation _ _) fun _ => asks_pure [] _
  | setVariable isGlobal =>
      refine asks_then (asks_requiredText _) fun _ => ?_
      refine asks_then (asks_required _ _) fun _ => ?_
      refine asks_then (asks_flag _ _) fun _ => ?_
      refine asks_then (asks_flag _ _) fun _ => ?_
      refine asks_if (asks_object _ _) ?_
      exact asks_then (asks_flag _ _) fun _ => asks_pure [] _
  | animate =>
      refine asks_then (asks_animation _ _) fun _ => ?_
      refine asks_then (asks_direction _) fun _ => ?_
      exact asks_bind asks_animationSpan fun _ => asks_pure [] _
  | sound => exact asks_then (asks_required _ _) fun _ => asks_pure [] _
  | playMusic =>
      refine asks_bind (asks_parameterOrElse _ _ _) fun _ => ?_
      refine asks_then (asks_parameterOr _ _) fun fadeIn => ?_
      refine asks_after (asks_check _ _ _ fadeIn) fun _ => ?_
      exact asks_then (asks_required _ _) fun _ => asks_pure [] _
  | rotate =>
      refine asks_then (asks_parameterOr _ _) fun _ => ?_
      refine asks_then (asks_flag _ _) fun _ => ?_
      refine asks_then (asks_flag _ _) fun _ => ?_
      exact asks_if (asks_object _ _) (asks_pure [] _)
  | spawnText =>
      refine asks_then (asks_required _ _) fun _ => ?_
      refine asks_then (asks_requiredText _) fun _ => ?_
      refine asks_then (asks_literal _ _) fun _ => ?_
      refine asks_then (asks_flag _ _) fun _ => ?_
      refine asks_then (asks_flag _ _) fun _ => ?_
      exact asks_then (asks_flag _ _) fun _ => asks_pure [] _
  | spawnActor =>
      refine asks_then (asks_requiredText _) fun _ => ?_
      refine asks_then (asks_text _) fun _ => ?_
      refine asks_then (asks_parameterOr _ _) fun _ => ?_
      refine asks_then (asks_parameterOr _ _) fun _ => ?_
      exact asks_then (asks_someText _) fun _ => asks_pure [] _
  | setFrame =>
      refine asks_then (asks_parameterOr _ _) fun frame => ?_
      refine asks_after (asks_check _ _ _ frame) fun _ => ?_
      refine asks_then (asks_animation _ _) fun _ => ?_
      exact asks_then (asks_direction _) fun _ => asks_pure [] _
  | engineWrapper => exact asks_then (asks_requiredChild _) fun _ => asks_pure [] _
  | onGround => exact asks_then (asks_parameterOr _ _) fun _ => asks_pure [] _
  | switch =>
      refine asks_then (asks_flag _ _) fun _ => ?_
      refine asks_then (asks_flag _ _) fun _ => ?_
      exact asks_if (asks_object _ _) (asks_pure [] _)
  | singleGuard =>
      refine asks_then (asks_child _) fun given => ?_
      cases given with
      | some event => exact asks_pure _ _
      | none => exact asks_then (asks_requiredChild _) fun _ => asks_pure [] _
  | collision =>
      refine asks_then (asks_requiredText _) fun _ => ?_
      refine asks_then (asks_requiredText _) fun _ => ?_
      exact asks_then (asks_someText _) fun _ => asks_pure [] _
  | mouseButton =>
      refine asks_then (asks_literal _ _) fun _ => ?_
      refine asks_if (asks_object _ _) ?_
      refine asks_then (asks_flag _ _) fun _ => ?_
      refine asks_then (asks_flag _ _) fun _ => ?_
      exact asks_then (asks_flag _ _) fun _ => asks_pure [] _
  | compare =>
      refine asks_then (asks_required _ _) fun _ => ?_
      refine asks_then (asks_required _ _) fun _ => ?_
      refine asks_then (asks_flag _ _) fun _ => ?_
      refine asks_then (asks_flag _ _) fun _ => ?_
      refine asks_then (asks_flag _ _) fun _ => ?_
      refine asks_then (asks_flag _ _) fun _ => ?_
      exact asks_if (asks_object _ _) (asks_if (asks_object _ _) (asks_pure [] _))
  | layerState =>
      refine asks_then (asks_required _ _) fun _ => ?_
      refine asks_then (asks_flag _ _) fun _ => ?_
      refine asks_then (asks_flag _ _) fun _ => ?_
      exact asks_if (asks_object _ _) (asks_pure [] _)
  | templateLayer =>
      refine asks_then (asks_requiredText _) fun _ => ?_
      exact asks_then (asks_requiredText _) fun _ => asks_pure [] _
  | changeMap =>
      refine asks_then (asks_required _ _) fun _ => ?_
      exact asks_then (asks_flag _ _) fun _ => asks_pure [] _

/-- The properties that a binding asks for, in this order. -/
def Definition.bindingKeys : List String :=
  ["EVENT", "STOP_EVENT", "SUSTAINED", "DOWN", "UP", "PRIORITY"]

/-- The binding that properties give, whatever is left over. -/
def Definition.asBinding (key : KeyName) : Using BindingDeclaration := do
  let event ← child "EVENT"
  let stopEvent ← child "STOP_EVENT"
  let sustained ← flag "SUSTAINED" false
  let down ← flag "DOWN" false
  let up ← flag "UP" false
  let priority ← priority
  pure { key, event, down, up, sustained, priority, stopEvent }

/-- A binding is read in full before anything left over is refused. -/
theorem Definition.run_binding (key : KeyName) (bag : PropertyBag) :
    (binding key).run bag =
      (((asBinding key).run bag).1, (refuseRest.run ((asBinding key).run bag).2).2) := rfl

/-- A binding asks for its own keys, each one once. -/
theorem asks_asBinding (key : KeyName) :
    Asks Definition.bindingKeys (Definition.asBinding key) := by
  refine asks_then (asks_child _) fun _ => ?_
  refine asks_then (asks_child _) fun _ => ?_
  refine asks_then (asks_flag _ _) fun _ => ?_
  refine asks_then (asks_flag _ _) fun _ => ?_
  refine asks_then (asks_flag _ _) fun _ => ?_
  exact asks_then asks_priority fun _ => asks_pure [] _

/-- The properties that a node asks for, in this order. -/
def KindName.nodeKeys (kindName : KindName) : List String :=
  ["NAME", "SIGNAL", "PRIORITY"] ++
    ((if kindName.isTest then ["SUCCESS", "FAILURE"] else []) ++ kindName.keys)

/-- The node that properties give before its numbered children are known, whatever is
left over. -/
def Definition.asNode (name : String) (home : Namespace) (kindName : KindName) :
    Using (Node Reference) := do
  let _ ← take "NAME"
  let signal ← signal
  let priority ← priority
  let success ← if kindName.isTest then child "SUCCESS" else pure none
  let failure ← if kindName.isTest then child "FAILURE" else pure none
  let (kind, event) ← kind kindName
  pure { name, home, kind, signal, priority, children := { success, failure, event } }

/-- A node of a kind with numbered children takes what is left over as children, so that
nothing is left to refuse. -/
theorem Definition.run_node_of_takesNumbered {kindName : KindName}
    (numbered : kindName.takesNumbered = true) (name : String) (home : Namespace)
    (bag : PropertyBag) :
    (node name home kindName).run bag =
      let made := (asNode name home kindName).run bag
      let taken := (takeNumbered made.1.children).run made.2
      ({ made.1 with children := taken.1 }, taken.2) := by
  simp only [node, asNode, numbered]
  cases kindName.isTest <;> rfl

theorem Definition.run_node_of_not_takesNumbered {kindName : KindName}
    (plain : kindName.takesNumbered = false) (name : String) (home : Namespace)
    (bag : PropertyBag) :
    (node name home kindName).run bag =
      (((asNode name home kindName).run bag).1,
        (refuseRest.run ((asNode name home kindName).run bag).2).2) := by
  simp only [node, asNode, plain]
  cases kindName.isTest <;> rfl

/-- A node asks for the keys of its kind, each one once. -/
theorem asks_asNode (name : String) (home : Namespace) (kindName : KindName) :
    Asks kindName.nodeKeys (Definition.asNode name home kindName) := by
  refine asks_then (asks_take _) fun _ => ?_
  refine asks_then (asks_word _ _ _) fun _ => ?_
  refine asks_then asks_priority fun _ => ?_
  cases test : kindName.isTest with
  | true =>
      refine asks_then (asks_child _) fun _ => ?_
      refine asks_then (asks_child _) fun _ => ?_
      exact asks_last (asks_kind kindName) fun _ => asks_pure [] _
  | false =>
      refine asks_after (asks_pure [] none) fun _ => ?_
      refine asks_after (asks_pure [] none) fun _ => ?_
      exact asks_last (asks_kind kindName) fun _ => asks_pure [] _

end Stagecraft
