/-
Module: Stagecraft.Proofs.Comparisons
Purpose: What it means to compare two values: which pairs can be compared, how the relations asked
  for go together, and what becomes of the answer when the values change places.
Main exports:
  Comparison.HoldsIn, Comparison.Relates, Relations.asks, Relations.only, Relations.exchanged,
  Relations.accept_eq_true_iff, singleOrdering?_eq, singleOrdering?_swap, Value.family,
  Value.order?, Value.IsComparable, Value.compare_of_isComparable, Value.Stands,
  Value.stands_int_iff, Value.stands_text_iff, Value.comparisons_are_coherent
-/
import Mathlib.Logic.Basic
import Mathlib.Logic.ExistsUnique
import Stagecraft.Evaluation.Comparison

namespace Stagecraft

/-! ### Single comparisons -/

/-- A single comparison: one way for a value to stand to another. -/
inductive Comparison where
  | eq
  | ne
  | lt
  | gt
deriving DecidableEq

namespace Comparison

/-- Which relations hold of two values in a given order.  Values without an order are only
different. -/
def HoldsIn (order : Option Ordering) : Comparison → Prop
  | .eq => order = some .eq
  | .ne => order ≠ some .eq
  | .lt => order = some .lt
  | .gt => order = some .gt

/-- The relations on a type with an order of its own. -/
def Relates [LT α] (a b : α) : Comparison → Prop
  | .eq => a = b
  | .ne => a ≠ b
  | .lt => a < b
  | .gt => b < a

/-- The relation that an order is named for. -/
def ofOrdering : Ordering → Comparison
  | .eq => .eq
  | .lt => .lt
  | .gt => .gt

/-- No order is the relation of being unequal, which holds in two of them. -/
theorem ofOrdering_ne (order : Ordering) : ofOrdering order ≠ .ne := by
  cases order <;> nofun

/-- In a given order only that relation holds, "different" apart. -/
theorem holdsIn_some_iff {relation : Comparison} {order : Ordering} (chosen : relation ≠ .ne) :
    relation.HoldsIn (some order) ↔ relation = ofOrdering order := by
  cases relation with
  | ne => exact absurd rfl chosen
  | _ => cases order <;> simp [HoldsIn, ofOrdering]

end Comparison

namespace Relations

/-- Whether a relation is among those asked for. -/
def asks (relations : Relations) : Comparison → Bool
  | .eq => relations.eq
  | .ne => relations.ne
  | .lt => relations.lt
  | .gt => relations.gt

/-- The choice of a single relation. -/
def only : Comparison → Relations
  | .eq => { eq := true }
  | .ne => { ne := true }
  | .lt => { lt := true }
  | .gt => { gt := true }

/-- The relations to ask for once the two values have changed places. -/
def exchanged (relations : Relations) : Relations :=
  { relations with lt := relations.gt, gt := relations.lt }

theorem asks_only_iff {asked relation : Comparison} :
    (only asked).asks relation = true ↔ relation = asked := by
  cases asked <;> cases relation <;> decide

/-- An order is accepted because of some relation that is asked for. -/
theorem exists_holdsIn_of_accept {relations : Relations} {order : Option Ordering}
    (accepted : relations.accept order = true) :
    ∃ relation, relations.asks relation = true ∧ relation.HoldsIn order := by
  rcases order with _ | _ | _ | _
  case none => exact ⟨.ne, accepted, nofun⟩
  case some.eq => exact ⟨.eq, accepted, rfl⟩
  case some.lt =>
    obtain ne | lt := (Bool.or_eq_true _ _).mp accepted
    · exact ⟨.ne, ne, nofun⟩
    · exact ⟨.lt, lt, rfl⟩
  case some.gt =>
    obtain ne | gt := (Bool.or_eq_true _ _).mp accepted
    · exact ⟨.ne, ne, nofun⟩
    · exact ⟨.gt, gt, rfl⟩

theorem accept_of_holdsIn {relations : Relations} {order : Option Ordering} {relation : Comparison}
    (asked : relations.asks relation = true) (holds : relation.HoldsIn order) :
    relations.accept order = true := by
  cases relation with
  | eq => rw [holds]; exact asked
  | lt => rw [holds]; exact (Bool.or_eq_true _ _).mpr (.inr asked)
  | gt => rw [holds]; exact (Bool.or_eq_true _ _).mpr (.inr asked)
  | ne =>
    rcases order with _ | _ | _ | _
    case none => exact asked
    case some.eq => exact absurd rfl holds
    case some.lt => exact (Bool.or_eq_true _ _).mpr (.inl asked)
    case some.gt => exact (Bool.or_eq_true _ _).mpr (.inl asked)

/-- Several relations are accepted where one of them holds. -/
theorem accept_eq_true_iff {relations : Relations} {order : Option Ordering} :
    relations.accept order = true ↔
      ∃ relation, relations.asks relation = true ∧ relation.HoldsIn order :=
  ⟨exists_holdsIn_of_accept, fun ⟨_, asked, holds⟩ => accept_of_holdsIn asked holds⟩

theorem accept_only_iff {relation : Comparison} {order : Option Ordering} :
    (only relation).accept order = true ↔ relation.HoldsIn order := by
  rw [accept_eq_true_iff]
  constructor
  · rintro ⟨asked, among, holds⟩
    rwa [asks_only_iff.mp among] at holds
  · exact fun holds => ⟨relation, asks_only_iff.mpr rfl, holds⟩

/-- Relations with their sides exchanged accept the orders that are turned around. -/
theorem accept_exchanged (relations : Relations) (order : Option Ordering) :
    relations.exchanged.accept (order.map Ordering.swap) = relations.accept order := by
  rcases order with _ | _ | _ | _ <;> rfl

end Relations

/-! ### Whole numbers and texts: every pair has an order -/

section LinearOrder

variable {α : Type} [LE α] [LT α] [Std.LawfulOrderLT α] [Std.IsLinearOrder α]
  [DecidableLT α] [DecidableEq α] {a b : α}

omit [LE α] [Std.LawfulOrderLT α] [Std.IsLinearOrder α] in
theorem orderingOf_of_lt (less : a < b) : orderingOf a b = .lt := if_pos less

omit [Std.IsLinearOrder α] in
theorem orderingOf_self (a : α) : orderingOf a a = .eq := by
  rw [orderingOf, if_neg (Std.lt_irrefl), if_pos rfl]

omit [Std.IsLinearOrder α] in
theorem orderingOf_of_gt (greater : b < a) : orderingOf a b = .gt := by
  rw [orderingOf, if_neg (Std.not_gt_of_lt greater), if_neg (Std.ne_of_lt greater).symm]

theorem orderingOf_swap (a b : α) : orderingOf b a = (orderingOf a b).swap := by
  obtain less | rfl | greater := Std.lt_trichotomy a b
  · rw [orderingOf_of_lt less, orderingOf_of_gt less, Ordering.swap]
  · rw [orderingOf_self, Ordering.swap]
  · rw [orderingOf_of_gt greater, orderingOf_of_lt greater, Ordering.swap]

/-- In a linear order a relation holds of the sides exactly if it holds in how they are
ordered. -/
theorem holdsIn_orderingOf_iff {relation : Comparison} :
    relation.HoldsIn (some (orderingOf a b)) ↔ relation.Relates a b := by
  obtain less | rfl | greater := Std.lt_trichotomy a b
  · rw [orderingOf_of_lt less]
    cases relation <;>
      simp [Comparison.HoldsIn, Comparison.Relates, less, Std.ne_of_lt less, Std.not_gt_of_lt less]
  · rw [orderingOf_self]
    cases relation <;> simp [Comparison.HoldsIn, Comparison.Relates, Std.lt_irrefl]
  · rw [orderingOf_of_gt greater]
    cases relation <;>
      simp [Comparison.HoldsIn, Comparison.Relates, greater, (Std.ne_of_lt greater).symm,
        Std.not_gt_of_lt greater]

/-- Of "equal", "less" and "greater" exactly one is true. -/
theorem existsUnique_relates (a b : α) :
    ∃! relation, relation ≠ .ne ∧ Comparison.Relates a b relation := by
  simp only [← holdsIn_orderingOf_iff]
  refine ⟨.ofOrdering (orderingOf a b), ⟨Comparison.ofOrdering_ne _, ?_⟩, ?_⟩
  · exact (Comparison.holdsIn_some_iff (Comparison.ofOrdering_ne _)).mpr rfl
  · rintro relation ⟨chosen, holds⟩
    exact (Comparison.holdsIn_some_iff chosen).mp holds

end LinearOrder

/-! ### Floats: "not a number" has no order -/

open Float.Model (UnpackedFloat)

/-- Two floats in the other order compare the other way round. -/
theorem unpackedCompare_swap (a b : UnpackedFloat) :
    b.compare a = (a.compare b).map Ordering.swap := by
  have sized (e₁ e₂ : Int) (m₁ m₂ : Nat) :
      (compare e₂ e₁).then (compare m₂ m₁) =
        ((compare e₁ e₂).then (compare m₁ m₂)).swap := by
    rw [Ordering.swap_then, ← Std.OrientedOrd.eq_swap, ← Std.OrientedOrd.eq_swap]
  -- Only numbers of one sign are compared by size.  All other pairs are ordered by their
  -- kinds.
  cases a with
  | notANumber => cases b <;> rfl
  | infinity sign =>
    cases b with
    | infinity other => cases sign <;> cases other <;> rfl
    | _ => cases sign <;> rfl
  | zero =>
    cases b with
    | infinity other => cases other <;> rfl
    | finite other => cases other <;> rfl
    | _ => rfl
  | finite sign m₁ e₁ =>
    cases b with
    | infinity other => cases other <;> rfl
    | zero => cases sign <;> rfl
    | notANumber => rfl
    | finite other m₂ e₂ =>
      cases sign <;> cases other
      case negative.positive => rfl
      case positive.negative => rfl
      case positive.positive => exact congrArg some (sized e₁ e₂ m₁ m₂)
      case negative.negative =>
        exact congrArg (fun order => some (Ordering.swap order)) (sized e₁ e₂ m₁ m₂)

theorem single_lt_iff (a b : Float32) :
    a < b ↔ a.toModel.unpack.compare b.toModel.unpack = some .lt := by
  change decide ((a.toModel.unpack.compare b.toModel.unpack == some .lt) = true) = true ↔ _
  rw [decide_eq_true_eq, beq_iff_eq]

theorem single_beq_iff (a b : Float32) :
    (a == b) = true ↔ a.toModel.unpack.compare b.toModel.unpack = some .eq := by
  change (a.toModel.unpack.compare b.toModel.unpack == some .eq) = true ↔ _
  rw [beq_iff_eq]

/-- The three tests on floats find the order that their parts have. -/
theorem singleOrdering?_eq (a b : Float32) :
    singleOrdering? a b = a.toModel.unpack.compare b.toModel.unpack := by
  simp only [singleOrdering?, single_lt_iff, single_beq_iff,
    unpackedCompare_swap a.toModel.unpack b.toModel.unpack]
  rcases a.toModel.unpack.compare b.toModel.unpack with _ | _ | _ | _ <;> rfl

/-- Floating-point numbers are ordered the other way round when the sides are exchanged. -/
theorem singleOrdering?_swap (a b : Float32) :
    singleOrdering? b a = (singleOrdering? a b).map Ordering.swap := by
  rw [singleOrdering?_eq, singleOrdering?_eq, unpackedCompare_swap]

/-- What is not a number has no order to anything. -/
theorem singleOrdering?_of_isNaN {a b : Float32} (unmeasured : a.isNaN = true ∨ b.isNaN = true) :
    singleOrdering? a b = none := by
  have parts {x : Float32} (nan : x.isNaN = true) : x.toModel.unpack = .notANumber := by
    change x.toModel.unpack.isNaN = true at nan
    generalize x.toModel.unpack = unpacked at nan ⊢
    cases unpacked <;> first | rfl | cases nan
  rw [singleOrdering?_eq]
  obtain left | right := unmeasured
  · rw [parts left]
    cases b.toModel.unpack <;> rfl
  · rw [parts right]
    cases a.toModel.unpack <;> rfl

/-! ### Values -/

namespace Value

/-- The values that can be compared with each other: numbers, texts with the names of files, truth
values, and colors. -/
inductive Family where
  | number
  | text
  | truth
  | color
deriving DecidableEq

/-- Whether a family has an order; the values of the others can only be told apart. -/
def Family.IsOrdered : Family → Prop
  | .number | .text => True
  | .truth | .color => False

def family : Value → Family
  | .int _ | .float _ => .number
  | .text _ | .file _ => .text
  | .bool _ => .truth
  | .color _ => .color

/-- The order of two values of one family.  Without an order, a value is at least the same as
itself. -/
def order? (left right : Value) : Option Ordering :=
  (left.ordering? right).getD (if left = right then some .eq else none)

/-- Whether the relations can be asked of two values. -/
def IsComparable (relations : Relations) (left right : Value) : Prop :=
  left.family = right.family ∧
    (left.family.IsOrdered ∨ relations.lt = false ∧ relations.gt = false)

theorem ordering?_of_isOrdered {left right : Value} (same : left.family = right.family)
    (ordered : left.family.IsOrdered) : left.ordering? right = some (left.order? right) := by
  cases left <;> cases right <;> first | rfl | exact False.elim ordered | cases same

/-- Values of two families, or of one that has no order, are not ordered at all. -/
theorem ordering?_eq_none {left right : Value}
    (apart : ¬ (left.family = right.family ∧ left.family.IsOrdered)) :
    left.ordering? right = none := by
  cases left <;> cases right <;> first | rfl | exact absurd ⟨rfl, trivial⟩ apart

/-- Values of a family without an order are the same or not. -/
theorem same?_of_not_isOrdered {left right : Value} (same : left.family = right.family)
    (unordered : ¬ left.family.IsOrdered) : left.same? right = some (decide (left = right)) := by
  cases left with
  | bool a =>
    cases right with
    | bool b => simp [same?, beq_eq_decide]
    | _ => cases same
  | color a =>
    cases right with
    | color b => simp [same?, beq_eq_decide]
    | _ => cases same
  | _ => exact absurd trivial unordered

theorem same?_eq_none {left right : Value} (apart : left.family ≠ right.family) :
    left.same? right = none := by
  cases left <;> cases right <;> first | rfl | exact absurd rfl apart

/-- Values that can be compared are compared by their order. -/
theorem compare_of_isComparable {relations : Relations} {left right : Value}
    (comparable : IsComparable relations left right) :
    compare relations left right = .ok (relations.accept (left.order? right)) := by
  obtain ⟨same, askable⟩ := comparable
  by_cases ordered : left.family.IsOrdered
  · rw [compare, ordering?_of_isOrdered same ordered]
  · obtain ⟨noLess, noGreater⟩ := askable.resolve_left ordered
    have unplaced : left.ordering? right = none := ordering?_eq_none fun both => ordered both.2
    rw [compare, unplaced, same?_of_not_isOrdered same ordered, order?, unplaced]
    by_cases equal : left = right <;> simp [noLess, noGreater, equal, Relations.accept]

/-- What makes two values incomparable: two families, or an order asked for where there is
none. -/
theorem not_isComparable_iff {relations : Relations} {left right : Value} :
    ¬ IsComparable relations left right ↔ left.family ≠ right.family ∨
      (relations.lt = true ∨ relations.gt = true) ∧ ¬ left.family.IsOrdered := by
  rw [IsComparable, not_and_or, not_or, not_and_or, Bool.not_eq_false, Bool.not_eq_false,
    and_comm (a := ¬ left.family.IsOrdered)]

/-- All other values cannot be compared, and the fault names their types. -/
theorem compare_of_not_isComparable {relations : Relations} {left right : Value}
    (incomparable : ¬ IsComparable relations left right) :
    compare relations left right = .error (.incomparable left.typeName right.typeName) := by
  have unplaced : left.ordering? right = none :=
    ordering?_eq_none fun both => incomparable ⟨both.1, .inl both.2⟩
  rw [compare, unplaced]
  by_cases same : left.family = right.family
  · obtain ⟨asked, unordered⟩ :=
      (not_isComparable_iff.mp incomparable).resolve_left (not_not.mpr same)
    rw [← Bool.or_eq_true] at asked
    simp only [same?_of_not_isOrdered same unordered, asked, if_true]
  · simp only [same?_eq_none same]

/-- A comparison has an answer if the values are comparable, and then it is whether their
order is accepted. -/
theorem compare_eq_ok_iff {relations : Relations} {left right : Value} {answer : Bool} :
    compare relations left right = .ok answer ↔
      IsComparable relations left right ∧ relations.accept (left.order? right) = answer := by
  by_cases comparable : IsComparable relations left right
  · simp [compare_of_isComparable comparable, comparable]
  · simp [compare_of_not_isComparable comparable, comparable]

theorem ordering?_swap (left right : Value) :
    right.ordering? left = (left.ordering? right).map (·.map Ordering.swap) := by
  cases left <;> cases right <;>
    first
    | rfl
    | exact congrArg (some ∘ some) (orderingOf_swap _ _)
    | exact congrArg some (singleOrdering?_swap _ _)

/-- The order of two values turns around with the sides. -/
theorem order?_swap (left right : Value) :
    right.order? left = (left.order? right).map Ordering.swap := by
  rw [order?, order?, ordering?_swap]
  cases left.ordering? right with
  | some order => rfl
  | none =>
    by_cases equal : left = right
    · simp [equal]
    · simp [equal, Ne.symm equal]

theorem IsComparable.exchanged {relations : Relations} {left right : Value}
    (comparable : IsComparable relations left right) :
    IsComparable relations.exchanged right left := by
  obtain ⟨same, askable⟩ := comparable
  refine ⟨same.symm, ?_⟩
  rw [← same]
  exact askable.imp_right And.symm

theorem isComparable_exchanged_iff {relations : Relations} {left right : Value} :
    IsComparable relations.exchanged right left ↔ IsComparable relations left right :=
  ⟨IsComparable.exchanged, IsComparable.exchanged⟩

/-- Whether the comparison for this relation alone says yes. -/
def Stands (left right : Value) (relation : Comparison) : Prop :=
  compare (.only relation) left right = .ok true

/-- A relation stands between two values if they are comparable by it and it holds in their
order. -/
theorem stands_iff {left right : Value} {relation : Comparison} :
    left.Stands right relation ↔
      IsComparable (.only relation) left right ∧ relation.HoldsIn (left.order? right) := by
  rw [Stands, compare_eq_ok_iff, Relations.accept_only_iff]

theorem IsComparable.of_asks {relations : Relations} {left right : Value} {relation : Comparison}
    (comparable : IsComparable relations left right) (asked : relations.asks relation = true) :
    IsComparable (.only relation) left right := by
  refine ⟨comparable.1, comparable.2.imp_right fun ⟨noLess, noGreater⟩ => ?_⟩
  cases relation with
  | eq => exact ⟨rfl, rfl⟩
  | ne => exact ⟨rfl, rfl⟩
  | lt => exact absurd asked (by simp [Relations.asks, noLess])
  | gt => exact absurd asked (by simp [Relations.asks, noGreater])

theorem stands_int_iff {a b : Int32} {relation : Comparison} :
    (int a).Stands (int b) relation ↔ relation.Relates a b := by
  have place : (int a).order? (int b) = some (orderingOf a b) := rfl
  rw [stands_iff, place, holdsIn_orderingOf_iff]
  exact and_iff_right ⟨rfl, .inl trivial⟩

/-- Between values that read as texts a relation stands if it relates the texts. -/
theorem stands_text_iff {left right : Value} {a b : String} {relation : Comparison}
    (first : left.text? = some a) (second : right.text? = some b) :
    left.Stands right relation ↔ relation.Relates a b := by
  have texts : left.family = .text ∧ right.family = .text ∧
      left.order? right = some (orderingOf a b) := by
    cases left <;> cases first <;> cases right <;> cases second <;> exact ⟨rfl, rfl, rfl⟩
  obtain ⟨leftText, rightText, place⟩ := texts
  rw [stands_iff, place, holdsIn_orderingOf_iff]
  exact and_iff_right ⟨leftText.trans rightText.symm, .inl (leftText ▸ trivial)⟩

theorem stands_ne_iff {left right : Value} (same : left.family = right.family) :
    left.Stands right .ne ↔ ¬ left.Stands right .eq := by
  have askable {relation : Comparison} (plain : relation = .eq ∨ relation = .ne) :
      IsComparable (.only relation) left right := by
    obtain rfl | rfl := plain <;> exact ⟨same, .inr ⟨rfl, rfl⟩⟩
  rw [stands_iff, stands_iff, and_iff_right (askable (.inl rfl)),
    and_iff_right (askable (.inr rfl))]
  rfl

/-- Whether a value is the float that is not a number. -/
def IsNaN : Value → Prop
  | .float x => x.isNaN = true
  | _ => False

/-- Among numbers, what is not a number has no order to any. -/
theorem order?_of_isNaN {left right : Value} (first : left.family = .number)
    (second : right.family = .number) (unmeasured : left.IsNaN ∨ right.IsNaN) :
    left.order? right = none := by
  cases left with
  | int a =>
    cases right with
    | int b => exact (or_self_iff.mp unmeasured).elim
    | float y => exact singleOrdering?_of_isNaN (.inr (unmeasured.resolve_left id))
    | _ => cases second
  | float x =>
    cases right with
    | int b => exact singleOrdering?_of_isNaN (.inl (unmeasured.resolve_right id))
    | float y => exact singleOrdering?_of_isNaN unmeasured
    | _ => cases second
  | _ => cases first

theorem stands_iff_of_isNaN {left right : Value} {relation : Comparison}
    (first : left.family = .number) (second : right.family = .number)
    (unmeasured : left.IsNaN ∨ right.IsNaN) : left.Stands right relation ↔ relation = .ne := by
  rw [stands_iff, order?_of_isNaN first second unmeasured,
    and_iff_right ⟨first.trans second.symm, .inl (first ▸ trivial)⟩]
  cases relation <;> simp [Comparison.HoldsIn]

theorem toOption_compare_exchanged (relations : Relations) (left right : Value) :
    (compare relations.exchanged right left).toOption =
      (compare relations left right).toOption := by
  by_cases comparable : IsComparable relations left right
  · rw [compare_of_isComparable comparable,
      compare_of_isComparable (isComparable_exchanged_iff.mpr comparable), order?_swap,
      Relations.accept_exchanged]
  · rw [compare_of_not_isComparable comparable,
      compare_of_not_isComparable (isComparable_exchanged_iff.not.mpr comparable)]
    rfl

theorem compare_eq_error_iff {relations : Relations} {left right : Value} {fault : Fault} :
    compare relations left right = .error fault ↔
      fault = .incomparable left.typeName right.typeName ∧
        (left.family ≠ right.family ∨
          (relations.lt = true ∨ relations.gt = true) ∧ ¬ left.family.IsOrdered) := by
  rw [← not_isComparable_iff]
  by_cases comparable : IsComparable relations left right
  · simp [compare_of_isComparable comparable, comparable]
  · simp [compare_of_not_isComparable comparable, comparable, eq_comm]

/-- The answer is yes if one of the relations that are asked for stands. -/
theorem answer_iff_exists_stands {relations : Relations} {left right : Value} {answer : Bool}
    (answered : compare relations left right = .ok answer) :
    answer = true ↔ ∃ relation, relations.asks relation = true ∧ left.Stands right relation := by
  obtain ⟨comparable, rfl⟩ := compare_eq_ok_iff.mp answered
  rw [Relations.accept_eq_true_iff]
  refine exists_congr fun relation => and_congr_right fun asked => ?_
  rw [stands_iff, and_iff_right (comparable.of_asks asked)]

/-- **Comparisons are coherent.** When two values change places and "less" and "greater" with them,
the answer stays, or there is still none.  There is none exactly for values of different families
and for an order asked of truth values or colors, and the fault names the two types.  An answer is
yes exactly if one of the relations asked for would be answered with yes alone.  Values of one
family are different exactly if they are not equal; of two whole numbers, and of two texts or names
of files, exactly one of "equal", "less" and "greater" is true; and to what is not a number all
numbers are only different. -/
theorem comparisons_are_coherent (left right : Value) :
    (∀ relations : Relations,
      (compare relations.exchanged right left).toOption =
          (compare relations left right).toOption ∧
        (∀ fault, compare relations left right = .error fault ↔
          fault = .incomparable left.typeName right.typeName ∧
            (left.family ≠ right.family ∨
              (relations.lt = true ∨ relations.gt = true) ∧ ¬ left.family.IsOrdered)) ∧
        ∀ answer, compare relations left right = .ok answer →
          (answer = true ↔
            ∃ relation, relations.asks relation = true ∧ left.Stands right relation)) ∧
      (left.family = right.family → (left.Stands right .ne ↔ ¬ left.Stands right .eq)) ∧
      (∀ a b, left = .int a → right = .int b →
        ∃! relation, relation ≠ .ne ∧ left.Stands right relation) ∧
      (∀ a b, left.text? = some a → right.text? = some b →
        ∃! relation, relation ≠ .ne ∧ left.Stands right relation) ∧
      (left.family = .number → right.family = .number → left.IsNaN ∨ right.IsNaN →
        ∀ relation, left.Stands right relation ↔ relation = .ne) := by
  refine ⟨fun relations => ⟨?_, ?_, ?_⟩, stands_ne_iff, ?_, ?_, ?_⟩
  · exact toOption_compare_exchanged relations left right
  · exact fun fault => compare_eq_error_iff
  · exact fun answer => answer_iff_exists_stands
  · rintro a b rfl rfl
    simp only [stands_int_iff]
    exact existsUnique_relates a b
  · intro a b first second
    simp only [stands_text_iff first second]
    exact existsUnique_relates a b
  · exact fun first second unmeasured relation => stands_iff_of_isNaN first second unmeasured

/-- Two scores, a name beside a file, and a score that is no number. -/
theorem comparisons_are_coherent_scores :
    compare { ne := true, lt := true } (.int 2) (.int 3) = .ok true ∧
      (∃ relation, Relations.asks { ne := true, lt := true } relation = true ∧
        (int 2).Stands (.int 3) relation) ∧
      (∃! relation, relation ≠ .ne ∧ (int 2).Stands (.int 3) relation) ∧
      (text "Ada").family = (file "Bob").family ∧
      ((text "Ada").Stands (.file "Bob") .ne ↔ ¬ (text "Ada").Stands (.file "Bob") .eq) ∧
      (text "Ada").text? = some "Ada" ∧ (file "Bob").text? = some "Bob" ∧
      (∃! relation, relation ≠ .ne ∧ (text "Ada").Stands (.file "Bob") relation) ∧
      (float (0 / 0)).IsNaN ∧
      (∀ relation, (int 2).Stands (.float (0 / 0)) relation ↔ relation = .ne) := by
  obtain ⟨asked, -, whole, -, -⟩ := comparisons_are_coherent (.int 2) (.int 3)
  obtain ⟨-, told, -, texts, -⟩ := comparisons_are_coherent (.text "Ada") (.file "Bob")
  obtain ⟨-, -, -, -, unmeasured⟩ := comparisons_are_coherent (.int 2) (.float (0 / 0))
  have answered : compare { ne := true, lt := true } (.int 2) (.int 3) = .ok true := by rfl
  have nan : (float (0 / 0)).IsNaN := by
    change (0 / 0 : Float32).isNaN = true
    decide
  exact ⟨answered, ((asked _).2.2 _ answered).mp rfl, whole 2 3 rfl rfl, rfl, told rfl, rfl, rfl,
    texts _ _ rfl rfl, nan, unmeasured rfl rfl (.inr nan)⟩

end Value

end Stagecraft
