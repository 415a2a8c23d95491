/-
Module: Stagecraft.Proofs.ValueText
Purpose: A value can be written into a document as its text and the name of its type, unless a
  star in front makes its text the name of a variable.
Main exports:
  Value.property, Value.IsStarred, PropertyEntry.interpret_starred,
  Value.interpret_property_of_starred, Value.interpret_property,
  PropertyEntry.values_survive_their_text
-/
import Stagecraft.Proofs.WholeParameters

namespace Stagecraft

/-! ### Texts that name variables -/

/-- A starred name stands behind a star, all of it. -/
theorem starredName?_eq_some_iff {text name : String} :
    starredName? text = some name ↔ text = "*" ++ name := by
  unfold starredName?
  rw [← String.toList_inj, String.toList_append]
  split
  · next rest starred => simp [starred, ← String.toList_inj]
  · next plain =>
    simp only [reduceCtorEq, false_iff]
    exact plain name.toList

/-- A text with a star in front names a variable under every type, and also under a type that
does not exist. -/
theorem PropertyEntry.interpret_starred (name : String) (declared : Option String)
    (source : String) :
    ({ name, declared, value := .text ("*" ++ source) } : PropertyEntry).interpret =
      .ok (.variable source) := by
  have starred : starredName? ("*" ++ source) = some source := starredName?_eq_some_iff.mpr rfl
  simp only [interpret, starred]

namespace Value

/-! ### Properties made of values -/

/-- The property that gives a value by its text, under the name of its type. -/
def property (value : Value) (name : String) : PropertyEntry :=
  { name, declared := some value.typeName, value := .text value.display }

/-- The text of a value begins with a star. -/
def IsStarred (value : Value) : Prop := value.display.toList.head? = some '*'

instance (value : Value) : Decidable value.IsStarred := inferInstanceAs (Decidable (_ = _))

/-- A value is starred if its text begins with a star. -/
theorem isStarred_iff {value : Value} :
    value.IsStarred ↔ ∃ source, value.display = "*" ++ source := by
  simp only [IsStarred, List.head?_eq_some_iff, ← String.toList_inj, String.toList_append]
  constructor
  · rintro ⟨rest, same⟩
    exact ⟨String.ofList rest, by simp [same]⟩
  · rintro ⟨source, same⟩
    exact ⟨source.toList, same⟩

theorem not_isStarred_iff {value : Value} :
    ¬ value.IsStarred ↔ starredName? value.display = none := by
  simp only [isStarred_iff, Option.eq_none_iff_forall_ne_some, ne_eq, starredName?_eq_some_iff,
    not_exists]

/-- Where the text of a value begins with a star, its property names a variable instead. -/
theorem interpret_property_of_starred {value : Value} (starred : value.IsStarred)
    (name : String) : ∃ source, (value.property name).interpret = .ok (.variable source) := by
  obtain ⟨source, text⟩ := isStarred_iff.mp starred
  refine ⟨source, ?_⟩
  rw [property, text]
  exact PropertyEntry.interpret_starred ..

/-- The property of a value means what its text means under the type of the value. -/
theorem interpret_property_of_plain {value : Value} (plain : ¬ value.IsStarred) (name : String)
    (declared : DeclaredType) (typed : value.typeName = declared.name)
    (read : declared.value? (.text value.display) = some value) :
    (value.property name).interpret = .ok (.literal value) := by
  have unstarred : ∀ s, Json.text value.display = .text s → starredName? s = none := by
    intro s same
    cases same
    exact not_isStarred_iff.mp plain
  rw [property, typed, PropertyEntry.interpret_typed declared unstarred, read]

/-! ### Texts that are read back -/

/-- A truth value is read from its own text. -/
theorem value?_displayBool (b : Bool) :
    DeclaredType.bool.value? (.text (displayBool b)) = some (.bool b) := by
  cases b <;> decide

/-- So is an integer. -/
theorem value?_displayInt (n : Int32) :
    DeclaredType.int.value? (.text (displayInt n.toInt)) = some (.int n) := by
  have contained : Text.Range.int32.Contains n.toInt :=
    ⟨n.le_toInt, Int.le_of_lt_add_one n.toInt_lt⟩
  rw [DeclaredType.value?, trim_displayInt, integer?_displayInt, if_pos contained,
    Option.map_some, Int32.ofInt_toInt]

theorem value?_write (color : Color) :
    DeclaredType.color.value? (.text color.write) = some (.color color) := by
  rw [DeclaredType.value?, Color.parse?_write, Option.map_some]

/-- A value that is no float is read back from its text, if no star is in front. -/
theorem interpret_property {value : Value} (noFloat : ∀ x, value ≠ .float x)
    (plain : ¬ value.IsStarred) (name : String) :
    (value.property name).interpret = .ok (.literal value) := by
  cases value with
  | bool b => exact interpret_property_of_plain plain name .bool rfl (value?_displayBool b)
  | int n => exact interpret_property_of_plain plain name .int rfl (value?_displayInt n)
  | float x => exact absurd rfl (noFloat x)
  | text s => exact interpret_property_of_plain plain name .text rfl rfl
  | color c => exact interpret_property_of_plain plain name .color rfl (value?_write c)
  | file path => exact interpret_property_of_plain plain name .file rfl rfl

/-- Only texts and names of files may have a star in front. -/
theorem exists_text_of_starred {value : Value} (noFloat : ∀ x, value ≠ .float x)
    (starred : value.IsStarred) : ∃ s, value = .text s ∨ value = .file s := by
  cases value with
  | bool b => cases b <;> cases starred
  | int n =>
    exact absurd starred (not_isStarred_iff.mpr (PropertyEntry.starredName?_displayInt n.toInt))
  | float x => exact absurd rfl (noFloat x)
  | text s => exact ⟨s, .inl rfl⟩
  | color c =>
    rw [IsStarred, display, Color.write, String.toList_ofList] at starred
    cases starred
  | file path => exact ⟨path, .inr rfl⟩

end Value

namespace PropertyEntry

/-- **Values survive their text form.**  Take any value that is no float, and make a property of
its text and the name of its type.  The property means that very value, exactly if the text does
not begin with a star; only texts and names of files can.  A text with a star in front means the
variable that is named behind the star, whatever type is declared, be it known or not. -/
theorem values_survive_their_text (name : String) :
    (∀ value : Value, (∀ x, value ≠ .float x) →
      ((value.property name).interpret = .ok (.literal value) ↔ ¬ value.IsStarred) ∧
      (value.IsStarred → ∃ s, value = .text s ∨ value = .file s)) ∧
    ∀ (declared : Option String) (source : String),
      ({ name, declared, value := .text ("*" ++ source) } : PropertyEntry).interpret =
        .ok (.variable source) := by
  refine ⟨fun value noFloat => ⟨⟨?_, ?_⟩, ?_⟩, interpret_starred name⟩
  · intro survives starred
    obtain ⟨source, named⟩ := Value.interpret_property_of_starred starred name
    rw [survives] at named
    cases named
  · intro plain
    exact Value.interpret_property noFloat plain name
  · intro starred
    exact Value.exists_text_of_starred noFloat starred

/-- The least whole number, a color and a text with blanks and a star in it survive; a star in
front of a text counts under a type that nobody knows. -/
theorem values_survive_their_text_placard :
    ((Value.int (-2147483648)).property "X").interpret = .ok (.literal (.int (-2147483648))) ∧
      ((Value.color { red := 1, green := 171, blue := 0, alpha := 255 }).property "X").interpret =
        .ok (.literal (.color { red := 1, green := 171, blue := 0, alpha := 255 })) ∧
      ((Value.text " *true ").property "X").interpret = .ok (.literal (.text " *true ")) ∧
      ({ name := "X", declared := some "vector", value := .text ("*" ++ "*Coins") } :
        PropertyEntry).interpret = .ok (.variable "*Coins") := by
  obtain ⟨survive, starred⟩ := values_survive_their_text "X"
  refine ⟨?_, ?_, ?_, starred (some "vector") "*Coins"⟩
  · exact (survive (.int (-2147483648)) (by simp)).1.mpr (by decide)
  · exact (survive (.color _) (by simp)).1.mpr (by decide)
  · exact (survive (.text " *true ") (by simp)).1.mpr (by decide)

end PropertyEntry

end Stagecraft
