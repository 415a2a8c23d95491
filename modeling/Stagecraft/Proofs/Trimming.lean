/-
Module: Stagecraft.Proofs.Trimming
Purpose: What trimming leaves, and which texts it leaves as they are.
Main exports:
  Text.IsTrimmed, Text.IsTrimmed.trimChars_eq, Text.isTrimmed_trimChars, Text.trimChars_map,
  KeyName.isNormal_ofText
-/
import Mathlib.Data.List.DropRight
import Stagecraft.Proofs.HoldText

namespace Stagecraft

namespace Text

/-! ### Texts without blanks at their ends -/

/-- A text does not begin with a blank, and does not end with one. -/
structure IsTrimmed (cs : List Char) : Prop where
  front : ∀ c ∈ cs.head?, isBlank c = false
  back : ∀ c ∈ cs.getLast?, isBlank c = false

theorem dropWhile_eq_self_of_head {cs : List Char} (front : ∀ c ∈ cs.head?, isBlank c = false) :
    cs.dropWhile isBlank = cs := by
  cases cs with
  | nil => rfl
  | cons c rest => exact List.dropWhile_cons_of_neg (by simp [front c rfl])

/-- A text without blanks at its ends is left as it is. -/
theorem IsTrimmed.trimChars_eq {cs : List Char} (trimmed : IsTrimmed cs) : trimChars cs = cs := by
  have back : cs.reverse.dropWhile isBlank = cs.reverse :=
    dropWhile_eq_self_of_head (by simpa using trimmed.back)
  rw [trimChars, dropWhile_eq_self_of_head trimmed.front, back, List.reverse_reverse]

/-- What begins where another text begins that has no blank there, has no blank there
either. -/
theorem head_of_prefix {first second : List Char} (starts : first <+: second)
    (front : ∀ c ∈ second.head?, isBlank c = false) : ∀ c ∈ first.head?, isBlank c = false := by
  obtain ⟨rest, rfl⟩ := starts
  cases first with
  | nil => exact fun c member => nomatch member
  | cons head tail => exact front

theorem head_dropWhile_isBlank (cs : List Char) :
    ∀ c ∈ (cs.dropWhile isBlank).head?, isBlank c = false := by
  intro c first
  have head := List.head?_dropWhile_not isBlank cs
  rw [Option.mem_def.mp first] at head
  exact head

/-- Trimming leaves no blank at the ends. -/
theorem isTrimmed_trimChars (cs : List Char) : IsTrimmed (trimChars cs) where
  front := head_of_prefix (List.rdropWhile_prefix _ _) (head_dropWhile_isBlank cs)
  back := by
    rw [trimChars, List.getLast?_reverse]
    exact head_dropWhile_isBlank _

/-- What is within a trimmed text is within the text. -/
theorem mem_of_mem_trimChars {cs : List Char} {c : Char} (member : c ∈ trimChars cs) : c ∈ cs :=
  List.dropWhile_subset _ ((List.rdropWhile_prefix _ _).subset member)

/-! ### Letter case -/

/-- Characters may be replaced before or after trimming, if that makes no blanks and fills
none. -/
theorem trimChars_map {f : Char → Char} (keeps : ∀ c, isBlank (f c) = isBlank c)
    (cs : List Char) : trimChars (cs.map f) = (trimChars cs).map f := by
  have same : isBlank ∘ f = isBlank := funext keeps
  simp only [trimChars, List.dropWhile_map, ← List.map_reverse, same]

/-- The capital of a small letter stands 32 places before it; everything else stays. -/
theorem toUpper_cases (c : Char) :
    ¬ (97 ≤ c.toNat ∧ c.toNat ≤ 122) ∧ c.toUpper = c ∨
      97 ≤ c.toNat ∧ c.toNat ≤ 122 ∧ c.toUpper.toNat + 32 = c.toNat := by
  unfold Char.toUpper
  split
  · next small =>
    have low : 97 ≤ c.val.toNat := small.1
    have high : c.val.toNat ≤ 122 := small.2
    have back : (65 - 97 : UInt32).toNat = 4294967264 := rfl
    refine .inr ⟨low, high, ?_⟩
    change (c.val + (65 - 97)).toNat + 32 = c.val.toNat
    rw [UInt32.toNat_add]
    omega
  · next other => exact .inl ⟨fun small => other small, rfl⟩

/-- The space is the last blank of ASCII. -/
theorem isBlank_eq_false_of_ascii {c : Char} (low : 33 ≤ c.toNat) (high : c.toNat ≤ 127) :
    isBlank c = false := by
  simp only [isBlank, blankRanges, List.any_cons, List.any_nil, Bool.or_false,
    Bool.or_eq_false_iff, Bool.and_eq_false_imp, decide_eq_true_eq, decide_eq_false_iff_not]
  omega

/-- Letters are no blanks in either case. -/
theorem isBlank_toUpper (c : Char) : isBlank c.toUpper = isBlank c := by
  rcases toUpper_cases c with ⟨-, same⟩ | ⟨low, high, shift⟩
  · rw [same]
  · rw [isBlank_eq_false_of_ascii (c := c) (by omega) (by omega),
      isBlank_eq_false_of_ascii (c := c.toUpper) (by omega) (by omega)]

/-- A capital is its own capital. -/
theorem toUpper_toUpper (c : Char) : c.toUpper.toUpper = c.toUpper := by
  rcases toUpper_cases c with ⟨-, same⟩ | ⟨low, high, shift⟩
  · rw [same, same]
  · rcases toUpper_cases c.toUpper with ⟨-, same⟩ | ⟨lowAgain, -⟩
    · exact same
    · omega

end Text

/-- The name of a key that a text names is written as the key is known. -/
theorem KeyName.isNormal_ofText (text : String) : (ofText text).IsNormal := by
  have capitals : ∀ cs : List Char, (cs.map Char.toUpper).map Char.toUpper = cs.map Char.toUpper :=
    fun cs => by simp only [List.map_map, Function.comp_def, Text.toUpper_toUpper]
  have trimmed := (Text.isTrimmed_trimChars text.toList).trimChars_eq
  simp only [IsNormal, ofText, Text.upper, Text.trim, String.toList_ofList,
    Text.trimChars_map Text.isBlank_toUpper, trimmed, capitals]

end Stagecraft
