/-
Module: Stagecraft.Proofs.ColorText
Purpose: Which texts are read as colors, and as which: six or eight hexadecimal digits, and
  beside them texts in which a plus sign stands for the first digit of a pair.
Main exports:
  Text.HexDigit, Text.hexDigitValue?_eq_some_iff, Color.Pair, Color.LoosePair, Color.SpelledBy,
  Color.IsTextOf, Color.readDigits?_eq_some_iff, Color.parse?_eq_some_iff,
  Color.text_is_read_by_its_grammar, Color.plus_signs_are_read
-/
import Stagecraft.Value.Color
import Mathlib.Tactic.IntervalCases

namespace Stagecraft

/-! ### Hexadecimal digits -/

namespace Text

/-- A hexadecimal digit stands for its place among the sixteen, in either letter case. -/
def HexDigit (c : Char) (value : Nat) : Prop :=
  "0123456789abcdef".toList[value]? = some c ∨ "0123456789ABCDEF".toList[value]? = some c

def IsHexDigit (c : Char) : Prop := ∃ value, HexDigit c value

instance (c : Char) (value : Nat) : Decidable (HexDigit c value) :=
  inferInstanceAs (Decidable (_ ∨ _))

theorem HexDigit.lt {c : Char} {value : Nat} (digit : HexDigit c value) : value < 16 := by
  rcases digit with small | capital
  · exact (List.getElem?_eq_some_iff.mp small).1
  · exact (List.getElem?_eq_some_iff.mp capital).1

/-- All hexadecimal digits come up to the letter `f`. -/
theorem toNat_lt_of_hexDigitValue? {c : Char} {value : Nat}
    (read : hexDigitValue? c = some value) : c.toNat < 103 := by
  unfold hexDigitValue? at read
  split at read
  · next digit => exact Nat.lt_of_le_of_lt digit.2 (by decide)
  · split at read
    · next small => exact Nat.lt_of_le_of_lt small.2 (by decide)
    · split at read
      · next capital => exact Nat.lt_of_le_of_lt capital.2 (by decide)
      · cases read

/-- The digits that are read are the hexadecimal ones, each with its value. -/
theorem hexDigitValue?_eq_some_iff {c : Char} {value : Nat} :
    hexDigitValue? c = some value ↔ HexDigit c value := by
  constructor
  · intro read
    have all : ∀ n ∈ List.range 103, ∀ v ∈ hexDigitValue? (Char.ofNat n),
        HexDigit (Char.ofNat n) v := by decide
    have known := all c.toNat (List.mem_range.mpr (toNat_lt_of_hexDigitValue? read))
    rw [Char.ofNat_toNat] at known
    exact known value read
  · intro digit
    have small := digit.lt
    rcases digit with letter | letter
    · interval_cases value <;> cases letter <;> rfl
    · interval_cases value <;> cases letter <;> rfl

end Text

namespace Color

/-! ### Pairs and colors -/

/-- Two hexadecimal digits stand for a byte. -/
def Pair (first second : Char) (byte : UInt8) : Prop :=
  ∃ high low, Text.HexDigit first high ∧ Text.HexDigit second low ∧
    byte.toNat = 16 * high + low

/-- A pair in which a plus sign may stand for the first digit. -/
def LoosePair (first second : Char) (byte : UInt8) : Prop :=
  Pair first second byte ∨ first = '+' ∧ Text.HexDigit second byte.toNat

/-- A color is spelled by three pairs of characters and then has no transparency, or by four
with the transparency first. -/
inductive SpelledBy (pair : Char → Char → UInt8 → Prop) : List Char → Color → Prop where
  | six {r₁ r₂ g₁ g₂ b₁ b₂ : Char} {red green blue : UInt8} :
      pair r₁ r₂ red → pair g₁ g₂ green → pair b₁ b₂ blue →
      SpelledBy pair [r₁, r₂, g₁, g₂, b₁, b₂] { red, green, blue, alpha := 255 }
  | eight {a₁ a₂ r₁ r₂ g₁ g₂ b₁ b₂ : Char} {alpha red green blue : UInt8} :
      pair a₁ a₂ alpha → pair r₁ r₂ red → pair g₁ g₂ green → pair b₁ b₂ blue →
      SpelledBy pair [a₁, a₂, r₁, r₂, g₁, g₂, b₁, b₂] { red, green, blue, alpha }

/-- A text of a color: its spelling, maybe behind a hash sign. -/
def IsTextOf (pair : Char → Char → UInt8 → Prop) (text : String) (color : Color) : Prop :=
  ∃ digits, (text.toList = digits ∨ text.toList = '#' :: digits) ∧ SpelledBy pair digits color

theorem not_hexDigit_plus (value : Nat) : ¬ Text.HexDigit '+' value := by
  rw [← Text.hexDigitValue?_eq_some_iff]
  exact Option.not_mem_none value

/-- Two characters are read as a byte if they are two digits, or a plus sign and a digit. -/
theorem readByte?_eq_some_iff {first second : Char} {byte : UInt8} :
    readByte? first second = some byte ↔ LoosePair first second byte := by
  unfold readByte?
  constructor
  · intro read
    obtain ⟨low, right, read⟩ := Option.bind_eq_some_iff.mp read
    rw [Text.hexDigitValue?_eq_some_iff] at right
    have small := right.lt
    split at read
    · next plus =>
        cases read
        refine .inr ⟨plus, ?_⟩
        rwa [UInt8.toNat_ofNat_of_lt' (by simp only [UInt8.size]; omega)]
    · obtain ⟨high, left, read⟩ := Option.bind_eq_some_iff.mp read
      rw [Text.hexDigitValue?_eq_some_iff] at left
      have small := left.lt
      cases read
      refine .inl ⟨high, low, left, right, ?_⟩
      exact UInt8.toNat_ofNat_of_lt' (by simp only [UInt8.size]; omega)
  · rintro (⟨high, low, left, right, sum⟩ | ⟨rfl, right⟩)
    · have digit : first ≠ '+' := by
        rintro rfl
        exact not_hexDigit_plus high left
      have whole : UInt8.ofNat (16 * high + low) = byte := by
        rw [← sum, UInt8.ofNat_toNat]
      rw [Text.hexDigitValue?_eq_some_iff.mpr right, Text.hexDigitValue?_eq_some_iff.mpr left]
      simp only [Option.bind_eq_bind, Option.bind_some, if_neg digit, whole, Option.pure_def]
    · rw [Text.hexDigitValue?_eq_some_iff.mpr right]
      simp

/-- The characters behind the hash are read pair by pair. -/
theorem readDigits?_eq_some_iff {digits : List Char} {color : Color} :
    readDigits? digits = some color ↔ SpelledBy LoosePair digits color := by
  constructor
  · intro read
    unfold readDigits? at read
    split at read
    · obtain ⟨red, r, read⟩ := Option.bind_eq_some_iff.mp read
      obtain ⟨green, g, read⟩ := Option.bind_eq_some_iff.mp read
      obtain ⟨blue, b, read⟩ := Option.bind_eq_some_iff.mp read
      cases read
      exact .six (readByte?_eq_some_iff.mp r) (readByte?_eq_some_iff.mp g)
        (readByte?_eq_some_iff.mp b)
    · obtain ⟨alpha, a, read⟩ := Option.bind_eq_some_iff.mp read
      obtain ⟨red, r, read⟩ := Option.bind_eq_some_iff.mp read
      obtain ⟨green, g, read⟩ := Option.bind_eq_some_iff.mp read
      obtain ⟨blue, b, read⟩ := Option.bind_eq_some_iff.mp read
      cases read
      exact .eight (readByte?_eq_some_iff.mp a) (readByte?_eq_some_iff.mp r)
        (readByte?_eq_some_iff.mp g) (readByte?_eq_some_iff.mp b)
    · cases read
  · intro spelled
    cases spelled with
    | six r g b =>
        simp [readDigits?, readByte?_eq_some_iff.mpr r, readByte?_eq_some_iff.mpr g,
          readByte?_eq_some_iff.mpr b]
    | eight a r g b =>
        simp [readDigits?, readByte?_eq_some_iff.mpr a, readByte?_eq_some_iff.mpr r,
          readByte?_eq_some_iff.mpr g, readByte?_eq_some_iff.mpr b]

/-! ### Spellings without plus signs -/

theorem Pair.digits {first second : Char} {byte : UInt8} (pair : Pair first second byte) :
    Text.IsHexDigit first ∧ Text.IsHexDigit second := by
  obtain ⟨high, low, left, right, -⟩ := pair
  exact ⟨⟨high, left⟩, ⟨low, right⟩⟩

theorem exists_pair {first second : Char} (left : Text.IsHexDigit first)
    (right : Text.IsHexDigit second) : ∃ byte, Pair first second byte := by
  obtain ⟨high, left⟩ := left
  obtain ⟨low, right⟩ := right
  refine ⟨UInt8.ofNat (16 * high + low), high, low, left, right, ?_⟩
  have small := left.lt
  have smaller := right.lt
  exact UInt8.toNat_ofNat_of_lt' (by simp only [UInt8.size]; omega)

/-- A pair that does not begin with a plus sign is one of two digits. -/
theorem LoosePair.pair {first second : Char} {byte : UInt8}
    (loose : LoosePair first second byte) (digit : first ≠ '+') : Pair first second byte := by
  rcases loose with pair | ⟨plus, -⟩
  · exact pair
  · exact absurd plus digit

namespace SpelledBy

variable {digits : List Char} {color : Color}

theorem isHexDigit (spelled : SpelledBy Pair digits color) :
    ∀ c ∈ digits, Text.IsHexDigit c := by
  cases spelled with
  | six r g b => simp [r.digits, g.digits, b.digits]
  | eight a r g b => simp [a.digits, r.digits, g.digits, b.digits]

/-- A color is spelled by three pairs, or by four if it has an opacity of its own. -/
theorem length_eq {pair : Char → Char → UInt8 → Prop} (spelled : SpelledBy pair digits color) :
    digits.length = 6 ∨ digits.length = 8 := by
  cases spelled with
  | six => exact .inl rfl
  | eight => exact .inr rfl

/-- A spelling without plus signs consists of hexadecimal digits. -/
theorem pair_iff :
    SpelledBy Pair digits color ↔ SpelledBy LoosePair digits color ∧ '+' ∉ digits := by
  constructor
  · intro spelled
    refine ⟨?_, ?_⟩
    · cases spelled with
      | six r g b => exact .six (.inl r) (.inl g) (.inl b)
      | eight a r g b => exact .eight (.inl a) (.inl r) (.inl g) (.inl b)
    · intro plus
      obtain ⟨value, digit⟩ := spelled.isHexDigit '+' plus
      exact not_hexDigit_plus value digit
  · rintro ⟨spelled, plain⟩
    have digit : ∀ c ∈ digits, c ≠ '+' := fun c member same => plain (same ▸ member)
    cases spelled with
    | six r g b =>
        exact .six (r.pair (digit _ (by simp))) (g.pair (digit _ (by simp)))
          (b.pair (digit _ (by simp)))
    | eight a r g b =>
        exact .eight (a.pair (digit _ (by simp))) (r.pair (digit _ (by simp)))
          (g.pair (digit _ (by simp))) (b.pair (digit _ (by simp)))

/-- Six or eight hexadecimal digits spell a color. -/
theorem exists_color_iff : (∃ color, SpelledBy Pair digits color) ↔
    (digits.length = 6 ∨ digits.length = 8) ∧ ∀ c ∈ digits, Text.IsHexDigit c := by
  constructor
  · rintro ⟨color, spelled⟩
    exact ⟨spelled.length_eq, spelled.isHexDigit⟩
  · rintro ⟨length, all⟩
    rcases length with length | length
    · match digits, length, all with
      | [r₁, r₂, g₁, g₂, b₁, b₂], _, all =>
          obtain ⟨red, r⟩ := exists_pair (all r₁ (by simp)) (all r₂ (by simp))
          obtain ⟨green, g⟩ := exists_pair (all g₁ (by simp)) (all g₂ (by simp))
          obtain ⟨blue, b⟩ := exists_pair (all b₁ (by simp)) (all b₂ (by simp))
          exact ⟨_, .six r g b⟩
    · match digits, length, all with
      | [a₁, a₂, r₁, r₂, g₁, g₂, b₁, b₂], _, all =>
          obtain ⟨alpha, a⟩ := exists_pair (all a₁ (by simp)) (all a₂ (by simp))
          obtain ⟨red, r⟩ := exists_pair (all r₁ (by simp)) (all r₂ (by simp))
          obtain ⟨green, g⟩ := exists_pair (all g₁ (by simp)) (all g₂ (by simp))
          obtain ⟨blue, b⟩ := exists_pair (all b₁ (by simp)) (all b₂ (by simp))
          exact ⟨_, .eight a r g b⟩

end SpelledBy

/-! ### Texts of colors -/

theorem LoosePair.ne_hash {second : Char} {byte : UInt8} : ¬ LoosePair '#' second byte := by
  rintro (⟨high, -, left, -⟩ | ⟨wrong, -⟩)
  · rw [← Text.hexDigitValue?_eq_some_iff] at left
    cases left
  · cases wrong

/-- A hash sign begins no spelling, so there is only one way to take a text apart. -/
theorem SpelledBy.not_hash {digits : List Char} {color : Color} :
    ¬ SpelledBy LoosePair ('#' :: digits) color := by
  intro spelled
  cases spelled with
  | six r => exact r.ne_hash
  | eight a => exact a.ne_hash

theorem parse?_eq_some_iff {text : String} {color : Color} :
    parse? text = some color ↔ IsTextOf LoosePair text color := by
  unfold parse? IsTextOf
  split
  · next digits written =>
      rw [readDigits?_eq_some_iff, written]
      constructor
      · intro spelled
        exact ⟨digits, .inr rfl, spelled⟩
      · rintro ⟨others, rfl | same, spelled⟩
        · exact absurd spelled SpelledBy.not_hash
        · cases same
          exact spelled
  · next digits plain =>
      rw [readDigits?_eq_some_iff]
      constructor
      · intro spelled
        exact ⟨_, .inl rfl, spelled⟩
      · rintro ⟨others, rfl | same, spelled⟩
        · exact spelled
        · exact absurd same (plain others)

/-- Without plus signs in it, a text is that of a color in the strict sense. -/
theorem isTextOf_pair_iff {text : String} {color : Color} :
    IsTextOf Pair text color ↔ IsTextOf LoosePair text color ∧ '+' ∉ text.toList := by
  have plain {digits : List Char}
      (written : text.toList = digits ∨ text.toList = '#' :: digits) :
      '+' ∉ text.toList ↔ '+' ∉ digits := by
    rcases written with same | same <;> simp [same]
  constructor
  · rintro ⟨digits, written, spelled⟩
    obtain ⟨loose, free⟩ := SpelledBy.pair_iff.mp spelled
    exact ⟨⟨digits, written, loose⟩, (plain written).mpr free⟩
  · rintro ⟨⟨digits, written, loose⟩, free⟩
    exact ⟨digits, written, SpelledBy.pair_iff.mpr ⟨loose, (plain written).mp free⟩⟩

/-- What is written for a byte is a pair of digits. -/
theorem pair_writeByte (byte : UInt8) :
    Pair (Text.hexDigit (byte.toNat / 16)) (Text.hexDigit (byte.toNat % 16)) byte := by
  have small : byte.toNat < 256 := byte.toNat_lt
  have digit {value : Nat} (below : value < 16) : Text.HexDigit (Text.hexDigit value) value :=
    Text.hexDigitValue?_eq_some_iff.mp (Text.hexDigitValue?_hexDigit below)
  exact ⟨byte.toNat / 16, byte.toNat % 16, digit (by omega), digit (by omega), by omega⟩

/-- What is written for a color spells that color. -/
theorem isTextOf_write (color : Color) : IsTextOf Pair color.write color := by
  refine ⟨_, .inr (String.toList_ofList ..), ?_⟩
  exact .eight (pair_writeByte color.alpha) (pair_writeByte color.red)
    (pair_writeByte color.green) (pair_writeByte color.blue)

/-- **A text of a color is read by its grammar, and by nothing else but plus signs.**  A text
without plus signs is read as a color exactly if it consists of six or eight hexadecimal
digits in either letter case, maybe behind a hash sign; the pairs of digits are red, green
and blue, with the transparency in front of them if there are eight, and else none.  Beyond
that grammar, only a plus sign is read in the place of the first digit of a pair, as zero.
The text that is written for a color follows the grammar and reads back as the color. -/
theorem text_is_read_by_its_grammar (text : String) (color : Color) :
    ('+' ∉ text.toList → ((∃ read, parse? text = some read) ↔
      ∃ digits, (text.toList = digits ∨ text.toList = '#' :: digits) ∧
        (digits.length = 6 ∨ digits.length = 8) ∧ ∀ c ∈ digits, Text.IsHexDigit c)) ∧
    (IsTextOf Pair text color ↔ parse? text = some color ∧ '+' ∉ text.toList) ∧
    (parse? text = some color ↔ IsTextOf LoosePair text color) ∧
    IsTextOf Pair color.write color ∧ parse? color.write = some color := by
  refine ⟨?_, ?_, parse?_eq_some_iff, isTextOf_write color, parse?_write color⟩
  · intro plain
    simp only [← SpelledBy.exists_color_iff]
    constructor
    · rintro ⟨read, reads⟩
      obtain ⟨digits, written, spelled⟩ :=
        isTextOf_pair_iff.mpr ⟨parse?_eq_some_iff.mp reads, plain⟩
      exact ⟨digits, written, read, spelled⟩
    · rintro ⟨digits, written, read, spelled⟩
      exact ⟨read, parse?_eq_some_iff.mpr (isTextOf_pair_iff.mp ⟨digits, written, spelled⟩).1⟩
  · rw [parse?_eq_some_iff]
    exact isTextOf_pair_iff

/-- Three plus signs with a digit each are read as a color, although a plus sign is no
hexadecimal digit. -/
theorem plus_signs_are_read :
    parse? "#+1+2+3" = some { red := 1, green := 2, blue := 3, alpha := 255 } ∧
      ¬ ∃ digits, ("#+1+2+3".toList = digits ∨ "#+1+2+3".toList = '#' :: digits) ∧
        (digits.length = 6 ∨ digits.length = 8) ∧ ∀ c ∈ digits, Text.IsHexDigit c := by
  refine ⟨by decide, ?_⟩
  rintro ⟨digits, written, -, all⟩
  have plus : '+' ∈ digits := by
    rcases written with rfl | same
    · decide
    · cases same
      decide
  obtain ⟨value, digit⟩ := all '+' plus
  exact not_hexDigit_plus value digit

end Color

end Stagecraft
