/-
Module: Stagecraft.Value.Color
Purpose: Colors with an alpha channel and their hexadecimal text.
Main exports:
  Color, Color.write, Color.parse?
-/
import Stagecraft.Text.Numeral

namespace Stagecraft

/-- A color: red, green, blue and alpha. -/
structure Color where
  red : UInt8
  green : UInt8
  blue : UInt8
  alpha : UInt8
deriving Repr, DecidableEq, Inhabited

namespace Color

def black : Color := { red := 0, green := 0, blue := 0, alpha := 255 }

def writeByte (byte : UInt8) : List Char :=
  [Text.hexDigit (byte.toNat / 16), Text.hexDigit (byte.toNat % 16)]

/-- The text of a color: a hash sign and eight small digits, alpha first. -/
def write (color : Color) : String :=
  String.ofList <|
    '#' :: (writeByte color.alpha ++ writeByte color.red ++ writeByte color.green ++
      writeByte color.blue)

/-- Read a byte from two characters: two hexadecimal digits, or a plus sign and
one digit. -/
def readByte? (first second : Char) : Option UInt8 := do
  let low ← Text.hexDigitValue? second
  if first = '+' then pure (UInt8.ofNat low)
  else do
    let high ← Text.hexDigitValue? first
    pure (UInt8.ofNat (16 * high + low))

/-- Read the digits of a color: six for an opaque one, eight with alpha
first. -/
def readDigits? : List Char → Option Color
  | [r₁, r₂, g₁, g₂, b₁, b₂] => do
      let red ← readByte? r₁ r₂
      let green ← readByte? g₁ g₂
      let blue ← readByte? b₁ b₂
      pure { red, green, blue, alpha := 255 }
  | [a₁, a₂, r₁, r₂, g₁, g₂, b₁, b₂] => do
      let alpha ← readByte? a₁ a₂
      let red ← readByte? r₁ r₂
      let green ← readByte? g₁ g₂
      let blue ← readByte? b₁ b₂
      pure { red, green, blue, alpha }
  | _ => none

/-- Read the text of a color.  The hash sign may be left out. -/
def parse? (text : String) : Option Color :=
  match text.toList with
  | '#' :: digits => readDigits? digits
  | digits => readDigits? digits

/-- A byte reads back from its two digits. -/
theorem readByte?_hexDigit (byte : UInt8) :
    readByte? (Text.hexDigit (byte.toNat / 16)) (Text.hexDigit (byte.toNat % 16)) =
      some byte := by
  have small : byte.toNat < 256 := byte.toNat_lt
  have high : byte.toNat / 16 < 16 := by omega
  have notPlus : ∀ v ∈ List.range 16, Text.hexDigit v ≠ '+' := by decide
  have whole : 16 * (byte.toNat / 16) + byte.toNat % 16 = byte.toNat := by omega
  simp only [readByte?, Text.hexDigitValue?_hexDigit high,
    Text.hexDigitValue?_hexDigit (Nat.mod_lt byte.toNat (by decide : 16 > 0)),
    notPlus _ (List.mem_range.mpr high), Option.bind_eq_bind, Option.bind_some, if_false,
    whole, UInt8.ofNat_toNat, Option.pure_def]

/-- The text of a color reads back as that color. -/
theorem parse?_write (color : Color) : parse? color.write = some color := by
  simp [write, parse?, writeByte, readDigits?, readByte?_hexDigit]

end Color

end Stagecraft
