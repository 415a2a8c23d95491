/-
Module: Stagecraft.Number.Reading
Purpose: Numbers written in decimal, read to the nearest value of a binary
  format.
Main exports:
  Written, Format.nearestDecimal, readNumeral?, single?
-/
import Stagecraft.Number.Conversion
import Stagecraft.Number.Shortest
import Stagecraft.Text.Blank

namespace Stagecraft.Number

/-!
A numeral is an optional sign followed by digits with at most one point among
them, at least one digit, and an optional exponent; or one of the words `inf`,
`infinity` and `nan` in any letter case.  Its value is rounded once, straight
from the decimal.
-/

/-- A number as it was written. -/
inductive Written where
  | finite (negative : Bool) (value : Decimal)
  | infinite (negative : Bool)
  | notANumber
deriving Repr, DecidableEq, Inhabited

/-- The digits at the front of a text, as values, and the text behind them. -/
def leadingDigits : List Char → List Nat × List Char
  | [] => ([], [])
  | c :: rest =>
      match Text.digitValue? c with
      | none => ([], c :: rest)
      | some digit =>
          let (digits, tail) := leadingDigits rest
          (digit :: digits, tail)

/-- The number that a list of digits stands for. -/
def digitsValue (digits : List Nat) : Nat :=
  digits.foldl (fun value digit => 10 * value + digit) 0

/-- Take an optional sign off the front of a text. -/
def takeSign : List Char → Bool × List Char
  | '-' :: rest => (true, rest)
  | '+' :: rest => (false, rest)
  | text => (false, text)

/-- Read the exponent that ends a numeral: nothing, or `e` and a signed
number. -/
def readExponent? : List Char → Option Int
  | [] => some 0
  | mark :: rest =>
      if mark = 'e' ∨ mark = 'E' then
        let (negative, unsigned) := takeSign rest
        match leadingDigits unsigned with
        | (first :: more, []) =>
            let size := digitsValue (first :: more)
            some (if negative then -(size : Int) else size)
        | _ => none
      else none

/-- Read an unsigned numeral made of digits. -/
def readDigitsNumeral? (text : List Char) : Option Decimal :=
  let (whole, afterWhole) := leadingDigits text
  let (fraction, afterFraction) :=
    match afterWhole with
    | '.' :: rest => leadingDigits rest
    | rest => ([], rest)
  if whole = [] ∧ fraction = [] then none
  else
    (readExponent? afterFraction).map fun exponent =>
      { significand := digitsValue (whole ++ fraction)
        exponent := exponent - fraction.length }

/-- Read a numeral. -/
def readNumeral? (text : List Char) : Option Written :=
  let (negative, unsigned) := takeSign text
  match readDigitsNumeral? unsigned with
  | some value => some (.finite negative value)
  | none =>
      let word := String.ofList (unsigned.map Char.toLower)
      if word = "inf" ∨ word = "infinity" then some (.infinite negative)
      else if word = "nan" then some .notANumber
      else none

/-- The magnitude bits nearest to a decimal.  A decimal beyond all powers of
ten of a format is settled without expanding it. -/
def Format.nearestDecimal (format : Format) (d : Decimal) : Nat :=
  let bound : Int := twoTo format.exponentBits
  let power := d.exponent + decimalLength d.significand
  if d.significand = 0 then 0
  else if bound < power then format.infinityBits
  else if power < -bound then 0
  else
    format.nearest (d.significand * tenTo d.exponent.toNat) (tenTo (-d.exponent).toNat)

/-- The bit pattern nearest to a written number. -/
def Format.ofWritten (format : Format) : Written → Nat
  | .notANumber => format.quietBits
  | .infinite negative => format.signed negative format.infinityBits
  | .finite negative value => format.signed negative (format.nearestDecimal value)

/-- The single-precision number that a text stands for, if it is a numeral. -/
def single? (text : String) : Option Float32 :=
  (readNumeral? text.toList).map fun written =>
    Float32.ofBits (UInt32.ofNat (Format.single.ofWritten written))

end Stagecraft.Number
