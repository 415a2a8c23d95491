/-
Module: Stagecraft.Number.Layout
Purpose: The written forms of floating-point numbers: the free form of values
  in texts and messages, the form of numbers in a document, and fixed places.
Main exports:
  Layout, Layout.plain, Layout.document, Layout.write, writeSingle,
  writeDouble, writeFixed
-/
import Stagecraft.Number.Conversion
import Stagecraft.Number.Shortest

namespace Stagecraft.Number

/-- How a decimal is laid out.  A number is written without an exponent when
the power of ten of its first digit lies between `leastPower` and
`greatestPower`, where no bound means none. -/
structure Layout where
  tie : Tie
  leastPower : Option Int
  greatestPower : Option Int
  /-- What follows the digits of a whole number. -/
  wholeSuffix : String
  positiveExponentMark : String
  negativeExponentMark : String

/-- The form of numbers in texts and messages: never an exponent, whole
numbers without a point, and a tie goes upward. -/
def Layout.plain : Layout :=
  { tie := .upward, leastPower := none, greatestPower := none, wholeSuffix := ""
    positiveExponentMark := "e", negativeExponentMark := "e-" }

/-- The form of numbers in a document: from 1e-5 up to below 1e16 without an
exponent, whole numbers marked by `.0`, and a tie goes to the even digit. -/
def Layout.document : Layout :=
  { tie := .toEven, leastPower := some (-5), greatestPower := some 15
    wholeSuffix := ".0", positiveExponentMark := "e+", negativeExponentMark := "e-" }

/-- The form of whole and broken numbers without an exponent. -/
def Layout.positional (layout : Layout) (digits : List Char) (exponent : Int) : String :=
  if 0 ≤ exponent then
    String.ofList (digits ++ List.replicate exponent.toNat '0') ++ layout.wholeSuffix
  else
    let places := (-exponent).toNat
    if places < digits.length then
      let whole := digits.length - places
      String.ofList (digits.take whole ++ '.' :: digits.drop whole)
    else
      String.ofList ('0' :: '.' :: List.replicate (places - digits.length) '0' ++ digits)

/-- The form with an exponent: one digit before the point. -/
def Layout.scientific (layout : Layout) (digits : List Char) (power : Int) : String :=
  let mantissa :=
    match digits with
    | [] => []
    | [single] => [single]
    | first :: rest => first :: '.' :: rest
  let mark := if power < 0 then layout.negativeExponentMark else layout.positiveExponentMark
  String.ofList mantissa ++ mark ++ String.ofList (Text.decimal power.natAbs)

/-- Lay out a decimal. -/
def Layout.decimal (layout : Layout) (d : Decimal) : String :=
  let digits := Text.decimal d.significand
  let power := d.exponent + digits.length - 1
  let smallEnough := layout.greatestPower.all fun bound => power ≤ bound
  let largeEnough := layout.leastPower.all fun bound => bound ≤ power
  if smallEnough && largeEnough then layout.positional digits d.exponent
  else layout.scientific digits power

def withSign (negative : Bool) (text : String) : String :=
  if negative then "-" ++ text else text

def Layout.write (layout : Layout) (format : Format) : Exact → String
  | .notANumber => "NaN"
  | .infinite negative => withSign negative "inf"
  | .finite negative significand exponent =>
      withSign negative (layout.decimal (shortest format layout.tie significand exponent))

/-- The text of a single-precision number in texts and messages. -/
def writeSingle (x : Float32) : String := Layout.plain.write .single (exactSingle x)

/-- The text of a double-precision number in a document. -/
def writeDouble (x : Float) : String := Layout.document.write .double (exactDouble x)

/-- The text of an exact value with a fixed number of places, a tie going to
the even digit. -/
def fixedPlaces (places : Nat) : Exact → String
  | .notANumber => "NaN"
  | .infinite negative => withSign negative "inf"
  | .finite negative significand exponent =>
      let scaled := significand * tenTo places
      let units :=
        if 0 ≤ exponent then scaled * twoTo exponent.toNat
        else roundToEven scaled (twoTo (-exponent).toNat)
      let digits := Text.decimal units
      let padded := List.replicate (places + 1 - digits.length) '0' ++ digits
      let whole := padded.length - places
      let tail := if places = 0 then [] else '.' :: padded.drop whole
      withSign negative (String.ofList (padded.take whole ++ tail))

/-- The text of a single-precision number with a fixed number of places. -/
def writeFixed (places : Nat) (x : Float32) : String := fixedPlaces places (exactSingle x)

end Stagecraft.Number
