/-
Module: Stagecraft.Json.Number
Purpose: Numbers in a JSON text: their grammar, and the rule that turns their
  digits into a whole number or a double-precision number.
Main exports:
  Fault, Reader, NumberText, readNumberText, NumberText.value?, readNumber,
  skipNumber
-/
import Stagecraft.Json.Basic
import Stagecraft.Number.Reading

namespace Stagecraft.Json

/-- Why a text is refused: it ends too early, it is not JSON, or it is JSON of
another shape than the one asked for. -/
inductive Fault where
  | truncated
  | malformed
  | wrongShape
deriving Repr, DecidableEq, Inhabited

/-- A reader takes a value off the front of a text and returns the text behind
it. -/
abbrev Reader (α : Type) := List Char → Except Fault (α × List Char)

/-- The parts of a number: the digits of its whole part, the digits behind the
point, and its exponent with the sign, where there are any. -/
structure NumberText where
  negative : Bool
  whole : List Nat
  fraction : Option (List Nat)
  exponent : Option (Bool × Nat)

/-- Read a digit sequence that may not be empty. -/
def someDigits (input : List Char) : Except Fault (List Nat × List Char) :=
  match Stagecraft.Number.leadingDigits input with
  | ([], []) => .error .truncated
  | ([], _ :: _) => .error .malformed
  | (digits, rest) => .ok (digits, rest)

/-- Read the whole part of a number: a zero on its own, or digits that do not
begin with zero. -/
def wholeDigits (input : List Char) : Except Fault (List Nat × List Char) := do
  let (digits, rest) ← someDigits input
  match digits with
  | 0 :: _ :: _ => .error .malformed
  | _ => .ok (digits, rest)

/-- Read the digits behind the point, if a point follows. -/
def fractionPart : List Char → Except Fault (Option (List Nat) × List Char)
  | '.' :: rest => do
      let (digits, tail) ← someDigits rest
      .ok (some digits, tail)
  | input => .ok (none, input)

/-- Read the exponent, if one follows. -/
def exponentPart (input : List Char) : Except Fault (Option (Bool × Nat) × List Char) :=
  match input with
  | mark :: rest =>
      if mark = 'e' ∨ mark = 'E' then do
        let (negative, unsigned) := Stagecraft.Number.takeSign rest
        let (digits, tail) ← someDigits unsigned
        .ok (some (negative, Stagecraft.Number.digitsValue digits), tail)
      else .ok (none, input)
  | [] => .ok (none, input)

/-- Read the parts of a number, the sign first. -/
def readNumberText : Reader NumberText := fun input => do
  let (negative, unsigned) :=
    match input with
    | '-' :: rest => (true, rest)
    | _ => (false, input)
  let (whole, afterWhole) ← wholeDigits unsigned
  let (fraction, afterFraction) ← fractionPart afterWhole
  let (exponent, rest) ← exponentPart afterFraction
  .ok ({ negative, whole, fraction, exponent }, rest)

/-!
Digits are gathered into a significand of 64 bits.  From the first digit that
no longer fits on, the remaining digits are dropped; dropped digits of the
whole part raise the exponent.  The significand is then rounded to double
precision and multiplied or divided by a power of ten, which rounds once more.
The result is therefore not always the nearest double to the written number,
but it is the one that every document means.
-/

/-- The largest significand. -/
def significandLimit : Nat := 18446744073709551615

/-- Gather digits into a significand while they fit; also how many digits were
used. -/
def gather : Nat → Nat → List Nat → Nat × Nat
  | significand, used, [] => (significand, used)
  | significand, used, digit :: rest =>
      let next := 10 * significand + digit
      if significandLimit < next then (significand, used)
      else gather next (used + 1) rest

/-- A power of ten in double precision. -/
def powerOfTen (power : Nat) : Float :=
  Stagecraft.Number.doubleOfInt (Stagecraft.Number.tenTo power)

/-- The greatest power of ten that a double can hold. -/
def greatestPower : Nat := 308

/-- Divide by a power of ten, in steps no larger than the greatest power. -/
def divideByPower (x : Float) (power : Nat) : Float :=
  if _small : power ≤ greatestPower then x / powerOfTen power
  else if x == 0 then x
  else divideByPower (x / powerOfTen greatestPower) (power - greatestPower)
termination_by power
decreasing_by simp only [greatestPower] at *; omega

/-- A significand times a power of ten, if a double can hold it. -/
def scaled? (significand : Nat) (power : Int) : Option Float :=
  let x := Stagecraft.Number.doubleOfInt significand
  if power < 0 then some (divideByPower x power.natAbs)
  else if power.natAbs ≤ greatestPower then
    let product := x * powerOfTen power.natAbs
    if product.isInf then none else some product
  else if significand = 0 then some x
  else none

/-- Exponents of this size or more are not computed with. -/
def exponentLimit : Nat := 2147483647

/-- The number that the parts stand for; nothing if it is too large for a
double. -/
def NumberText.value? (parts : NumberText) : Option Number :=
  let (wholePart, wholeUsed) := gather 0 0 parts.whole
  let dropped := parts.whole.length - wholeUsed
  let isInteger := parts.fraction.isNone && parts.exponent.isNone && dropped = 0
  if isInteger && !parts.negative then some (.whole wholePart)
  else if isInteger && 0 < wholePart && wholePart ≤ 9223372036854775808 then
    some (.whole (-(wholePart : Int)))
  else
    let (significand, fractionUsed) := gather wholePart 0 (parts.fraction.getD [])
    let base : Int := (dropped : Int) - fractionUsed
    let size : Option Float :=
      match parts.exponent with
      | none => scaled? significand base
      | some (negative, exponent) =>
          if exponent ≤ exponentLimit then
            scaled? significand (if negative then base - exponent else base + exponent)
          else if negative || significand = 0 then some 0
          else none
    size.map fun x => .real (if parts.negative then -x else x)

def readNumber : Reader Number := fun input => do
  let (parts, rest) ← readNumberText input
  match parts.value? with
  | some n => .ok (n, rest)
  | none => .error .malformed

/-- Step over a number whose value does not matter.  A number that ends too
early is malformed here, and none is too large. -/
def skipNumber (input : List Char) : Except Fault (List Char) :=
  match readNumberText input with
  | .ok (_, rest) => .ok rest
  | .error _ => .error .malformed

end Stagecraft.Json
