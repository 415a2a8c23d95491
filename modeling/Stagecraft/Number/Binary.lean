/-
Module: Stagecraft.Number.Binary
Purpose: Binary floating-point values as sign, significand and exponent, and
  the rounding of an exact fraction to the nearest of them.
Main exports:
  Format, Exact, Format.read, Format.write, Format.nearest, roundToEven,
  Exact.ofInt, Exact.isWhole, Exact.truncateWithin
-/

namespace Stagecraft.Number

/-!
Texts and conversions are defined on exact numbers, never through machine
arithmetic.  A format is described by two widths; `Format.read` takes a bit
pattern apart and `Format.nearest` finds the pattern closest to a given
fraction, a tie going to the even pattern.

Within a format the patterns of the finite values count upwards with the
values.  `Format.nearest` uses this: with `m` the rounded significand over the
exponent `q`, the pattern is `m` plus a whole number of steps of the leading
bit, and a significand that rounds up to the next power of two carries into
the exponent by itself.
-/

/-- A power of two. -/
def twoTo (exponent : Nat) : Nat := Nat.pow 2 exponent

def tenTo (exponent : Nat) : Nat := Nat.pow 10 exponent

/-- A binary floating-point format: the bits of its significand, the leading
one included, and the bits of its exponent. -/
structure Format where
  precision : Nat
  exponentBits : Nat
deriving Repr, DecidableEq

namespace Format

/-- Single precision, 32 bits. -/
def single : Format := { precision := 24, exponentBits := 8 }

/-- Double precision, 64 bits. -/
def double : Format := { precision := 53, exponentBits := 11 }

/-- The weight of a leading significand bit: two to the fraction width. -/
def leading (format : Format) : Nat := twoTo (format.precision - 1)

/-- The exponent of the last bit of the smallest positive value. -/
def leastExponent (format : Format) : Int :=
  3 - (twoTo (format.exponentBits - 1) : Int) - format.precision

/-- The magnitude bits of infinity. -/
def infinityBits (format : Format) : Nat :=
  (twoTo format.exponentBits - 1) * format.leading

def signBit (format : Format) : Nat :=
  twoTo format.exponentBits * format.leading

/-- The magnitude bits of the value used for "not a number". -/
def quietBits (format : Format) : Nat :=
  format.infinityBits + format.leading / 2

end Format

/-- What a bit pattern stands for.  A finite value is `significand` times two
to the `exponent`. -/
inductive Exact where
  | finite (negative : Bool) (significand : Nat) (exponent : Int)
  | infinite (negative : Bool)
  | notANumber
deriving Repr, DecidableEq, Inhabited

/-- Take a bit pattern of a format apart. -/
def Format.read (format : Format) (bits : Nat) : Exact :=
  let negative := format.signBit ≤ bits
  let magnitude := bits % format.signBit
  if format.infinityBits < magnitude then .notANumber
  else if magnitude = format.infinityBits then .infinite negative
  else
    let field := magnitude / format.leading
    let fraction := magnitude % format.leading
    if field = 0 then .finite negative fraction format.leastExponent
    else
      .finite negative (fraction + format.leading)
        (format.leastExponent + ((field : Int) - 1))

/-- Divide and round to the nearest whole number, a tie to the even one. -/
def roundToEven (numerator denominator : Nat) : Nat :=
  let quotient := numerator / denominator
  let twice := 2 * (numerator % denominator)
  if twice < denominator then quotient
  else if denominator < twice then quotient + 1
  else quotient + quotient % 2

namespace Format

/-- The power of two at or below the fraction `numerator / denominator`, both
positive. -/
def magnitude (numerator denominator : Nat) : Int :=
  let guess : Int := (numerator.log2 : Int) - denominator.log2
  let reached :=
    if 0 ≤ guess then denominator * twoTo guess.toNat ≤ numerator
    else denominator ≤ numerator * twoTo (-guess).toNat
  if reached then guess else guess - 1

/-- The magnitude bits of the value nearest to `numerator / denominator`, a
tie going to the even pattern.  From half a step above the largest finite
value on, that is infinity. -/
def nearest (format : Format) (numerator denominator : Nat) : Nat :=
  if numerator = 0 then 0
  else
    let exponent :=
      max (magnitude numerator denominator - (format.precision - 1))
        format.leastExponent
    let significand :=
      if 0 ≤ exponent then
        roundToEven numerator (denominator * twoTo exponent.toNat)
      else roundToEven (numerator * twoTo (-exponent).toNat) denominator
    let steps := (exponent - format.leastExponent).toNat
    min (steps * format.leading + significand) format.infinityBits

/-- Put a sign in front of magnitude bits. -/
def signed (format : Format) (negative : Bool) (bits : Nat) : Nat :=
  if negative then format.signBit + bits else bits

/-- The pattern nearest to a value: a number too large becomes infinite, and
every other value keeps its kind and its sign. -/
def write (format : Format) : Exact → Nat
  | .notANumber => format.quietBits
  | .infinite negative => format.signed negative format.infinityBits
  | .finite negative significand exponent =>
      format.signed negative <|
        if 0 ≤ exponent then
          format.nearest (significand * twoTo exponent.toNat) 1
        else format.nearest significand (twoTo (-exponent).toNat)

end Format

/-- A whole number as an exact value. -/
def Exact.ofInt (n : Int) : Exact := .finite (n < 0) n.natAbs 0

/-- Whether a value is a whole number.  Infinities and "not a number" are
none. -/
def Exact.isWhole : Exact → Bool
  | .finite _ significand exponent =>
      0 ≤ exponent || significand % twoTo (-exponent).toNat = 0
  | _ => false

/-- Drop the fraction of a value and keep it between two bounds.  Infinities
become the bound on their side, and "not a number" becomes zero. -/
def Exact.truncateWithin (least greatest : Int) : Exact → Int
  | .notANumber => 0
  | .infinite negative => if negative then least else greatest
  | .finite negative significand exponent =>
      let size : Nat :=
        if 0 ≤ exponent then significand * twoTo exponent.toNat
        else significand / twoTo (-exponent).toNat
      let whole : Int := if negative then -(size : Int) else size
      max least (min greatest whole)

end Stagecraft.Number
