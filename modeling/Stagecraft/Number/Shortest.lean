/-
Module: Stagecraft.Number.Shortest
Purpose: The decimal with the fewest digits that reads back as a given binary
  value.
Main exports:
  Decimal, Tie, Interval, Format.interval, shortest
-/
import Stagecraft.Number.Binary
import Stagecraft.Text.Numeral

namespace Stagecraft.Number

/-!
Every real number close enough to a binary value rounds to it.  These reals
form an interval whose ends belong to it exactly when the significand is even.
The text of a value is the decimal in that interval with the fewest digits,
and among those the nearest to the value.

The search tries one digit, then two, and so on.  On the grid of decimals with
a given last place only the two neighbours of the value can be the answer: if
any grid point lies in the interval, one of the neighbours does.  All
comparisons are between natural numbers over one common denominator.
-/

/-- A decimal: `significand` times ten to the `exponent`. -/
structure Decimal where
  significand : Nat
  exponent : Int
deriving Repr, DecidableEq, Inhabited

/-- Which of two equally near decimals is written. -/
inductive Tie where
  | toEven
  | upward
deriving Repr, DecidableEq, Inhabited

/-- A positive value with the interval of the reals that round to it, all over
one denominator.  `closed` says whether the two ends belong to the interval. -/
structure Interval where
  value : Nat
  low : Nat
  high : Nat
  denominator : Nat
  closed : Bool
deriving Repr, DecidableEq, Inhabited

/-- The interval of the reals that round to a positive finite value.  Below a
power of two the next value is only half as far away, except at the bottom of
the format. -/
def Format.interval (format : Format) (significand : Nat) (exponent : Int) : Interval :=
  let narrowBelow :=
    significand = format.leading ∧ format.leastExponent < exponent
  let scale := twoTo (exponent - 2).toNat
  { value := 4 * significand * scale
    low := (4 * significand - if narrowBelow then 1 else 2) * scale
    high := (4 * significand + 2) * scale
    denominator := twoTo (2 - exponent).toNat
    closed := significand % 2 = 0 }

/-- The number of decimal digits of a natural number. -/
def decimalLength (n : Nat) : Nat := (Text.decimal n).length

/-- The power of ten at or below the fraction `numerator / denominator`, both
positive. -/
def leadingPower (numerator denominator : Nat) : Int :=
  let guess : Int := (decimalLength numerator : Int) - decimalLength denominator
  let reached :=
    denominator * tenTo guess.toNat ≤ numerator * tenTo (-guess).toNat
  if reached then guess else guess - 1

/-- An interval measured in units of ten to the `power`: the four numbers of
the interval again, with the unit as denominator. -/
def Interval.inUnits (interval : Interval) (power : Int) : Interval :=
  let up := tenTo (-power).toNat
  { interval with
    value := interval.value * up
    low := interval.low * up
    high := interval.high * up
    denominator := interval.denominator * tenTo power.toNat }

/-- Whether the whole number `n` of units lies in an interval. -/
def Interval.holds (interval : Interval) (n : Nat) : Bool :=
  let point := n * interval.denominator
  if interval.closed then interval.low ≤ point && point ≤ interval.high
  else interval.low < point && point < interval.high

/-- The whole number of units that lies in an interval and is nearest to its
value, if any whole number lies in it. -/
def Interval.nearestUnit? (interval : Interval) (tie : Tie) : Option Nat :=
  let below := interval.value / interval.denominator
  let twice := 2 * (interval.value % interval.denominator)
  let preferred :=
    if twice < interval.denominator then below
    else if interval.denominator < twice then below + 1
    else match tie with
      | .toEven => below + below % 2
      | .upward => below + 1
  match interval.holds below, interval.holds (below + 1) with
  | true, true => some preferred
  | true, false => some below
  | false, true => some (below + 1)
  | false, false => none

/-- Move trailing zeros of the significand into the exponent. -/
def Decimal.normal (d : Decimal) : Decimal :=
  if _more : 0 < d.significand ∧ d.significand % 10 = 0 then
    Decimal.normal { significand := d.significand / 10, exponent := d.exponent + 1 }
  else d
termination_by d.significand
decreasing_by exact Nat.div_lt_self (by omega) (by omega)

/-- Seventeen digits tell apart the values of both formats. -/
def digitLimit : Nat := 17

/-- The decimal with the fewest digits in an interval, nearest to its value. -/
def Interval.shortest (interval : Interval) (tie : Tie) : Decimal :=
  let lead := leadingPower interval.value interval.denominator
  let attempt (digits : Nat) : Option Decimal :=
    let power := lead - digits
    ((interval.inUnits power).nearestUnit? tie).map fun n =>
      { significand := n, exponent := power }
  (((List.range digitLimit).findSome? attempt).getD
    { significand := 0, exponent := 0 }).normal

/-- The shortest decimal of a finite value, its sign left aside. -/
def shortest (format : Format) (tie : Tie) (significand : Nat) (exponent : Int) :
    Decimal :=
  if significand = 0 then { significand := 0, exponent := 0 }
  else (format.interval significand exponent).shortest tie

end Stagecraft.Number
