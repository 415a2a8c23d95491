/-
Module: Stagecraft.Number.Conversion
Purpose: Conversions between machine numbers, defined through the exact values
  they stand for.
Main exports:
  exactSingle, exactDouble, singleOf, doubleOf, narrow, singleOfInt,
  doubleOfInt, isWholeSingle, int32OfSingle
-/
import Stagecraft.Number.Binary

namespace Stagecraft.Number

/-- The exact value of a single-precision number. -/
def exactSingle (x : Float32) : Exact := Format.single.read x.toBits.toNat

def exactDouble (x : Float) : Exact := Format.double.read x.toBits.toNat

/-- The single-precision number nearest to a value. -/
def singleOf (value : Exact) : Float32 :=
  Float32.ofBits (UInt32.ofNat (Format.single.write value))

def doubleOf (value : Exact) : Float :=
  Float.ofBits (UInt64.ofNat (Format.double.write value))

/-- Round a double-precision number to single precision. -/
def narrow (x : Float) : Float32 := singleOf (exactDouble x)

/-- The single-precision number nearest to a whole number, in one rounding. -/
def singleOfInt (n : Int) : Float32 := singleOf (.ofInt n)

def doubleOfInt (n : Int) : Float := doubleOf (.ofInt n)

def isWholeSingle (x : Float32) : Bool := (exactSingle x).isWhole

/-- Drop the fraction of a single-precision number.  A number outside the
range of signed 32 bits becomes the nearer end of it, and "not a number"
becomes zero. -/
def int32OfSingle (x : Float32) : Int32 :=
  Int32.ofInt ((exactSingle x).truncateWithin (-2147483648) 2147483647)

/-- The smaller of two numbers; the other one when one is "not a number". -/
def least (x y : Float32) : Float32 :=
  if x.isNaN then y else if y.isNaN then x else if y < x then y else x

/-- The larger of two numbers; the other one when one is "not a number". -/
def greatest (x y : Float32) : Float32 :=
  if x.isNaN then y else if y.isNaN then x else if x < y then y else x

end Stagecraft.Number
