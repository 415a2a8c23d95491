/-
Module: Stagecraft.Text.Numeral
Purpose: Whole numbers written in decimal, read within a range, and the
  hexadecimal digits.
Main exports:
  Range, NumeralError, readInteger, digitValue?, hexDigitValue?, hexDigit
-/

namespace Stagecraft.Text

/-- The value of one of the digits 0 to 9. -/
def digitValue? (c : Char) : Option Nat :=
  if '0' ≤ c ∧ c ≤ '9' then some (c.toNat - 48) else none

/-- The value of a hexadecimal digit in either letter case. -/
def hexDigitValue? (c : Char) : Option Nat :=
  if '0' ≤ c ∧ c ≤ '9' then some (c.toNat - 48)
  else if 'a' ≤ c ∧ c ≤ 'f' then some (c.toNat - 87)
  else if 'A' ≤ c ∧ c ≤ 'F' then some (c.toNat - 55)
  else none

def hexDigit (value : Nat) : Char :=
  if value < 10 then Char.ofNat (48 + value) else Char.ofNat (87 + value)

theorem hexDigitValue?_hexDigit {value : Nat} (small : value < 16) :
    hexDigitValue? (hexDigit value) = some value := by
  have all : ∀ v ∈ List.range 16, hexDigitValue? (hexDigit v) = some v := by decide
  exact all value (List.mem_range.mpr small)

/-- The numbers a numeral may stand for: everything from `least` to
`greatest`, zero among them. -/
structure Range where
  least : Int
  greatest : Int
  least_nonpos : least ≤ 0 := by decide
  greatest_nonneg : 0 ≤ greatest := by decide

namespace Range

/-- Signed numbers of 32 bits. -/
def int32 : Range := { least := -2147483648, greatest := 2147483647 }

/-- Signed numbers of 64 bits. -/
def int64 : Range :=
  { least := -9223372036854775808, greatest := 9223372036854775807 }

/-- Unsigned numbers of 64 bits. -/
def word64 : Range := { least := 0, greatest := 18446744073709551615 }

/-- Membership in a range. -/
def Contains (range : Range) (n : Int) : Prop :=
  range.least ≤ n ∧ n ≤ range.greatest

end Range

/-- Why a text is no numeral of a range. -/
inductive NumeralError where
  | empty
  | invalidDigit
  | tooLarge
  | tooSmall
deriving Repr, DecidableEq, Inhabited

def NumeralError.message : NumeralError → String
  | .empty => "cannot parse integer from empty string"
  | .invalidDigit => "invalid digit found in string"
  | .tooLarge => "number too large to fit in target type"
  | .tooSmall => "number too small to fit in target type"

/-!
Digits are read from the left.  The first obstacle decides the error: a
character that is no digit, or the digit with which the number leaves the
range.  A numeral that does both is therefore refused for whichever comes
first.
-/

/-- Read digits onto the number `soFar`, whose size may not pass `limit`.
`overflow` is the error for passing it. -/
def readDigits (limit : Nat) (overflow : NumeralError) :
    Nat → List Char → Except NumeralError Nat
  | soFar, [] => .ok soFar
  | soFar, c :: rest =>
      match digitValue? c with
      | none => .error .invalidDigit
      | some digit =>
          let next := 10 * soFar + digit
          if limit < next then .error overflow
          else readDigits limit overflow next rest

/-- Read a numeral of a range: one optional sign, then digits.  A range
without negative numbers has no minus sign, so `-` is then an invalid digit. -/
def readInteger (range : Range) (text : List Char) : Except NumeralError Int :=
  match text with
  | [] => .error .empty
  | ['+'] => .error .invalidDigit
  | ['-'] => .error .invalidDigit
  | '+' :: digits =>
      (readDigits range.greatest.toNat .tooLarge 0 digits).map Int.ofNat
  | '-' :: digits =>
      if range.least < 0 then
        (readDigits range.least.natAbs .tooSmall 0 digits).map fun n => -(n : Int)
      else .error .invalidDigit
  | digits => (readDigits range.greatest.toNat .tooLarge 0 digits).map Int.ofNat

/-- The number that a numeral of a range stands for, if it is one. -/
def integer? (range : Range) (text : String) : Option Int :=
  (readInteger range text.toList).toOption

/-- A number that digits stand for stays within the limit. -/
theorem le_of_readDigits {limit : Nat} {overflow : NumeralError} {digits : List Char} :
    ∀ {soFar n : Nat}, soFar ≤ limit →
      readDigits limit overflow soFar digits = .ok n → n ≤ limit := by
  induction digits with
  | nil =>
      intro soFar n small read
      simp only [readDigits, Except.ok.injEq] at read
      omega
  | cons c rest ih =>
      intro soFar n small read
      simp only [readDigits] at read
      split at read
      · cases read
      · next digit _ =>
          by_cases past : limit < 10 * soFar + digit
          · simp [past] at read
          · simp only [past, if_false] at read
            exact ih (by omega) read

/-- The digits of a natural number, most significant first. -/
def decimal (n : Nat) : List Char := Nat.toDigits 10 n

end Stagecraft.Text
