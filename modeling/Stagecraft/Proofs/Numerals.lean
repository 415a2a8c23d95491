/-
Module: Stagecraft.Proofs.Numerals
Purpose: Whole numbers written in decimal: what is written for a number is read as that number,
  by itself, as a numeral of a range, and as a number of a document.
Main exports:
  Number.appendDigits, Text.digits, Text.appendDigits_digits, Text.leadingDigits_decimal,
  Text.readDigits_eq, Text.contains_of_readInteger, Number.readNumeral?_of_readInteger,
  Value.toList_displayInt, Value.trim_displayInt, Value.integer?_displayInt, Json.IsWide,
  Json.readNumber_displayInt, Json.eq_real_of_readNumber_displayInt
-/
import Stagecraft.Json.Number
import Stagecraft.Value.Basic
import Stagecraft.Proofs.Basic

namespace Stagecraft

/-! ### Digits -/

namespace Number

/-- The number that digits make out of the number in front of them. -/
def appendDigits (soFar : Nat) (digits : List Nat) : Nat :=
  digits.foldl (fun value digit => 10 * value + digit) soFar

theorem appendDigits_cons (soFar digit : Nat) (digits : List Nat) :
    appendDigits soFar (digit :: digits) = appendDigits (10 * soFar + digit) digits := rfl

/-- To append digits never makes a number less. -/
theorem le_appendDigits (digits : List Nat) (soFar : Nat) : soFar ≤ appendDigits soFar digits := by
  induction digits generalizing soFar with
  | nil => exact Nat.le_refl _
  | cons digit rest ih =>
      have more := ih (10 * soFar + digit)
      rw [appendDigits_cons]
      omega

end Number

namespace Text

open Number (appendDigits appendDigits_cons le_appendDigits leadingDigits)

theorem digitValue?_of_isDigit {c : Char} (digit : c.isDigit = true) :
    digitValue? c = some (c.toNat - 48) := by
  simp only [Char.isDigit, Bool.and_eq_true, decide_eq_true_eq] at digit
  exact if_pos digit

/-- The digits that are written for a number. -/
def digits (n : Nat) : List Nat := (decimal n).map fun c => c.toNat - 48

theorem isDigit_of_mem_decimal {n : Nat} {c : Char} (member : c ∈ decimal n) :
    c.isDigit = true :=
  Nat.isDigit_of_mem_toDigits (by decide) (by decide) member

/-- What is written for a number begins with a digit. -/
theorem exists_decimal_eq_cons (n : Nat) :
    ∃ c rest, decimal n = c :: rest ∧ c.isDigit = true := by
  obtain ⟨c, rest, same⟩ := List.exists_cons_of_ne_nil (Nat.toDigits_ne_nil (n := n) (b := 10))
  have first : c ∈ decimal n := by
    rw [decimal, same]
    exact List.mem_cons_self
  exact ⟨c, rest, same, isDigit_of_mem_decimal first⟩

theorem digits_of_lt_ten {n : Nat} (small : n < 10) : digits n = [n] := by
  rw [digits, decimal, Nat.toDigits_of_lt_base small]
  have all : ∀ d < 10, [d.digitChar].map (fun c => c.toNat - 48) = [d] := by decide
  exact all n small

/-- The last digit of a number is what is left of it by ten. -/
theorem digits_of_ten_le {n : Nat} (large : 10 ≤ n) : digits n = digits (n / 10) ++ [n % 10] := by
  have last := digits_of_lt_ten (Nat.mod_lt n (by decide : 0 < 10))
  rw [digits, decimal, Nat.toDigits_of_lt_base (Nat.mod_lt _ (by decide))] at last
  rw [digits, decimal, Nat.toDigits_of_base_le (by decide) large, List.map_append, last]
  rfl

theorem digits_ne_nil (n : Nat) : digits n ≠ [] := by
  simp [digits, decimal, Nat.toDigits_ne_nil]

/-- The digits of a positive number do not begin with a zero. -/
theorem head?_digits_ne_zero {n : Nat} (positive : 0 < n) : (digits n).head? ≠ some 0 := by
  induction n using Nat.strongRecOn with
  | _ n ih =>
      rcases Nat.lt_or_ge n 10 with small | large
      · rw [digits_of_lt_ten small]
        simp only [List.head?_cons, ne_eq, Option.some.injEq]
        omega
      · have earlier := ih (n / 10) (by omega) (by omega)
        obtain ⟨first, more, same⟩ := List.exists_cons_of_ne_nil (digits_ne_nil (n / 10))
        rw [same] at earlier
        rw [digits_of_ten_le large, same]
        exact earlier

/-- The digits of a number stand for the number. -/
theorem appendDigits_digits (n : Nat) : appendDigits 0 (digits n) = n := by
  have read := Nat.ofDigitChars_toDigits (n := n) (by decide : 1 < 10) (by decide)
  simpa [appendDigits, digits, decimal, List.foldl_map, Nat.ofDigitChars_eq_foldl] using read

theorem leadingDigits_of_isDigit {cs : List Char} (all : ∀ c ∈ cs, c.isDigit = true) :
    leadingDigits cs = (cs.map fun c => c.toNat - 48, []) := by
  induction cs with
  | nil => rfl
  | cons c rest ih =>
      have here := digitValue?_of_isDigit (all c List.mem_cons_self)
      have later := ih fun other member => all other (List.mem_cons_of_mem _ member)
      simp [leadingDigits, here, later]

/-- What is written for a number is read as its digits, to the end. -/
theorem leadingDigits_decimal (n : Nat) : leadingDigits (decimal n) = (digits n, []) :=
  leadingDigits_of_isDigit fun _ => isDigit_of_mem_decimal

/-! ### Numerals of a range -/

variable {limit : Nat} {overflow : NumeralError}

/-- Digits are read as the number they stand for, up to the limit. -/
theorem readDigits_eq (overflow : NumeralError) {cs : List Char} {values : List Nat}
    (leading : leadingDigits cs = (values, [])) {soFar : Nat} (small : soFar ≤ limit) :
    readDigits limit overflow soFar cs =
      if appendDigits soFar values ≤ limit then .ok (appendDigits soFar values)
      else .error overflow := by
  induction cs generalizing values soFar with
  | nil =>
      obtain rfl : values = [] := (congrArg Prod.fst leading).symm
      exact (if_pos small).symm
  | cons c rest ih =>
      simp only [leadingDigits] at leading
      split at leading
      · cases leading
      · next digit here =>
        obtain ⟨later, tail⟩ := Prod.mk.inj leading
        rw [← later, appendDigits_cons]
        simp only [readDigits, here]
        have grows := le_appendDigits (leadingDigits rest).1 (10 * soFar + digit)
        by_cases past : limit < 10 * soFar + digit
        · rw [if_pos past, if_neg (by omega)]
        · rw [if_neg past]
          exact ih (Prod.ext rfl tail) (by omega)

/-- Only digits are read as digits. -/
theorem leadingDigits_of_readDigits {cs : List Char} {soFar n : Nat}
    (read : readDigits limit overflow soFar cs = .ok n) :
    ∃ values, leadingDigits cs = (values, []) ∧ appendDigits soFar values = n := by
  induction cs generalizing soFar with
  | nil => exact ⟨[], rfl, Except.ok.inj read⟩
  | cons c rest ih =>
      simp only [readDigits] at read
      split at read
      · cases read
      · next digit here =>
        by_cases past : limit < 10 * soFar + digit
        · rw [if_pos past] at read
          cases read
        · rw [if_neg past] at read
          obtain ⟨values, leading, value⟩ := ih read
          exact ⟨digit :: values, by simp [leadingDigits, here, leading], value⟩

instance (range : Range) (n : Int) : Decidable (range.Contains n) :=
  inferInstanceAs (Decidable (range.least ≤ n ∧ n ≤ range.greatest))

/-- Without a sign the digits count up to the greatest number of the range. -/
theorem readInteger_digits {range : Range} {c : Char} {rest : List Char}
    (digit : c.isDigit = true) :
    readInteger range (c :: rest) =
      (readDigits range.greatest.toNat .tooLarge 0 (c :: rest)).map Int.ofNat := by
  have plus : c ≠ '+' := by rintro rfl; cases digit
  have minus : c ≠ '-' := by rintro rfl; cases digit
  unfold readInteger
  split <;> simp_all

/-- Behind a minus sign they count down to the least, if that is negative. -/
theorem readInteger_minus {range : Range} {c : Char} {rest : List Char} :
    readInteger range ('-' :: c :: rest) =
      if range.least < 0 then
        (readDigits range.least.natAbs .tooSmall 0 (c :: rest)).map fun n => -(n : Int)
      else .error .invalidDigit := by
  unfold readInteger
  rfl

/-- What is read within a range belongs to it. -/
theorem contains_of_readInteger {range : Range} {cs : List Char} {n : Int}
    (read : readInteger range cs = .ok n) : range.Contains n := by
  have least := range.least_nonpos
  have greatest := range.greatest_nonneg
  have positive {rest : List Char}
      (unsigned : (readDigits range.greatest.toNat .tooLarge 0 rest).map Int.ofNat = .ok n) :
      range.Contains n := by
    obtain ⟨size, digits, rfl⟩ := exists_of_map_eq_ok unsigned
    have small := le_of_readDigits (Nat.zero_le _) digits
    rw [Int.ofNat_eq_natCast]
    exact ⟨by omega, by omega⟩
  unfold readInteger at read
  split at read
  · cases read
  · cases read
  · cases read
  · exact positive read
  · split at read
    · obtain ⟨whole, negated, rfl⟩ := exists_of_map_eq_ok read
      obtain ⟨size, digits, same⟩ := exists_of_bind_eq_ok negated
      obtain rfl := Except.ok.inj same
      have small := le_of_readDigits (Nat.zero_le _) digits
      exact ⟨by omega, by omega⟩
    · cases read
  · exact positive read

end Text

namespace Number

/-- A text of digits is a numeral with these digits. -/
theorem readDigitsNumeral?_of_leadingDigits {cs : List Char} {values : List Nat}
    (leading : leadingDigits cs = (values, [])) (nonempty : values ≠ []) :
    readDigitsNumeral? cs = .some { significand := appendDigits 0 values, exponent := 0 } := by
  simp [readDigitsNumeral?, leading, nonempty, readExponent?, digitsValue, appendDigits]

/-- A numeral that is read within a range is read as the same number by itself. -/
theorem readNumeral?_of_readInteger {range : Text.Range} {cs : List Char} {n : Int}
    (read : Text.readInteger range cs = .ok n) :
    ∃ negative, readNumeral? cs =
        some (.finite negative { significand := n.natAbs, exponent := 0 }) ∧
      n = if negative then -(n.natAbs : Int) else n.natAbs := by
  -- both readers take the same sign off, and both read the rest as digits
  have unsigned {negative : Bool} {limit : Nat} {overflow : Text.NumeralError}
      {rest : List Char} {size : Nat} (sign : takeSign cs = (negative, rest))
      (more : rest ≠ []) (digits : Text.readDigits limit overflow 0 rest = .ok size) :
      readNumeral? cs = some (.finite negative { significand := size, exponent := 0 }) := by
    obtain ⟨values, leading, rfl⟩ := Text.leadingDigits_of_readDigits digits
    have nonempty : values ≠ [] := by
      rintro rfl
      cases rest with
      | nil => exact more rfl
      | cons c rest =>
          simp only [leadingDigits] at leading
          split at leading <;> cases leading
    simp [readNumeral?, sign, readDigitsNumeral?_of_leadingDigits leading nonempty]
  unfold Text.readInteger at read
  split at read
  · cases read
  · cases read
  · cases read
  · next rest more =>
    obtain ⟨size, digits, rfl⟩ := exists_of_map_eq_ok read
    exact ⟨false, unsigned rfl more digits, rfl⟩
  · next rest more =>
    split at read
    · obtain ⟨whole, positive, rfl⟩ := exists_of_map_eq_ok read
      obtain ⟨size, digits, same⟩ := exists_of_bind_eq_ok positive
      obtain rfl := Except.ok.inj same
      exact ⟨true, by simpa using unsigned rfl more digits, by simp⟩
    · cases read
  · next nonempty _ _ plus minus =>
    obtain ⟨size, digits, rfl⟩ := exists_of_map_eq_ok read
    have sign : takeSign cs = (false, cs) := by
      unfold takeSign
      split
      · exact absurd rfl (minus _)
      · exact absurd rfl (plus _)
      · rfl
    exact ⟨false, unsigned sign nonempty digits, rfl⟩

end Number

/-! ### The text of a whole number -/

namespace Value

open Text (decimal digits Range)

theorem toList_displayInt (k : Int) :
    (displayInt k).toList = if k < 0 then '-' :: decimal k.natAbs else decimal k.natAbs := by
  unfold displayInt Number.withSign
  by_cases negative : k < 0 <;> simp [negative]

/-- No character of a whole number is a blank. -/
theorem isBlank_of_mem_displayInt {k : Int} {c : Char} (member : c ∈ (displayInt k).toList) :
    Text.isBlank c = false := by
  have digit {c : Char} (here : c.isDigit = true) : Text.isBlank c = false := by
    simp only [Char.isDigit, Bool.and_eq_true, decide_eq_true_eq] at here
    have low : 48 ≤ c.toNat := here.1
    have high : c.toNat ≤ 57 := here.2
    simp [Text.isBlank, Text.blankRanges]
    omega
  rw [toList_displayInt] at member
  split at member
  · rcases List.mem_cons.mp member with rfl | member
    · decide
    · exact digit (Text.isDigit_of_mem_decimal member)
  · exact digit (Text.isDigit_of_mem_decimal member)

theorem trim_displayInt (k : Int) : Text.trim (displayInt k) = displayInt k := by
  have front {cs : List Char} (all : ∀ c ∈ cs, Text.isBlank c = false) :
      cs.dropWhile Text.isBlank = cs := by
    cases cs with
    | nil => rfl
    | cons c rest => simp [all c List.mem_cons_self]
  have all (c : Char) (member : c ∈ (displayInt k).toList) : Text.isBlank c = false :=
    isBlank_of_mem_displayInt member
  have back (c : Char) (member : c ∈ (displayInt k).toList.reverse) : Text.isBlank c = false :=
    all c (List.mem_reverse.mp member)
  rw [Text.trim, Text.trimChars, front all, front back, List.reverse_reverse, String.ofList_toList]

/-- The text of a whole number is a numeral of the ranges that the number belongs to. -/
theorem integer?_displayInt (range : Range) (k : Int) :
    Text.integer? range (displayInt k) = if range.Contains k then some k else none := by
  obtain ⟨c, rest, same, digit⟩ := Text.exists_decimal_eq_cons k.natAbs
  have read (limit : Nat) (overflow : Text.NumeralError) :=
    Text.readDigits_eq overflow (Text.leadingDigits_decimal k.natAbs) (Nat.zero_le limit)
  rw [Text.integer?, toList_displayInt, same]
  rw [same] at read
  simp only [Text.appendDigits_digits] at read
  have least := range.least_nonpos
  have greatest := range.greatest_nonneg
  by_cases negative : k < 0
  · rw [if_pos negative, Text.readInteger_minus, read]
    by_cases within : k.natAbs ≤ range.least.natAbs
    · have least : range.least < 0 := by omega
      have contained : range.Contains k := ⟨by omega, by omega⟩
      rw [if_pos least, if_pos within, if_pos contained]
      exact congrArg some (by omega : -(k.natAbs : Int) = k)
    · have outside : ¬ range.Contains k := fun contained => by have := contained.1; omega
      rw [if_neg within, if_neg outside]
      split <;> rfl
  · rw [if_neg negative, Text.readInteger_digits digit, read]
    by_cases within : k.natAbs ≤ range.greatest.toNat
    · have contained : range.Contains k := ⟨by omega, by omega⟩
      rw [if_pos within, if_pos contained]
      exact congrArg some (by omega : (k.natAbs : Int) = k)
    · have outside : ¬ range.Contains k := fun contained => by have := contained.2; omega
      rw [if_neg within, if_neg outside]
      rfl

end Value

/-! ### Whole numbers of a document -/

namespace Json

open Text (decimal digits)
open Stagecraft.Number (leadingDigits appendDigits le_appendDigits appendDigits_cons)

/-- Digits are all gathered if their number fits. -/
theorem gather_of_le {values : List Nat} {significand : Nat}
    (fits : appendDigits significand values ≤ significandLimit) (used : Nat) :
    gather significand used values = (appendDigits significand values, used + values.length) := by
  induction values generalizing significand used with
  | nil => rfl
  | cons digit rest ih =>
      rw [appendDigits_cons] at fits ⊢
      have grows := le_appendDigits rest (10 * significand + digit)
      simp only [gather, List.length_cons]
      rw [if_neg (by omega), ih fits, Nat.add_assoc, Nat.add_comm 1]

/-- Some digits are left over if their number does not fit. -/
theorem gather_lt {values : List Nat} {significand : Nat} (small : significand ≤ significandLimit)
    (past : significandLimit < appendDigits significand values) (used : Nat) :
    (gather significand used values).2 < used + values.length := by
  induction values generalizing significand used with
  | nil => exact absurd small (Nat.not_le.mpr past)
  | cons digit rest ih =>
      rw [appendDigits_cons] at past
      simp only [gather, List.length_cons]
      split
      · exact Nat.lt_add_of_pos_right (Nat.succ_pos _)
      · next fits =>
        have later := ih (Nat.not_lt.mp fits) past (used + 1)
        omega

theorem gather_digits_of_le {n : Nat} (fits : n ≤ significandLimit) :
    gather 0 0 (digits n) = (n, (digits n).length) := by
  have number := Text.appendDigits_digits n
  have gathered : gather 0 0 (digits n) = (appendDigits 0 (digits n), 0 + (digits n).length) :=
    gather_of_le (by rwa [number]) 0
  rwa [number, Nat.zero_add] at gathered

/-- Of a number past the limit of the significand not all digits are used. -/
theorem gather_digits_lt {n : Nat} (past : significandLimit < n) :
    (gather 0 0 (digits n)).2 < (digits n).length := by
  have number := Text.appendDigits_digits n
  have left : (gather 0 0 (digits n)).2 < 0 + (digits n).length :=
    gather_lt (Nat.zero_le _) (by rwa [number]) 0
  rwa [Nat.zero_add] at left

/-- The digits of a number make up a whole part: only zero begins with a zero. -/
theorem wholeDigits_decimal (n : Nat) : wholeDigits (decimal n) = .ok (digits n, []) := by
  have leading := Text.leadingDigits_decimal n
  have nonempty := Text.digits_ne_nil n
  rcases Nat.eq_zero_or_pos n with rfl | positive
  · rfl
  · have first := Text.head?_digits_ne_zero positive
    unfold wholeDigits someDigits
    rw [leading]
    generalize digits n = values at nonempty first
    match values with
    | [] => exact absurd rfl nonempty
    | 0 :: _ => exact absurd rfl first
    | (_ + 1) :: _ => rfl

/-- The parts of the text of a whole number. -/
def wholeText (k : Int) : NumberText :=
  { negative := k < 0, whole := digits k.natAbs, fraction := none, exponent := none }

/-- What is displayed for an integer is read as a number without fraction or exponent. -/
theorem readNumberText_displayInt (k : Int) :
    readNumberText (Value.displayInt k).toList = .ok (wholeText k, []) := by
  have whole := wholeDigits_decimal k.natAbs
  rw [Value.toList_displayInt]
  by_cases negative : k < 0
  · simp only [negative, if_true, decide_true, readNumberText, whole, wholeText]
    rfl
  · obtain ⟨c, rest, same, digit⟩ := Text.exists_decimal_eq_cons k.natAbs
    have minus : c ≠ '-' := by rintro rfl; cases digit
    rw [same] at whole
    rw [if_neg negative, same]
    unfold readNumberText
    split
    next front =>
    split at front
    · next first => exact absurd (List.cons.inj first).1 minus
    · obtain ⟨rfl, rfl⟩ := Prod.mk.inj front
      simp only [whole, wholeText, negative, decide_false]
      rfl

/-- Whether a whole number fits 64 bits, with a sign or without. -/
def IsWide (k : Int) : Prop := -9223372036854775808 ≤ k ∧ k ≤ 18446744073709551615

/-- Integers that fit into 64 bits stay whole. -/
theorem value?_wholeText {k : Int} (wide : IsWide k) : (wholeText k).value? = some (.whole k) := by
  have fits : k.natAbs ≤ significandLimit := by
    unfold IsWide at wide
    unfold significandLimit
    omega
  simp only [NumberText.value?, wholeText, gather_digits_of_le fits, Nat.sub_self]
  by_cases negative : k < 0
  · have small : k.natAbs ≤ 9223372036854775808 := by have := wide.1; omega
    have positive : 0 < k.natAbs := by omega
    have same : -(k.natAbs : Int) = k := by omega
    simp only [negative, small, positive, same, Option.isNone_none, decide_true, Bool.and_true,
      Bool.not_true, Bool.and_false, Bool.false_eq_true, if_false, if_true]
  · have same : (k.natAbs : Int) = k := by omega
    simp only [negative, same, Option.isNone_none, decide_true, decide_false, Bool.and_true,
      Bool.not_false, if_true]

/-- A whole number that does not fit is read as a real number, if at all. -/
theorem eq_real_of_value?_wholeText {k : Int} (far : ¬ IsWide k) {n : Number}
    (read : (wholeText k).value? = some n) : ∃ x, n = .real x := by
  have condition : (decide ((digits k.natAbs).length - (gather 0 0 (digits k.natAbs)).2 = 0) &&
      !decide (k < 0)) = false ∧
        (decide ((digits k.natAbs).length - (gather 0 0 (digits k.natAbs)).2 = 0) &&
          decide (0 < (gather 0 0 (digits k.natAbs)).1) &&
            decide ((gather 0 0 (digits k.natAbs)).1 ≤ 9223372036854775808)) = false := by
    unfold IsWide at far
    by_cases fits : k.natAbs ≤ significandLimit
    · have negative : k < 0 := by unfold significandLimit at fits; omega
      have large : 9223372036854775808 < k.natAbs := by unfold significandLimit at fits; omega
      rw [gather_digits_of_le fits]
      simp [negative, large]
    · have left := gather_digits_lt (Nat.not_le.mp fits)
      have remains : (digits k.natAbs).length - (gather 0 0 (digits k.natAbs)).2 ≠ 0 := by omega
      simp only [remains, decide_false, Bool.false_and, and_self]
  simp only [NumberText.value?, wholeText, Option.isNone_none, Bool.true_and] at read
  split at read
  · next whole => exact absurd whole (ne_true_of_eq_false condition.1)
  split at read
  · next whole => exact absurd whole (ne_true_of_eq_false condition.2)
  obtain ⟨x, -, same⟩ := Option.map_eq_some_iff.mp read
  exact ⟨_, same.symm⟩

theorem readNumber_displayInt_eq (k : Int) :
    readNumber (Value.displayInt k).toList =
      match (wholeText k).value? with
      | some n => .ok (n, [])
      | none => .error .malformed := by
  rw [readNumber, readNumberText_displayInt]
  rfl

/-- The text of a whole number that fits 64 bits is read as the number. -/
theorem readNumber_displayInt {k : Int} (wide : IsWide k) :
    readNumber (Value.displayInt k).toList = .ok (.whole k, []) := by
  rw [readNumber_displayInt_eq, value?_wholeText wide]

/-- The text of any other whole number is read as a real number, if at all. -/
theorem eq_real_of_readNumber_displayInt {k : Int} (far : ¬ IsWide k) {n : Number}
    {rest : List Char} (read : readNumber (Value.displayInt k).toList = .ok (n, rest)) :
    ∃ x, n = .real x := by
  rw [readNumber_displayInt_eq] at read
  split at read
  · next value =>
    obtain ⟨rfl, -⟩ := Prod.mk.inj (Except.ok.inj read)
    exact eq_real_of_value?_wholeText far value
  · cases read

end Json

end Stagecraft
