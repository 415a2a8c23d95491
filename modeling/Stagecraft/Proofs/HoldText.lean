/-
Module: Stagecraft.Proofs.HoldText
Purpose: Which texts are read as holds of a key, and as which: a key and two ticks, with the last
  two colons of the text between them.
Main exports:
  Text.IsUnsigned, Text.readInteger_eq_ok_iff_of_unsigned, splitLastColon_eq_some_iff,
  readTick_eq_ok_iff, KeyName.IsNormal, KeyHold.WrittenAs, KeyHold.parse_eq_ok_iff,
  KeyHold.write, KeyHold.parse_write, KeyHold.text_is_read_as_hold
-/
import Stagecraft.Input.Hold
import Stagecraft.Proofs.KeyEdges
import Stagecraft.Proofs.Numerals

namespace Stagecraft

/-! ### Numerals without a sign -/

namespace Text

/-- A numeral that cannot be negative: digits, maybe behind a plus sign. -/
def IsUnsigned (text : List Char) (n : Nat) : Prop :=
  ∃ digits, (text = digits ∨ text = '+' :: digits) ∧ digits ≠ [] ∧
    (∀ c ∈ digits, c.isDigit = true) ∧ Nat.ofDigitChars 10 digits 0 = n

theorem isDigit_of_digitValue? {c : Char} {value : Nat} (read : digitValue? c = some value) :
    c.isDigit = true := by
  unfold digitValue? at read
  split at read
  · next digit =>
    simp only [Char.isDigit, Bool.and_eq_true, decide_eq_true_eq]
    exact digit
  · cases read

/-- What is read to the end as digits consists of digits. -/
theorem isDigit_of_leadingDigits {cs : List Char} {values : List Nat}
    (leading : Number.leadingDigits cs = (values, [])) : ∀ c ∈ cs, c.isDigit = true := by
  induction cs generalizing values with
  | nil => simp
  | cons c rest ih =>
      simp only [Number.leadingDigits] at leading
      split at leading
      · cases leading
      · next digit here =>
        have later := ih (Prod.ext rfl (Prod.mk.inj leading).2)
        exact List.forall_mem_cons.mpr ⟨isDigit_of_digitValue? here, later⟩

/-- Digits are read as the number they stand for, if it is within the limit, and nothing but
digits is. -/
theorem readDigits_eq_ok_iff {limit : Nat} {overflow : NumeralError} {cs : List Char} {n : Nat} :
    readDigits limit overflow 0 cs = .ok n ↔
      (∀ c ∈ cs, c.isDigit = true) ∧ Nat.ofDigitChars 10 cs 0 = n ∧ n ≤ limit := by
  have value : Number.appendDigits 0 (cs.map fun c => c.toNat - 48) = Nat.ofDigitChars 10 cs 0 := by
    simp [Number.appendDigits, List.foldl_map, Nat.ofDigitChars_eq_foldl]
  constructor
  · intro read
    obtain ⟨values, leading, same⟩ := leadingDigits_of_readDigits read
    have all := isDigit_of_leadingDigits leading
    rw [leadingDigits_of_isDigit all] at leading
    refine ⟨all, ?_, le_of_readDigits (Nat.zero_le _) read⟩
    rw [← value, (Prod.mk.inj leading).1, same]
  · rintro ⟨all, rfl, within⟩
    rw [readDigits_eq overflow (leadingDigits_of_isDigit all) (Nat.zero_le _), value, if_pos within]

/-- In a range without negative numbers, numerals are read that cannot be negative. -/
theorem readInteger_eq_ok_iff_of_unsigned {range : Range} (unsigned : range.least = 0)
    {text : List Char} {n : Nat} :
    readInteger range text = .ok (n : Int) ↔ IsUnsigned text n ∧ n ≤ range.greatest.toNat := by
  have whole {digits : List Char} :
      (readDigits range.greatest.toNat .tooLarge 0 digits).map Int.ofNat = .ok (n : Int) ↔
        (∀ c ∈ digits, c.isDigit = true) ∧ Nat.ofDigitChars 10 digits 0 = n ∧
          n ≤ range.greatest.toNat := by
    rw [← readDigits_eq_ok_iff]
    constructor
    · intro read
      obtain ⟨size, digits, same⟩ := exists_of_map_eq_ok read
      rw [digits, Int.ofNat.inj same]
    · intro read
      rw [read]
      rfl
  constructor
  · intro read
    unfold readInteger at read
    split at read
    · cases read
    · cases read
    · cases read
    · next digits more =>
      obtain ⟨all, value, within⟩ := whole.mp read
      exact ⟨⟨digits, .inr rfl, more, all, value⟩, within⟩
    · rw [if_neg (by omega)] at read
      cases read
    · next more _ _ _ _ =>
      obtain ⟨all, value, within⟩ := whole.mp read
      exact ⟨⟨_, .inl rfl, more, all, value⟩, within⟩
  · rintro ⟨⟨digits, written, more, all, value⟩, within⟩
    have read := whole.mpr ⟨all, value, within⟩
    obtain ⟨c, rest, rfl⟩ := List.exists_cons_of_ne_nil more
    rcases written with rfl | rfl
    · rw [readInteger_digits (all c List.mem_cons_self)]
      exact read
    · exact read

theorem isUnsigned_decimal (n : Nat) : IsUnsigned (decimal n) n :=
  ⟨decimal n, .inl rfl, Nat.toDigits_ne_nil, fun _ => isDigit_of_mem_decimal,
    Nat.ofDigitChars_toDigits (by decide) (by decide)⟩

/-- A number is written without colons, which separate the parts of a hold. -/
theorem colon_notMem_decimal (n : Nat) : ':' ∉ (String.ofList (decimal n)).toList := by
  rw [String.toList_ofList]
  intro member
  cases isDigit_of_mem_decimal member

theorem trim_decimal (n : Nat) : trim (String.ofList (decimal n)) = String.ofList (decimal n) :=
  Value.trim_displayInt n

/-! ### Blanks -/

theorem trimChars_eq_nil_iff {cs : List Char} :
    trimChars cs = [] ↔ ∀ c ∈ cs, isBlank c = true := by
  rw [trimChars, List.reverse_eq_nil_iff, List.dropWhile_eq_nil_iff]
  simp only [List.mem_reverse]
  constructor
  · intro blank c member
    rw [← List.takeWhile_append_dropWhile (p := isBlank) (l := cs), List.mem_append] at member
    rcases member with front | behind
    · exact List.mem_takeWhile_imp front
    · exact blank c behind
  · intro blank c member
    exact blank c (List.dropWhile_subset _ member)

end Text

/-! ### The parts of a text -/

/-- A text is split at the last colon that is in it. -/
theorem splitLastColon_eq_some_iff {text front behind : List Char} :
    splitLastColon text = some (front, behind) ↔
      text = front ++ ':' :: behind ∧ ':' ∉ behind := by
  have turned : text = front ++ ':' :: behind ∧ ':' ∉ behind ↔
      text.reverse = behind.reverse ++ ':' :: front.reverse ∧ ':' ∉ behind.reverse := by
    rw [List.mem_reverse, ← List.reverse_inj]
    simp
  rw [turned, ← cut_iff, splitLastColon]
  cases text.reverse.dropWhile fun c => c != ':' with
  | nil => simp
  | cons head rest => simp [List.reverse_eq_iff, and_comm]

/-- A tick is an unsigned number between blanks that fits into 64 bits. -/
theorem readTick_eq_ok_iff {text : List Char} {n : Nat} :
    readTick text = .ok n ↔ Text.IsUnsigned (Text.trimChars text) n ∧ n < UInt64.size := by
  have same : Text.readInteger .word64 (Text.trimChars text) = .ok (n : Int) ↔
      Text.IsUnsigned (Text.trimChars text) n ∧ n < UInt64.size :=
    (Text.readInteger_eq_ok_iff_of_unsigned rfl).trans
      (and_congr_right fun _ => (Nat.lt_succ_iff (n := 18446744073709551615)).symm)
  rw [← same, readTick]
  constructor
  · intro read
    obtain ⟨z, numeral, rfl⟩ := exists_of_map_eq_ok read
    have positive : 0 ≤ z := (Text.contains_of_readInteger numeral).1
    rw [numeral, Int.toNat_of_nonneg positive]
  · intro numeral
    rw [numeral]
    rfl

/-! ### Names of keys -/

namespace KeyName

/-- A name that is written as the key is known: in capitals, without blanks around it. -/
def IsNormal (key : KeyName) : Prop := ofText key.text = key

instance (key : KeyName) : Decidable key.IsNormal := inferInstanceAs (Decidable (_ = _))

theorem isEmpty_ofText {text : String} :
    (ofText text).isEmpty = true ↔ ∀ c ∈ text.toList, Text.isBlank c = true := by
  rw [← Text.trimChars_eq_nil_iff, isEmpty, ofText, Text.upper, Text.trim, String.isEmpty_iff,
    ← String.toList_inj]
  simp

/-- A text names a key if there is something in it that is no blank. -/
theorem not_isEmpty_ofText_iff {text : String} :
    ¬ (ofText text).isEmpty = true ↔ ∃ c ∈ text.toList, Text.isBlank c = false := by
  simp only [isEmpty_ofText, not_forall, Bool.not_eq_true, exists_prop]

end KeyName

namespace KeyHold

variable {hold : KeyHold} {text : String}

/-! ### The grammar of holds -/

/-- The parts of a written hold: a key that is not blank, and two ticks in order.  The ticks are
numerals of 64 bits, maybe with blanks around them, and the key is known by its name in capitals
without blanks around it. -/
structure WrittenAs (hold : KeyHold) (keyText startText stopText : String) : Prop where
  key : hold.key.text = Text.upper (Text.trim keyText)
  named : ∃ c ∈ keyText.toList, Text.isBlank c = false
  start : Text.IsUnsigned (Text.trim startText).toList hold.start
  stop : Text.IsUnsigned (Text.trim stopText).toList hold.stop
  ordered : hold.start ≤ hold.stop
  fits : hold.stop < UInt64.size

/-- A text of a hold: its parts with colons between them.  There may be colons in the key, and
nowhere else. -/
def IsTextOf (text : String) (hold : KeyHold) : Prop :=
  ∃ keyText startText stopText : String,
    text = keyText ++ ":" ++ startText ++ ":" ++ stopText ∧
      ':' ∉ startText.toList ∧ ':' ∉ stopText.toList ∧
      hold.WrittenAs keyText startText stopText

/-- What is read of the parts of a text makes up a hold with that text. -/
theorem isTextOf_of_parts {front key start stop : List Char} {first last : Nat}
    (behind : splitLastColon text.toList = some (front, stop))
    (before : splitLastColon front = some (key, start))
    (named : ¬ (KeyName.ofText (String.ofList key)).isEmpty = true)
    (startRead : readTick start = .ok first) (stopRead : readTick stop = .ok last)
    (ordered : first ≤ last) :
    IsTextOf text { key := .ofText (String.ofList key), start := first, stop := last } := by
  obtain ⟨whole, stopPlain⟩ := splitLastColon_eq_some_iff.mp behind
  obtain ⟨rfl, startPlain⟩ := splitLastColon_eq_some_iff.mp before
  obtain ⟨startNumeral, -⟩ := readTick_eq_ok_iff.mp startRead
  obtain ⟨stopNumeral, fits⟩ := readTick_eq_ok_iff.mp stopRead
  refine ⟨String.ofList key, String.ofList start, String.ofList stop, ?_, ?_, ?_, ?_⟩
  · rw [← String.toList_inj, whole]
    simp
  · rwa [String.toList_ofList]
  · rwa [String.toList_ofList]
  · exact
      { key := rfl
        named := KeyName.not_isEmpty_ofText_iff.mp named
        start := by simpa [Text.trim] using startNumeral
        stop := by simpa [Text.trim] using stopNumeral
        ordered
        fits }

/-- A text is read as a hold exactly if it is one by the grammar. -/
theorem parse_eq_ok_iff : parse text = .ok hold ↔ IsTextOf text hold := by
  constructor
  · intro read
    unfold parse at read
    split at read
    · next front stopText behind =>
      split at read
      · next keyText startText before =>
        obtain ⟨first, startRead, read⟩ := exists_of_bind_eq_ok read
        obtain ⟨last, stopRead, read⟩ := exists_of_bind_eq_ok read
        dsimp only at read
        split at read
        · cases read
        · next named =>
          split at read
          · cases read
          · next ordered =>
            obtain rfl := Except.ok.inj read
            exact isTextOf_of_parts behind before named (eq_ok_of_mapError_eq_ok startRead)
              (eq_ok_of_mapError_eq_ok stopRead) (Nat.not_lt.mp ordered)
      · cases read
    · cases read
  · rintro ⟨keyText, startText, stopText, rfl, startPlain, stopPlain, written⟩
    -- There are no colons in the ticks, so the last two colons are those between the parts.
    have behind : splitLastColon (keyText ++ ":" ++ startText ++ ":" ++ stopText).toList =
        some ((keyText ++ ":" ++ startText).toList, stopText.toList) :=
      splitLastColon_eq_some_iff.mpr ⟨by simp, stopPlain⟩
    have before : splitLastColon (keyText ++ ":" ++ startText).toList =
        some (keyText.toList, startText.toList) :=
      splitLastColon_eq_some_iff.mpr ⟨by simp, startPlain⟩
    have start : readTick startText.toList = .ok hold.start :=
      readTick_eq_ok_iff.mpr ⟨by simpa [Text.trim] using written.start,
        written.ordered.trans_lt written.fits⟩
    have stop : readTick stopText.toList = .ok hold.stop :=
      readTick_eq_ok_iff.mpr ⟨by simpa [Text.trim] using written.stop, written.fits⟩
    have key : KeyName.ofText keyText = hold.key := congrArg KeyName.mk written.key.symm
    have named := KeyName.not_isEmpty_ofText_iff.mpr written.named
    rw [key] at named
    simp only [parse, behind, before, start, stop, Except.mapError, bind, Except.bind,
      String.ofList_toList, key, if_neg named, if_neg (Nat.not_lt.mpr written.ordered)]

/-! ### Holds that are written -/

/-- The text that is written for a hold. -/
def write (hold : KeyHold) : String :=
  hold.key.text ++ ":" ++ String.ofList (Text.decimal hold.start) ++ ":" ++
    String.ofList (Text.decimal hold.stop)

/-- A hold is written as its name and the decimal numerals of its ticks. -/
theorem writtenAs_write (normal : hold.key.IsNormal) (named : hold.key.text ≠ "")
    (ordered : hold.start ≤ hold.stop) (fits : hold.stop < UInt64.size) :
    hold.WrittenAs hold.key.text (String.ofList (Text.decimal hold.start))
      (String.ofList (Text.decimal hold.stop)) where
  key := (congrArg KeyName.text normal).symm
  named := by
    rw [← KeyName.not_isEmpty_ofText_iff, normal, KeyName.isEmpty, String.isEmpty_iff]
    exact named
  start := by
    rw [Text.trim_decimal, String.toList_ofList]
    exact Text.isUnsigned_decimal hold.start
  stop := by
    rw [Text.trim_decimal, String.toList_ofList]
    exact Text.isUnsigned_decimal hold.stop
  ordered := ordered
  fits := fits

/-- What is written for a hold is a text of it. -/
theorem isTextOf_write (normal : hold.key.IsNormal) (named : hold.key.text ≠ "")
    (ordered : hold.start ≤ hold.stop) (fits : hold.stop < UInt64.size) :
    IsTextOf hold.write hold :=
  ⟨_, _, _, rfl, Text.colon_notMem_decimal hold.start, Text.colon_notMem_decimal hold.stop,
    writtenAs_write normal named ordered fits⟩

/-- **A text is read as a hold by its grammar.**  It is read as a hold exactly if it consists of
a key that is not blank and of two ticks, with colons between them: the ticks are numerals of 64
bits in order, without a minus sign and without a colon, and blanks around them do not matter.
The hold is then that of the key in capitals without blanks around it, from the first tick
through the second.  So a hold of any normal key, with colons in its name or without, reads back
from its text, and it covers a tick exactly if that is not before the first and not behind the
second. -/
theorem text_is_read_as_hold (text : String) (hold : KeyHold) :
    (parse text = .ok hold ↔ ∃ keyText startText stopText : String,
      text = keyText ++ ":" ++ startText ++ ":" ++ stopText ∧
        ':' ∉ startText.toList ∧ ':' ∉ stopText.toList ∧
        hold.WrittenAs keyText startText stopText) ∧
    (hold.key.IsNormal → hold.key.text ≠ "" → hold.start ≤ hold.stop → hold.stop < UInt64.size →
      parse hold.write = .ok hold) ∧
    ∀ tick, hold.covers tick = true ↔ hold.start ≤ tick ∧ tick ≤ hold.stop :=
  ⟨parse_eq_ok_iff,
    fun normal named ordered fits =>
      parse_eq_ok_iff.mpr (isTextOf_write normal named ordered fits),
    fun _ => covers_iff⟩

/-- The key `NUM:5` of the numeric pad, held through the last tick of 64 bits. -/
def numpadHold : KeyHold := { key := ⟨"NUM:5"⟩, start := 7, stop := 18446744073709551615 }

/-- The hold of a key with a colon in its name reads back; so it does in small letters, with
blanks and with a plus sign. -/
theorem text_is_read_as_hold_numpad :
    parse numpadHold.write = .ok numpadHold ∧
      parse " num:5 : +7:\t18446744073709551615" = .ok numpadHold ∧
      ¬ numpadHold.covers 6 = true := by
  obtain ⟨grammar, back, covers⟩ :=
    text_is_read_as_hold " num:5 : +7:\t18446744073709551615" numpadHold
  refine ⟨back (by decide) (by decide) (by decide) (by decide), grammar.mpr ?_, ?_⟩
  · refine ⟨" num:5 ", " +7", "\t18446744073709551615", by decide, by decide, by decide, ?_⟩
    exact
      { key := by decide
        named := ⟨'n', by decide, by decide⟩
        start := ⟨['7'], .inr (by decide), by decide, by simp [Char.isDigit], by decide⟩
        stop := ⟨"18446744073709551615".toList, .inl (by decide), by decide, by simp [Char.isDigit],
          by decide⟩
        ordered := by decide
        fits := by decide }
  · rw [covers]
    decide

end KeyHold

end Stagecraft
