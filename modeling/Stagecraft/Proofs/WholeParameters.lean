/-
Module: Stagecraft.Proofs.WholeParameters
Purpose: The whole numbers that properties give to nodes are those that their values denote, up
  to the precision of floats.
Main exports:
  Json.denoted?, IsWord, Json.ReadsAsInt, Json.ReadsAsFloat, PropertyEntry.Gives,
  Json.ReadsAsInt.denotes, Json.ReadsAsFloat.denotes, PropertyEntry.typedInt,
  PropertyEntry.interpret_typed, PropertyEntry.interpret_typedInt_text,
  PropertyEntry.numbers_enter_unchanged, PropertyEntry.long_number_is_rounded
-/
import Stagecraft.Document.Property
import Stagecraft.Proofs.MachineNumbers
import Stagecraft.Proofs.Numerals

namespace Stagecraft

open Number (Format IsNearestSingle exactSingle exactDouble isWholeSingle)

/-- The number that a JSON value denotes: a number of the document, or the numeral that a text
consists of, blanks around it aside. -/
def Json.denoted? : Json → Option ℚ
  | .number (.whole k) => some k
  | .number (.real x) => (exactDouble x).number?
  | .text s => (Number.readNumeral? (Text.trim s).toList).bind Number.Written.number?
  | _ => none

/-- A number in the range of signed 32 bits. -/
def IsWord (q : ℚ) : Prop := -2147483648 ≤ q ∧ q ≤ 2147483647

theorem isWord_intCast {k : Int} : IsWord k ↔ Text.Range.int32.Contains k := by
  unfold IsWord Text.Range.Contains
  exact_mod_cast Iff.rfl

/-- An integer in the range of 32 bits does not wrap around. -/
theorem toInt_ofInt_of_contains {k : Int} (contained : Text.Range.int32.Contains k) :
    (Int32.ofInt k).toInt = k :=
  Int32.toInt_ofInt_of_le contained.1 (Int.lt_add_one_of_le contained.2)

/-- All such numbers are within the reach of single precision. -/
theorem IsWord.abs_lt_reach {q : ℚ} (word : IsWord q) : |q| < Format.single.reach := by
  calc |q|
    _ ≤ 2147483648 := abs_le.mpr ⟨word.1, by linarith [word.2]⟩
    _ < 2 ^ 32 := by norm_num
    _ ≤ Format.single.reach := pow_le_pow_right₀ one_le_two (by decide)

/-! ### Where whole numbers and floats come from -/

/-- A JSON value is read as a whole number: one of the document, or a numeral of one. -/
def Json.ReadsAsInt (value : Json) (n : Int32) : Prop :=
  (∃ k : Int, value = .number (.whole k) ∧ n = .ofInt k) ∨
    ∃ s k, value = .text s ∧ Text.integer? Text.Range.int32 (Text.trim s) = some k ∧ n = .ofInt k

/-- A JSON value is read as a float: a number of the document in single precision, or a
numeral. -/
def Json.ReadsAsFloat (value : Json) (x : Float32) : Prop :=
  (∃ number : Json.Number, value = .number number ∧ x = Number.narrow number.toDouble) ∨
    ∃ s, value = .text s ∧ Number.single? (Text.trim s) = some x

theorem Json.readsAsInt_of_plainValue? {value : Json} {n : Int32}
    (plain : value.plainValue? = some (.int n)) : value.ReadsAsInt n := by
  unfold plainValue? at plain
  split at plain
  · cases plain
  · next k =>
    split at plain <;> cases plain
    exact .inl ⟨k, rfl, rfl⟩
  all_goals cases plain

theorem Json.readsAsFloat_of_plainValue? {value : Json} {x : Float32}
    (plain : value.plainValue? = some (.float x)) : value.ReadsAsFloat x := by
  unfold plainValue? at plain
  split at plain
  · cases plain
  · next k =>
    split at plain <;> cases plain
    exact .inl ⟨.whole k, rfl, rfl⟩
  · next y =>
    cases plain
    exact .inl ⟨.real y, rfl, rfl⟩
  all_goals cases plain

/-- A value that becomes an integer, under whatever type, reads as that integer. -/
theorem DeclaredType.readsAsInt_of_value? {declared : DeclaredType} {value : Json} {n : Int32}
    (meaning : declared.value? value = some (.int n)) : value.ReadsAsInt n := by
  unfold value? at meaning
  split at meaning
  · next k =>
    split at meaning <;> cases meaning
    exact .inl ⟨k, rfl, rfl⟩
  · next s =>
    obtain ⟨k, numeral, same⟩ := Option.map_eq_some_iff.mp meaning
    cases same
    exact .inr ⟨s, k, rfl, numeral, rfl⟩
  all_goals grind [Option.map_eq_some_iff]

/-- A value that becomes a floating-point number reads as that number. -/
theorem DeclaredType.readsAsFloat_of_value? {declared : DeclaredType} {value : Json} {x : Float32}
    (meaning : declared.value? value = some (.float x)) : value.ReadsAsFloat x := by
  unfold value? at meaning
  split at meaning
  · split at meaning <;> cases meaning
  · grind [Option.map_eq_some_iff]
  · next number =>
    cases meaning
    exact .inl ⟨number, rfl, rfl⟩
  · next s =>
    obtain ⟨read, numeral, same⟩ := Option.map_eq_some_iff.mp meaning
    cases same
    exact .inr ⟨s, rfl, numeral⟩
  all_goals grind [Option.map_eq_some_iff]

namespace PropertyEntry

variable {entry : PropertyEntry}

/-- A meaning that is no variable is that of the value, by itself or under a declared type. -/
theorem value?_of_interpret {value : Value} (meaning : entry.interpret = .ok (.literal value)) :
    entry.value.plainValue? = some value ∨
      ∃ declared : DeclaredType, declared.value? entry.value = some value := by
  have literal : entry.literal = .ok value := by
    unfold interpret at meaning
    dsimp only at meaning
    split at meaning
    · cases meaning
    · obtain ⟨other, literal, same⟩ := exists_of_map_eq_ok meaning
      rw [literal, Parameter.literal.inj same]
  unfold PropertyEntry.literal at literal
  split at literal
  · split at literal
    · next plain => exact .inl (plain.trans (congrArg some (Except.ok.inj literal)))
    · cases literal
  · split at literal
    · cases literal
    · next declared _ =>
      split at literal
      · next typed => exact .inr ⟨declared, typed.trans (congrArg some (Except.ok.inj literal))⟩
      · cases literal

theorem readsAsInt_of_interpret {n : Int32} (meaning : entry.interpret = .ok (.literal (.int n))) :
    entry.value.ReadsAsInt n := by
  rcases value?_of_interpret meaning with plain | ⟨declared, typed⟩
  · exact Json.readsAsInt_of_plainValue? plain
  · exact DeclaredType.readsAsInt_of_value? typed

theorem readsAsFloat_of_interpret {x : Float32}
    (meaning : entry.interpret = .ok (.literal (.float x))) : entry.value.ReadsAsFloat x := by
  rcases value?_of_interpret meaning with plain | ⟨declared, typed⟩
  · exact Json.readsAsFloat_of_plainValue? plain
  · exact DeclaredType.readsAsFloat_of_value? typed

/-- A property gives a whole number to a parameter. -/
def Gives (entry : PropertyEntry) (n : Int32) : Prop :=
  ∃ meaning, entry.interpret = .ok meaning ∧
    Parameter.ofProperty Int32 meaning = .ok (.literal n)

/-- A whole number is given by a value that holds it, or by a float without fraction. -/
theorem Gives.cases {n : Int32} (given : entry.Gives n) :
    entry.interpret = .ok (.literal (.int n)) ∨
      ∃ x, entry.interpret = .ok (.literal (.float x)) ∧ isWholeSingle x = true ∧
        n = Number.int32OfSingle x := by
  obtain ⟨meaning, interpreted, accepted⟩ := given
  cases meaning with
  | «variable» name => cases accepted
  | literal value =>
      rw [interpreted]
      cases value with
      | int k =>
          obtain rfl : k = n := by
            simpa [Parameter.ofProperty, Accepts.accept?] using accepted
          exact .inl rfl
      | float x =>
          by_cases whole : isWholeSingle x = true
          · simp only [Parameter.ofProperty, Accepts.accept?, whole, if_true, Except.ok.injEq,
              Parameter.literal.injEq] at accepted
            exact .inr ⟨x, rfl, whole, accepted.symm⟩
          · simp [Parameter.ofProperty, Accepts.accept?, whole] at accepted
      | bool b => cases accepted
      | text s => cases accepted
      | color c => cases accepted
      | file path => cases accepted

end PropertyEntry

/-! ### What is given is what is denoted -/

/-- A value that is read as a whole number denotes it, unless it is a number that does not
fit. -/
theorem Json.ReadsAsInt.denotes {value : Json} {n : Int32} (reads : value.ReadsAsInt n) :
    ∃ q, value.denoted? = some q ∧ (IsWord q ∨ (∃ s, value = .text s) → (n.toInt : ℚ) = q) := by
  rcases reads with ⟨k, rfl, rfl⟩ | ⟨s, k, rfl, numeral, rfl⟩
  · refine ⟨k, rfl, ?_⟩
    rintro (word | ⟨s, text⟩)
    · rw [toInt_ofInt_of_contains (isWord_intCast.mp word)]
    · cases text
  · have read := toOption_eq_some_iff.mp numeral
    refine ⟨k, ?_, fun _ => by rw [toInt_ofInt_of_contains (Text.contains_of_readInteger read)]⟩
    obtain ⟨negative, written, sign⟩ := Number.readNumeral?_of_readInteger read
    have number : (Number.Written.finite negative ⟨k.natAbs, 0⟩).number? = some (k : ℚ) := by
      rw [Number.Written.number?, Number.Decimal.number, zpow_zero, mul_one, ← Int.cast_natCast]
      cases negative with
      | false =>
          have size : (k.natAbs : Int) = k := sign.symm
          simp only [Bool.false_eq_true, if_false, one_mul, size]
      | true =>
          have size : (k.natAbs : Int) = -k := neg_eq_iff_eq_neg.mp sign.symm
          simp only [if_true, size, Int.cast_neg, neg_mul, one_mul, neg_neg]
    rw [denoted?, written]
    exact number

/-- A value that is read as a float without fraction denotes a number, to which no float is
nearer if it fits. -/
theorem Json.ReadsAsFloat.denotes {value : Json} {x : Float32} (reads : value.ReadsAsFloat x)
    (whole : isWholeSingle x = true) :
    ∃ q, value.denoted? = some q ∧ (IsWord q → ∃ m, IsNearestSingle q m x) := by
  rcases reads with ⟨number, rfl, rfl⟩ | ⟨s, rfl, read⟩
  · cases number with
    | whole k =>
        refine ⟨k, rfl, fun word => ?_⟩
        have kept : (exactDouble (Number.doubleOfInt k)).number? = some (k : ℚ) := by
          have contained := isWord_intCast.mp word
          have least : -2147483648 ≤ k := contained.1
          have greatest : k ≤ 2147483647 := contained.2
          exact Number.number_doubleOfInt (by omega)
        exact Number.exists_isNearestSingle_singleOf kept word.abs_lt_reach
    | real y =>
        cases exact : (exactDouble y).number? with
        | none =>
            have fraction := Number.isWholeSingle_singleOf_of_number?_eq_none exact
            exact absurd whole (by rw [Json.Number.toDouble, Number.narrow, fraction]; decide)
        | some q =>
            exact ⟨q, exact, fun word =>
              Number.exists_isNearestSingle_singleOf exact word.abs_lt_reach⟩
  · obtain ⟨written, numeral, near, fraction⟩ := Number.exists_written_of_single? read
    cases number : written.number? with
    | none => exact absurd whole (by rw [fraction number]; decide)
    | some q =>
        refine ⟨q, ?_, fun word => near q number word.abs_lt_reach⟩
        rw [denoted?, numeral]
        exact number

namespace PropertyEntry

variable {entry : PropertyEntry}

/-- Up to the precision of floats, a number that fits 32 bits is given as it is. -/
theorem Gives.denotes {n : Int32} (given : entry.Gives n) :
    ∃ q, entry.value.denoted? = some q ∧
      ((∃ s, entry.value = .text s) → entry.interpret = .ok (.literal (.int n)) →
        (n.toInt : ℚ) = q) ∧
      (IsWord q → (Format.single.Holds q → (n.toInt : ℚ) = q) ∧
        (entry.interpret = .ok (.literal (.int n)) ∧ (n.toInt : ℚ) = q ∨
          ∃ x m, entry.interpret = .ok (.literal (.float x)) ∧ IsNearestSingle q m x ∧
            (IsWord m → (n.toInt : ℚ) = m))) := by
  rcases given.cases with interpreted | ⟨x, interpreted, whole, rfl⟩
  · obtain ⟨q, denoted, same⟩ := (readsAsInt_of_interpret interpreted).denotes
    refine ⟨q, denoted, fun text _ => same (.inr text), fun word => ?_⟩
    exact ⟨fun _ => same (.inl word), .inl ⟨interpreted, same (.inl word)⟩⟩
  · obtain ⟨q, denoted, near⟩ := (readsAsFloat_of_interpret interpreted).denotes whole
    refine ⟨q, denoted, fun _ other => ?_, fun word => ?_⟩
    · rw [interpreted] at other
      cases other
    obtain ⟨m, nearest⟩ := near word
    have kept (fits : IsWord m) : ((Number.int32OfSingle x).toInt : ℚ) = m :=
      Number.toInt_int32OfSingle whole nearest.number fits.1 fits.2
    refine ⟨fun held => ?_, .inr ⟨x, m, interpreted, nearest, kept⟩⟩
    obtain rfl := nearest.near.eq_of_holds held
    exact kept word

/-! ### Numbers and their texts -/

/-- A property that is declared to be a whole number. -/
def typedInt (name : String) (value : Json) : PropertyEntry :=
  { name, declared := some "int", value }

/-- A property means what its value means under the declared type, unless it names a
variable. -/
theorem interpret_typed {name : String} (declared : DeclaredType) {value : Json}
    (plain : ∀ s, value = .text s → starredName? s = none) :
    ({ name, declared := some declared.name, value } : PropertyEntry).interpret =
      match declared.value? value with
      | some meaning => .ok (.literal meaning)
      | none => .error (.mismatch declared.name value) := by
  have named : DeclaredType.ofName? declared.name = some declared := by cases declared <;> decide
  cases value <;> simp only [interpret, literal, named]
  case text s =>
    rw [plain s rfl]
    cases declared.value? (.text s) <;> rfl
  all_goals
    generalize declared.value? _ = meaning
    cases meaning <;> rfl

theorem interpret_typedInt {name : String} {value : Json}
    (plain : ∀ s, value = .text s → starredName? s = none) :
    (typedInt name value).interpret =
      match DeclaredType.int.value? value with
      | some meaning => .ok (.literal meaning)
      | none => .error (.mismatch "int" value) :=
  interpret_typed .int plain

theorem starredName?_displayInt (k : Int) : starredName? (Value.displayInt k) = none := by
  rw [starredName?, Value.toList_displayInt]
  split
  · next rest same =>
    split at same
    · cases same
    · obtain ⟨c, more, first, digit⟩ := Text.exists_decimal_eq_cons k.natAbs
      obtain ⟨rfl, -⟩ := List.cons.inj (first.symm.trans same)
      cases digit
  · rfl

/-- The text of a whole number is read as the number exactly if it fits 32 bits. -/
theorem interpret_typedInt_text (name : String) (k : Int) :
    (typedInt name (.text (Value.displayInt k))).interpret =
      if Text.Range.int32.Contains k then .ok (.literal (.int (.ofInt k)))
      else .error (.mismatch "int" (.text (Value.displayInt k))) := by
  rw [interpret_typedInt fun s same => by cases same; exact starredName?_displayInt k]
  simp only [DeclaredType.value?, Value.trim_displayInt, Value.integer?_displayInt]
  by_cases contained : Text.Range.int32.Contains k
  · rw [if_pos contained, if_pos contained]
    rfl
  · rw [if_neg contained, if_neg contained]
    rfl

/-- A whole number under the type `int` is cut to 32 bits, if it fits 64 at all. -/
theorem interpret_typedInt_whole (name : String) (k : Int) :
    (typedInt name (.number (.whole k))).interpret =
      if k ≤ Text.Range.int64.greatest then .ok (.literal (.int (.ofInt k)))
      else .error (.mismatch "int" (.number (.whole k))) := by
  rw [interpret_typedInt fun s same => by cases same]
  simp only [DeclaredType.value?]
  by_cases small : k ≤ Text.Range.int64.greatest
  · rw [if_pos small, if_pos small]
  · rw [if_neg small, if_neg small]

/-- A number with a fraction or an exponent is no integer. -/
theorem interpret_typedInt_real (name : String) (x : Float) :
    (typedInt name (.number (.real x))).interpret =
      .error (.mismatch "int" (.number (.real x))) :=
  interpret_typedInt fun s same => by cases same

/-- **Numbers enter nodes as they are, up to the precision of floats.**  If a property gives a
whole number to a parameter, its value denotes a number.  A text that is read as a whole
number denotes the one that is given.  So does every value in the range of signed 32 bits
that single precision holds, as it holds the whole numbers of up to 24 binary digits.  Any
other value in the range denotes the number that is given if it is read as a whole number;
read as a float, it becomes a float to which none is nearer, and this float is given unless
it leaves the range.  A number in the range and its text, both declared to be whole numbers,
give the number.  The texts of other whole numbers are refused, and so are the other numbers
themselves unless 64 bits with a sign hold them. -/
theorem numbers_enter_unchanged (entry : PropertyEntry) (name : String) (k : Int) :
    (∀ n, entry.Gives n → ∃ q, entry.value.denoted? = some q ∧
      ((∃ s, entry.value = .text s) → entry.interpret = .ok (.literal (.int n)) →
        (n.toInt : ℚ) = q) ∧
      (IsWord q → (Format.single.Holds q → (n.toInt : ℚ) = q) ∧
        (entry.interpret = .ok (.literal (.int n)) ∧ (n.toInt : ℚ) = q ∨
          ∃ x m, entry.interpret = .ok (.literal (.float x)) ∧ IsNearestSingle q m x ∧
            (IsWord m → (n.toInt : ℚ) = m)))) ∧
    (k.natAbs < 2 ^ 24 → Format.single.Holds k) ∧
    (Text.Range.int32.Contains k → (Int32.ofInt k).toInt = k ∧
      Json.readNumber (Value.displayInt k).toList = .ok (.whole k, []) ∧
      (typedInt name (.number (.whole k))).Gives (.ofInt k) ∧
      (typedInt name (.text (Value.displayInt k))).Gives (.ofInt k)) ∧
    (¬ Text.Range.int32.Contains k → ∃ fault,
      (typedInt name (.text (Value.displayInt k))).interpret = .error fault) ∧
    (¬ Text.Range.int64.Contains k → ∀ number rest,
      Json.readNumber (Value.displayInt k).toList = .ok (number, rest) →
        ∃ fault, (typedInt name (.number number)).interpret = .error fault) := by
  refine ⟨fun n given => given.denotes, Number.Format.single_proper.holds_intCast,
    fun contained => ?_, fun outside => ?_, ?_⟩
  · have least : -2147483648 ≤ k := contained.1
    have greatest : k ≤ 2147483647 := contained.2
    refine ⟨toInt_ofInt_of_contains contained,
      Json.readNumber_displayInt ⟨by omega, by omega⟩, ⟨.literal (.int (.ofInt k)), ?_, rfl⟩,
      ⟨.literal (.int (.ofInt k)), ?_, rfl⟩⟩
    · exact (interpret_typedInt_whole name k).trans
        (if_pos (le_trans greatest (by decide)))
    · exact (interpret_typedInt_text name k).trans (if_pos contained)
  · exact ⟨_, (interpret_typedInt_text name k).trans (if_neg outside)⟩
  · intro outside number rest read
    cases number with
    | real x => exact ⟨_, interpret_typedInt_real name x⟩
    | whole j =>
        by_cases wide : Json.IsWide k
        · rw [Json.readNumber_displayInt wide] at read
          cases read
          have past : ¬ k ≤ Text.Range.int64.greatest := fun below => outside ⟨wide.1, below⟩
          exact ⟨_, (interpret_typedInt_whole name k).trans (if_neg past)⟩
        · -- Beyond 64 bits the text is read as a number with a fraction.
          obtain ⟨x, same⟩ := Json.eq_real_of_readNumber_displayInt wide read
          cases same

/-- A number of 25 binary digits, read as a float, is not the number that is given. -/
theorem long_number_is_rounded :
    ({ name := "frames", declared := some "float", value := .number (.whole 16777217) } :
        PropertyEntry).Gives 16777216 ∧
      (Json.number (.whole 16777217)).denoted? = some 16777217 ∧
      ((16777216 : Int32).toInt : ℚ) ≠ 16777217 := by
  refine ⟨⟨.literal (.float (Number.narrow (Number.doubleOfInt 16777217))), rfl, ?_⟩, rfl, ?_⟩
  · have whole : isWholeSingle (Number.narrow (Number.doubleOfInt 16777217)) = true := by
      decide +kernel
    have rounded : Number.int32OfSingle (Number.narrow (Number.doubleOfInt 16777217)) =
        16777216 := by
      decide +kernel
    simp only [Parameter.ofProperty, Accepts.accept?, whole, if_true, rounded]
  · have number : (16777216 : Int32).toInt = 16777216 := by decide
    rw [number]
    norm_num

end PropertyEntry

end Stagecraft
