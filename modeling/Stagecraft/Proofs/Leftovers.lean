/-
Module: Stagecraft.Proofs.Leftovers
Purpose: What the properties of an entry come to once all that was asked for is used up:
  numbered children in the order of their numbers, or nothing.
Main exports:
  Text.eq_of_sameName_of_integer?, PropertyBag.numbered?, takeNumbered_sound_iff,
  takeNumbered_of_alike, PropertyBag.Clash, pairwise_of_takes_numbered,
  PropertyBag.names_ofEntries
-/
import Stagecraft.Proofs.Asking

namespace Stagecraft

namespace Text

/-! ### Numerals have no letters -/

/-- The characters of numerals. -/
def isNumeral (c : Char) : Bool := (digitValue? c).isSome || c == '+' || c == '-'

theorem toNat_lt_of_isNumeral {c : Char} (numeral : isNumeral c = true) : c.toNat < 58 := by
  simp only [isNumeral, Bool.or_eq_true, beq_iff_eq] at numeral
  rcases numeral with (digit | rfl) | rfl
  · by_cases small : '0' ≤ c ∧ c ≤ '9'
    · exact Nat.lt_succ_of_le small.2
    · simp [digitValue?, small] at digit
  · decide
  · decide

/-- Capital letters become letters, and so do not become part of a numeral. -/
theorem toLower_eq_of_isNumeral {c : Char} (numeral : isNumeral c.toLower = true) :
    c.toLower = c := by
  have small := toNat_lt_of_isNumeral numeral
  unfold Char.toLower at small ⊢
  split
  · next capital =>
      rw [dif_pos capital] at small
      have low : 65 ≤ c.val.toNat := capital.1
      have high : c.val.toNat ≤ 90 := capital.2
      have sum : (c.val + 32).toNat < 58 := small
      rw [UInt32.toNat_add] at sum
      have whole : (32 : UInt32).toNat = 32 := rfl
      omega
  · rfl

theorem toLower_of_isNumeral {c : Char} (numeral : isNumeral c = true) : c.toLower = c := by
  have small := toNat_lt_of_isNumeral numeral
  unfold Char.toLower
  split
  · next capital =>
      have low : 65 ≤ c.toNat := capital.1
      omega
  · rfl

/-- All that is read as the digits of a number may stand in a numeral. -/
theorem isNumeral_of_readDigits {limit : Nat} {overflow : NumeralError} {digits : List Char} :
    ∀ {soFar n : Nat}, readDigits limit overflow soFar digits = .ok n →
      ∀ c ∈ digits, isNumeral c = true := by
  induction digits with
  | nil => simp
  | cons c rest ih =>
      intro soFar n read
      simp only [readDigits] at read
      split at read
      · cases read
      · next digit value =>
          split at read
          · cases read
          · exact List.forall_mem_cons.mpr ⟨by simp [isNumeral, value], ih read⟩

/-- A text that is read as an integer is a numeral throughout. -/
theorem isNumeral_of_integer? {range : Range} {text : String} {n : Int}
    (read : integer? range text = some n) : ∀ c ∈ text.toList, isNumeral c = true := by
  have read := toOption_eq_some_iff.mp read
  generalize text.toList = characters at read
  unfold readInteger at read
  split at read
  · cases read
  · cases read
  · cases read
  · obtain ⟨value, digits, -⟩ := exists_of_map_eq_ok read
    exact List.forall_mem_cons.mpr ⟨rfl, isNumeral_of_readDigits digits⟩
  · split at read
    · obtain ⟨value, digits, -⟩ := exists_of_map_eq_ok read
      obtain ⟨value, digits, -⟩ := exists_of_map_eq_ok digits
      exact List.forall_mem_cons.mpr ⟨rfl, isNumeral_of_readDigits digits⟩
    · cases read
  · obtain ⟨value, digits, -⟩ := exists_of_map_eq_ok read
    exact isNumeral_of_readDigits digits

/-- Names that differ in letter case only are not two spellings of a number. -/
theorem eq_of_sameName_of_integer? {range : Range} {first second : String} {n : Int}
    (same : sameName first second = true) (read : integer? range first = some n) :
    first = second := by
  have numeral := isNumeral_of_integer? read
  simp only [sameName, beq_iff_eq] at same
  have plain : ∀ characters : List Char, (∀ c ∈ characters, c.toLower = c) →
      characters.map Char.toLower = characters := fun characters all =>
    (List.map_congr_left all).trans (List.map_id _)
  rw [plain first.toList fun c member => toLower_of_isNumeral (numeral c member)] at same
  rw [plain second.toList] at same
  · exact String.toList_inj.mp same
  · intro c member
    apply toLower_eq_of_isNumeral
    apply numeral
    rw [same]
    exact List.mem_map_of_mem member

end Text

open PropertyBag

/-- No kind asks for two keys that differ in case only. -/
theorem pairwise_nodeKeys (kindName : KindName) :
    kindName.nodeKeys.Pairwise fun one other => Text.sameName one other = false := by
  cases kindName <;> decide +revert

/-- No key of a kind is a number. -/
theorem integer?_of_mem_nodeKeys {kindName : KindName} :
    ∀ key ∈ kindName.nodeKeys, Text.integer? Text.Range.int64 key = none := by
  cases kindName <;> decide +revert

theorem pairwise_bindingKeys :
    Definition.bindingKeys.Pairwise fun one other => Text.sameName one other = false := by
  decide

/-! ### Numbered children -/

namespace Children

variable {ρ : Type}

/-- Numbers in strict order. -/
abbrev Ascending (numbered : List (Int × ρ)) : Prop :=
  numbered.Pairwise fun first second => first.1 < second.1

/-- To place a child adds it to the others. -/
theorem place_perm (key : Int) (child : ρ) (numbered : List (Int × ρ)) :
    (place key child numbered).Perm ((key, child) :: numbered) := by
  induction numbered with
  | nil => exact .refl _
  | cons entry rest ih =>
      simp only [place]
      split
      · exact (ih.cons entry).trans (.swap _ _ rest)
      · exact .refl _

/-- A child with a new number goes where the numbers stay in ascending order. -/
theorem place_ascending {key : Int} {child : ρ} {numbered : List (Int × ρ)}
    (ascending : Ascending numbered) (fresh : key ∉ numbered.map Prod.fst) :
    Ascending (place key child numbered) := by
  induction numbered with
  | nil => exact List.pairwise_singleton _ _
  | cons entry rest ih =>
      rcases entry with ⟨other, first⟩
      obtain ⟨above, tail⟩ := List.pairwise_cons.mp ascending
      obtain ⟨differs, later⟩ := List.ne_and_not_mem_of_not_mem_cons fresh
      simp only [place]
      split
      · next before =>
          refine List.pairwise_cons.mpr ⟨?_, ih tail later⟩
          intro entry member
          rcases List.mem_cons.mp ((place_perm key child rest).mem_iff.mp member) with rfl | old
          · omega
          · exact above entry old
      · next behind =>
          refine List.pairwise_cons.mpr ⟨?_, ascending⟩
          intro entry member
          rcases List.mem_cons.mp member with rfl | old
          · omega
          · have := above entry old
            omega

/-- Children added one by one are all there, in strict order if their numbers differ. -/
theorem foldl_addNumbered {entries : List (Int × ρ)} {children : Children ρ}
    (ascending : Ascending children.numbered)
    (distinct : ((children.numbered ++ entries).map Prod.fst).Nodup) :
    ∃ numbered,
      entries.foldl (fun all entry => all.addNumbered entry.1 entry.2) children =
        { children with numbered } ∧
      numbered.Perm (children.numbered ++ entries) ∧ Ascending numbered := by
  induction entries generalizing children with
  | nil => exact ⟨_, rfl, by simp, ascending⟩
  | cons entry rest ih =>
      rcases entry with ⟨key, child⟩
      have placed := place_perm key child children.numbered
      have moved : (children.numbered ++ (key, child) :: rest).Perm
          (place key child children.numbered ++ rest) :=
        List.perm_middle.trans (placed.symm.append_right rest)
      have fresh : key ∉ children.numbered.map Prod.fst := by
        intro taken
        rw [List.map_append, List.nodup_append] at distinct
        exact distinct.2.2 key taken key (by simp) rfl
      have next : Ascending (children.addNumbered key child).numbered :=
        place_ascending ascending fresh
      obtain ⟨numbered, same, perm, sorted⟩ := ih next ((moved.map Prod.fst).nodup_iff.mp distinct)
      exact ⟨numbered, same, perm.trans moved.symm, sorted⟩

end Children

namespace PropertyBag

/-- The numbered child that a property gives by itself. -/
def numbered? (property : String × Parameter Value) : Option (Int × Reference) :=
  match Text.integer? Text.Range.int64 property.1, property.2 with
  | some index, .variable name => some (index, .variable name)
  | some index, .literal (.text name) => some (index, .named name)
  | _, _ => none

theorem integer?_of_numbered? {property : String × Parameter Value} {entry : Int × Reference}
    (made : numbered? property = some entry) :
    Text.integer? Text.Range.int64 property.1 = some entry.1 := by
  unfold numbered? at made
  split at made
  · next read _ => rw [read, ← Option.some.inj made]
  · next read _ => rw [read, ← Option.some.inj made]
  · cases made

/-- A left-over property becomes a child if it gives one and the number is new. -/
theorem numberedChild_eq_ok_iff {children more : Children Reference}
    {property : String × Parameter Value} :
    numberedChild children property = .ok more ↔ ∃ entry, numbered? property = some entry ∧
      entry.1 ∉ children.numbered.map Prod.fst ∧ more = children.addNumbered entry.1 entry.2 := by
  rcases property with ⟨key, value⟩
  constructor
  · intro made
    simp only [numberedChild] at made
    split at made
    · cases made
    · next index read =>
        split at made
        · cases made
        · next fresh =>
            have new : index ∉ children.numbered.map Prod.fst := by simpa using fresh
            split at made
            · next name =>
                cases made
                exact ⟨(index, .variable name), by simp only [numbered?, read], new, rfl⟩
            · next name =>
                cases made
                exact ⟨(index, .named name), by simp only [numbered?, read], new, rfl⟩
            · cases made
  · rintro ⟨entry, made, fresh, rfl⟩
    have new : (children.numbered.any fun other => other.1 == entry.1) = false :=
      List.any_eq_false.mpr fun other member same =>
        fresh (List.mem_map.mpr ⟨other, member, by simpa using same⟩)
    have read := integer?_of_numbered? made
    simp only [numbered?] at made
    simp only [numberedChild, read, new]
    split at made <;> cases made <;> rfl

/-- One step of taking numbered children. -/
def takeOne (state : Children Reference × List PropertyProblem)
    (property : String × Parameter Value) : Children Reference × List PropertyProblem :=
  match numberedChild state.1 property with
  | .ok more => (more, state.2)
  | .error problem => (state.1, state.2 ++ [problem])

/-- The numbered children are made from all that is left over, one after another. -/
theorem run_takeNumbered (children : Children Reference) (bag : PropertyBag) :
    (takeNumbered children).run bag =
      let (taken, problems) := bag.remaining.foldl takeOne (children, [])
      (taken, { remaining := [], problems := bag.problems ++ problems }) := rfl

/-- Nothing is wrong with numbered children exactly if every property gives one and the
numbers differ; they are then added one by one. -/
theorem foldl_takeOne_eq_iff {properties : List (String × Parameter Value)}
    {children taken : Children Reference} {problems : List PropertyProblem}
    (distinct : (children.numbered.map Prod.fst).Nodup) :
    properties.foldl takeOne (children, problems) = (taken, []) ↔
      problems = [] ∧ (∀ property ∈ properties, (numbered? property).isSome = true) ∧
      ((children.numbered ++ properties.filterMap numbered?).map Prod.fst).Nodup ∧
      taken = (properties.filterMap numbered?).foldl
        (fun all entry => all.addNumbered entry.1 entry.2) children := by
  induction properties generalizing children problems with
  | nil =>
      simp only [List.foldl_nil, Prod.mk.injEq, List.filterMap_nil, List.append_nil, distinct,
        List.not_mem_nil, false_implies, implies_true, true_and]
      exact and_comm.trans (and_congr_right fun _ => eq_comm)
  | cons property rest ih =>
      rw [List.foldl_cons]
      cases made : numberedChild children property with
      | ok more =>
          obtain ⟨entry, gives, fresh, rfl⟩ := numberedChild_eq_ok_iff.mp made
          have placed := Children.place_perm entry.1 entry.2 children.numbered
          have moved : ((children.addNumbered entry.1 entry.2).numbered ++
              rest.filterMap numbered?).Perm
                (children.numbered ++ entry :: rest.filterMap numbered?) :=
            (placed.append_right _).trans List.perm_middle.symm
          have grown : ((children.addNumbered entry.1 entry.2).numbered.map Prod.fst).Nodup :=
            (placed.map Prod.fst).nodup_iff.mpr (List.nodup_cons.mpr ⟨fresh, distinct⟩)
          simp only [takeOne, made, ih grown, List.filterMap_cons_some gives,
            (moved.map Prod.fst).nodup_iff, List.forall_mem_cons, gives, Option.isSome_some,
            true_and, List.foldl_cons]
      | error problem =>
          simp only [takeOne, made, ih distinct]
          -- A problem that is noted stays, so the properties cannot all have been taken.
          refine iff_of_false (fun flawless => List.concat_ne_nil _ _ flawless.1) ?_
          rintro ⟨-, all, new, -⟩
          obtain ⟨entry, gives⟩ := Option.isSome_iff_exists.mp (all property List.mem_cons_self)
          rw [List.filterMap_cons_some gives, List.map_append, List.nodup_append] at new
          have accepted := numberedChild_eq_ok_iff.mpr
            ⟨entry, gives, fun taken => new.2.2 _ taken entry.1 (by simp) rfl, rfl⟩
          rw [made] at accepted
          cases accepted

/-- Nothing is wrong with numbered children exactly if every property gives one and the
numbers differ. -/
theorem takeNumbered_sound_iff {children : Children Reference} (plain : children.numbered = [])
    {bag : PropertyBag} :
    ((takeNumbered children).run bag).2.problems = [] ↔
      bag.problems = [] ∧ (∀ property ∈ bag.remaining, (numbered? property).isSome = true) ∧
      ((bag.remaining.filterMap numbered?).map Prod.fst).Nodup := by
  have empty : (children.numbered.map Prod.fst).Nodup := by simp [plain]
  rw [run_takeNumbered]
  generalize folded : bag.remaining.foldl takeOne (children, []) = result
  rcases result with ⟨taken, problems⟩
  simp only [List.append_eq_nil_iff]
  constructor
  · rintro ⟨flawless, rfl⟩
    obtain ⟨-, all, distinct, -⟩ := (foldl_takeOne_eq_iff empty).mp folded
    exact ⟨flawless, all, by simpa [plain] using distinct⟩
  · rintro ⟨flawless, all, distinct⟩
    rw [(foldl_takeOne_eq_iff empty).mpr ⟨rfl, all, by simpa [plain] using distinct, rfl⟩]
      at folded
    exact ⟨flawless, (Prod.mk.inj folded).2.symm⟩

/-- Numbered children that are taken without a problem stand in strict order. -/
theorem takeNumbered_ascending {children : Children Reference} (plain : children.numbered = [])
    {bag : PropertyBag} (sound : ((takeNumbered children).run bag).2.problems = []) :
    ∃ numbered, ((takeNumbered children).run bag).1 = { children with numbered } ∧
      numbered.Perm (bag.remaining.filterMap numbered?) ∧ Children.Ascending numbered := by
  have empty : (children.numbered.map Prod.fst).Nodup := by simp [plain]
  rw [run_takeNumbered] at sound ⊢
  generalize folded : bag.remaining.foldl takeOne (children, []) = result at sound ⊢
  rcases result with ⟨taken, problems⟩
  obtain ⟨-, rfl⟩ := List.append_eq_nil_iff.mp sound
  obtain ⟨-, -, distinct, rfl⟩ := (foldl_takeOne_eq_iff empty).mp folded
  obtain ⟨numbered, same, perm, ascending⟩ :=
    Children.foldl_addNumbered (by simp [plain]) distinct
  rw [plain] at perm
  exact ⟨numbered, same, perm, ascending⟩

/-- The order in which numbered children are left over does not matter. -/
theorem takeNumbered_of_alike {children : Children Reference} (plain : children.numbered = [])
    {first second : PropertyBag} (alike : first.Alike second)
    (sound : ((takeNumbered children).run first).2.problems = []) :
    ((takeNumbered children).run second).2.problems = [] ∧
      ((takeNumbered children).run second).1 = ((takeNumbered children).run first).1 := by
  have perm := alike.perm.filterMap numbered?
  obtain ⟨flawless, all, distinct⟩ := (takeNumbered_sound_iff plain).mp sound
  have soundSecond : ((takeNumbered children).run second).2.problems = [] :=
    (takeNumbered_sound_iff plain).mpr
      ⟨alike.problems.mp flawless,
        fun property member => all property (alike.perm.mem_iff.mpr member),
        (perm.map Prod.fst).nodup_iff.mp distinct⟩
  obtain ⟨numbered, made, listed, ascending⟩ := takeNumbered_ascending plain sound
  obtain ⟨other, madeOther, listedOther, ascendingOther⟩ :=
    takeNumbered_ascending plain soundSecond
  have same : other = numbered := by
    refine List.Perm.eq_of_pairwise ?_ ascendingOther ascending
      (listedOther.trans (perm.symm.trans listed.symm))
    intro x y _ _ below above
    exact absurd (Int.lt_trans below above) (Int.lt_irrefl _)
  exact ⟨soundSecond, by rw [made, madeOther, same]⟩

/-- To refuse the rest is no problem if and only if nothing is left. -/
theorem refuseRest_sound {bag : PropertyBag} :
    (refuseRest.run bag).2.problems = [] ↔ bag.problems = [] ∧ bag.remaining = [] := by
  change bag.problems ++ bag.remaining.map _ = [] ↔ _
  rw [List.append_eq_nil_iff, List.map_eq_nil_iff]

/-! ### What is left over in order -/

/-- Two properties of one name, letter case aside, or of one number. -/
def Clash (first second : String × Parameter Value) : Prop :=
  Twins first second ∨ ∃ n, Text.integer? Text.Range.int64 first.1 = some n ∧
    Text.integer? Text.Range.int64 second.1 = some n

theorem Clash.symm {first second : String × Parameter Value} (clash : Clash first second) :
    Clash second first := by
  rcases clash with twins | ⟨n, one, two⟩
  · exact .inl twins.symm
  · exact .inr ⟨n, two, one⟩

/-- What clashes with a number is the same number. -/
theorem Clash.integer?_eq {first second : String × Parameter Value} (clash : Clash first second)
    {n : Int} (read : Text.integer? Text.Range.int64 first.1 = some n) :
    Text.integer? Text.Range.int64 second.1 = some n := by
  rcases clash with twins | ⟨other, one, two⟩
  · rw [← Text.eq_of_sameName_of_integer? twins read]
    exact read
  · rw [two, ← one, read]

/-- What clashes with a word has the same name. -/
theorem Clash.twins {first second : String × Parameter Value} (clash : Clash first second)
    (word : Text.integer? Text.Range.int64 first.1 = none) : Twins first second := by
  rcases clash with twins | ⟨n, read, -⟩
  · exact twins
  · rw [word] at read
    cases read

/-- Among properties that are used up under different keys there are no twins. -/
theorem pairwise_taken {asked : List String} {taken : List (String × Parameter Value)}
    (keys : asked.Pairwise fun one other => Text.sameName one other = false)
    (named : List.Forall₂ (fun key property => isNamed key property = true) asked taken) :
    taken.Pairwise fun one other => ¬ Twins one other := by
  induction named with
  | nil => exact .nil
  | @cons key property rest others here named ih =>
      obtain ⟨differs, later⟩ := List.pairwise_cons.mp keys
      refine List.pairwise_cons.mpr ⟨?_, ih later⟩
      intro other member twins
      obtain ⟨otherKey, memberKey, there⟩ := exists_of_forall₂_of_mem named member
      have same := Text.sameName_trans (Text.sameName_symm here) (Text.sameName_trans twins there)
      rw [differs otherKey memberKey] at same
      cases same

/-- A property that was not asked for is refused, and so is the second of two twins. -/
theorem pairwise_of_takes_nil {keys : List String}
    (distinct : keys.Pairwise fun one other => Text.sameName one other = false)
    {properties : List (String × Parameter Value)} (takes : Takes keys properties []) :
    properties.Pairwise fun one other => ¬ Twins one other := by
  obtain ⟨asked, taken, sub, named, perm⟩ := takes
  rw [List.append_nil] at perm
  exact perm.symm.pairwise (pairwise_taken (distinct.sublist sub) named)
    fun differ twins => differ twins.symm

/-- Properties that are used up have no numbers as names if no key is a number. -/
theorem integer?_taken {asked : List String} {taken : List (String × Parameter Value)}
    (words : ∀ key ∈ asked, Text.integer? Text.Range.int64 key = none)
    (named : List.Forall₂ (fun key property => isNamed key property = true) asked taken) :
    ∀ property ∈ taken, Text.integer? Text.Range.int64 property.1 = none := by
  intro property member
  obtain ⟨key, memberKey, same⟩ := exists_of_forall₂_of_mem named member
  cases read : Text.integer? Text.Range.int64 property.1 with
  | none => rfl
  | some n =>
      rw [Text.eq_of_sameName_of_integer? same read, words key memberKey] at read
      cases read

/-- Numbered children with different numbers do not clash. -/
theorem pairwise_numbered {rest : List (String × Parameter Value)}
    (all : ∀ property ∈ rest, (numbered? property).isSome = true)
    (numbers : ((rest.filterMap numbered?).map Prod.fst).Nodup) :
    rest.Pairwise fun one other => ¬ Clash one other := by
  rw [List.Nodup, List.pairwise_map, List.pairwise_filterMap] at numbers
  refine numbers.imp_of_mem ?_
  intro one other memberOne memberOther differ clash
  obtain ⟨first, made⟩ := Option.isSome_iff_exists.mp (all one memberOne)
  obtain ⟨second, madeOther⟩ := Option.isSome_iff_exists.mp (all other memberOther)
  have read := clash.integer?_eq (integer?_of_numbered? made)
  rw [integer?_of_numbered? madeOther] at read
  exact differ first made second madeOther (Option.some.inj read).symm

/-- Where all that is left over are numbered children with different numbers, no two of
all properties clash. -/
theorem pairwise_of_takes_numbered {keys : List String}
    (distinct : keys.Pairwise fun one other => Text.sameName one other = false)
    (words : ∀ key ∈ keys, Text.integer? Text.Range.int64 key = none)
    {properties rest : List (String × Parameter Value)} (takes : Takes keys properties rest)
    (all : ∀ property ∈ rest, (numbered? property).isSome = true)
    (numbers : ((rest.filterMap numbered?).map Prod.fst).Nodup) :
    properties.Pairwise fun one other => ¬ Clash one other := by
  obtain ⟨asked, taken, sub, named, perm⟩ := takes
  have word := integer?_taken (fun key member => words key (sub.subset member)) named
  refine perm.symm.pairwise ?_ fun differ clash => differ clash.symm
  refine List.pairwise_append.mpr ⟨?_, pairwise_numbered all numbers, ?_⟩
  · refine (pairwise_taken (distinct.sublist sub) named).imp_of_mem ?_
    intro one other member _ differ clash
    exact differ (clash.twins (word one member))
  · intro one memberOne other memberOther clash
    obtain ⟨entry, made⟩ := Option.isSome_iff_exists.mp (all other memberOther)
    have read := clash.symm.integer?_eq (integer?_of_numbered? made)
    rw [word one memberOne] at read
    cases read

end PropertyBag

/-! ### The bag of some entries -/

/-- The trimmed name and the meaning of a property that has one. -/
def PropertyEntry.known? (entry : PropertyEntry) : Option (String × Parameter Value) :=
  entry.interpret.toOption.map fun value => (Text.trim entry.name, value)

/-- What is wrong with a property by itself. -/
def PropertyEntry.problem? (entry : PropertyEntry) : Option PropertyProblem :=
  match entry.interpret with
  | .ok _ => none
  | .error error => some (.invalid entry.name (.meaningless error))

/-- The properties of entries in the order in which they are written, and the problems of
those that have none. -/
theorem PropertyBag.ofEntries_eq (entries : List PropertyEntry) :
    ofEntries entries =
      { remaining := entries.filterMap PropertyEntry.known?
        problems := entries.filterMap PropertyEntry.problem? } := by
  suffices general : ∀ bag : PropertyBag,
      entries.foldl
        (fun bag entry =>
          match entry.interpret with
          | .ok value =>
              { bag with remaining := bag.remaining ++ [(Text.trim entry.name, value)] }
          | .error error =>
              { bag with
                problems := bag.problems ++ [.invalid entry.name (.meaningless error)] }) bag =
        { remaining := bag.remaining ++ entries.filterMap PropertyEntry.known?
          problems := bag.problems ++ entries.filterMap PropertyEntry.problem? } by
    exact general {}
  induction entries with
  | nil => simp
  | cons entry rest ih =>
      intro bag
      rw [List.foldl_cons, ih, List.filterMap_cons, List.filterMap_cons]
      simp only [PropertyEntry.known?, PropertyEntry.problem?]
      cases entry.interpret <;> simp [Except.toOption]

/-- Without a problem all properties are in the bag. -/
theorem PropertyBag.names_ofEntries {entries : List PropertyEntry}
    (sound : (ofEntries entries).problems = []) :
    (ofEntries entries).remaining.map Prod.fst =
      entries.map fun entry => Text.trim entry.name := by
  rw [ofEntries_eq] at sound ⊢
  induction entries with
  | nil => rfl
  | cons entry rest ih =>
      simp only [List.filterMap_cons, PropertyEntry.problem?, PropertyEntry.known?] at sound ⊢
      cases meaning : entry.interpret with
      | error error => simp [meaning] at sound
      | ok value =>
          simp only [meaning] at sound
          simpa [Except.toOption] using ih sound

end Stagecraft
