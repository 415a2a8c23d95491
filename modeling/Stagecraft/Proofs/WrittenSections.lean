/-
Module: Stagecraft.Proofs.WrittenSections
Purpose: What is read of a settings file can be written, and what is written in sections,
  in whatever order, is read again.
Main exports:
  IniValue.IsPlain, IniLine.isPlain_of_read, Ini.isPlain_of_get?, IniName.IsWord, Ini.writeSections,
  Ini.parse_writeSections, Ini.get?_writeSections
-/
import Stagecraft.Proofs.Trimming
import Stagecraft.Settings.Ini

namespace Stagecraft

/-! ### Lines -/

namespace Ini

theorem linesOf_ne_nil (cs : List Char) : linesOf cs ≠ [] := by
  cases cs with
  | nil => exact List.cons_ne_nil _ _
  | cons c rest =>
      unfold linesOf
      split
      · exact List.cons_ne_nil _ _
      · split <;> exact List.cons_ne_nil _ _

/-- One more character begins a line of its own or extends the first one. -/
theorem linesOf_cons (c : Char) (rest : List Char) :
    ∃ line lines, linesOf rest = line :: lines ∧
      linesOf (c :: rest) = if c = '\n' then [] :: line :: lines else (c :: line) :: lines := by
  obtain ⟨line, lines, begins⟩ := List.exists_cons_of_ne_nil (linesOf_ne_nil rest)
  exact ⟨line, lines, begins, by simp only [linesOf, begins]⟩

/-- A text up to a line feed is a line. -/
theorem linesOf_append {line : List Char} (whole : '\n' ∉ line) (rest : List Char) :
    linesOf (line ++ '\n' :: rest) = line :: linesOf rest := by
  induction line with
  | nil =>
      obtain ⟨first, lines, begins, step⟩ := linesOf_cons '\n' rest
      rw [List.nil_append, step, if_pos rfl, begins]
  | cons c line ih =>
      obtain ⟨first, lines, begins, step⟩ := linesOf_cons c (line ++ '\n' :: rest)
      obtain ⟨here, later⟩ := List.ne_and_not_mem_of_not_mem_cons whole
      rw [ih later] at begins
      obtain ⟨rfl, rfl⟩ := List.cons.inj begins
      rw [List.cons_append, step, if_neg (Ne.symm here)]

/-- There is no line feed within a line. -/
theorem newline_notMem_of_mem_linesOf {cs line : List Char} (member : line ∈ linesOf cs) :
    '\n' ∉ line := by
  induction cs generalizing line with
  | nil =>
      rw [List.mem_singleton.mp member]
      exact List.not_mem_nil
  | cons c rest ih =>
      obtain ⟨first, lines, begins, step⟩ := linesOf_cons c rest
      rw [begins] at ih
      rw [step] at member
      split at member
      · rcases List.mem_cons.mp member with rfl | member
        · exact List.not_mem_nil
        · exact ih member
      · next other =>
        rcases List.mem_cons.mp member with rfl | member
        · exact List.not_mem_cons_of_ne_of_not_mem (Ne.symm other) (ih List.mem_cons_self)
        · exact ih (List.mem_cons_of_mem _ member)

end Ini

/-! ### Values -/

/-- A value that stands in a file as it is: on one line, without a comment in it and without
blanks around it. -/
structure IniValue.IsPlain (value : List Char) : Prop where
  trimmed : Text.IsTrimmed value
  uncommented : ∀ c ∈ value, beginsComment c = false
  whole : '\n' ∉ value

open IniValue (IsPlain)

/-- Every value that is read from a line can be written again. -/
theorem IniLine.isPlain_of_read {line : List Char} {key value : String} (whole : '\n' ∉ line)
    (entry : IniLine.read line = .ok (.entry key (some value))) : IsPlain value.toList := by
  unfold IniLine.read at entry
  split at entry
  · cases entry
  · split at entry <;> cases entry
  · simp only at entry
    split at entry
    · cases entry
    · next mark tail found =>
      split at entry
      · cases entry
      · obtain rfl : String.ofList (Text.trimChars tail) = value := by
          cases entry
          rfl
        rw [String.toList_ofList]
        have inside : ∀ c ∈ Text.trimChars tail, c ∈ line.takeWhile fun c => !beginsComment c := by
          intro c member
          have behind : c ∈ mark :: tail :=
            List.mem_cons_of_mem mark (Text.mem_of_mem_trimChars member)
          rw [← found] at behind
          exact Text.mem_of_mem_trimChars (List.dropWhile_subset _ behind)
        exact
          { trimmed := Text.isTrimmed_trimChars tail
            uncommented := fun c member => by simpa using List.mem_takeWhile_imp (inside c member)
            whole := fun member => whole (List.takeWhile_subset _ (inside _ member)) }

namespace Ini

/-- All values that a file has are plain. -/
def HasPlainValues (ini : Ini) : Prop :=
  ∀ entry ∈ ini.entries, ∀ value, entry.2 = some value → IsPlain value.toList

/-- Reading lines keeps the values plain. -/
theorem HasPlainValues.readLines {current : String} {ini read : Ini} {lines : List (List Char)}
    (plain : ini.HasPlainValues) (whole : ∀ line ∈ lines, '\n' ∉ line)
    (done : readLines current ini lines = .ok read) : read.HasPlainValues := by
  induction lines generalizing current ini with
  | nil =>
      cases done
      exact plain
  | cons line rest ih =>
      obtain ⟨here, later⟩ := List.forall_mem_cons.mp whole
      obtain ⟨meaning, known, done⟩ := exists_of_bind_eq_ok done
      cases meaning with
      | blank => exact ih plain later done
      | heading name => exact ih plain later done
      | entry key value =>
          refine ih (List.forall_mem_cons.mpr ⟨?_, plain⟩) later done
          rintro value rfl
          exact IniLine.isPlain_of_read here known

/-- What a file says about a key can be written again. -/
theorem isPlain_of_get? {text value : String} {ini : Ini} {place : String × String}
    (read : parse text = .ok ini) (found : ini.get? place = some value) :
    IsPlain value.toList := by
  have empty : HasPlainValues {} := fun _ member => nomatch member
  have plain := empty.readLines (fun _ => newline_notMem_of_mem_linesOf) read
  obtain ⟨before, after, entries, -⟩ :=
    List.lookup_eq_some_iff.mp (Option.join_eq_some_iff.mp found)
  refine plain (place, some value) ?_ value rfl
  rw [entries]
  exact List.mem_append_right _ List.mem_cons_self

end Ini

/-! ### Names -/

/-- A character of a plain name: a small letter or an underline. -/
def isWordPart (c : Char) : Bool := c == '_' || c.isLower

/-- A name that stands in a file as it is: a word of small letters. -/
structure IniName.IsWord (name : String) : Prop where
  nonempty : name.toList ≠ []
  parts : ∀ c ∈ name.toList, isWordPart c = true

instance (name : String) : Decidable (IniName.IsWord name) :=
  decidable_of_iff (name.toList ≠ [] ∧ name.toList.all isWordPart = true)
    ⟨fun both => ⟨both.1, List.all_eq_true.mp both.2⟩,
      fun word => ⟨word.nonempty, List.all_eq_true.mpr word.parts⟩⟩

open IniName (IsWord)

/-- Words are of small letters and underscores. -/
theorem isWordPart_iff {c : Char} :
    isWordPart c = true ↔ c.toNat = 95 ∨ 97 ≤ c.toNat ∧ c.toNat ≤ 122 := by
  have underline : c = '_' ↔ c.toNat = 95 := Char.toNat_inj.symm
  have small : c.isLower = true ↔ 97 ≤ c.toNat ∧ c.toNat ≤ 122 := by
    unfold Char.isLower
    rw [Bool.and_eq_true, decide_eq_true_eq, decide_eq_true_eq]
    exact Iff.rfl
  rw [isWordPart, Bool.or_eq_true, beq_iff_eq, underline, small]

namespace IniName.IsWord

variable {name : String} (word : IsWord name)

include word

/-- No other character is within a word. -/
theorem ne {c : Char} (member : c ∈ name.toList) (other : Char)
    (outside : isWordPart other = false) : c ≠ other := by
  rintro rfl
  rw [word.parts c member] at outside
  cases outside

/-- Words are written in small letters. -/
theorem lowerName_eq : lowerName name.toList = name := by
  have same : ∀ c ∈ name.toList, (if c.toNat = 0x212a then 'k' else c.toLower) = c := by
    intro c member
    have part := isWordPart_iff.mp (word.parts c member)
    rw [if_neg (by omega)]
    unfold Char.toLower
    rw [dif_neg]
    rintro ⟨low, high⟩
    have low : 65 ≤ c.toNat := low
    have high : c.toNat ≤ 90 := high
    omega
  rw [lowerName, List.map_congr_left same, List.map_id', String.ofList_toList]

theorem isBlank_eq_false {c : Char} (member : c ∈ name.toList) : Text.isBlank c = false := by
  have part := isWordPart_iff.mp (word.parts c member)
  exact Text.isBlank_eq_false_of_ascii (by omega) (by omega)

/-- A word has nothing to trim. -/
theorem isTrimmed : Text.IsTrimmed name.toList where
  front _ first := word.isBlank_eq_false (List.mem_of_mem_head? first)
  back _ last := word.isBlank_eq_false (List.mem_of_mem_getLast? last)

/-- No character of a word begins a comment. -/
theorem beginsComment_eq_false {c : Char} (member : c ∈ name.toList) : beginsComment c = false := by
  simp [beginsComment, word.ne member ';' (by decide),
    word.ne member '#' (by decide)]

/-- No character of a word ends the key of a line. -/
theorem isDelimiter_eq_false {c : Char} (member : c ∈ name.toList) : isDelimiter c = false := by
  simp [isDelimiter, word.ne member '=' (by decide),
    word.ne member ':' (by decide)]

end IniName.IsWord

/-! ### Lines that are written -/

namespace IniLine

/-- The whole of a line counts if there is no comment in it and there are no blanks around
it. -/
theorem content_eq {line : List Char} (trimmed : Text.IsTrimmed line)
    (uncommented : ∀ c ∈ line, beginsComment c = false) :
    Text.trimChars (line.takeWhile fun c => !beginsComment c) = line := by
  have all : (line.takeWhile fun c => !beginsComment c) = line :=
    List.takeWhile_eq_self_iff.mpr fun c member => by simp [uncommented c member]
  rw [all, trimmed.trimChars_eq]

/-- A word in brackets opens a section. -/
theorem read_heading {name : String} (word : IsWord name) :
    read ('[' :: (name.toList ++ [']'])) = .ok (.heading name) := by
  have trimmed : Text.IsTrimmed ('[' :: (name.toList ++ [']'])) := by
    constructor
    · simp
      decide
    · rw [← List.cons_append, List.getLast?_concat]
      simp
      decide
  have uncommented : ∀ c ∈ '[' :: (name.toList ++ [']']), beginsComment c = false := by
    simp only [List.mem_cons, List.mem_append, List.not_mem_nil, or_false]
    rintro c (rfl | member | rfl)
    · decide
    · exact word.beginsComment_eq_false member
    · decide
  have inside : beforeLastBracket? (name.toList ++ [']']) = some name.toList := by
    simp [beforeLastBracket?]
  simp only [read, content_eq trimmed uncommented, inside, word.isTrimmed.trimChars_eq,
    word.lowerName_eq]

/-- An entry with a trimmed value is a trimmed line. -/
theorem isTrimmed_entry {key value : String} (word : IsWord key)
    (trimmed : Text.IsTrimmed value.toList) :
    Text.IsTrimmed (key.toList ++ '=' :: value.toList) := by
  constructor
  · rw [List.head?_append_of_ne_nil _ word.nonempty]
    exact word.isTrimmed.front
  · rw [List.getLast?_append_of_ne_nil _ (List.cons_ne_nil _ _)]
    cases text : value.toList with
    | nil =>
        simp
        decide
    | cons c rest =>
        rw [List.getLast?_cons_cons, ← text]
        exact trimmed.back

/-- A key ends where its value begins, at the first delimiter. -/
theorem split_entry {key : String} (word : IsWord key) (value : List Char) :
    (key.toList ++ '=' :: value).takeWhile (fun c => !isDelimiter c) = key.toList ∧
      (key.toList ++ '=' :: value).dropWhile (fun c => !isDelimiter c) = '=' :: value := by
  have front : ∀ c ∈ key.toList, (!isDelimiter c) = true := fun c member => by
    rw [word.isDelimiter_eq_false member]
    rfl
  constructor
  · rw [List.takeWhile_append_of_pos front, List.takeWhile_cons_of_neg (by decide),
      List.append_nil]
  · rw [List.dropWhile_append_of_pos front, List.dropWhile_cons_of_neg (by decide)]

/-- A word and a value on a line, with an equals sign between them, give the value to the
word. -/
theorem read_entry {key value : String} (word : IsWord key) (plain : IsPlain value.toList) :
    read (key.toList ++ '=' :: value.toList) = .ok (.entry key (some value)) := by
  have uncommented : ∀ c ∈ key.toList ++ '=' :: value.toList, beginsComment c = false := by
    simp only [List.mem_append, List.mem_cons]
    rintro c (member | rfl | member)
    · exact word.beginsComment_eq_false member
    · decide
    · exact plain.uncommented c member
  obtain ⟨before, behind⟩ := split_entry word value.toList
  obtain ⟨c, rest, begins⟩ := List.exists_cons_of_ne_nil word.nonempty
  have named : key.toList.isEmpty = false := by
    rw [begins]
    rfl
  have plainText : c ≠ '[' := word.ne (begins ▸ List.mem_cons_self) '[' (by decide)
  unfold read
  rw [content_eq (isTrimmed_entry word plain.trimmed) uncommented]
  split
  · next empty => simp at empty
  · next heading =>
    rw [begins] at heading
    exact absurd (List.cons.inj heading).1 plainText
  · simp only [before, behind, word.isTrimmed.trimChars_eq, plain.trimmed.trimChars_eq,
      word.lowerName_eq, String.ofList_toList, named]
    rfl

end IniLine

/-! ### Sections that are written -/

namespace Ini

/-- Write keys with their values, each on a line. -/
def writeKeys (keys : List (String × String)) : String :=
  String.join (keys.map fun (key, value) => key ++ "=" ++ value ++ "\n")

/-- Write a file section by section: the name of a section, and then all keys in it. -/
def writeSections (sections : List (String × List (String × String))) : String :=
  String.join (sections.map fun (name, keys) => "[" ++ name ++ "]\n" ++ writeKeys keys)

/-- The places of sections, with their values. -/
def placesOf (sections : List (String × List (String × String))) :
    List ((String × String) × String) :=
  sections.flatMap fun (name, keys) => keys.map fun (key, value) => ((name, key), value)

/-- Places whose names and values stand in a file as they are. -/
def AreWritable (places : List ((String × String) × String)) : Prop :=
  ∀ entry ∈ places, IsWord entry.1.1 ∧ IsWord entry.1.2 ∧ IsPlain entry.2.toList

/-- Sections are an arrangement of places: each place is in one of them, in whatever order,
and no section is without a key. -/
structure Arranges (sections : List (String × List (String × String)))
    (places : List ((String × String) × String)) : Prop where
  perm : (placesOf sections).Perm places
  filled : ∀ entry ∈ sections, entry.2 ≠ []

/-- The entries behind those of a file. -/
def adding (ini : Ini) (places : List ((String × String) × String)) : Ini :=
  { entries := (places.map fun (place, value) => (place, some value)).reverse ++ ini.entries }

/-- To add two rows of entries is to add them in a row. -/
theorem adding_append (ini : Ini) (first second : List ((String × String) × String)) :
    ini.adding (first ++ second) = (ini.adding first).adding second := by
  simp [adding]

/-- One section or several: writing each place in a section of its own is an arrangement. -/
theorem write_eq_writeSections (places : List ((String × String) × String)) :
    write places =
      writeSections (places.map fun ((name, key), value) => (name, [(key, value)])) := by
  simp only [write, writeSections, List.map_map]
  refine congrArg String.join (List.map_congr_left ?_)
  rintro ⟨⟨name, key⟩, value⟩ -
  simp [writeKeys, String.append_assoc]

theorem arranges_singletons (places : List ((String × String) × String)) :
    Arranges (places.map fun ((name, key), value) => (name, [(key, value)])) places where
  perm := by
    simp only [placesOf, List.flatMap_map, List.map_cons, List.map_nil]
    simp
  filled := by
    simp only [List.forall_mem_map]
    exact fun _ _ => List.cons_ne_nil _ _

/-- The lines of a section give their values to its keys. -/
theorem readLines_writeKeys {name : String} {keys : List (String × String)}
    (words : ∀ entry ∈ keys, IsWord entry.1 ∧ IsPlain entry.2.toList) (ini : Ini)
    (rest : List Char) :
    readLines name ini (linesOf ((writeKeys keys).toList ++ rest)) =
      readLines name (ini.adding (keys.map fun (key, value) => ((name, key), value)))
        (linesOf rest) := by
  induction keys generalizing ini with
  | nil => simp [writeKeys, adding]
  | cons entry keys ih =>
      rcases entry with ⟨key, value⟩
      obtain ⟨⟨word, plain⟩, later⟩ := List.forall_mem_cons.mp words
      have written : (writeKeys ((key, value) :: keys)).toList ++ rest =
          (key.toList ++ '=' :: value.toList) ++ '\n' :: ((writeKeys keys).toList ++ rest) := by
        simp [writeKeys]
      have whole : '\n' ∉ key.toList ++ '=' :: value.toList := by
        simp only [List.mem_append, List.mem_cons, not_or]
        exact ⟨fun member => word.ne member '\n' (by decide) rfl, by decide, plain.whole⟩
      rw [written, linesOf_append whole]
      simp only [readLines, IniLine.read_entry word plain]
      rw [List.map_cons, ← List.singleton_append, adding_append]
      exact ih later _

/-- The lines of a file give their values to all its places. -/
theorem readLines_writeSections {sections : List (String × List (String × String))}
    (words : ∀ entry ∈ sections, IsWord entry.1 ∧
      ∀ key ∈ entry.2, IsWord key.1 ∧ IsPlain key.2.toList) (current : String) (ini : Ini) :
    readLines current ini (linesOf (writeSections sections).toList) =
      .ok (ini.adding (placesOf sections)) := by
  induction sections generalizing current ini with
  | nil =>
      simp [writeSections, adding, placesOf]
      rfl
  | cons entry sections ih =>
      rcases entry with ⟨name, keys⟩
      obtain ⟨⟨word, plain⟩, later⟩ := List.forall_mem_cons.mp words
      have written : (writeSections ((name, keys) :: sections)).toList =
          ('[' :: (name.toList ++ [']'])) ++
            '\n' :: ((writeKeys keys).toList ++ (writeSections sections).toList) := by
        simp [writeSections]
      have whole : '\n' ∉ '[' :: (name.toList ++ [']']) := by
        simp only [List.mem_append, List.mem_cons, List.not_mem_nil, or_false, not_or]
        exact ⟨by decide, fun member => word.ne member '\n' (by decide) rfl, by decide⟩
      rw [written, linesOf_append whole]
      simp only [readLines, IniLine.read_heading word]
      rw [placesOf, List.flatMap_cons, adding_append]
      exact (readLines_writeKeys plain ini _).trans (ih later name _)

variable {sections : List (String × List (String × String))}
  {places : List ((String × String) × String)}

/-- **What is written is read.**  However places are arranged in sections, the file gives
back the value of each. -/
theorem Arranges.exists_parse (arranges : Arranges sections places)
    (writable : AreWritable places) (distinct : (places.map Prod.fst).Nodup) :
    ∃ ini, parse (writeSections sections) = .ok ini ∧
      ∀ place value, (place, value) ∈ places → ini.get? place = some value := by
  have words : ∀ entry ∈ sections, IsWord entry.1 ∧
      ∀ key ∈ entry.2, IsWord key.1 ∧ IsPlain key.2.toList := by
    rintro ⟨name, keys⟩ member
    have listed : ∀ key ∈ keys, ((name, key.1), key.2) ∈ places := fun key inside =>
      arranges.perm.subset (List.mem_flatMap.mpr ⟨_, member, List.mem_map_of_mem inside⟩)
    obtain ⟨first, inside⟩ := List.exists_mem_of_ne_nil _ (arranges.filled _ member)
    exact ⟨(writable _ (listed first inside)).1, fun key inside =>
      (writable _ (listed key inside)).2⟩
  refine ⟨_, readLines_writeSections words _ _, fun place value listed => ?_⟩
  have once : (({} : Ini).adding (placesOf sections)).entries.map Prod.fst =
      ((placesOf sections).map Prod.fst).reverse := by
    simp [adding, List.map_reverse, Function.comp_def]
  have nodup : ((placesOf sections).map Prod.fst).reverse.Nodup :=
    List.nodup_reverse.mpr ((arranges.perm.map Prod.fst).nodup_iff.mpr distinct)
  have member : (place, some value) ∈ (({} : Ini).adding (placesOf sections)).entries := by
    simp only [adding, List.append_nil, List.mem_reverse, List.mem_map]
    exact ⟨(place, value), arranges.perm.mem_iff.mpr listed, rfl⟩
  rw [get?, (lookup_eq_some_iff_mem (once ▸ nodup)).mpr member]
  rfl

end Ini

end Stagecraft
