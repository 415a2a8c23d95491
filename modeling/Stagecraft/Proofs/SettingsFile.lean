/-
Module: Stagecraft.Proofs.SettingsFile
Purpose: Settings that were read from a file, whatever it said, are saved in a file from
  which the same settings are read.
Main exports:
  Settings.fromFile, Settings.places, Settings.IsStorable, Settings.isStorable_fromFile,
  Settings.IsStorable.load, Settings.saved_settings_are_read
-/
import Stagecraft.Proofs.WrittenSections
import Stagecraft.Settings.Basic

namespace Stagecraft

open IniValue (IsPlain)

namespace Settings

/-! ### Settings that a file can hold -/

/-- The settings that a file leaves of the usual ones: where there is no file, or one that
cannot be read, the usual settings stay. -/
def fromFile (file : Option String) : Settings :=
  (file.bind fun text => (load {} text).toOption).getD {}

/-- Settings that a file can hold: the path stands in a file as it is, and the numbers have
the sizes that are read. -/
structure IsStorable (settings : Settings) : Prop where
  path : IsPlain settings.tablesPath.toList
  ticks : 1 ≤ settings.tickRate
  tickRate : settings.tickRate < 4294967296
  framesPerCycle : settings.framesPerCycle < 4294967296
  ticksPerFrame : settings.ticksPerFrame < 4294967296
  maxDepth : settings.maxDepth < UInt64.size

theorem isStorable_default : IsStorable {} where
  path :=
    { trimmed := ⟨fun c first => by cases first; rfl, fun c last => by cases last; rfl⟩
      uncommented := List.forall_mem_iff_forall_getElem.mpr (by decide)
      whole := by decide }
  ticks := by decide
  tickRate := by decide
  framesPerCycle := by decide
  ticksPerFrame := by decide
  maxDepth := by decide

/-- A number that is read fits into 64 bits. -/
theorem lt_of_number? {ini : Ini} {place : String × String} {n : Nat}
    (found : number? ini place = some n) : n < UInt64.size := by
  obtain ⟨text, -, meaning⟩ := Option.bind_eq_some_iff.mp found
  obtain ⟨whole, read, rfl⟩ := Option.map_eq_some_iff.mp meaning
  have within := Text.contains_of_readInteger (toOption_eq_some_iff.mp read)
  exact Nat.lt_succ_of_le (Int.toNat_le_toNat within.2)

theorem low32_lt (n : Nat) : low32 n < 4294967296 := Nat.mod_lt n (by decide)

theorem low32_of_lt {n : Nat} (small : n < 4294967296) : low32 n = n := Nat.mod_eq_of_lt small

/-- A number that is cut down to its low bits is small, be it read or kept. -/
theorem getD_low32_lt {given : Option Nat} {kept : Nat} (small : kept < 4294967296) :
    (given.map low32).getD kept < 4294967296 := by
  cases given with
  | none => exact small
  | some n => exact low32_lt n

/-- What a file sets, a file can hold. -/
theorem IsStorable.withIni {settings : Settings} (storable : settings.IsStorable) {text : String}
    {ini : Ini} (read : Ini.parse text = .ok ini) : (settings.withIni ini).IsStorable where
  path := by
    cases found : ini.get? tablesPathPlace with
    | none => simpa [Settings.withIni, found] using storable.path
    | some path => simpa [Settings.withIni, found] using Ini.isPlain_of_get? read found
  ticks := by
    cases found : number? ini tickRatePlace with
    | none => simpa [Settings.withIni, found] using storable.ticks
    | some n =>
        simp only [Settings.withIni, found, Option.map_some, Option.getD_some]
        exact Nat.le_max_left 1 (low32 n)
  tickRate := by
    cases found : number? ini tickRatePlace with
    | none => simpa [Settings.withIni, found] using storable.tickRate
    | some n =>
        have small : max 1 (low32 n) < 4294967296 := max_lt (by decide) (low32_lt n)
        simpa [Settings.withIni, found] using small
  framesPerCycle := getD_low32_lt storable.framesPerCycle
  ticksPerFrame := getD_low32_lt storable.ticksPerFrame
  maxDepth := by
    cases found : number? ini maxDepthPlace with
    | none => simpa [Settings.withIni, found] using storable.maxDepth
    | some n => simpa [Settings.withIni, found] using lt_of_number? found

/-- What was read from a file, a file can hold. -/
theorem isStorable_fromFile (file : Option String) : (fromFile file).IsStorable := by
  unfold fromFile
  cases given : file.bind fun text => (load {} text).toOption with
  | none => exact isStorable_default
  | some settings =>
      obtain ⟨text, -, loaded⟩ := Option.bind_eq_some_iff.mp given
      obtain ⟨ini, read, rfl⟩ := exists_of_map_eq_ok (toOption_eq_some_iff.mp loaded)
      exact isStorable_default.withIni read

/-! ### Settings that are read -/

/-- The places of the settings in a file, with their values. -/
def places (settings : Settings) : List ((String × String) × String) :=
  [ (tablesPathPlace, settings.tablesPath),
    (tickRatePlace, writeNumber settings.tickRate),
    (framesPerCyclePlace, writeNumber settings.framesPerCycle),
    (ticksPerFramePlace, writeNumber settings.ticksPerFrame),
    (maxDepthPlace, writeNumber settings.maxDepth) ]

theorem save_eq (settings : Settings) : settings.save = Ini.write settings.places := rfl

/-- The settings have the same places whatever their values are. -/
theorem map_fst_places (settings : Settings) : settings.places.map Prod.fst =
    [tablesPathPlace, tickRatePlace, framesPerCyclePlace, ticksPerFramePlace, maxDepthPlace] :=
  rfl

/-- No two settings share a place in the file. -/
theorem distinct_places (settings : Settings) : (settings.places.map Prod.fst).Nodup := by
  rw [map_fst_places]
  decide

/-- The names of sections and keys are plain words. -/
theorem isWord_places {settings : Settings} {entry : (String × String) × String}
    (member : entry ∈ settings.places) :
    IniName.IsWord entry.1.1 ∧ IniName.IsWord entry.1.2 := by
  have words : ∀ place ∈ settings.places.map Prod.fst,
      IniName.IsWord place.1 ∧ IniName.IsWord place.2 := by
    rw [map_fst_places]
    decide
  exact words entry.1 (List.mem_map_of_mem member)

/-- Numerals stand in a file as they are. -/
theorem isPlain_writeNumber (n : Nat) : IsPlain (writeNumber n).toList := by
  have digit : ∀ c ∈ (writeNumber n).toList, 48 ≤ c.toNat ∧ c.toNat ≤ 57 := by
    intro c member
    rw [writeNumber, String.toList_ofList] at member
    have digit := Text.isDigit_of_mem_decimal member
    simp only [Char.isDigit, Bool.and_eq_true, decide_eq_true_eq] at digit
    exact digit
  have solid : ∀ c ∈ (writeNumber n).toList, Text.isBlank c = false := fun c member =>
    Text.isBlank_eq_false_of_ascii (by have := digit c member; omega)
      (by have := digit c member; omega)
  have differs : ∀ c ∈ (writeNumber n).toList, ∀ other : Char, 57 < other.toNat ∨ other.toNat < 48 →
      c ≠ other := by
    rintro c member _ outside rfl
    have := digit c member
    omega
  exact
    { trimmed :=
        ⟨fun c first => solid c (List.mem_of_mem_head? first),
          fun c last => solid c (List.mem_of_mem_getLast? last)⟩
      uncommented := fun c member => by
        simp [beginsComment, differs c member ';' (by decide), differs c member '#' (by decide)]
      whole := fun member => differs _ member '\n' (by decide) rfl }

/-- Settings that can be stored have values that can stand in a line. -/
theorem IsStorable.areWritable {settings : Settings} (storable : settings.IsStorable) :
    Ini.AreWritable settings.places := by
  intro entry member
  obtain ⟨name, key⟩ := isWord_places member
  refine ⟨name, key, ?_⟩
  simp only [places, List.mem_cons, List.not_mem_nil, or_false] at member
  rcases member with rfl | rfl | rfl | rfl | rfl
  · exact storable.path
  all_goals exact isPlain_writeNumber _

/-- The numeral that is written for a number is read as that number. -/
theorem number?_eq {ini : Ini} {place : String × String} {n : Nat} (small : n < UInt64.size)
    (found : ini.get? place = some (writeNumber n)) : number? ini place = some n := by
  have read : Text.readInteger .word64 (writeNumber n).toList = .ok (n : Int) := by
    rw [writeNumber, String.toList_ofList]
    exact (Text.readInteger_eq_ok_iff_of_unsigned rfl).mpr
      ⟨Text.isUnsigned_decimal n, Nat.le_of_lt_succ small⟩
  rw [number?, found, Option.bind_some, Text.integer?, read]
  rfl

/-- **Saved settings are read again**, in whatever order the sections and their keys are
written, and whatever the settings were before. -/
theorem IsStorable.load {settings : Settings} (storable : settings.IsStorable)
    {sections : List (String × List (String × String))}
    (arranges : Ini.Arranges sections settings.places) (before : Settings) :
    before.load (Ini.writeSections sections) = .ok settings := by
  obtain ⟨ini, read, found⟩ :=
    arranges.exists_parse storable.areWritable settings.distinct_places
  simp only [places, List.mem_cons, List.not_mem_nil, or_false] at found
  have large : 4294967296 < UInt64.size := by decide
  have path := found tablesPathPlace _ (.inl rfl)
  have tickRate := number?_eq (storable.tickRate.trans large) (found _ _ (.inr (.inl rfl)))
  have framesPerCycle :=
    number?_eq (storable.framesPerCycle.trans large) (found _ _ (.inr (.inr (.inl rfl))))
  have ticksPerFrame :=
    number?_eq (storable.ticksPerFrame.trans large) (found _ _ (.inr (.inr (.inr (.inl rfl)))))
  have maxDepth := number?_eq storable.maxDepth (found _ _ (.inr (.inr (.inr (.inr rfl)))))
  have loaded : before.withIni ini = settings := by
    rw [Settings.withIni, path, tickRate, framesPerCycle, ticksPerFrame, maxDepth]
    simp only [Option.getD_some, Option.map_some, low32_of_lt storable.tickRate,
      low32_of_lt storable.framesPerCycle, low32_of_lt storable.ticksPerFrame,
      Nat.max_eq_right storable.ticks]
  rw [Settings.load, read]
  exact congrArg Except.ok loaded

/-- **Settings files settle after one reading.**  Whatever a file says, and even where there
is none, the settings that it leaves are read again from the file in which they are saved,
and from every file that has them in another order. -/
theorem saved_settings_are_read (file : Option String) :
    load {} (fromFile file).save = .ok (fromFile file) ∧
      ∀ sections, Ini.Arranges sections (fromFile file).places →
        load {} (Ini.writeSections sections) = .ok (fromFile file) := by
  have storable := isStorable_fromFile file
  refine ⟨?_, fun sections arranges => storable.load arranges {}⟩
  rw [save_eq, Ini.write_eq_writeSections]
  exact storable.load (Ini.arranges_singletons _) {}

/-- A file for a matinee, with a comment behind the path, a clock that would stand still, and
a number that is none. -/
def matinee : String :=
  "[Tables]\npath =  scenes = matinee.json ; the short one\n" ++
    "[simulation]\nTICK_RATE : 0\n[animation]\nframes_per_cycle = 4294967298\n" ++
    "ticks_per_frame = six\n"

/-- The path keeps its equals sign and loses the comment, the clock ticks, and one count is
cut down to its low bits; the settings are read again from another order of the sections. -/
theorem saved_settings_are_read_matinee :
    fromFile (some matinee) =
        { tablesPath := "scenes = matinee.json", tickRate := 1, framesPerCycle := 2 } ∧
      load {} (fromFile (some matinee)).save = .ok (fromFile (some matinee)) ∧
      load {} (Ini.writeSections
        [ ("animation", [("ticks_per_frame", "6"), ("frames_per_cycle", "2")]),
          ("interpreter", [("max_depth", "64")]), ("simulation", [("tick_rate", "1")]),
          ("tables", [("path", "scenes = matinee.json")]) ]) = .ok (fromFile (some matinee)) ∧
      load {} (fromFile none).save = .ok {} := by
  have left : fromFile (some matinee) =
      { tablesPath := "scenes = matinee.json", tickRate := 1, framesPerCycle := 2 } := by
    decide +kernel
  obtain ⟨saved, arranged⟩ := saved_settings_are_read (some matinee)
  refine ⟨left, saved, arranged _ ⟨?_, by decide⟩, (saved_settings_are_read none).1⟩
  rw [left]
  decide

end Settings

end Stagecraft
