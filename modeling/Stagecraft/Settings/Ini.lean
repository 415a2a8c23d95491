/-
Module: Stagecraft.Settings.Ini
Purpose: Settings files in sections of keys and values.
Main exports:
  IniError, IniLine, IniLine.read, Ini, Ini.parse, Ini.get?, Ini.write
-/
import Stagecraft.Text.Blank

namespace Stagecraft

/-!
Blanks at the ends of a line are dropped, and so is everything from a `;` or `#`
on.  A line then opens a section in brackets, or gives a value to a key with `=`
or `:`, or names a key without a value.  Sections and keys are written in either
letter case.  The last value of a key counts.
-/

/-- What is wrong with a settings file. -/
inductive IniError where
  | openBracket
  | emptyKey
deriving Repr, DecidableEq, Inhabited

/-- A line of a settings file. -/
inductive IniLine where
  | blank
  | heading (name : String)
  | entry (key : String) (value : Option String)
deriving Repr, DecidableEq, Inhabited

/-- Write a name in small letters.  The sign for kelvin, which is a capital K to
the eye, becomes a small k. -/
def lowerName (name : List Char) : String :=
  String.ofList (name.map fun c => if c.toNat = 0x212a then 'k' else c.toLower)

/-- Whether a character begins a comment. -/
def beginsComment (c : Char) : Bool := c == ';' || c == '#'

/-- Whether a character stands between a key and its value. -/
def isDelimiter (c : Char) : Bool := c == '=' || c == ':'

/-- A text up to its last closing bracket, if it has one. -/
def beforeLastBracket? (text : List Char) : Option (List Char) :=
  match text.reverse.dropWhile fun c => c != ']' with
  | [] => none
  | _ :: front => some front.reverse

def IniLine.read (line : List Char) : Except IniError IniLine :=
  match Text.trimChars (line.takeWhile fun c => !beginsComment c) with
  | [] => .ok .blank
  | '[' :: rest =>
      match beforeLastBracket? rest with
      | some name => .ok (.heading (lowerName (Text.trimChars name)))
      | none => .error .openBracket
  | text =>
      let key := Text.trimChars (text.takeWhile fun c => !isDelimiter c)
      match text.dropWhile fun c => !isDelimiter c with
      | [] => .ok (.entry (lowerName key) none)
      | _ :: value =>
          if key.isEmpty then .error .emptyKey
          else .ok (.entry (lowerName key) (some (String.ofList (Text.trimChars value))))

/-- A settings file: its entries with the sections they stand in, the latest
first. -/
structure Ini where
  entries : List ((String × String) × Option String) := []
deriving Repr, Inhabited

namespace Ini

/-- The section of entries in front of the first section. -/
def firstSection : String := "default"

/-- Split a text at the ends of its lines. -/
def linesOf : List Char → List (List Char)
  | [] => [[]]
  | c :: rest =>
      match linesOf rest with
      | [] => [[c]]
      | line :: lines => if c = '\n' then [] :: line :: lines else (c :: line) :: lines

/-- Read lines that stand in a section. -/
def readLines : String → Ini → List (List Char) → Except IniError Ini
  | _, ini, [] => .ok ini
  | current, ini, line :: rest => do
      match ← IniLine.read line with
      | .blank => readLines current ini rest
      | .heading name => readLines name ini rest
      | .entry key value =>
          readLines current { entries := ((current, key), value) :: ini.entries } rest

def parse (text : String) : Except IniError Ini :=
  readLines firstSection {} (linesOf text.toList)

def get? (ini : Ini) (place : String × String) : Option String :=
  (ini.entries.lookup place).join

/-- Write a settings file that gives some keys their values. -/
def write (entries : List ((String × String) × String)) : String :=
  String.join <| entries.map fun ((name, key), value) =>
    "[" ++ name ++ "]\n" ++ key ++ "=" ++ value ++ "\n"

end Ini

end Stagecraft
