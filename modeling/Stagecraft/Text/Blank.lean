/-
Module: Stagecraft.Text.Blank
Purpose: Blank characters of written text, trimming, and comparison of names
  without regard to letter case.
Main exports:
  isBlank, trim, upper, lower, sameName
-/

namespace Stagecraft.Text

/-!
Names typed by level designers arrive with stray blanks around them and in
either letter case.  Two rules cover every such place:

* a blank is any character with the Unicode property `White_Space`;
* only the letters A to Z have two cases; every other character stands for
  itself.

Both rules are stated on lists of characters.  The functions on `String` only
unpack and repack.
-/

/-- The characters with the Unicode property `White_Space`, as inclusive
ranges of code points. -/
def blankRanges : List (Nat × Nat) :=
  [(0x09, 0x0d), (0x20, 0x20), (0x85, 0x85), (0xa0, 0xa0), (0x1680, 0x1680),
   (0x2000, 0x200a), (0x2028, 0x2029), (0x202f, 0x202f), (0x205f, 0x205f),
   (0x3000, 0x3000)]

/-- Whether a character has the property `White_Space`. -/
def isBlank (c : Char) : Bool :=
  blankRanges.any fun (low, high) => low ≤ c.toNat && c.toNat ≤ high

/-- Drop the blanks at both ends of a list of characters. -/
def trimChars (cs : List Char) : List Char :=
  ((cs.dropWhile isBlank).reverse.dropWhile isBlank).reverse

/-- Drop the blanks at both ends of a text. -/
def trim (text : String) : String :=
  String.ofList (trimChars text.toList)

/-- Write the letters a to z as capitals. -/
def upper (text : String) : String :=
  String.ofList (text.toList.map Char.toUpper)

/-- Write the letters A to Z as small letters. -/
def lower (text : String) : String :=
  String.ofList (text.toList.map Char.toLower)

/-- Whether two names differ at most in the case of the letters A to Z. -/
def sameName (first second : String) : Bool :=
  first.toList.map Char.toLower == second.toList.map Char.toLower

theorem sameName_iff (first second : String) :
    sameName first second = true ↔ lower first = lower second := by
  simp [sameName, lower, String.ofList_inj]

def isAllBlank (text : String) : Bool :=
  (trimChars text.toList).isEmpty

end Stagecraft.Text
