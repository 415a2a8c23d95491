/-
Module: Stagecraft.CommandLine.FileTree
Purpose: Where a written path leads among folders and files, and why a text
  cannot be read there.
Main exports:
  ReadFault, ReadFault.message, ReadFault.ofPath?, FileTree, FileTree.step,
  FileTree.read
-/
import Stagecraft.Text.Numeral

namespace Stagecraft

/-- Why the text of a file cannot be read. -/
inductive ReadFault where
  | absent
  | forbidden
  | notFolder
  | isFolder
  | nameTooLong
  | nulInName
  | notText
  | other (reason : String)
deriving Repr, DecidableEq, Inhabited

namespace ReadFault

/-- A reason with the number that the system gives it. -/
def numbered (reason : String) (code : Nat) : String :=
  reason ++ " (os error " ++ String.ofList (Text.decimal code) ++ ")"

def message : ReadFault → String
  | absent => numbered "No such file or directory" 2
  | forbidden => numbered "Permission denied" 13
  | notFolder => numbered "Not a directory" 20
  | isFolder => numbered "Is a directory" 21
  | nameTooLong => numbered "File name too long" 36
  | nulInName => "file name contained an unexpected NUL byte"
  | notText => "stream did not contain valid UTF-8"
  | other reason => reason

/-- The longest path, in bytes. -/
def pathLimit : Nat := 4095

/-- The longest name within a path, in bytes. -/
def nameLimit : Nat := 255

/-- What is wrong with a path wherever it leads.  A NUL ends every name for the
system, so a path that holds one never reaches it. -/
def ofPath? (path : String) : Option ReadFault :=
  if path.toList.contains '\x00' then some nulInName
  else if path.isEmpty then some absent
  else if pathLimit < path.utf8ByteSize then some nameTooLong
  else none

end ReadFault

/-!
A path is followed name by name from the root, or from the folder that the
program runs in.  Every name has to be looked up in a folder, the empty name
between two slashes or behind the last one as well; therefore a file with a
slash behind it is no file, and a folder that is left again has to exist.
-/

/-- What a path can lead to. -/
inductive FileEntry where
  | folder
  | file (text : String)
deriving Repr, DecidableEq, Inhabited

/-- Folders and files, each under the names that lead to it from the root, and
the folder in which a program runs.  The root itself needs no entry. -/
structure FileTree where
  entries : List (List String × FileEntry) := []
  working : List String := []
deriving Repr, DecidableEq, Inhabited

/-- The first name of a path and those behind it, divided by the slashes. -/
def pathNames : List Char → List Char × List (List Char)
  | [] => ([], [])
  | c :: rest =>
      let (first, others) := pathNames rest
      if c = '/' then ([], first :: others) else (c :: first, others)

namespace FileTree

def entryAt? (tree : FileTree) : List String → Option FileEntry
  | [] => some .folder
  | place => tree.entries.lookup place

/-- The place to which a name leads from another place. -/
def step (tree : FileTree) (place : List String) (name : String) :
    Except ReadFault (List String) :=
  match tree.entryAt? place with
  | some .folder =>
      if name = "" ∨ name = "." then .ok place
      else if name = ".." then .ok place.dropLast
      else if ReadFault.nameLimit < name.utf8ByteSize then .error .nameTooLong
      else if (tree.entryAt? (place ++ [name])).isSome then .ok (place ++ [name])
      else .error .absent
  | some (.file _) => .error .notFolder
  | none => .error .absent

/-- The place to which a path leads. -/
def follow (tree : FileTree) (path : String) : Except ReadFault (List String) :=
  let (first, others) := pathNames path.toList
  let start := if path.toList.head? = some '/' then [] else tree.working
  ((first :: others).map String.ofList).foldlM tree.step start

/-- The text of the file to which a path leads. -/
def read (tree : FileTree) (path : String) : Except ReadFault String :=
  match ReadFault.ofPath? path with
  | some fault => .error fault
  | none => do
      let place ← tree.follow path
      match tree.entryAt? place with
      | some (.file text) => .ok text
      | some .folder => .error .isFolder
      | none => .error .absent

end FileTree

end Stagecraft
