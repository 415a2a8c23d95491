/-
Module: Stagecraft.Json.Record
Purpose: Reading JSON of a known shape: texts, numbers, lists and records with
  named fields.
Main exports:
  Field, Field.required, Field.optional, readRecord, readText, readOptionalText,
  readSingle, readList, readTextMap
-/
import Stagecraft.Json.Reader

namespace Stagecraft.Json

/-!
A document is checked against its shape while it is read, so the first obstacle
in the text decides the fault.  Text that is no JSON in front of a value of the
wrong shape is malformed, and a wrong value in front of broken text has the
wrong shape.

A record is written as an object.  Members with unknown names are stepped over,
a known name may occur once, and a required field may not be missing.  A record
may also be written as a list of its fields in order; fields at the end that
are not required may then be left out.
-/

/-- The fault of a value that begins here but has another shape than the one
asked for.  If the value itself is broken, that is the fault. -/
def unexpected (input : List Char) : Fault :=
  let broken : Option Fault :=
    match input with
    | '[' :: _ | '\x7b' :: _ => none
    | _ =>
        match readValue 1 input with
        | .ok _ => none
        | .error fault => some fault
  broken.getD .wrongShape

def readText : Reader String := fun input =>
  match skipBlanks input with
  | [] => .error .truncated
  | '"' :: rest => readQuoted rest
  | other => .error (unexpected other)

def readOptionalText : Reader (Option String) := fun input =>
  match skipBlanks input with
  | 'n' :: rest => do
      let (_, rest) ← readWord ['u', 'l', 'l'] rest
      .ok (none, rest)
  | other => do
      let (s, rest) ← readText other
      .ok (some s, rest)

/-- Read a number in single precision. -/
def readSingle : Reader Float32 := fun input =>
  match skipBlanks input with
  | [] => .error .truncated
  | c :: rest =>
      if c = '-' ∨ (Text.digitValue? c).isSome then do
        let (n, rest) ← readNumber (c :: rest)
        .ok (n.toSingle, rest)
      else .error (unexpected (c :: rest))

/-- Read a list.  `item` reads its items, one level deeper. -/
def readList (item : Nat → Reader α) : Nat → Reader (List α) := fun depth input =>
  match skipBlanks input with
  | [] => .error .truncated
  | '[' :: rest => if depth ≤ 1 then .error .malformed else readItems (item (depth - 1)) rest
  | other => .error (unexpected other)

/-- Read an object whose members are texts.  Of members with one name the last
one counts. -/
def readTextMap : Nat → Reader (List (String × String)) := fun depth input =>
  match skipBlanks input with
  | [] => .error .truncated
  | '\x7b' :: rest =>
      if depth ≤ 1 then .error .malformed
      else
        readMembers (fun name entries input => do
          let input ← readColon input
          let (value, input) ← readText input
          .ok (Entries.insert name value entries, input)) [] rest
  | other => .error (unexpected other)

/-- One field of a record: its name, whether it must be there, and how its
value is read and stored. -/
structure Field (ρ : Type) where
  name : String
  isRequired : Bool
  read : ρ → Reader ρ

/-- A field that is read by `reader` and stored by `put`. -/
def Field.of (isRequired : Bool) (name : String) (reader : Reader α)
    (put : ρ → α → ρ) : Field ρ :=
  { name, isRequired
    read := fun record input => do
      let (value, rest) ← reader input
      .ok (put record value, rest) }

/-- A field that must be there. -/
def Field.required (name : String) (reader : Reader α) (put : ρ → α → ρ) : Field ρ :=
  Field.of true name reader put

/-- A field that may be left out. -/
def Field.optional (name : String) (reader : Reader α) (put : ρ → α → ρ) : Field ρ :=
  Field.of false name reader put

/-- A record under construction, with the names of the fields it already has. -/
structure Draft (ρ : Type) where
  record : ρ
  present : List String

/-- Read the fields of a record in order from the items of a list. -/
def readInOrder : List (Field ρ) → Bool → ρ → Reader ρ
  | [], _, record, input => do
      let rest ← closeList input
      .ok (record, rest)
  | field :: fields, first, record, input => do
      let (more, input) ← nextItem first input
      if more then do
        let (record, input) ← field.read record input
        readInOrder fields false record input
      else if field.isRequired then .error .wrongShape
      else readInOrder fields first record input

/-- Read one member of an object that writes a record. -/
def readField (fields : List (Field ρ)) (name : String) (draft : Draft ρ) :
    Reader (Draft ρ) := fun input =>
  match fields.find? fun field => field.name == name with
  | some field =>
      if name ∈ draft.present then .error .wrongShape
      else do
        let input ← readColon input
        let (record, input) ← field.read draft.record input
        .ok ({ record, present := name :: draft.present }, input)
  | none => do
      let input ← readColon input
      let rest ← skipValue input
      .ok (draft, rest)

/-- Read a record.  `blank` holds the values of the fields that may be left
out. -/
def readRecord (fields : Nat → List (Field ρ)) (blank : ρ) : Nat → Reader ρ :=
  fun depth input =>
    match skipBlanks input with
    | [] => .error .truncated
    | '\x7b' :: rest =>
        if depth ≤ 1 then .error .malformed
        else do
          let known := fields (depth - 1)
          let (draft, rest) ← readMembers (readField known) { record := blank, present := [] } rest
          if known.all fun field => !field.isRequired || field.name ∈ draft.present then
            .ok (draft.record, rest)
          else .error .wrongShape
    | '[' :: rest =>
        if depth ≤ 1 then .error .malformed
        else readInOrder (fields (depth - 1)) true blank rest
    | other => .error (unexpected other)

/-- Read a text that holds one value of a known shape. -/
def parseAs (reader : Nat → Reader α) (input : String) : Except Fault α := do
  let (value, rest) ← reader nestingLimit input.toList
  readEnd rest
  .ok value

end Stagecraft.Json
