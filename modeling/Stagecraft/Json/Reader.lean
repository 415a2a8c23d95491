/-
Module: Stagecraft.Json.Reader
Purpose: Reading JSON texts from the left: blanks, words, quoted texts, lists,
  objects and whole values.
Main exports:
  skipBlanks, readWord, readQuoted, readItems, readMembers, readValue,
  skipValue, parse, nestingLimit
-/
import Stagecraft.Json.Number

namespace Stagecraft.Json

/-- Drop the blanks that JSON allows between tokens. -/
def skipBlanks (input : List Char) : List Char :=
  input.dropWhile fun c => c == ' ' || c == '\n' || c == '\t' || c == '\r'

/-- Step over the given letters. -/
def readWord : List Char → Reader Unit
  | [], input => .ok ((), input)
  | _ :: _, [] => .error .truncated
  | letter :: letters, c :: rest =>
      if c = letter then readWord letters rest else .error .malformed

/-! ### Quoted texts -/

/-- The value of four hexadecimal digits at the front of a text.  Without four
more bytes the text is truncated, otherwise it is malformed. -/
def fourHexDigits (input : List Char) : Except Fault Nat :=
  match (input.take 4).mapM Text.hexDigitValue? with
  | some [a, b, c, d] => .ok (((a * 16 + b) * 16 + c) * 16 + d)
  | _ =>
      if 4 ≤ (String.ofList (input.take 4)).utf8ByteSize then .error .malformed
      else .error .truncated

/-- The second half of a character written as two escapes, after the value of
the first half. -/
def secondSurrogate (first : Nat) : List Char → Except Fault Char
  | [] => .error .truncated
  | ['\\'] => .error .truncated
  | '\\' :: 'u' :: rest => do
      let second ← fourHexDigits rest
      if 0xDC00 ≤ second ∧ second ≤ 0xDFFF then
        .ok (Char.ofNat ((first - 0xD800) * 0x400 + (second - 0xDC00) + 0x10000))
      else .error .malformed
  | _ => .error .malformed

/-- The character that an escape stands for and how many characters the escape
takes behind its backslash. -/
def escape : List Char → Except Fault (Char × Nat)
  | [] => .error .truncated
  | '"' :: _ => .ok ('"', 1)
  | '\\' :: _ => .ok ('\\', 1)
  | '/' :: _ => .ok ('/', 1)
  | 'b' :: _ => .ok ('\x08', 1)
  | 'f' :: _ => .ok ('\x0c', 1)
  | 'n' :: _ => .ok ('\n', 1)
  | 'r' :: _ => .ok ('\r', 1)
  | 't' :: _ => .ok ('\t', 1)
  | 'u' :: rest => do
      let code ← fourHexDigits rest
      if 0xDC00 ≤ code ∧ code ≤ 0xDFFF then .error .malformed
      else if 0xD800 ≤ code ∧ code ≤ 0xDBFF then do
        let c ← secondSurrogate code (rest.drop 4)
        .ok (c, 11)
      else .ok (Char.ofNat code, 5)
  | _ => .error .malformed

/-- How many characters an escape takes in a text that is stepped over: half a
surrogate pair is as good as a whole one. -/
def skippedEscape : List Char → Except Fault Nat
  | [] => .error .truncated
  | 'u' :: rest => (fourHexDigits rest).map fun _ => 5
  | c :: _ =>
      if c ∈ ['"', '\\', '/', 'b', 'f', 'n', 'r', 't'] then .ok 1 else .error .malformed

/-- Read the rest of a quoted text, from behind the opening quote. -/
def quotedRest (input : List Char) : Except Fault (List Char × List Char) :=
  match input with
  | [] => .error .truncated
  | '"' :: rest => .ok ([], rest)
  | '\\' :: rest => do
      let (c, taken) ← escape rest
      let (cs, tail) ← quotedRest (rest.drop taken)
      .ok (c :: cs, tail)
  | c :: rest =>
      if c.toNat < 32 then .error .malformed
      else do
        let (cs, tail) ← quotedRest rest
        .ok (c :: cs, tail)
termination_by input.length
decreasing_by all_goals simp only [List.length_cons, List.length_drop]; omega

/-- Read a quoted text from behind its opening quote. -/
def readQuoted : Reader String := fun input => do
  let (cs, rest) ← quotedRest input
  .ok (String.ofList cs, rest)

/-- Step over a quoted text from behind its opening quote. -/
def skipQuoted (input : List Char) : Except Fault (List Char) :=
  match input with
  | [] => .error .truncated
  | '"' :: rest => .ok rest
  | '\\' :: rest => do
      let taken ← skippedEscape rest
      skipQuoted (rest.drop taken)
  | c :: rest => if c.toNat < 32 then .error .malformed else skipQuoted rest
termination_by input.length
decreasing_by all_goals simp only [List.length_cons, List.length_drop]; omega

/-! ### Lists and objects -/

def readColon (input : List Char) : Except Fault (List Char) :=
  match skipBlanks input with
  | [] => .error .truncated
  | ':' :: rest => .ok rest
  | _ => .error .malformed

/-- Whether another item follows in a list, and the text at which to go on.
The closing bracket is left in place. -/
def nextItem (first : Bool) (input : List Char) : Except Fault (Bool × List Char) :=
  match skipBlanks input with
  | [] => .error .truncated
  | ']' :: rest => .ok (false, ']' :: rest)
  | c :: rest =>
      if first then .ok (true, c :: rest)
      else if c = ',' then
        match skipBlanks rest with
        | [] => .error .truncated
        | ']' :: _ => .error .malformed
        | more => .ok (true, more)
      else .error .malformed

/-- Step over the closing bracket of a list; nothing else may come before
it. -/
def closeList (input : List Char) : Except Fault (List Char) :=
  match skipBlanks input with
  | [] => .error .truncated
  | ']' :: rest => .ok rest
  | _ => .error .malformed

/-- Read the items of a list.  `fuel` bounds their number; an item takes at
least one character. -/
def itemsWithin (item : Reader α) : Nat → Bool → Reader (List α)
  | 0, _, _ => .error .truncated
  | fuel + 1, first, input => do
      let (more, input) ← nextItem first input
      if more then do
        let (value, input) ← item input
        let (values, input) ← itemsWithin item fuel false input
        .ok (value :: values, input)
      else do
        let input ← closeList input
        .ok ([], input)

/-- Read the items of a list from behind its opening bracket. -/
def readItems (item : Reader α) : Reader (List α) := fun input =>
  itemsWithin item (input.length + 1) true input

/-- The next member name of an object, if there is one, and the text behind
it. -/
def nextName (first : Bool) (input : List Char) :
    Except Fault (Option String × List Char) :=
  match skipBlanks input with
  | [] => .error .truncated
  | '\x7d' :: rest => .ok (none, rest)
  | '"' :: rest =>
      if first then do
        let (name, input) ← readQuoted rest
        .ok (some name, input)
      else .error .malformed
  | ',' :: rest =>
      if first then .error .malformed
      else
        match skipBlanks rest with
        | [] => .error .truncated
        | '"' :: rest => do
            let (name, input) ← readQuoted rest
            .ok (some name, input)
        | _ => .error .malformed
  | _ => .error .malformed

/-- Read the members of an object onto a state.  `member` gets the text behind
the name, colon included. -/
def membersWithin (member : String → σ → Reader σ) : Nat → Bool → σ → Reader σ
  | 0, _, _, _ => .error .truncated
  | fuel + 1, first, state, input => do
      let (name, input) ← nextName first input
      match name with
      | none => .ok (state, input)
      | some name => do
          let (state, input) ← member name state input
          membersWithin member fuel false state input

/-- Read the members of an object from behind its opening brace. -/
def readMembers (member : String → σ → Reader σ) (state : σ) : Reader σ := fun input =>
  membersWithin member (input.length + 1) true state input

/-! ### Values -/

/-- How deeply lists and objects may be nested, plus one. -/
def nestingLimit : Nat := 128

/-- Read a value with at most `depth - 1` levels of lists and objects. -/
def readValue : Nat → Reader Json
  | 0, _ => .error .malformed
  | depth + 1, input =>
      match skipBlanks input with
      | [] => .error .truncated
      | 'n' :: rest => do
          let (_, rest) ← readWord ['u', 'l', 'l'] rest
          .ok (.null, rest)
      | 't' :: rest => do
          let (_, rest) ← readWord ['r', 'u', 'e'] rest
          .ok (.bool true, rest)
      | 'f' :: rest => do
          let (_, rest) ← readWord ['a', 'l', 's', 'e'] rest
          .ok (.bool false, rest)
      | '"' :: rest => do
          let (s, rest) ← readQuoted rest
          .ok (.text s, rest)
      | '[' :: rest =>
          if depth = 0 then .error .malformed
          else do
            let (items, rest) ← readItems (readValue depth) rest
            .ok (.list items, rest)
      | '\x7b' :: rest =>
          if depth = 0 then .error .malformed
          else do
            let member (name : String) (members : List (String × Json)) :
                Reader (List (String × Json)) := fun input => do
              let input ← readColon input
              let (value, input) ← readValue depth input
              .ok (Entries.insert name value members, input)
            let (members, rest) ← readMembers member [] rest
            .ok (.object members, rest)
      | c :: rest =>
          if c = '-' ∨ (Text.digitValue? c).isSome then do
            let (n, rest) ← readNumber (c :: rest)
            .ok (.number n, rest)
          else .error .malformed

/-- Nothing but blanks may follow a document. -/
def readEnd (input : List Char) : Except Fault Unit :=
  if skipBlanks input = [] then .ok () else .error .malformed

/-- Read a text that holds one JSON value. -/
def parse (input : String) : Except Fault Json := do
  let (value, rest) ← readValue nestingLimit input.toList
  readEnd rest
  .ok value

/-! ### Values that are stepped over -/

/-- An open list or object. -/
inductive Bracket where
  | list
  | object
deriving Repr, DecidableEq

def skipName (input : List Char) : Except Fault (List Char) :=
  match skipBlanks input with
  | [] => .error .truncated
  | '"' :: rest => do
      let rest ← skipQuoted rest
      readColon rest
  | _ => .error .malformed

/-- Step over a value that is neither list nor object. -/
def skipScalar : List Char → Except Fault (List Char)
  | [] => .error .truncated
  | 'n' :: rest => (readWord ['u', 'l', 'l'] rest).map Prod.snd
  | 't' :: rest => (readWord ['r', 'u', 'e'] rest).map Prod.snd
  | 'f' :: rest => (readWord ['a', 'l', 's', 'e'] rest).map Prod.snd
  | '"' :: rest => skipQuoted rest
  | c :: rest =>
      if c = '-' ∨ (Text.digitValue? c).isSome then skipNumber (c :: rest)
      else .error .malformed

mutual

/-- Step over a value inside the brackets `open`, and on to the end of the
outermost of them. -/
def skipWithin : Nat → List Bracket → List Char → Except Fault (List Char)
  | 0, _, _ => .error .truncated
  | fuel + 1, enclosing, input =>
      match skipBlanks input with
      | '[' :: rest =>
          match skipBlanks rest with
          | [] => .error .truncated
          | ']' :: rest => skipOn fuel enclosing rest
          | rest => skipWithin fuel (.list :: enclosing) rest
      | '\x7b' :: rest =>
          match skipBlanks rest with
          | [] => .error .truncated
          | '\x7d' :: rest => skipOn fuel enclosing rest
          | rest => do
              let rest ← skipName rest
              skipWithin fuel (.object :: enclosing) rest
      | input => do
          let rest ← skipScalar input
          skipOn fuel enclosing rest

/-- Go on behind a value that stands inside the given brackets. -/
def skipOn : Nat → List Bracket → List Char → Except Fault (List Char)
  | _, [], input => .ok input
  | 0, _ :: _, _ => .error .truncated
  | fuel + 1, .list :: outer, input =>
      match skipBlanks input with
      | [] => .error .truncated
      | ',' :: rest => skipWithin fuel (.list :: outer) rest
      | ']' :: rest => skipOn fuel outer rest
      | _ => .error .malformed
  | fuel + 1, .object :: outer, input =>
      match skipBlanks input with
      | [] => .error .truncated
      | ',' :: rest => do
          let rest ← skipName rest
          skipWithin fuel (.object :: outer) rest
      | '\x7d' :: rest => skipOn fuel outer rest
      | _ => .error .malformed

end

/-- Step over a value of any depth. -/
def skipValue (input : List Char) : Except Fault (List Char) :=
  skipWithin (2 * input.length + 2) [] input

end Stagecraft.Json
