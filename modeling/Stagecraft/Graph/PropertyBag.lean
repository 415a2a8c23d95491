/-
Module: Stagecraft.Graph.PropertyBag
Purpose: The properties of one node or binding while they are being used up.
Main exports:
  PropertyBag, PropertyBag.ofEntries, Using, take, parameter, parameterOr,
  required, literal, flag, requiredText, child, requiredChild
-/
import Stagecraft.Graph.LoadError

namespace Stagecraft

/-!
A definition asks for its properties by name, one after another.  Each answer
uses up the first property of that name, letter case aside, and every problem is
noted down instead of ending the work, so one load reports all problems of a
node.  What is left over at the end was not asked for.
-/

/-- Properties that are not used up yet, with their meaning, and the problems
noted so far. -/
structure PropertyBag where
  remaining : List (String × Parameter Value) := []
  problems : List PropertyProblem := []
deriving Inhabited

/-- Work on a property bag. -/
abbrev Using (α : Type) := StateM PropertyBag α

namespace PropertyBag

/-- The bag of some properties.  A property without meaning is noted and left
out. -/
def ofEntries (entries : List PropertyEntry) : PropertyBag :=
  entries.foldl
    (fun bag entry =>
      match entry.interpret with
      | .ok value =>
          { bag with remaining := bag.remaining ++ [(Text.trim entry.name, value)] }
      | .error error =>
          { bag with
            problems := bag.problems ++ [.invalid entry.name (.meaningless error)] })
    {}

def note (problem : PropertyProblem) : Using Unit :=
  modify fun bag => { bag with problems := bag.problems ++ [problem] }

/-- Note an objection to the value of a property. -/
def object (key : String) (objection : Objection) : Using Unit :=
  note (.invalid key objection)

/-- Whether a property has a name, letter case aside. -/
def isNamed (key : String) (property : String × Parameter Value) : Bool :=
  Text.sameName property.1 key

/-- Use up the first property of a name. -/
def take (key : String) : Using (Option (Parameter Value)) := do
  let bag ← get
  match bag.remaining.find? (isNamed key) with
  | none => pure none
  | some property =>
      set { bag with remaining := bag.remaining.eraseP (isNamed key) }
      pure (some property.2)

/-- Use up a property as a parameter of a type. -/
def parameter (α : Type) [Accepts α] (key : String) : Using (Option (Parameter α)) := do
  match ← take key with
  | none => pure none
  | some property =>
      match Parameter.ofProperty α property with
      | .ok parameter => pure (some parameter)
      | .error mismatch => do
          object key (.wrongType mismatch)
          pure none

/-- Use up a property as a parameter, with a value for when it is not given. -/
def parameterOr {α : Type} [Accepts α] (key : String) (fallback : α) :
    Using (Parameter α) := do
  let given ← parameter α key
  pure (given.getD (.literal fallback))

/-- Use up a property that has to be given. -/
def required {α : Type} [Accepts α] (key : String) (fallback : α) : Using (Parameter α) := do
  let bag ← get
  if !bag.remaining.any (isNamed key) then note (.missing key)
  parameterOr key fallback

/-- Use up a property that has to be written out. -/
def literal (α : Type) [Accepts α] (key : String) : Using (Option α) := do
  match ← take key with
  | none => pure none
  | some (.variable _) => do
      object key .notLiteral
      pure none
  | some (.literal value) =>
      match Accepts.accept? value with
      | some accepted => pure (some accepted)
      | none => do
          object key
            (.wrongType { expected := Accepts.expectation α, found := value.typeName })
          pure none

def flag (key : String) (fallback : Bool) : Using Bool := do
  let given ← literal Bool key
  pure (given.getD fallback)

/-- Use up a text that may be left out and is then empty. -/
def text (key : String) : Using String := do
  let given ← literal String key
  pure (given.getD "")

/-- Use up a text that counts as left out when it is empty. -/
def someText (key : String) : Using (Option String) := do
  let given ← literal String key
  pure (given.filter fun text => !text.isEmpty)

/-- Use up a text that has to be given and not empty. -/
def requiredText (key : String) : Using String := do
  match ← someText key with
  | some text => pure text
  | none => do
      note (.missing key)
      pure ""

/-- Use up a word with a meaning of its own. -/
def word (key : String) (meaning : String → Option α) (unknown : String → Objection) :
    Using (Option α) := do
  match ← literal String key with
  | none => pure none
  | some text =>
      match meaning text with
      | some known => pure (some known)
      | none => do
          object key (unknown text)
          pure none

def animation (key : String) (fallback : AnimationKind) : Using AnimationKind := do
  let given ← word key AnimationKind.parse? .unknownAnimation
  pure (given.getD fallback)

def direction (key : String) : Using Direction := do
  let given ← word key Direction.parse? .unknownDirection
  pure (given.getD .current)

def signal : Using (Option Signal) := word "SIGNAL" Signal.parse? .unknownSignal

def priority : Using (Option Priority) := do
  match ← take "PRIORITY" with
  | none => pure none
  | some (.variable _) => do
      object "PRIORITY" .notLiteral
      pure none
  | some (.literal value) =>
      match Priority.ofValue? value with
      | some priority => pure (some priority)
      | none => do
          object "PRIORITY" (.unknownPriority value.display)
          pure none

/-- Use up a child.  A blank name is no child. -/
def child (key : String) : Using (Option Reference) := do
  match ← take key with
  | none => pure none
  | some (.variable name) => pure (some (.variable name))
  | some (.literal (.text name)) =>
      pure (if Text.isAllBlank name then none else some (.named name))
  | some (.literal other) => do
      object key (.notNodeName other.typeName)
      pure none

/-- Use up a child that has to be given. -/
def requiredChild (key : String) : Using (Option Reference) := do
  match ← child key with
  | some reference => pure (some reference)
  | none => do
      note (.missing key)
      pure none

/-- The numbered child that a left-over property gives. -/
def numberedChild (children : Children Reference)
    (property : String × Parameter Value) : Except PropertyProblem (Children Reference) :=
  let (key, value) := property
  match Text.integer? Text.Range.int64 key with
  | none => .error (.childKey key)
  | some index =>
      if children.numbered.any fun entry => entry.1 == index then .error (.childKey key)
      else
        match value with
        | .variable name => .ok (children.addNumbered index (.variable name))
        | .literal (.text name) => .ok (children.addNumbered index (.named name))
        | .literal other => .error (.invalid key (.notNodeName other.typeName))

/-- Make numbered children of all properties that are left over. -/
def takeNumbered (children : Children Reference) : Using (Children Reference) := do
  let bag ← get
  let (children, problems) :=
    bag.remaining.foldl
      (fun (children, problems) property =>
        match numberedChild children property with
        | .ok more => (more, problems)
        | .error problem => (children, problems ++ [problem]))
      (children, [])
  set { remaining := [], problems := bag.problems ++ problems : PropertyBag }
  pure children

/-- Object to all properties that are left over. -/
def refuseRest : Using Unit :=
  modify fun bag =>
    { remaining := []
      problems := bag.problems ++ bag.remaining.map fun property => .unknown property.1 }

end PropertyBag

end Stagecraft
