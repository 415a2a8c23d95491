/-
Module: Stagecraft.CommandLine.Arguments
Purpose: What the words of a command line ask for.
Main exports:
  Invocation, Command, UsageError, Command.parse
-/
import Stagecraft.Input.Hold

namespace Stagecraft

/-- A run that is asked for.  Without `tables` the settings name the table
document, and without `spawns` one actor of every template enters. -/
structure Invocation where
  config : String := "./config.ini"
  tables : Option String := none
  check : Bool := false
  ticks : Nat := 0
  spawns : List String := []
  holds : List KeyHold := []
deriving Repr, DecidableEq, Inhabited

/-- What a command line asks for. -/
inductive Command where
  | run (invocation : Invocation)
  | help
  | version
deriving Repr, DecidableEq, Inhabited

/-- What is wrong with a command line. -/
inductive UsageError where
  | unexpected (word : String)
  | missingValue (option : String)
  | needlessValue (option : String)
  | repeated (option : String)
  | invalidValue (option value : String)
deriving Repr, DecidableEq, Inhabited

def UsageError.message : UsageError → String
  | unexpected word => "error: unexpected argument '" ++ word ++ "' found"
  | missingValue option => "error: a value is required for '--" ++ option ++ "'"
  | needlessValue option => "error: '--" ++ option ++ "' takes no value"
  | repeated option =>
      "error: the argument '--" ++ option ++ "' cannot be used multiple times"
  | invalidValue option value =>
      "error: invalid value '" ++ value ++ "' for '--" ++ option ++ "'"

/-!
Words are read from the left, and the first obstacle decides.  An option with a
value takes it after an equals sign or from the next word; a word that begins
with a hyphen is never taken as a value, unless it is a hyphen and nothing else.
A request for help or for the version ends the reading.
-/

/-- The options with a value. -/
inductive ValueOption where
  | config
  | tables
  | ticks
  | spawn
  | hold
deriving Repr, DecidableEq, Inhabited

namespace ValueOption

def all : List ValueOption := [config, tables, ticks, spawn, hold]

def name : ValueOption → String
  | config => "config"
  | tables => "tables"
  | ticks => "ticks"
  | spawn => "spawn"
  | hold => "hold"

def ofName? (name : String) : Option ValueOption :=
  all.find? fun option => option.name == name

/-- Whether an option may be given several times. -/
def isRepeatable : ValueOption → Bool
  | spawn | hold => true
  | _ => false

/-- Set an option to a value, if it is a value of that option. -/
def store? (option : ValueOption) (value : String) (invocation : Invocation) :
    Option Invocation :=
  match option with
  | config => if value.isEmpty then none else some { invocation with config := value }
  | tables => if value.isEmpty then none else some { invocation with tables := some value }
  | ticks =>
      (Text.integer? .word64 value).map fun n => { invocation with ticks := n.toNat }
  | spawn => some { invocation with spawns := invocation.spawns ++ [value] }
  | hold =>
      (KeyHold.parse value).toOption.map fun hold =>
        { invocation with holds := invocation.holds ++ [hold] }

end ValueOption

/-- An invocation under construction, with the names of the options it has
got. -/
structure Parsing where
  invocation : Invocation := {}
  given : List String := []

namespace Parsing

def give (parsing : Parsing) (option : ValueOption) (value : String) :
    Except UsageError Parsing :=
  if option.name ∈ parsing.given && !option.isRepeatable then .error (.repeated option.name)
  else
    match option.store? value parsing.invocation with
    | some invocation => .ok { invocation, given := option.name :: parsing.given }
    | none => .error (.invalidValue option.name value)

/-- Ask for a check instead of a run. -/
def giveCheck (parsing : Parsing) : Except UsageError Parsing :=
  if "check" ∈ parsing.given then .error (.repeated "check")
  else
    .ok
      { invocation := { parsing.invocation with check := true }
        given := "check" :: parsing.given }

end Parsing

/-- A word of a command line. -/
inductive Word where
  | long (name : String) (value : Option String)
  | short (flag : Char)
  | endOfOptions
  | plain (text : String)
deriving Repr, DecidableEq, Inhabited

/-- The kind of a word. -/
def Word.ofText (text : String) : Word :=
  match text.toList with
  | ['-', '-'] => .endOfOptions
  | '-' :: '-' :: rest =>
      let isName := fun c : Char => c != '='
      let value :=
        match rest.dropWhile isName with
        | [] => none
        | _ :: value => some (String.ofList value)
      .long (String.ofList (rest.takeWhile isName)) value
  | '-' :: flag :: _ => .short flag
  | _ => .plain text

/-- Read the words of a command line behind those that were read. -/
def readWords : Parsing → List String → Except UsageError Command
  | parsing, [] => .ok (.run parsing.invocation)
  | parsing, text :: rest =>
      match Word.ofText text with
      | .endOfOptions =>
          match rest with
          | [] => .ok (.run parsing.invocation)
          | word :: _ => .error (.unexpected word)
      | .plain word => .error (.unexpected word)
      | .short 'h' | .long "help" none => .ok .help
      | .short 'V' | .long "version" none => .ok .version
      | .short _ => .error (.unexpected text)
      | .long "check" none => do
          let parsing ← parsing.giveCheck
          readWords parsing rest
      | .long name value =>
          match ValueOption.ofName? name, value with
          | some option, some value => do
              let parsing ← parsing.give option value
              readWords parsing rest
          | some option, none =>
              match rest with
              | [] => .error (.missingValue name)
              | next :: rest =>
                  match Word.ofText next with
                  | .plain value => do
                      let parsing ← parsing.give option value
                      readWords parsing rest
                  | _ => .error (.missingValue name)
          | none, _ =>
              if name ∈ ["help", "version", "check"] then .error (.needlessValue name)
              else .error (.unexpected text)

/-- What a command line asks for, given as its words. -/
def Command.parse (words : List String) : Except UsageError Command := readWords {} words

end Stagecraft
