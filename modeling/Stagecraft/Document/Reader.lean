/-
Module: Stagecraft.Document.Reader
Purpose: The shape of the table document as JSON text.
Main exports:
  Document.parse
-/
import Stagecraft.Document.Basic
import Stagecraft.Json.Record

namespace Stagecraft

open Json (Field Reader readText readOptionalText readSingle readList readTextMap
  readRecord readValue)

/-- A property: a name, perhaps a declared type, and any value. -/
def PropertyEntry.read : Nat → Reader PropertyEntry :=
  readRecord
    (fun depth =>
      [ .required "name" readText fun entry name => { entry with name },
        .optional "type" readOptionalText fun entry declared => { entry with declared },
        .required "value" (readValue depth) fun entry value => { entry with value } ])
    { name := "", value := .null }

/-- A node: perhaps a name, a kind, and perhaps properties. -/
def NodeEntry.read : Nat → Reader NodeEntry :=
  readRecord
    (fun depth =>
      [ .optional "name" readText fun entry name => { entry with name },
        .required "kind" readText fun entry kind => { entry with kind },
        .optional "properties" (readList PropertyEntry.read depth)
          fun entry properties => { entry with properties } ])
    { kind := "" }

/-- A binding: a key and perhaps properties. -/
def BindingEntry.read : Nat → Reader BindingEntry :=
  readRecord
    (fun depth =>
      [ .required "key" readText fun entry key => { entry with key },
        .optional "properties" (readList PropertyEntry.read depth)
          fun entry properties => { entry with properties } ])
    { key := "" }

/-- A hitbox: a name, perhaps an offset, and a size. -/
def HitboxEntry.read : Nat → Reader HitboxEntry :=
  readRecord
    (fun _ =>
      [ .required "name" readText fun entry name => { entry with name },
        .optional "x" readSingle fun entry x => { entry with x },
        .optional "y" readSingle fun entry y => { entry with y },
        .required "width" readSingle fun entry width => { entry with width },
        .required "height" readSingle fun entry height => { entry with height } ])
    { name := "", width := 0, height := 0 }

/-- A solid: a corner and a size. -/
def SolidEntry.read : Nat → Reader SolidEntry :=
  readRecord
    (fun _ =>
      [ .required "x" readSingle fun entry x => { entry with x },
        .required "y" readSingle fun entry y => { entry with y },
        .required "width" readSingle fun entry width => { entry with width },
        .required "height" readSingle fun entry height => { entry with height } ])
    { x := 0, y := 0, width := 0, height := 0 }

/-- A template: a name and perhaps everything else. -/
def TemplateEntry.read : Nat → Reader TemplateEntry :=
  readRecord
    (fun depth =>
      [ .required "name" readText fun entry name => { entry with name },
        .optional "events" (readList NodeEntry.read depth)
          fun entry events => { entry with events },
        .optional "bindings" (readList BindingEntry.read depth)
          fun entry bindings => { entry with bindings },
        .optional "responses" (readTextMap depth)
          fun entry responses => { entry with responses },
        .optional "hitboxes" (readList HitboxEntry.read depth)
          fun entry hitboxes => { entry with hitboxes } ])
    { name := "" }

/-- The document: every part may be left out. -/
def Document.read : Nat → Reader Document :=
  readRecord
    (fun depth =>
      [ .optional "map_events" (readList NodeEntry.read depth)
          fun document mapEvents => { document with mapEvents },
        .optional "actors" (readList TemplateEntry.read depth)
          fun document actors => { document with actors },
        .optional "solids" (readList SolidEntry.read depth)
          fun document solids => { document with solids } ])
    {}

/-- Read the table document of a stage. -/
def Document.parse (input : String) : Except Json.Fault Document :=
  Json.parseAs Document.read input

end Stagecraft
