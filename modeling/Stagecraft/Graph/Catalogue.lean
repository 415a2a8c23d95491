/-
Module: Stagecraft.Graph.Catalogue
Purpose: All node and template declarations of a document, with their names
  still unlinked.
Main exports:
  Catalogue, Catalogue.ofDocument, Catalogue.find?, Catalogue.isBroken,
  Catalogue.spawnErrors
-/
import Stagecraft.Graph.Definition
import Stagecraft.Graph.Template

namespace Stagecraft

/-!
Nodes are numbered in the order in which they are declared: first those of the
map, then those of each template.  A node with errors gets no number, but its
name is remembered as broken, so that a second node of that name is still a
duplicate and references to it are not reported once more.
-/

/-- The declarations of a document. -/
structure Catalogue where
  nodes : List (Node Reference) := []
  broken : List (Namespace × String) := []
  templates : List TemplateDeclaration := []
deriving Inhabited

namespace Catalogue

def isAt (home : Namespace) (name : String) (node : Node ρ) : Bool :=
  node.home == home && node.name == name

/-- The number of the node of a name that is declared in a namespace. -/
def find? (catalogue : Catalogue) (home : Namespace) (name : String) : Option NodeId :=
  catalogue.nodes.findIdx? (isAt home name)

/-- Whether a name was declared with errors. -/
def isBroken (catalogue : Catalogue) (home : Namespace) (name : String) : Bool :=
  catalogue.broken.contains (home, name)

/-- The node of a name that is declared in a namespace. -/
def lookup (catalogue : Catalogue) (home : Namespace) (name : String) :
    Except LookupError (Node Reference) :=
  match catalogue.nodes.find? (isAt home name) with
  | some node => .ok node
  | none => .error (.nameNotFound home name)

/-- Declare one node of a namespace. -/
def declareNode (home : Namespace) (catalogue : Catalogue) (entry : NodeEntry) :
    Catalogue × List LoadError :=
  if Text.isAllBlank entry.name then (catalogue, [.missingName home])
  else if (catalogue.find? home entry.name).isSome || catalogue.isBroken home entry.name then
    (catalogue, [.duplicateName home entry.name])
  else
    match entry.define home with
    | .ok node => ({ catalogue with nodes := catalogue.nodes ++ [node] }, [])
    | .error errors =>
        ({ catalogue with broken := catalogue.broken ++ [(home, entry.name)] }, errors)

/-- Go through declarations one after another and gather their errors. -/
def declareAll (declare : Catalogue → α → Catalogue × List LoadError) :
    Catalogue → List α → Catalogue × List LoadError
  | catalogue, [] => (catalogue, [])
  | catalogue, entry :: rest =>
      let (catalogue, errors) := declare catalogue entry
      let (catalogue, more) := declareAll declare catalogue rest
      (catalogue, errors ++ more)

/-- Declare one template with its nodes.  Of templates with one name the first
one counts. -/
def declareTemplate (catalogue : Catalogue) (entry : TemplateEntry) :
    Catalogue × List LoadError :=
  if catalogue.templates.any fun template => template.name == entry.name then
    (catalogue, [.duplicateTemplate entry.name])
  else
    let (catalogue, nodeErrors) :=
      declareAll (declareNode (.actor entry.name)) catalogue entry.events
    let (template, errors) := entry.declare
    ({ catalogue with templates := catalogue.templates ++ [template] },
      nodeErrors ++ errors)

/-- The templates that nodes spawn although they are not declared. -/
def spawnErrors (catalogue : Catalogue) : List LoadError :=
  catalogue.nodes.filterMap fun node =>
    match node.kind with
    | .spawnActor template .. =>
        if catalogue.templates.any fun declared => declared.name == template then none
        else some (.unknownTemplate node.name template)
    | _ => none

/-- The catalogue of a document and everything that is wrong with its
declarations. -/
def ofDocument (document : Document) : Catalogue × List LoadError :=
  let (catalogue, mapErrors) := declareAll (declareNode .map) {} document.mapEvents
  let (catalogue, actorErrors) := declareAll declareTemplate catalogue document.actors
  (catalogue, mapErrors ++ actorErrors ++ catalogue.spawnErrors)

end Catalogue

end Stagecraft
