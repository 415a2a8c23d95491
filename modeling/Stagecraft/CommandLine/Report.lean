/-
Module: Stagecraft.CommandLine.Report
Purpose: What a run from the command line prints, and how it ends.
Main exports:
  Transcript, Invocation.settingsOf, Invocation.transcript, Command.perform,
  Transcript.ofWords
-/
import Stagecraft.CommandLine.Arguments
import Stagecraft.CommandLine.FileTree
import Stagecraft.Document.Reader
import Stagecraft.Simulation.World

namespace Stagecraft

/-- Everything that a program leaves behind: its exit code and its texts. -/
structure Transcript where
  exitCode : Nat := 0
  output : String := ""
  errors : String := ""
deriving Repr, DecidableEq, Inhabited

namespace Transcript

def ofLines (lines : List String) : String := String.join (lines.map (· ++ "\n"))

/-- A run that was successful. -/
def success (lines : List String) : Transcript := { output := ofLines lines }

def failure (lines : List String) : Transcript := { exitCode := 1, errors := ofLines lines }

def number (n : Nat) : String := String.ofList (Text.decimal n)

/-- The summary of the options. -/
def help : Transcript :=
  success
    [ "Behavior graph interpreter for 2D platformer actors",
      "",
      "Usage: actiongraph [OPTIONS]",
      "",
      "Options:",
      "      --config <PATH>           INI configuration file [default: ./config.ini]",
      "      --tables <PATH>           Table document to load instead of the one named in " ++
        "the configuration",
      "      --check                   Validate the tables and exit",
      "      --ticks <TICKS>           Number of ticks to simulate [default: 0]",
      "      --spawn <TEMPLATE[@X,Y]>  Actor to spawn, optionally at a position. " ++
        "Repeatable. Defaults to one actor of every template",
      "      --hold <KEY:FROM:TO>      Hold a key from tick FROM through tick TO " ++
        "(1-based). Repeatable",
      "  -h, --help                    Print help",
      "  -V, --version                 Print version" ]

def version : Transcript := success ["actiongraph 0.1.0"]

/-- A command line that cannot be understood. -/
def usage (error : UsageError) : Transcript :=
  { exitCode := 2, errors := ofLines [error.message] }

end Transcript

/-- Why a table document cannot be loaded: its text cannot be read, or it is no
document. -/
inductive TablesError where
  | unreadable (fault : ReadFault)
  | malformed (fault : Json.Fault)

def faultMessage : Json.Fault → String
  | .truncated => "the text ends too early"
  | .malformed => "the text is not JSON"
  | .wrongShape => "the text has another shape than a table document"

def TablesError.message : TablesError → String
  | unreadable fault => "failed to read tables: " ++ fault.message
  | malformed fault => "failed to parse tables: " ++ faultMessage fault

/-- The parts of a text in front of the first occurrence of a character and
behind it. -/
def splitAtFirst? (mark : Char) (text : List Char) : Option (List Char × List Char) :=
  match text.dropWhile fun c => c != mark with
  | [] => none
  | _ :: behind => some (text.takeWhile fun c => c != mark, behind)

/-- Read a template and a position, written `TEMPLATE@X,Y`; without a position
the origin is meant. -/
def parseSpawn? (text : String) : Option (String × Vec2) :=
  match splitAtFirst? '@' text.toList with
  | none => some (text, .zero)
  | some (name, place) => do
      let (x, y) ← splitAtFirst? ',' place
      let x ← Number.single? (String.ofList (Text.trimChars x))
      let y ← Number.single? (String.ofList (Text.trimChars y))
      pure (String.ofList name, { x, y })

namespace World

/-- Let the actor of a written spawn enter. -/
def spawnWritten? (world : World) (text : String) : Option World := do
  let (template, position) ← parseSpawn? text
  (world.spawn template position).toOption

def variableLine (lead : String) (entry : String × Value) : String :=
  lead ++ entry.1 ++ " = " ++ entry.2.display

/-- A point or displacement with two places. -/
def pointText (v : Vec2) : String :=
  "(" ++ Number.writeFixed 2 v.x ++ ", " ++ Number.writeFixed 2 v.y ++ ")"

def actorLines (actor : Actor) : List String :=
  let name := (actor.name.map fun name => " \"" ++ name ++ "\"").getD ""
  ("actor " ++ Transcript.number actor.id ++ " '" ++ actor.template ++ "'" ++ name ++
    ": pos=" ++ pointText actor.position ++ " vel=" ++ pointText actor.velocity ++
    " rot=" ++ Number.writeFixed 1 actor.rotation ++
    " anim=" ++ actor.pose.kind.name ++ "/" ++ actor.pose.direction.name) ::
    actor.store.entries.map (variableLine "  ")

/-- The summary of a run of some ticks. -/
def summary (world : World) (ran : Nat) : List String :=
  ("Ran " ++ Transcript.number ran ++ " tick(s)") ::
    (inOrder world.cast).flatMap actorLines ++
    world.map.store.entries.map (variableLine "map ") ++
    world.audio.sounds.map ("sound " ++ ·)

end World

namespace Invocation

/-- The settings of a run, given the text of its settings file.  A file that
cannot be read or understood is ignored. -/
def settingsOf (file : Except ReadFault String) : Settings :=
  match file with
  | .error _ => {}
  | .ok text => (({} : Settings).load text).toOption.getD {}

/-- Where the table document of a run is. -/
def tablesPath (invocation : Invocation) (settings : Settings) : String :=
  invocation.tables.getD settings.tablesPath

def checkTranscript (path : String) (document : Document) : Transcript :=
  match BehaviorGraph.load document with
  | .ok graph =>
      .success
        [path ++ ": " ++ Transcript.number graph.nodes.length ++ " nodes, " ++
          Transcript.number graph.templates.size ++ " actor templates, no errors"]
  | .error errors =>
      .failure
        (errors.map (fun error => "Error: " ++ error.message) ++
          [Transcript.number errors.length ++ " load error(s)"])

/-- The actors that enter a stage before its first tick. -/
def spawnTexts (invocation : Invocation) (world : World) : List String :=
  if invocation.spawns.isEmpty then world.graph.templates.names else invocation.spawns

/-- The stage of a run with its actors. -/
def stage? (invocation : Invocation) (world : World) : Option World :=
  (invocation.spawnTexts world).foldlM World.spawnWritten?
    { world with script := invocation.holds }

def runTranscript (invocation : Invocation) (settings : Settings) (document : Document) :
    Transcript :=
  match World.setUp settings document with
  | .error errors => .failure (errors.map fun error => "Error: " ++ error.message)
  | .ok world =>
      match invocation.stage? world with
      | none => .failure []
      | some world =>
          let (ran, world) := world.runTicks invocation.ticks settings.delta
          .success (world.summary ran)

/-- What an invocation prints, given its settings and the text of its table
document, or why that cannot be read. -/
def transcript (invocation : Invocation) (settings : Settings)
    (tables : Except ReadFault String) : Transcript :=
  let path := invocation.tablesPath settings
  let loaded : Except TablesError Document :=
    match tables with
    | .error fault => .error (.unreadable fault)
    | .ok text => (Document.parse text).mapError .malformed
  match loaded with
  | .error error => .failure ["Error loading " ++ path ++ ": " ++ error.message]
  | .ok document =>
      if invocation.check then checkTranscript path document
      else invocation.runTranscript settings document

end Invocation

/-- Carry out a command.  `read` gives the text of a file, or why it cannot be
read. -/
def Command.perform {m : Type → Type} [Monad m]
    (read : String → m (Except ReadFault String)) : Command → m Transcript
  | .help => pure .help
  | .version => pure .version
  | .run invocation => do
      let file ← read invocation.config
      let settings := Invocation.settingsOf file
      let tables ← read (invocation.tablesPath settings)
      pure (invocation.transcript settings tables)

/-- What a command line prints. -/
def Transcript.ofWords {m : Type → Type} [Monad m]
    (read : String → m (Except ReadFault String)) (words : List String) : m Transcript :=
  match Command.parse words with
  | .ok command => command.perform read
  | .error error => pure (.usage error)

end Stagecraft
