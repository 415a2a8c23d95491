/-
Module: Stagecraft.Proofs.DefaultCast
Purpose: Who enters when the command line asks for nobody: one actor of every template
  whose name can be read as a spawn.
Main exports:
  parseSpawn?_of_plain, notMem_of_parseSpawn?, World.defaultSpawn, World.IsCastOf,
  Invocation.exists_stage?_of_plain, default_cast_is_one_of_each, hero_does_not_enter
-/
import Stagecraft.CommandLine.Report
import Stagecraft.Proofs.FaithfulLinks
import Stagecraft.Proofs.SpawnDelivery
import Mathlib.Data.List.TakeWhile

namespace Stagecraft

/-!
Without a spawn on the command line the names of all templates are taken for written
spawns.  They are read like written ones, and so the first `@` of a name ends it.
-/

/-! ### Written spawns -/

/-- A text that cannot be split does not have the mark. -/
theorem splitAtFirst?_eq_none_iff {mark : Char} {text : List Char} :
    splitAtFirst? mark text = none ↔ mark ∉ text := by
  have dropped : text.dropWhile (fun c => c != mark) = [] ↔ mark ∉ text := by
    simp only [List.dropWhile_eq_nil_iff, bne_iff_ne, ne_eq]
    exact ⟨fun all member => all _ member rfl, fun absent c member same => absent (same ▸ member)⟩
  rw [← dropped]
  unfold splitAtFirst?
  cases text.dropWhile fun c => c != mark <;> simp

/-- The front is what stands before the first mark. -/
theorem notMem_of_splitAtFirst? {mark : Char} {text front behind : List Char}
    (parts : splitAtFirst? mark text = some (front, behind)) : mark ∉ front := by
  unfold splitAtFirst? at parts
  cases rest : text.dropWhile fun c => c != mark with
  | nil => simp [rest] at parts
  | cons head tail =>
      simp only [rest, Option.some.injEq, Prod.mk.injEq] at parts
      exact (cut_iff.mp ⟨parts.1, head, rest⟩).2

/-- A name without an `@` is the spawn of its template at the origin. -/
theorem parseSpawn?_of_plain {name : String} (plain : '@' ∉ name.toList) :
    parseSpawn? name = some (name, .zero) := by
  unfold parseSpawn?
  rw [splitAtFirst?_eq_none_iff.mpr plain]

/-- No spawn is read as that of a template with an `@` in its name. -/
theorem notMem_of_parseSpawn? {text template : String} {position : Vec2}
    (read : parseSpawn? text = some (template, position)) : '@' ∉ template.toList := by
  unfold parseSpawn? at read
  cases cut : splitAtFirst? '@' text.toList with
  | none =>
      rw [cut] at read
      cases read
      exact splitAtFirst?_eq_none_iff.mp cut
  | some parts =>
      obtain ⟨name, place⟩ := parts
      rw [cut] at read
      obtain ⟨point, -, read⟩ := Option.bind_eq_some_iff.mp read
      obtain ⟨x, -, read⟩ := Option.bind_eq_some_iff.mp read
      obtain ⟨y, -, read⟩ := Option.bind_eq_some_iff.mp read
      cases read
      rw [String.toList_ofList]
      exact notMem_of_splitAtFirst? cut

/-- What every step keeps, a sequence of them keeps. -/
theorem foldlM_keeps {α β : Type} {P : β → Prop} {step : β → α → Option β}
    (keeps : ∀ {before x after}, step before x = some after → P before → P after)
    {xs : List α} {first last : β} (folded : xs.foldlM step first = some last) (begun : P first) :
    P last := by
  induction xs generalizing first with
  | nil =>
      cases folded
      exact begun
  | cons x rest ih =>
      rw [List.foldlM_cons] at folded
      obtain ⟨next, made, folded⟩ := Option.bind_eq_some_iff.mp folded
      exact ih folded (keeps made begun)

/-! ### The names of all templates as spawns -/

namespace BehaviorGraph

variable {graph : BehaviorGraph} {name : String}

/-- The names of the graph are those of the templates that it finds. -/
theorem mem_names_templates_iff :
    name ∈ graph.templates.names ↔ ∃ template, graph.template name = .ok template := by
  rw [Dictionary.mem_names_iff]
  unfold template
  cases graph.templates.find? name <;> simp

/-- The templates of a graph are those that its document declares. -/
theorem mem_names_templates_of_load_iff {document : Document}
    (loaded : BehaviorGraph.load document = .ok graph) :
    name ∈ graph.templates.names ↔ name ∈ document.actors.map TemplateEntry.name := by
  rw [mem_names_templates_iff]
  obtain ⟨catalogue, declares, -, rfl⟩ := load_eq_ok_iff.mp loaded
  constructor
  · intro ⟨template, known⟩
    exact declares.mem_of_template_linked known
  · intro declared
    obtain ⟨entry, member, rfl⟩ := List.mem_map.mp declared
    exact ⟨_, declares.template_linked member⟩

end BehaviorGraph

namespace World

/-- An actor of a template that enters at the origin, without a name. -/
def defaultSpawn (name : String) : Spawn :=
  { template := name, layer := "", position := .zero, name := none }

/-- A cast of one new actor of each of some templates, at the origin and numbered in the order
of the templates. -/
structure IsCastOf (graph : BehaviorGraph) (names : List String) (cast : List Actor) : Prop where
  fulfils : List.Forall₂ (fun name actor => (defaultSpawn name).FulfilledBy graph actor) names cast
  numbers : cast.map Actor.id = List.range names.length

variable {world : World}

/-- A written spawn lets an actor of the template enter that is read from it. -/
theorem spawnWritten?_eq_some_iff {text : String} {after : World} :
    world.spawnWritten? text = some after ↔
      ∃ name position template, parseSpawn? text = some (name, position) ∧
        world.graph.template name = .ok template ∧
        after = world.addActor template position none := by
  unfold spawnWritten?
  constructor
  · intro enters
    obtain ⟨⟨name, position⟩, read, enters⟩ := Option.bind_eq_some_iff.mp enters
    obtain ⟨template, known, rfl⟩ := exists_of_spawn (toOption_eq_some_iff.mp enters)
    exact ⟨name, position, template, read, known, rfl⟩
  · rintro ⟨name, position, template, read, known, rfl⟩
    simp only [read, Option.bind_eq_bind, Option.bind_some, spawn, known]
    rfl

theorem graph_carryOutSpawn (world : World) (spawn : Spawn) :
    (world.carryOutSpawn spawn).graph = world.graph := by
  unfold carryOutSpawn
  split <;> rfl

/-- Names without an `@` are spawned one after another. -/
theorem foldlM_spawnWritten? (world : World) {names : List String}
    (plain : ∀ name ∈ names, '@' ∉ name.toList)
    (known : ∀ name ∈ names, ∃ template, world.graph.template name = .ok template) :
    names.foldlM spawnWritten? world =
      some ((names.map defaultSpawn).foldl carryOutSpawn world) := by
  induction names generalizing world with
  | nil => rfl
  | cons name rest ih =>
      obtain ⟨plainName, plainRest⟩ := List.forall_mem_cons.mp plain
      obtain ⟨⟨template, here⟩, knownRest⟩ := List.forall_mem_cons.mp known
      have enters : world.spawnWritten? name = some (world.carryOutSpawn (defaultSpawn name)) := by
        apply spawnWritten?_eq_some_iff.mpr
        refine ⟨name, .zero, template, parseSpawn?_of_plain plainName, here, ?_⟩
        simp only [carryOutSpawn, defaultSpawn, here]
      rw [← graph_carryOutSpawn world (defaultSpawn name)] at knownRest
      rw [List.foldlM_cons, enters, Option.bind_eq_bind, Option.bind_some, ih _ plainRest knownRest]
      rfl

/-- Where all names are known, one actor of each enters. -/
theorem isCastOf_newcomers {graph : BehaviorGraph} (titled : graph.Titled) {names : List String}
    (known : ∀ name ∈ names, ∃ template, graph.template name = .ok template) :
    IsCastOf graph names (newcomers graph 0 (names.map defaultSpawn)) := by
  have all : ∀ spawn ∈ names.map defaultSpawn, ∃ template,
      graph.template spawn.template = .ok template := List.forall_mem_map.mpr known
  have fulfilled := newcomers_fulfil titled all 0
  constructor
  · exact List.forall₂_map_left_iff.mp fulfilled
  · rw [newcomers_ids, ← fulfilled.length_eq, List.length_map, List.range_eq_range']

/-- A stage on which nobody is of a template with an `@` in its name. -/
structure Plain (world : World) : Prop where
  titled : world.graph.Titled
  cast : ∀ actor ∈ world.cast, '@' ∉ actor.template.toList

/-- A written spawn never names a template with an `@` in its name. -/
theorem Plain.spawnWritten? (plain : world.Plain) {text : String} {after : World}
    (enters : world.spawnWritten? text = some after) : after.Plain := by
  obtain ⟨name, position, template, read, known, rfl⟩ := spawnWritten?_eq_some_iff.mp enters
  constructor
  case titled => exact plain.titled
  case cast =>
    rw [addActor_eq]
    intro actor member
    rcases List.mem_append.mp member with old | new
    · exact plain.cast actor old
    · rw [List.mem_singleton.mp new, Template.actor, plain.titled _ _ known]
      exact notMem_of_parseSpawn? read

/-- A world in which nothing has happened stays so while actors enter it. -/
theorem Plain.foldlM_spawnWritten? (plain : world.Plain) {texts : List String} {stage : World}
    (enters : texts.foldlM World.spawnWritten? world = some stage) : stage.Plain :=
  foldlM_keeps (fun made plain => plain.spawnWritten? made) enters plain

end World

namespace Invocation

variable {invocation : Invocation} {settings : Settings} {document : Document} {world : World}

/-- Without spawns on the command line, templates with plain names enter in their order. -/
theorem exists_stage?_of_plain (made : World.setUp settings document = .ok world)
    (noSpawns : invocation.spawns = [])
    (plain : ∀ name ∈ world.graph.templates.names, '@' ∉ name.toList) :
    ∃ stage, invocation.stage? world = some stage ∧
      World.IsCastOf world.graph world.graph.templates.names stage.cast := by
  have known : ∀ name ∈ world.graph.templates.names, ∃ template,
      world.graph.template name = .ok template :=
    fun _ member => BehaviorGraph.mem_names_templates_iff.mp member
  have titled := BehaviorGraph.load_titled (World.exists_of_setUp made).1
  have cast := World.isCastOf_newcomers titled known
  have enters := World.foldlM_spawnWritten? { world with script := invocation.holds } plain known
  rw [World.foldl_carryOutSpawn] at enters
  unfold stage? spawnTexts
  rw [noSpawns, List.isEmpty_nil, if_pos rfl]
  refine ⟨_, enters, ?_⟩
  obtain ⟨graph, -, rfl⟩ := exists_of_map_eq_ok made
  exact cast

/-- Whoever enters has no `@` in the name of its template. -/
theorem plain_of_stage? (made : World.setUp settings document = .ok world) {stage : World}
    (enters : invocation.stage? world = some stage) :
    ∀ actor ∈ stage.cast, '@' ∉ actor.template.toList := by
  obtain ⟨loaded, nobody, -⟩ := World.exists_of_setUp made
  have begun : World.Plain { world with script := invocation.holds } :=
    { titled := BehaviorGraph.load_titled loaded
      cast := by simp [nobody] }
  exact (begun.foldlM_spawnWritten? enters).cast

/-- What a run prints: the summary of its ticks from the stage with all actors, or nothing if
one of them cannot enter. -/
def outcome (invocation : Invocation) (settings : Settings) : Option World → Transcript
  | none => .failure []
  | some stage =>
      let ended := stage.runTicks invocation.ticks settings.delta
      .success (ended.2.summary ended.1)

/-- After a set-up that succeeds, the transcript is that of the stage. -/
theorem transcript_eq_outcome (made : World.setUp settings document = .ok world)
    (noCheck : invocation.check = false) {text : String}
    (parsed : Document.parse text = .ok document) :
    invocation.transcript settings (.ok text) =
      invocation.outcome settings (invocation.stage? world) := by
  simp only [transcript, parsed, Except.mapError, noCheck, Bool.false_eq_true, if_false,
    runTranscript, made]
  cases invocation.stage? world <;> rfl

/-- **The default cast is one of each.**  Without a spawn on the command line, the names of all
declared templates are spawned in their order.  One new actor of each enters, at the origin and
numbered in that order, exactly if no name has an `@` in it; nobody enters whose template has
one.  From that stage the ticks of the run begin, and it ends well exactly if it comes about. -/
theorem default_cast_is_one_of_each (made : World.setUp settings document = .ok world)
    (noSpawns : invocation.spawns = []) (noCheck : invocation.check = false) :
    let names := world.graph.templates.names
    names.Pairwise (· < ·) ∧
      (∀ name, name ∈ names ↔ name ∈ document.actors.map TemplateEntry.name) ∧
      ((∃ stage, invocation.stage? world = some stage ∧
          World.IsCastOf world.graph names stage.cast) ↔
        ∀ name ∈ names, '@' ∉ name.toList) ∧
      (∀ stage, invocation.stage? world = some stage →
        ∀ actor ∈ stage.cast, '@' ∉ actor.template.toList) ∧
      ∀ text, Document.parse text = .ok document →
        let transcript := invocation.transcript settings (.ok text)
        transcript = invocation.outcome settings (invocation.stage? world) ∧
          (transcript.exitCode = 0 ↔ ∃ stage, invocation.stage? world = some stage) := by
  intro names
  have loaded := (World.exists_of_setUp made).1
  have all : (∃ stage, invocation.stage? world = some stage ∧
      World.IsCastOf world.graph names stage.cast) ↔ ∀ name ∈ names, '@' ∉ name.toList := by
    constructor
    · intro ⟨stage, enters, cast⟩ name member
      obtain ⟨actor, inside, fulfils⟩ := exists_of_forall₂_of_mem cast.fulfils.flip member
      have same : actor.template = name := fulfils.template
      rw [← same]
      exact plain_of_stage? made enters actor inside
    · exact exists_stage?_of_plain made noSpawns
  apply And.intro world.graph.templates.pairwise_names
  apply And.intro fun name => BehaviorGraph.mem_names_templates_of_load_iff loaded
  apply And.intro all
  apply And.intro fun stage enters => plain_of_stage? made enters
  intro text parsed transcript
  have same : transcript = _ := transcript_eq_outcome made noCheck parsed
  apply And.intro same
  rw [same]
  cases invocation.stage? world with
  | none => simp [outcome, Transcript.failure]
  | some stage => simp [outcome, Transcript.success]

end Invocation

/-- A circus with two templates. -/
def circus : Document := { actors := [{ name := "Clown" }, { name := "Acrobat" }] }

/-- The circus as it is written. -/
def circusText : String :=
  "\x7b\"actors\":[\x7b\"name\":\"Clown\"\x7d,\x7b\"name\":\"Acrobat\"\x7d]\x7d"

theorem parse_circusText : Document.parse circusText = .ok circus := by cbv

def emptyRing : World := (World.setUp {} circus).toOption.getD default

theorem setUp_emptyRing : World.setUp {} circus = .ok emptyRing := by rfl

namespace Invocation

/-- The acrobat enters first, and the clown second. -/
theorem default_cast_is_one_of_each_circus :
    World.setUp {} circus = .ok emptyRing ∧
      ∃ stage, ({} : Invocation).stage? emptyRing = some stage ∧
      stage.cast.map Actor.template = ["Acrobat", "Clown"] ∧
      stage.cast.map Actor.id = [0, 1] ∧
      (({} : Invocation).transcript {} (.ok circusText)).exitCode = 0 := by
  have noSpawns : ({} : Invocation).spawns = [] := rfl
  have noCheck : ({} : Invocation).check = false := rfl
  obtain ⟨-, -, all, -, ends⟩ := default_cast_is_one_of_each setUp_emptyRing noSpawns noCheck
  obtain ⟨stage, enters, cast⟩ := all.mpr (by decide)
  have templates : stage.cast.map Actor.template = ["Acrobat", "Clown"] :=
    (map_eq_map_of_forall₂ (f := id) (cast.fulfils.imp fun _ _ fulfils => fulfils.template)).trans
      (by decide)
  exact ⟨setUp_emptyRing, stage, enters, templates, cast.numbers.trans (by decide),
    (ends circusText parse_circusText).2.mpr ⟨stage, enters⟩⟩

end Invocation

/-- A hideout with a template whose name is read as a spawn at a place. -/
def hideout : Document := { actors := [{ name := "Hero@home" }] }

/-- The hideout as it is written. -/
def hideoutText : String := "\x7b\"actors\":[\x7b\"name\":\"Hero@home\"\x7d]\x7d"

/-- The document loads, but the hero does not enter, and the run ends with an error. -/
theorem hero_does_not_enter :
    ∃ world, Document.parse hideoutText = .ok hideout ∧ World.setUp {} hideout = .ok world ∧
      world.graph.templates.names = ["Hero@home"] ∧
      ({} : Invocation).stage? world = none ∧
      (({} : Invocation).transcript {} (.ok hideoutText)).exitCode = 1 := by
  have parsed : Document.parse hideoutText = .ok hideout := by cbv
  have made : World.setUp {} hideout =
      .ok ((World.setUp {} hideout).toOption.getD default) := by rfl
  refine ⟨_, parsed, made, by decide, ?_, ?_⟩
  · rfl
  · rw [Invocation.transcript_eq_outcome made rfl parsed]
    rfl

end Stagecraft
