/-
Module: Stagecraft.Proofs.Ticks
Purpose: What the parts of a tick do to the cast and to the animations, and what holds of
  every stage between two ticks.
Main exports:
  World.newcomers, World.act_eq, AnimationRuns.OwnedBy, World.Orderly, World.Tidy,
  Orderly.tick, World.Reachable, Reachable.tidy
-/
import Stagecraft.Proofs.Loading
import Stagecraft.Proofs.Turns
import Stagecraft.Simulation.World

namespace Stagecraft

/-! ### Animations and their owners -/

namespace AnimationRuns

variable {animations : AnimationRuns} {owners : List ActorId}

/-- All running animations belong to some actors. -/
def OwnedBy (animations : AnimationRuns) (owners : List ActorId) : Prop :=
  ∀ entry ∈ animations.runs, entry.1.1 ∈ owners

theorem mem_store {key : RunKey} {run : AnimationRun} {runs : List (RunKey × AnimationRun)}
    {entry : RunKey × AnimationRun} (member : entry ∈ store key run runs) :
    entry = (key, run) ∨ entry ∈ runs := by
  induction runs with
  | nil => exact .inl (List.mem_singleton.mp member)
  | cons head rest ih =>
      simp only [store] at member
      split at member
      · rcases List.mem_cons.mp member with same | later
        · exact .inl same
        · exact .inr (List.mem_cons_of_mem _ later)
      · rcases List.mem_cons.mp member with same | later
        · exact .inr (List.mem_cons.mpr (.inl same))
        · rcases ih later with same | old
          · exact .inl same
          · exact .inr (List.mem_cons_of_mem _ old)

/-- A request of an owner leaves the animations to the owners. -/
theorem OwnedBy.request (owned : animations.OwnedBy owners) {key : RunKey}
    (member : key.1 ∈ owners) (request : AnimationRequest) :
    (animations.request key request).2.OwnedBy owners := by
  intro entry inside
  simp only [AnimationRuns.request] at inside
  split at inside
  · split at inside <;> exact owned entry inside
  · split at inside
    · exact owned entry (List.mem_filter.mp inside).1
    · rcases mem_store inside with same | old
      · rw [same]
        exact member
      · exact owned entry old

theorem OwnedBy.sweep (owned : animations.OwnedBy owners) : animations.sweep.OwnedBy owners := by
  intro entry inside
  obtain ⟨old, kept, same⟩ := List.mem_map.mp inside
  rw [← same]
  exact owned old (List.mem_filter.mp kept).1

/-- To forget several actors is to keep what belongs to none of them. -/
theorem foldl_forget (actors : List Actor) (animations : AnimationRuns) :
    actors.foldl (fun runs actor => runs.forget actor.id) animations =
      { animations with
        runs := animations.runs.filter fun entry =>
          actors.all fun actor => entry.1.1 != actor.id } := by
  induction actors generalizing animations with
  | nil => simp
  | cons actor rest ih =>
      rw [List.foldl_cons, ih]
      simp only [forget, List.filter_filter, List.all_cons, Bool.and_comm]

end AnimationRuns

/-! ### Actors that enter -/

/-- A new actor of a template. -/
def Template.actor (template : Template) (id : ActorId) (position : Vec2)
    (name : Option String) : Actor :=
  { id, template := template.name, name, hitboxes := template.hitboxes, position }

namespace World

variable {world : World}

theorem addActor_eq (world : World) (template : Template) (position : Vec2)
    (name : Option String) :
    world.addActor template position name =
      { world with
        nextId := world.nextId + 1
        cast := world.cast ++ [template.actor world.nextId position name] } := rfl

/-- The actors that enter for some spawns, numbered from `next` on. -/
def newcomers (graph : BehaviorGraph) : ActorId → List Spawn → List Actor
  | _, [] => []
  | next, spawn :: rest =>
      match graph.template spawn.template with
      | .ok template =>
          template.actor next spawn.position spawn.name :: newcomers graph (next + 1) rest
      | .error _ => newcomers graph next rest

/-- Spawns only add actors and use up their numbers. -/
theorem foldl_carryOutSpawn (spawns : List Spawn) (world : World) :
    spawns.foldl carryOutSpawn world =
      { world with
        cast := world.cast ++ newcomers world.graph world.nextId spawns
        nextId := world.nextId + (newcomers world.graph world.nextId spawns).length } := by
  induction spawns generalizing world with
  | nil => simp [newcomers]
  | cons spawn rest ih =>
      rw [List.foldl_cons, ih]
      simp only [carryOutSpawn, newcomers]
      cases world.graph.template spawn.template with
      | error _ => rfl
      | ok template =>
          simp only [addActor_eq, List.append_assoc, List.singleton_append, List.length_cons]
          congr 1
          exact Nat.add_right_comm _ _ _

/-- Those who enter are numbered one after another. -/
theorem newcomers_ids (graph : BehaviorGraph) (next : ActorId) (spawns : List Spawn) :
    (newcomers graph next spawns).map Actor.id =
      List.range' next (newcomers graph next spawns).length := by
  induction spawns generalizing next with
  | nil => rfl
  | cons spawn rest ih =>
      simp only [newcomers]
      cases graph.template spawn.template with
      | error _ => exact ih next
      | ok template =>
          simp only [List.map_cons, List.length_cons, List.range'_succ, ih (next + 1)]
          rfl

/-- Everybody who enters was asked for, by the name of a template that is declared. -/
theorem exists_of_mem_newcomers {graph : BehaviorGraph} {next : ActorId} {spawns : List Spawn}
    {actor : Actor} (member : actor ∈ newcomers graph next spawns) :
    ∃ spawn ∈ spawns, ∃ template, graph.template spawn.template = .ok template ∧
      actor = template.actor actor.id spawn.position spawn.name := by
  induction spawns generalizing next with
  | nil => cases member
  | cons spawn rest ih =>
      simp only [newcomers] at member
      split at member
      · next template known =>
          rcases List.mem_cons.mp member with same | later
          · exact ⟨spawn, List.mem_cons_self, template, known, by rw [same]; rfl⟩
          · obtain ⟨other, inside, rest⟩ := ih later
            exact ⟨other, List.mem_cons_of_mem _ inside, rest⟩
      · obtain ⟨other, inside, rest⟩ := ih member
        exact ⟨other, List.mem_cons_of_mem _ inside, rest⟩

/-! ### The parts of a tick -/

/-- The stage after the turns of all actors, before anything that they ask for is done. -/
def turned (world : World) : World :=
  { world with
    cast := world.behave.1
    map := { world.map with store := world.behave.2.map }
    animations := world.behave.2.animation.sweep }

/-- The actors that the requests of the turns let enter. -/
def entering (world : World) : List Actor :=
  newcomers world.graph world.nextId
    (world.queue ++ world.behave.2.requests.filterMap spawnOf?)

/-- What a tick does with the stage, in one piece. -/
theorem act_eq (world : World) :
    world.act =
      { world.turned with
        cast := world.turned.cast ++ world.entering
        nextId := world.nextId + world.entering.length
        map := world.behave.2.requests.foldl MapState.apply world.turned.map
        audio := world.behave.2.requests.foldl AudioLog.apply world.audio
        queue := [] } := by
  simp only [act, carryOut, foldl_carryOutSpawn, entering, turned]

/-- A tick reads the keys, and then its parts follow. -/
theorem tick_eq (world : World) (time : Float32) :
    world.tick time = (world.readKeys time).act.dismiss.switchMap := rfl

theorem dismiss_eq (world : World) :
    world.dismiss =
      { world with
        cast := world.cast.filter fun actor => !actor.isLeaving
        animations :=
          { world.animations with
            runs := world.animations.runs.filter fun entry =>
              (world.cast.filter Actor.isLeaving).all fun actor => entry.1.1 != actor.id } } := by
  simp only [dismiss, AnimationRuns.foldl_forget]

/-- Switching the map changes the map and at most forgets the animations. -/
theorem switchMap_eq (world : World) :
    world.switchMap =
      { world with
        map := world.map.takePending.2
        animations :=
          if world.map.pending.isSome then world.animations.clear else world.animations } := by
  simp only [switchMap, MapState.takePending]
  cases world.map.pending <;> rfl

end World

/-! ### Between the ticks -/

/-- Templates are known under their own names. -/
def BehaviorGraph.Titled (graph : BehaviorGraph) : Prop :=
  ∀ name template, graph.template name = .ok template → template.name = name

/-- The templates of a loaded graph have different names. -/
theorem BehaviorGraph.load_titled {document : Document} {graph : BehaviorGraph}
    (loaded : BehaviorGraph.load document = .ok graph) : graph.Titled := by
  intro name template known
  obtain ⟨catalogue, -, -, rfl⟩ := load_eq_ok_iff.mp loaded
  obtain ⟨declaration, -, named, rfl⟩ := Catalogue.exists_of_template_linked known
  exact named

namespace World

/-- A stage on which all actors have different numbers that were handed out before, and known
templates, and on which all running animations belong to actors. -/
structure Orderly (world : World) : Prop where
  titled : world.graph.Titled
  distinct : (world.cast.map Actor.id).Nodup
  below : ∀ actor ∈ world.cast, actor.id < world.nextId
  known : ∀ actor ∈ world.cast, ∃ template,
    world.graph.template actor.template = .ok template
  owned : world.animations.OwnedBy (world.cast.map Actor.id)

/-- A stage between two ticks: nobody is about to leave or to enter, and no map is
pending. -/
structure Tidy (world : World) : Prop extends Orderly world where
  staying : ∀ actor ∈ world.cast, actor.isLeaving = false
  settled : world.map.pending = none
  expectsNobody : world.queue = []

variable {world : World}

theorem inOrder_perm (cast : List Actor) : (inOrder cast).Perm cast :=
  List.mergeSort_perm cast _

theorem inOrder_of_ascending {cast : List Actor}
    (ascending : cast.Pairwise fun first second => first.id ≤ second.id) :
    inOrder cast = cast := by
  apply List.mergeSort_of_pairwise
  simpa using ascending

/-- What the turns make of an actor: somebody with its number and its template. -/
theorem forall₂_behave (world : World) :
    List.Forall₂ (fun before after : Actor =>
        after.id = before.id ∧ after.template = before.template)
      (inOrder world.cast) world.behave.1 := by
  apply Surroundings.forall₂_turns
  intro actor _ state
  have respects : world.surroundings.Respects fun scene =>
      scene.actor.id = actor.id ∧ scene.actor.template = actor.template :=
    { change := by
        intro _ _ _ _ _ change same
        cases change <;> exact same
      sustain := fun _ _ same => same }
  exact respects.turn _ _ ⟨rfl, rfl⟩ ⟨rfl, rfl⟩

/-- The turns change nobody's number. -/
theorem behave_ids (world : World) :
    (world.behave.1.map Actor.id).Perm (world.cast.map Actor.id) := by
  have same : world.behave.1.map Actor.id = (inOrder world.cast).map Actor.id :=
    map_eq_map_of_forall₂ (world.forall₂_behave.imp fun _ _ both => both.1)
  rw [same]
  exact (inOrder_perm world.cast).map Actor.id

/-- Actors only ask for animations of their own. -/
theorem Orderly.owned_behave (orderly : world.Orderly) :
    world.behave.2.animation.OwnedBy (world.cast.map Actor.id) := by
  apply Surroundings.turns_keep fun state : TurnState AnimationRuns =>
    state.animation.OwnedBy (world.cast.map Actor.id)
  · intro actor member state owned
    have inside : actor.id ∈ world.cast.map Actor.id :=
      List.mem_map_of_mem ((inOrder_perm world.cast).mem_iff.mp member)
    have respects : world.surroundings.Respects fun scene =>
        scene.actor.id = actor.id ∧ scene.animation.OwnedBy (world.cast.map Actor.id) :=
      { change := by
          intro _ _ before _ _ change both
          cases change with
          | animate kind direction frames =>
              have mine : before.actor.id ∈ world.cast.map Actor.id := by
                rw [both.1]
                exact inside
              exact ⟨both.1, both.2.request mine _⟩
          | nothing | actor | map | request => exact both
        sustain := fun _ _ both => both }
    exact (respects.turn _ _ ⟨rfl, owned⟩ ⟨rfl, owned⟩).2
  · exact orderly.owned

/-- Everybody after the turns was there before, of the same template. -/
theorem exists_of_mem_behave {after : Actor} (member : after ∈ world.behave.1) :
    ∃ before ∈ world.cast, after.id = before.id ∧ after.template = before.template := by
  obtain ⟨before, inside, same⟩ := exists_of_forall₂_of_mem world.forall₂_behave member
  exact ⟨before, (inOrder_perm world.cast).mem_iff.mp inside, same⟩

/-- Who enters has a number that nobody had. -/
theorem id_of_mem_entering (world : World) {actor : Actor} (member : actor ∈ world.entering) :
    world.nextId ≤ actor.id := by
  have numbered := List.mem_map_of_mem (f := Actor.id) member
  rw [entering, newcomers_ids] at numbered
  exact (List.mem_range'_1.mp numbered).1

namespace Orderly

theorem readKeys (orderly : world.Orderly) (time : Float32) : (world.readKeys time).Orderly :=
  { orderly with }

theorem turned (orderly : world.Orderly) : world.turned.Orderly where
  titled := orderly.titled
  distinct := world.behave_ids.nodup_iff.mpr orderly.distinct
  below := by
    intro actor member
    obtain ⟨before, inside, same, -⟩ := exists_of_mem_behave member
    rw [same]
    exact orderly.below before inside
  known := by
    intro actor member
    obtain ⟨before, inside, -, same⟩ := exists_of_mem_behave member
    rw [same]
    exact orderly.known before inside
  owned := by
    intro entry member
    exact world.behave_ids.mem_iff.mpr (orderly.owned_behave.sweep entry member)

/-- A new actor takes the next number. -/
theorem addActor (orderly : world.Orderly) {name : String} {template : Template}
    (known : world.graph.template name = .ok template) (position : Vec2)
    (title : Option String) : (world.addActor template position title).Orderly := by
  rw [addActor_eq]
  constructor
  case titled => exact orderly.titled
  case distinct =>
    rw [List.map_append, List.map_singleton, nodup_concat_iff]
    refine ⟨orderly.distinct, ?_⟩
    intro taken
    obtain ⟨actor, member, same⟩ := List.mem_map.mp taken
    exact Nat.ne_of_lt (orderly.below actor member) same
  case below =>
    intro actor member
    rcases List.mem_append.mp member with old | new
    · exact Nat.lt_succ_of_lt (orderly.below actor old)
    · rw [List.mem_singleton.mp new]
      exact Nat.lt_succ_self _
  case known =>
    intro actor member
    rcases List.mem_append.mp member with old | new
    · exact orderly.known actor old
    · rw [List.mem_singleton.mp new]
      exact ⟨template, by rw [Template.actor, orderly.titled _ _ known, known]⟩
  case owned =>
    intro entry member
    rw [List.map_append]
    exact List.mem_append_left _ (orderly.owned entry member)

theorem carryOutSpawn (orderly : world.Orderly) (spawn : Spawn) :
    (world.carryOutSpawn spawn).Orderly := by
  simp only [World.carryOutSpawn]
  split
  · next template known => exact orderly.addActor known _ _
  · exact orderly

/-- Whatever is asked for, to carry it out leaves the stage orderly. -/
theorem carryOut (orderly : world.Orderly) (requests : List Request) :
    (world.carryOut requests).Orderly := by
  simp only [World.carryOut]
  apply List.foldlRecOn (motive := Orderly)
  · exact { orderly with }
  · exact fun world orderly spawn _ => orderly.carryOutSpawn spawn

theorem act (orderly : world.Orderly) : world.act.Orderly :=
  orderly.turned.carryOut world.behave.2.requests

/-- When the leaving actors are gone, so are their animations. -/
theorem dismiss (orderly : world.Orderly) : world.dismiss.Orderly := by
  rw [dismiss_eq]
  constructor
  case titled => exact orderly.titled
  case distinct => exact orderly.distinct.sublist (List.filter_sublist.map _)
  case below => exact fun actor member => orderly.below actor (List.mem_filter.mp member).1
  case known => exact fun actor member => orderly.known actor (List.mem_filter.mp member).1
  case owned =>
    intro entry member
    obtain ⟨runs, forgotten⟩ := List.mem_filter.mp member
    obtain ⟨actor, inside, mine⟩ := List.mem_map.mp (orderly.owned entry runs)
    apply List.mem_map.mpr
    refine ⟨actor, List.mem_filter.mpr ⟨inside, ?_⟩, mine⟩
    cases leaves : actor.isLeaving with
    | false => rfl
    | true =>
        have gone := List.all_eq_true.mp forgotten actor (List.mem_filter.mpr ⟨inside, leaves⟩)
        simp [mine] at gone

theorem switchMap (orderly : world.Orderly) : world.switchMap.Orderly := by
  rw [switchMap_eq]
  refine { orderly with owned := ?_ }
  intro entry member
  simp only at member
  split at member
  · cases member
  · exact orderly.owned entry member

/-- **What every tick leaves behind.** -/
theorem tick (orderly : world.Orderly) (time : Float32) : (world.tick time).Tidy := by
  rw [tick_eq]
  constructor
  case toOrderly => exact (orderly.readKeys time).act.dismiss.switchMap
  case staying =>
    intro actor member
    rw [switchMap_eq, dismiss_eq] at member
    simpa using (List.mem_filter.mp member).2
  case settled =>
    rw [switchMap_eq]
    simp only [MapState.takePending]
    split
    · assumption
    · rfl
  case expectsNobody => rw [switchMap_eq, dismiss_eq, act_eq]

end Orderly

/-! ### Stages that a host can bring about -/

/-- Let several actors enter, each at its position. -/
def spawnAll (world : World) (spawns : List (String × Vec2)) : Except LookupError World :=
  spawns.foldlM (fun world spawn => world.spawn spawn.1 spawn.2) world

/-- The stages that come from the setting up for a document by ticks, by actors that are let
enter, and by changes of the script. -/
inductive Reachable (document : Document) : World → Prop where
  | setUp {settings : Settings} {world : World}
      (made : setUp settings document = .ok world) : Reachable document world
  | script {world : World} (earlier : Reachable document world) (script : List KeyHold) :
      Reachable document { world with script }
  | spawn {world entered : World} (earlier : Reachable document world) {template : String}
      {position : Vec2} (enters : world.spawn template position = .ok entered) :
      Reachable document entered
  | tick {world : World} (earlier : Reachable document world) (time : Float32) :
      Reachable document (world.tick time)

theorem exists_of_spawn {entered : World} {name : String} {position : Vec2}
    (enters : world.spawn name position = .ok entered) :
    ∃ template, world.graph.template name = .ok template ∧
      entered = world.addActor template position none := by
  obtain ⟨template, known, same⟩ := exists_of_map_eq_ok enters
  exact ⟨template, known, same.symm⟩

/-- A host that lets an actor enter leaves the stage tidy. -/
theorem Tidy.spawn (tidy : world.Tidy) {entered : World} {name : String} {position : Vec2}
    (enters : world.spawn name position = .ok entered) : entered.Tidy := by
  obtain ⟨template, known, rfl⟩ := exists_of_spawn enters
  constructor
  case toOrderly => exact tidy.addActor known position none
  case staying =>
    rw [addActor_eq]
    intro actor member
    rcases List.mem_append.mp member with old | new
    · exact tidy.staying actor old
    · rw [List.mem_singleton.mp new]
      rfl
  case settled => exact tidy.settled
  case expectsNobody => exact tidy.expectsNobody

/-- A world is set up from a graph that loads, and with nobody in it. -/
theorem exists_of_setUp {settings : Settings} {document : Document}
    (made : setUp settings document = .ok world) :
    BehaviorGraph.load document = .ok world.graph ∧ world.cast = [] ∧ world.queue = [] ∧
      world.map = {} ∧ world.animations.runs = [] := by
  obtain ⟨graph, loaded, rfl⟩ := exists_of_map_eq_ok made
  exact ⟨loaded, rfl, rfl, rfl, rfl⟩

/-- The graph is the same in every tick. -/
theorem graph_tick (world : World) (time : Float32) : (world.tick time).graph = world.graph := by
  rw [tick_eq, switchMap_eq, dismiss_eq, act_eq]
  rfl

namespace Reachable

variable {document : Document}

/-- All stages of a document are on its graph. -/
theorem graph (reachable : Reachable document world) :
    BehaviorGraph.load document = .ok world.graph := by
  induction reachable with
  | setUp made => exact (exists_of_setUp made).1
  | script _ _ ih => exact ih
  | spawn _ enters ih =>
      obtain ⟨template, -, rfl⟩ := exists_of_spawn enters
      exact ih
  | tick _ time ih => rwa [graph_tick]

/-- Every stage that a host can bring about is tidy. -/
theorem tidy (reachable : Reachable document world) : world.Tidy := by
  induction reachable with
  | setUp made =>
      obtain ⟨loaded, nobody, noSpawns, fresh, idle⟩ := exists_of_setUp made
      constructor
      case toOrderly =>
        constructor
        case titled => exact BehaviorGraph.load_titled loaded
        case owned => simp [AnimationRuns.OwnedBy, idle]
        all_goals simp [nobody]
      case staying => simp [nobody]
      case settled => rw [fresh]
      case expectsNobody => exact noSpawns
  | script _ _ ih => exact { ih with }
  | spawn _ enters ih => exact ih.spawn enters
  | tick _ time ih => exact ih.tick time

end Reachable

end World

end Stagecraft
