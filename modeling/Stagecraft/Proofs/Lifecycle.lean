/-
Module: Stagecraft.Proofs.Lifecycle
Purpose: Actors from their entrance to their exit, over whole runs: every number names one
  actor, and every actor enters once.
Main exports:
  World.stages, World.runTicks_eq, World.issued, World.cuesOf, World.Past,
  World.Opens, Opens.new_of_unseen, actors_enter_once
-/
import Stagecraft.Proofs.Ticks
import Stagecraft.Proofs.Walk

namespace Stagecraft

namespace World

variable {world : World} {time : Float32}

/-! ### The stages of a run -/

/-- The stages before each tick that a run makes. -/
def stages : (ticks : Nat) → (time : Float32) → World → List World
  | 0, _, _ => []
  | ticks + 1, time, world =>
      let next := world.tick time
      world :: if next.map.shouldStop then [] else stages ticks time next

/-- A run counts its stages and ends with what the tick of the last one leaves. -/
theorem runFrom_eq (ran ticks : Nat) (time : Float32) (world : World) :
    runFrom ran ticks time world =
      (ran + (stages ticks time world).length,
        ((stages ticks time world).getLast?.map fun last => last.tick time).getD world) := by
  induction ticks generalizing ran world with
  | zero => rfl
  | succ ticks ih =>
      simp only [runFrom, stages]
      split
      · rfl
      · rw [ih, List.getLast?_cons, List.length_cons]
        congr 1
        · omega
        · cases (stages ticks time (world.tick time)).getLast? <;> rfl

/-- A run ends after the last of its stages, and counts them. -/
theorem runTicks_eq (ticks : Nat) (time : Float32) (world : World) :
    runTicks ticks time world =
      ((stages ticks time world).length,
        ((stages ticks time world).getLast?.map fun last => last.tick time).getD world) := by
  rw [runTicks, runFrom_eq, Nat.zero_add]

/-- Every stage but the first comes from the one before it, and the run goes on from every
stage. -/
theorem stages_split {ticks : Nat} {earlier later : List World} {before : World}
    (shown : stages ticks time world = earlier ++ before :: later) :
    (earlier = [] ∧ before = world ∨
      ∃ front previous, earlier = front ++ [previous] ∧ before = previous.tick time) ∧
    ∃ rest, later = stages rest time (before.tick time) := by
  induction ticks generalizing world earlier with
  | zero => simp [stages] at shown
  | succ ticks ih =>
      simp only [stages] at shown
      -- Only the first stage of the run has nothing before it.
      cases earlier with
      | nil =>
          obtain ⟨rfl, rfl⟩ := List.cons.inj shown
          constructor
          · exact .inl ⟨rfl, rfl⟩
          · by_cases stops : (world.tick time).map.shouldStop = true
            · exact ⟨0, if_pos stops⟩
            · exact ⟨ticks, if_neg stops⟩
      | cons first front =>
          obtain ⟨rfl, tail⟩ := List.cons.inj shown
          by_cases stops : (world.tick time).map.shouldStop = true
          · simp [stops] at tail
          · rw [if_neg stops] at tail
            obtain ⟨comes, goesOn⟩ := ih tail
            refine ⟨.inr ?_, goesOn⟩
            rcases comes with ⟨rfl, rfl⟩ | ⟨front, previous, rfl, rfl⟩
            · exact ⟨[], world, rfl, rfl⟩
            · exact ⟨world :: front, previous, rfl, rfl⟩

/-- Every stage of a run is reachable from where the run began. -/
theorem Reachable.of_mem_stages {document : Document} (reachable : Reachable document world)
    {ticks : Nat} {before : World} (member : before ∈ stages ticks time world) :
    Reachable document before := by
  induction ticks generalizing world with
  | zero => cases member
  | succ ticks ih =>
      simp only [stages] at member
      rcases List.mem_cons.mp member with rfl | later
      · exact reachable
      · split at later
        · cases later
        · exact ih (reachable.tick time) later

/-! ### What is run and asked for in a tick -/

/-- What the turns of the next tick ask for, in order. -/
def issued (world : World) (time : Float32) : List Request :=
  (world.readKeys time).behave.2.requests

/-- The events of an actor that are run in its turn of the next tick, in order. -/
def cuesOf (world : World) (time : Float32) (id : ActorId) : List Cue :=
  (world.readKeys time).behave.2.cues.filter fun cue => cue.actor = id

end World

namespace Surroundings

variable {σ : Type} {surroundings : Surroundings σ} {cast : List Actor} {parts : List (List Cue)}

theorem TurnOf.actor_eq {actor : Actor} {cues : List Cue}
    (turn : surroundings.TurnOf actor cues) : ∀ cue ∈ cues, cue.actor = actor.id := by
  obtain ⟨template, more, -, plain, rfl⟩ := turn
  intro cue member
  rcases List.mem_append.mp member with entrance | later
  · split at entrance
    · cases entrance
    · obtain ⟨event, -, rfl⟩ := List.mem_map.mp entrance
      rfl
  · exact (plain cue later).1

/-- Who is not in the cast has no cues. -/
theorem filter_actor_of_notMem (turned : List.Forall₂ surroundings.TurnOf cast parts)
    {id : ActorId} (absent : id ∉ cast.map Actor.id) :
    parts.flatten.filter (fun cue => cue.actor = id) = [] := by
  apply List.filter_eq_nil_iff.mpr
  intro cue member
  obtain ⟨part, inside, here⟩ := List.mem_flatten.mp member
  obtain ⟨actor, among, turn⟩ := exists_of_forall₂_of_mem turned inside
  rw [turn.actor_eq cue here]
  intro same
  exact absent (List.mem_map.mpr ⟨actor, among, of_decide_eq_true same⟩)

/-- Where all numbers differ, the cues of an actor are those of its turn. -/
theorem filter_actor_of_mem (turned : List.Forall₂ surroundings.TurnOf cast parts)
    (distinct : (cast.map Actor.id).Nodup) {actor : Actor} (member : actor ∈ cast) :
    surroundings.TurnOf actor (parts.flatten.filter fun cue => cue.actor = actor.id) := by
  induction turned with
  | nil => cases member
  | @cons first part cast parts turn others ih =>
      obtain ⟨once, distinct⟩ := List.nodup_cons.mp distinct
      rw [List.flatten_cons, List.filter_append]
      rcases List.mem_cons.mp member with rfl | later
      · rw [filter_actor_of_notMem others once, List.append_nil, List.filter_eq_self.mpr]
        · exact turn
        · simpa using turn.actor_eq
      · have differs : first.id ≠ actor.id := by
          intro same
          rw [same] at once
          exact once (List.mem_map_of_mem later)
        rw [List.filter_eq_nil_iff.mpr, List.nil_append]
        · exact ih distinct later
        · intro cue here
          rw [turn.actor_eq cue here]
          simpa using differs

end Surroundings

namespace World

variable {world : World} {time : Float32}

/-- On a tidy stage every actor may act. -/
theorem Tidy.mayAct (tidy : world.Tidy) {actor : Actor} (member : actor ∈ inOrder world.cast) :
    world.surroundings.MayAct actor := by
  have inside := (inOrder_perm world.cast).mem_iff.mp member
  exact ⟨tidy.staying actor inside, tidy.known actor inside⟩

theorem Tidy.readKeys (tidy : world.Tidy) (time : Float32) : (world.readKeys time).Tidy :=
  { tidy with }

/-- The cues of the turns are those of each turn, in the order of the numbers. -/
theorem Tidy.behave_cues (tidy : world.Tidy) :
    ∃ parts, world.behave.2.cues = parts.flatten ∧
      List.Forall₂ world.surroundings.TurnOf (inOrder world.cast) parts :=
  Surroundings.turns_cues _ _ (fun _ member => tidy.mayAct member) _

/-- The cues of an actor in a tick are those of its turn. -/
theorem Tidy.cuesOf_of_mem (tidy : world.Tidy) (time : Float32) {actor : Actor}
    (member : actor ∈ world.cast) :
    world.surroundings.TurnOf actor (world.cuesOf time actor.id) := by
  obtain ⟨parts, same, turned⟩ := (tidy.readKeys time).behave_cues
  rw [cuesOf, same]
  have perm := inOrder_perm (world.readKeys time).cast
  exact Surroundings.filter_actor_of_mem turned
    ((perm.map Actor.id).nodup_iff.mpr tidy.distinct) (perm.mem_iff.mpr member)

theorem Tidy.cuesOf_of_notMem (tidy : world.Tidy) {id : ActorId}
    (absent : id ∉ world.cast.map Actor.id) : world.cuesOf time id = [] := by
  obtain ⟨parts, same, turned⟩ := (tidy.readKeys time).behave_cues
  rw [cuesOf, same]
  apply Surroundings.filter_actor_of_notMem turned
  intro present
  exact absent (((inOrder_perm (world.readKeys time).cast).map Actor.id).mem_iff.mp present)

/-! ### Who is on the stage after a tick -/

/-- Everybody who has had a turn has entered. -/
theorem Tidy.hasEntered_of_mem_behave (tidy : world.Tidy) {actor : Actor}
    (member : actor ∈ world.behave.1) : actor.hasEntered = true := by
  have entered : List.Forall₂ (fun _ after : Actor => after.hasEntered = true)
      (inOrder world.cast) world.behave.1 := by
    apply Surroundings.forall₂_turns
    intro actor member state
    have respects : world.surroundings.Respects fun scene => scene.actor.hasEntered = true :=
      { change := by
          intro _ _ _ _ _ change same
          cases change <;> exact same
        sustain := fun _ _ same => same }
    exact respects.turn_of_mayAct _ _ (tidy.mayAct member) rfl
  obtain ⟨_, -, done⟩ := exists_of_forall₂_of_mem entered member
  exact done

/-- An actor on the stage after a tick has had a turn in it, or it has just been let enter
for a request of the tick. -/
theorem Tidy.exists_of_mem_tick (tidy : world.Tidy) {actor : Actor}
    (member : actor ∈ (world.tick time).cast) :
    actor.id ∈ world.cast.map Actor.id ∧ actor.hasEntered = true ∨
      world.nextId ≤ actor.id ∧ actor.hasEntered = false ∧
        ∃ spawn, .spawnActor spawn ∈ world.issued time ∧ spawn.template = actor.template ∧
          spawn.position = actor.position ∧ spawn.name = actor.name := by
  rw [tick_eq, switchMap_eq, dismiss_eq, act_eq] at member
  rcases List.mem_append.mp (List.mem_filter.mp member).1 with old | new
  · obtain ⟨before, inside, same, -⟩ := exists_of_mem_behave old
    refine .inl ⟨?_, (tidy.readKeys time).hasEntered_of_mem_behave old⟩
    rw [same]
    exact List.mem_map_of_mem inside
  · obtain ⟨spawn, asked, template, known, same⟩ := exists_of_mem_newcomers new
    have above : world.nextId ≤ actor.id := id_of_mem_entering (world.readKeys time) new
    refine .inr ⟨above, by rw [same]; rfl, spawn, ?_⟩
    rw [(tidy.readKeys time).expectsNobody, List.nil_append] at asked
    obtain ⟨request, issued, spawns⟩ := List.mem_filterMap.mp asked
    rw [same]
    refine ⟨?_, (tidy.titled _ _ known).symm, rfl, rfl⟩
    cases request with
    | spawnActor other =>
        cases spawns
        exact issued
    | _ => cases spawns

/-- Numbers of actors are never given again. -/
theorem nextId_le_tick (world : World) (time : Float32) :
    world.nextId ≤ (world.tick time).nextId := by
  rw [tick_eq, switchMap_eq, dismiss_eq, act_eq]
  exact Nat.le_add_right _ _

/-- A number that was handed out, and whose actor has entered or left. -/
def Past (world : World) (id : ActorId) : Prop :=
  id < world.nextId ∧ ∀ actor ∈ world.cast, actor.id = id → actor.hasEntered = true

/-- What is past stays past: nobody comes back, and nobody takes an old number. -/
theorem Past.tick {id : ActorId} (past : world.Past id) (tidy : world.Tidy) :
    (world.tick time).Past id := by
  refine ⟨Nat.lt_of_lt_of_le past.1 (world.nextId_le_tick time), ?_⟩
  intro actor member same
  rcases tidy.exists_of_mem_tick member with ⟨-, entered⟩ | ⟨above, -⟩
  · exact entered
  · rw [same] at above
    exact absurd past.1 (Nat.not_lt.mpr above)

/-- After a tick everybody who had a turn in it is past. -/
theorem Tidy.past_tick (tidy : world.Tidy) {actor : Actor} (member : actor ∈ world.cast) :
    (world.tick time).Past actor.id := by
  have below := tidy.below actor member
  refine ⟨Nat.lt_of_lt_of_le below (world.nextId_le_tick time), ?_⟩
  intro other inside same
  rcases tidy.exists_of_mem_tick inside with ⟨-, entered⟩ | ⟨above, -⟩
  · exact entered
  · rw [same] at above
    exact absurd below (Nat.not_lt.mpr above)

/-- Nobody enters under a number that is past. -/
theorem Past.plain {id : ActorId} (past : world.Past id) (tidy : world.Tidy) :
    PlainCues id (world.cuesOf time id) := by
  by_cases present : id ∈ world.cast.map Actor.id
  · obtain ⟨actor, member, same⟩ := List.mem_map.mp present
    obtain ⟨template, more, -, plain, cues⟩ := tidy.cuesOf_of_mem time member
    rw [if_pos (past.2 actor member same), List.nil_append] at cues
    rw [← same, cues]
    exact plain
  · rw [tidy.cuesOf_of_notMem present]
    exact fun _ member => nomatch member

/-- A number that has passed stays without cues in every stage to come. -/
theorem Past.plain_of_mem_stages {id : ActorId} (past : world.Past id) (tidy : world.Tidy)
    {ticks : Nat} {before : World} (member : before ∈ stages ticks time world) :
    PlainCues id (before.cuesOf time id) := by
  induction ticks generalizing world with
  | zero => cases member
  | succ ticks ih =>
      simp only [stages] at member
      rcases List.mem_cons.mp member with rfl | later
      · exact past.plain tidy
      · split at later
        · cases later
        · exact ih (past.tick tidy) (tidy.tick time) later

/-! ### From the first tick to the last -/

/-- What one actor that enters keeps, several keep. -/
theorem spawnAll_keeps {property : World → Prop} {spawns : List (String × Vec2)}
    {entered : World} (enters : world.spawnAll spawns = .ok entered)
    (each : ∀ {world entered : World} {name : String} {position : Vec2},
      world.spawn name position = .ok entered → property world → property entered)
    (holds : property world) : property entered := by
  induction spawns generalizing world with
  | nil =>
      cases enters
      exact holds
  | cons spawn rest ih =>
      obtain ⟨between, first, others⟩ := exists_of_bind_eq_ok enters
      exact ih others (each first holds)

/-- The stage on which a run begins: set up for a document, with some actors let enter, and a
script. -/
structure Opens (document : Document) (world : World) : Prop where
  reachable : Reachable document world
  new : ∀ actor ∈ world.cast, actor.hasEntered = false

theorem opens_of_spawnAll {document : Document} {settings : Settings} {start entered : World}
    (made : setUp settings document = .ok start) {spawns : List (String × Vec2)}
    (enters : start.spawnAll spawns = .ok entered) (script : List KeyHold) :
    Opens document { entered with script } := by
  have begun : Opens document start := by
    constructor
    · exact .setUp made
    · obtain ⟨-, nobody, -⟩ := exists_of_setUp made
      simp [nobody]
  have opens : Opens document entered := by
    apply spawnAll_keeps enters _ begun
    intro world entered name position enters opens
    constructor
    · exact opens.reachable.spawn enters
    · obtain ⟨template, -, rfl⟩ := exists_of_spawn enters
      intro actor member
      rcases List.mem_append.mp member with old | new
      · exact opens.new actor old
      · rw [List.mem_singleton.mp new]
  exact ⟨opens.reachable.script script, opens.new⟩

/-- An actor that no earlier stage of a run shows is new.  It was there from the beginning, or
an event asked for it in the tick before. -/
theorem Opens.new_of_unseen {document : Document} (opens : Opens document world) {ticks : Nat}
    {earlier later : List World} {before : World}
    (shown : stages ticks time world = earlier ++ before :: later) {actor : Actor}
    (member : actor ∈ before.cast)
    (unseen : ∀ sooner ∈ earlier, actor.id ∉ sooner.cast.map Actor.id) :
    actor.hasEntered = false ∧ (earlier = [] ∨
      ∃ front previous spawn, earlier = front ++ [previous] ∧
        .spawnActor spawn ∈ previous.issued time ∧ spawn.template = actor.template ∧
          spawn.position = actor.position ∧ spawn.name = actor.name) := by
  obtain ⟨comes, -⟩ := stages_split shown
  rcases comes with ⟨first, same⟩ | ⟨front, previous, rfl, same⟩
  · rw [same] at member
    exact ⟨opens.new actor member, .inl first⟩
  · rw [same] at member
    have tidy : previous.Tidy := (opens.reachable.of_mem_stages (by rw [shown]; simp)).tidy
    rcases tidy.exists_of_mem_tick member with ⟨seen, -⟩ | ⟨-, new, spawn, asked⟩
    · exact absurd seen (unseen previous (by simp))
    · exact ⟨new, .inr ⟨front, previous, spawn, rfl, asked⟩⟩

/-- **Actors live in order and enter once.**  A run of any length begins with any actors that
were let enter and any script.  After each of its ticks all actors have different numbers
that were handed out before, templates that the graph knows, and no wish to leave, and every
running animation belongs to one of them.  The turn of an actor in the first tick that finds
it on the stage begins with its entering event, if its template has one; it runs nothing
before, and it never enters again.  An actor that was not there when the run began enters in
the tick after the one in which an event asked for it. -/
theorem actors_enter_once {document : Document} {settings : Settings} {start entered : World}
    (made : setUp settings document = .ok start) {spawns : List (String × Vec2)}
    (enters : start.spawnAll spawns = .ok entered) (script : List KeyHold) (ticks : Nat)
    (time : Float32) :
    let first := { entered with script }
    let run := stages ticks time first
    runTicks ticks time first =
      (run.length, (run.getLast?.map fun last => last.tick time).getD first) ∧
    (∀ before ∈ run,
      let after := before.tick time
      (after.cast.map Actor.id).Nodup ∧
      (∀ actor ∈ after.cast, actor.id < after.nextId ∧ actor.isLeaving = false ∧
        ∃ template, after.graph.template actor.template = .ok template) ∧
      ∀ entry ∈ after.animations.runs, entry.1.1 ∈ after.cast.map Actor.id) ∧
    ∀ earlier before later, run = earlier ++ before :: later → ∀ actor ∈ before.cast,
      (∀ sooner ∈ earlier, actor.id ∉ sooner.cast.map Actor.id) →
      (earlier = [] ∨ ∃ front previous spawn, earlier = front ++ [previous] ∧
        .spawnActor spawn ∈ previous.issued time ∧ spawn.template = actor.template ∧
          spawn.position = actor.position ∧ spawn.name = actor.name) ∧
      (∀ sooner ∈ earlier, sooner.cuesOf time actor.id = []) ∧
      (∃ template more, before.graph.template actor.template = .ok template ∧
        before.cuesOf time actor.id = template.entrance actor.id ++ more ∧
          ∀ cue ∈ more, cue.isEntrance = false) ∧
      ∀ next ∈ later, ∀ cue ∈ next.cuesOf time actor.id, cue.isEntrance = false := by
  intro first run
  have opens : Opens document first := opens_of_spawnAll made enters script
  have tidy : ∀ before ∈ run, before.Tidy :=
    fun before member => (opens.reachable.of_mem_stages member).tidy
  refine ⟨runTicks_eq ticks time first, ?_, ?_⟩
  · intro before member
    have after := (tidy before member).tick time
    exact ⟨after.distinct,
      fun actor here => ⟨after.below actor here, after.staying actor here, after.known actor here⟩,
      after.owned⟩
  · intro earlier before later shown actor member unseen
    have tidyBefore : before.Tidy := tidy before (by rw [shown]; simp)
    obtain ⟨-, rest, goesOn⟩ := stages_split shown
    obtain ⟨new, origin⟩ := opens.new_of_unseen shown member unseen
    refine ⟨origin, ?_, ?_, ?_⟩
    · intro sooner inside
      exact (tidy sooner (by rw [shown]; simp [inside])).cuesOf_of_notMem (unseen sooner inside)
    · obtain ⟨template, more, known, plain, cues⟩ :=
        tidyBefore.cuesOf_of_mem time member
      rw [new] at cues
      exact ⟨template, more, known, cues, fun cue inside => (plain cue inside).2⟩
    · -- After its first tick the number of the actor is past.
      intro next inside cue here
      rw [goesOn] at inside
      exact ((tidyBefore.past_tick member).plain_of_mem_stages (tidyBefore.tick time) inside cue
        here).2

end World

/-- In every tick a conjurer calls a rabbit, and each rabbit vanishes as it enters. -/
def magicShow : Document :=
  { actors :=
      [ { name := "Conjurer"
          events :=
            [ { name := "Bow", kind := "sound", properties := [textProperty "PATH" "applause"] },
              { name := "Trick", kind := "spawn-actor"
                properties := [textProperty "ACTOR_NAME" "Rabbit"] } ]
          responses := [("ON_SPAWN", "Bow"), ("ON_ALWAYS", "Trick")] },
        { name := "Rabbit"
          events := [ { name := "Vanish", kind := "erase-self" } ]
          responses := [("ON_SPAWN", "Vanish")] } ] }

namespace World

def emptyStage : World := (setUp {} magicShow).toOption.getD default

def openingNight : World := (emptyStage.spawnAll [("Conjurer", .zero)]).toOption.getD default

theorem setUp_emptyStage : setUp {} magicShow = .ok emptyStage := by rfl

theorem spawnAll_openingNight :
    emptyStage.spawnAll [("Conjurer", .zero)] = .ok openingNight := by rfl

theorem inOrder_openingNight :
    inOrder (openingNight.readKeys 1).cast = (openingNight.readKeys 1).cast :=
  inOrder_of_ascending (List.pairwise_singleton _ _)

/-- After the first tick the first rabbit is there. -/
theorem exists_rabbit :
    ∃ rabbit ∈ (openingNight.tick 1).cast, rabbit.id = 1 ∧ rabbit.template = "Rabbit" := by
  rw [tick_eq, act, behave, inOrder_openingNight]
  exact ⟨_, List.mem_cons_of_mem _ List.mem_cons_self, rfl, rfl⟩

theorem stages_openingNight :
    stages 2 1 openingNight = [openingNight] ++ openingNight.tick 1 :: [] := by
  have goesOn : (openingNight.tick 1).map.shouldStop = false := by
    rw [tick_eq, act, behave, inOrder_openingNight]
    rfl
  simp [stages, goesOn]

/-- The rabbit that is there after the first tick was asked for in it, ran nothing in it, and
enters in the second tick. -/
theorem actors_enter_once_magicShow :
    ∃ rabbit ∈ (openingNight.tick 1).cast, rabbit.template = "Rabbit" ∧
      (∃ spawn, .spawnActor spawn ∈ openingNight.issued 1 ∧ spawn.template = "Rabbit") ∧
      openingNight.cuesOf 1 rabbit.id = [] ∧
      ∃ template more, openingNight.graph.template "Rabbit" = .ok template ∧
        (openingNight.tick 1).cuesOf 1 rabbit.id = template.entrance rabbit.id ++ more ∧
          ∀ cue ∈ more, cue.isEntrance = false := by
  obtain ⟨rabbit, member, number, animal⟩ := exists_rabbit
  have unseen : ∀ sooner ∈ [openingNight], rabbit.id ∉ sooner.cast.map Actor.id := by
    rw [number, List.forall_mem_singleton]
    decide
  obtain ⟨-, -, lives⟩ := actors_enter_once setUp_emptyStage spawnAll_openingNight [] 2 1
  obtain ⟨origin, before, ⟨template, more, known, entrance, plain⟩, -⟩ :=
    lives _ _ _ stages_openingNight rabbit member unseen
  rw [graph_tick, animal] at known
  refine ⟨rabbit, member, animal, ?_, before openingNight List.mem_cons_self,
    template, more, known, entrance, plain⟩
  rcases origin with first | ⟨front, previous, spawn, same, asked, named, -⟩
  · cases first
  · have here : openingNight = previous := by simpa using congrArg List.getLast? same
    rw [here]
    exact ⟨spawn, asked, named.trans animal⟩

end World

end Stagecraft
