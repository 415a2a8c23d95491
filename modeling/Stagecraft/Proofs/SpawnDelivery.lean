/-
Module: Stagecraft.Proofs.SpawnDelivery
Purpose: Whoever an event asks for enters: events ask for actors of known templates only, and
  a tick loses nobody but the actors that want to leave.
Main exports:
  BehaviorGraph.Knows, BehaviorGraph.CastsKnown, BehaviorGraph.load_castsKnown,
  CastsKnown.respects, Reachable.knows_issued, Spawn.FulfilledBy, World.newcomers_fulfil,
  Reachable.ascending, no_spawn_is_dropped
-/
import Stagecraft.Proofs.RequestDelivery

namespace Stagecraft

variable {σ : Type}

/-! ### Events ask for actors of known templates -/

namespace BehaviorGraph

/-- Whoever is asked for by some requests has a template of the graph. -/
def Knows (graph : BehaviorGraph) (requests : List Request) : Prop :=
  ∀ spawn, .spawnActor spawn ∈ requests → ∃ template, graph.template spawn.template = .ok template

/-- Every node that asks for an actor names a template of the graph. -/
def CastsKnown (graph : BehaviorGraph) : Prop :=
  ∀ node ∈ graph.nodes, ∀ request, node.kind.Asks request → graph.Knows [request]

/-- A document with a node that asks for an unknown template does not load. -/
theorem load_castsKnown {document : Document} {graph : BehaviorGraph}
    (loaded : BehaviorGraph.load document = .ok graph) : graph.CastsKnown := by
  obtain ⟨catalogue, declares, -, rfl⟩ := load_eq_ok_iff.mp loaded
  intro linked member request asks spawn asked
  obtain ⟨node, declared, links⟩ := List.mem_filterMap.mp member
  rw [(Catalogue.eq_of_linkNode? links).2.1, ← List.mem_singleton.mp asked] at asks
  have silent := List.filterMap_eq_nil_iff.mp declares.spawns node declared
  generalize kind : node.kind = kind at asks silent
  cases asks
  simp only [ite_eq_left_iff, reduceCtorEq, imp_false, not_not, List.any_eq_true, beq_iff_eq]
    at silent
  obtain ⟨declaration, listed, named⟩ := silent
  have found := (Catalogue.find?_templates_linked declares.templates_distinct).mpr
    ⟨declaration, listed, named, rfl⟩
  apply Exists.intro (catalogue.linkTemplate declaration).1
  simp only [BehaviorGraph.template, found]

/-- The requests of a scene go on from earlier ones with such as the graph knows. -/
def GoesOnKnowing (graph : BehaviorGraph) (earlier : List Request) (scene : Scene σ) : Prop :=
  ∃ more, scene.requests = earlier ++ more ∧ graph.Knows more

/-- Where all casts are known, every node adds requests for known templates only. -/
theorem CastsKnown.respects {surroundings : Surroundings σ}
    (casts : surroundings.graph.CastsKnown) (earlier : List Request) :
    surroundings.Respects (surroundings.graph.GoesOnKnowing earlier) where
  sustain := fun _ _ holds => holds
  change := by
    intro id node before after stands change holds
    cases change with
    | @request request asks =>
        obtain ⟨more, same, knows⟩ := holds
        have knowsLast := casts node (List.mem_of_getElem? stands) request asks
        apply Exists.intro (more ++ [request])
        constructor
        · rw [← List.append_assoc, ← same]
          rfl
        · intro spawn asked
          rcases List.mem_append.mp asked with old | new
          · exact knows spawn old
          · exact knowsLast spawn new
    | nothing | actor | map | animate => exact holds

/-- A turn asks for known actors only. -/
theorem CastsKnown.turn {surroundings : Surroundings σ} (casts : surroundings.graph.CastsKnown)
    (keys : KeyName → KeyEdge) (touching : ActorId → Bool) (actor : Actor) {state : TurnState σ}
    (knows : surroundings.graph.Knows state.requests) :
    surroundings.graph.Knows (surroundings.turn keys touching actor state).2.requests := by
  have begun : surroundings.graph.GoesOnKnowing [] (state.scene actor) :=
    ⟨state.requests, rfl, knows⟩
  obtain ⟨more, same, knowsMore⟩ := (casts.respects []).turn keys touching begun begun
  rw [List.nil_append] at same
  rw [← same] at knowsMore
  exact knowsMore

end BehaviorGraph

/-- A new actor that a request asks for: of the template that it names, with the hitboxes of
that template, in the place and under the name that it gives. -/
structure Spawn.FulfilledBy (spawn : Spawn) (graph : BehaviorGraph) (actor : Actor) : Prop where
  template : actor.template = spawn.template
  position : actor.position = spawn.position
  name : actor.name = spawn.name
  hitboxes : ∃ template, graph.template spawn.template = .ok template ∧
    actor.hitboxes = template.hitboxes
  new : actor.hasEntered = false ∧ actor.isLeaving = false

/-- No event takes back the wish of its actor to leave. -/
theorem Surroundings.respects_leaving (surroundings : Surroundings σ) :
    surroundings.Respects fun scene => scene.actor.isLeaving = true where
  sustain := fun _ _ leaves => leaves
  change := by
    intro id node before after _ change leaves
    cases change with
    | actor _ _ _ _ _ _ _ stillLeaves => exact stillLeaves leaves
    | nothing | map | request | animate => exact leaves

namespace World

variable {world : World} {document : Document}

/-- The turns of a tick ask for known actors only. -/
theorem Reachable.knows_issued (reachable : Reachable document world) (time : Float32) :
    world.graph.Knows (world.issued time) := by
  have casts : (world.readKeys time).surroundings.graph.CastsKnown :=
    BehaviorGraph.load_castsKnown reachable.graph
  apply Surroundings.turns_keep fun state : TurnState AnimationRuns =>
    world.graph.Knows state.requests
  · exact fun actor _ state knows => casts.turn _ _ actor knows
  · exact fun _ asked => nomatch asked

/-! ### Requested actors enter -/

/-- Where all templates are known, every request is fulfilled, one after another. -/
theorem newcomers_fulfil {graph : BehaviorGraph} (titled : graph.Titled) {spawns : List Spawn}
    (known : ∀ spawn ∈ spawns, ∃ template, graph.template spawn.template = .ok template)
    (next : ActorId) :
    List.Forall₂ (fun spawn actor => spawn.FulfilledBy graph actor) spawns
      (newcomers graph next spawns) := by
  induction spawns generalizing next with
  | nil => exact .nil
  | cons spawn rest ih =>
      obtain ⟨template, here⟩ := known spawn List.mem_cons_self
      simp only [newcomers, here]
      apply List.Forall₂.cons
      · exact
          { template := titled _ _ here
            position := rfl
            name := rfl
            hitboxes := ⟨template, here, rfl⟩
            new := ⟨rfl, rfl⟩ }
      · exact ih (fun other member => known other (List.mem_cons_of_mem _ member)) (next + 1)

/-! ### Actors stand in the order of their numbers -/

/-- The actors stand in the order in which they entered. -/
def Ascending (world : World) : Prop := (world.cast.map Actor.id).Pairwise (· < ·)

/-- Numbers on from the next one may be put behind lesser ones. -/
theorem pairwise_append_range' {ids : List ActorId} (ascending : ids.Pairwise (· < ·))
    {next : ActorId} (below : ∀ id ∈ ids, id < next) (count : Nat) :
    (ids ++ List.range' next count).Pairwise (· < ·) := by
  apply List.pairwise_append.mpr
  apply And.intro ascending
  apply And.intro List.pairwise_lt_range'
  intro id old other new
  exact Nat.lt_of_lt_of_le (below id old) (List.mem_range'_1.mp new).1

namespace Ascending

/-- The turns go from the first actor to the last. -/
theorem forall₂_behave (ascending : world.Ascending) :
    List.Forall₂ (fun before after : Actor =>
        after.id = before.id ∧ after.template = before.template)
      world.cast world.behave.1 := by
  have inOrder_cast : inOrder world.cast = world.cast :=
    inOrder_of_ascending ((List.pairwise_map.mp ascending).imp Nat.le_of_lt)
  have turned := world.forall₂_behave
  rwa [inOrder_cast] at turned

theorem addActor (ascending : world.Ascending) (orderly : world.Orderly) (template : Template)
    (position : Vec2) (name : Option String) :
    (world.addActor template position name).Ascending := by
  simp only [Ascending, addActor_eq, List.map_append]
  apply pairwise_append_range' ascending _ 1
  exact List.forall_mem_map.mpr orderly.below

/-- Whoever stays keeps its place, and new actors take higher numbers. -/
theorem tick (ascending : world.Ascending) (tidy : world.Tidy) (time : Float32) :
    (world.tick time).Ascending := by
  have same : (world.readKeys time).behave.1.map Actor.id = world.cast.map Actor.id :=
    map_eq_map_of_forall₂
      ((show (world.readKeys time).Ascending from ascending).forall₂_behave.imp
        fun _ _ both => both.1)
  have stay : (((world.readKeys time).behave.1.filter fun actor => !actor.isLeaving).map
      Actor.id).Sublist (world.cast.map Actor.id) := by
    rw [← same]
    exact List.filter_sublist.map Actor.id
  simp only [Ascending, tick_cast tidy.expectsNobody, List.map_append, newcomers_ids]
  apply pairwise_append_range' (ascending.sublist stay)
  intro id member
  obtain ⟨actor, inside, rfl⟩ := List.mem_map.mp (stay.subset member)
  exact tidy.below actor inside

end Ascending

/-- On every stage that is reached the cast stands in the order of its numbers. -/
theorem Reachable.ascending (reachable : Reachable document world) : world.Ascending := by
  induction reachable with
  | setUp made =>
      obtain ⟨-, nobody, -⟩ := exists_of_setUp made
      simp only [Ascending, nobody]
      exact .nil
  | script _ _ ih => exact ih
  | spawn earlier enters ih =>
      obtain ⟨template, -, rfl⟩ := exists_of_spawn enters
      exact ih.addActor earlier.tidy.toOrderly template _ _
  | tick earlier time ih => exact ih.tick earlier.tidy time

/-! ### Nobody is lost -/

/-- In a tick as many numbers are given as actors enter. -/
theorem tick_nextId (expectsNobody : world.queue = []) (time : Float32) :
    (world.tick time).nextId =
      world.nextId +
        (newcomers world.graph world.nextId ((world.issued time).filterMap spawnOf?)).length := by
  have next : (world.tick time).nextId =
      world.nextId + (newcomers world.graph world.nextId
        (world.queue ++ (world.issued time).filterMap spawnOf?)).length := by
    rw [tick_eq, switchMap_eq, dismiss_eq, act_eq]
    rfl
  rwa [expectsNobody] at next

theorem mem_filterMap_spawnOf? {requests : List Request} {spawn : Spawn} :
    spawn ∈ requests.filterMap spawnOf? ↔ .spawnActor spawn ∈ requests := by
  rw [List.mem_filterMap]
  constructor
  · rintro ⟨request, member, same⟩
    cases request with
    | spawnActor other =>
        cases same
        exact member
    | _ => cases same
  · intro member
    exact ⟨_, member, rfl⟩

/-- **No spawn request is dropped.**  Every evaluation on the graph of a stage that a host can
bring about only adds to the requests, asks for actors of known templates only, and takes no
wish to leave back.  So does every tick, which therefore passes over no request: after it there
are the actors that were there before, in their order and without those that have come to wish
to leave, and behind them one new actor for each request, in the order of the requests and
with the next numbers, which nobody has had before. -/
theorem no_spawn_is_dropped (reachable : Reachable document world) (time : Float32) :
    let turned := (world.readKeys time).behave.1
    let spawns := (world.issued time).filterMap spawnOf?
    let after := world.tick time
    (∀ surroundings : Surroundings σ, surroundings.graph = world.graph → ∀ id locks scene,
      let ended := (surroundings.evaluateNode id locks scene).2
      (∃ more, ended.requests = scene.requests ++ more ∧
        ∀ spawn, .spawnActor spawn ∈ more →
          ∃ template, world.graph.template spawn.template = .ok template) ∧
      (scene.actor.isLeaving = true → ended.actor.isLeaving = true)) ∧
    (∀ spawn ∈ spawns, ∃ template, world.graph.template spawn.template = .ok template) ∧
    (∀ actor ∈ world.cast, actor.isLeaving = false ∧ actor.id < world.nextId) ∧
    List.Forall₂ (fun before after : Actor =>
      after.id = before.id ∧ after.template = before.template) world.cast turned ∧
    ∃ entered, after.cast = (turned.filter fun actor => !actor.isLeaving) ++ entered ∧
      List.Forall₂ (fun spawn actor => spawn.FulfilledBy world.graph actor) spawns entered ∧
      entered.map Actor.id = List.range' world.nextId spawns.length ∧
      after.nextId = world.nextId + spawns.length := by
  intro turned spawns after
  have tidy := reachable.tidy
  have known : ∀ spawn ∈ spawns, ∃ template, world.graph.template spawn.template = .ok template :=
    fun spawn member => reachable.knows_issued time spawn (mem_filterMap_spawnOf?.mp member)
  have fulfilled := newcomers_fulfil tidy.titled known world.nextId
  have numbers := newcomers_ids world.graph world.nextId spawns
  have next := tick_nextId tidy.expectsNobody time
  rw [← fulfilled.length_eq] at numbers next
  constructor
  · intro surroundings shared id locks scene
    have casts : surroundings.graph.CastsKnown := by
      rw [shared]
      exact BehaviorGraph.load_castsKnown reachable.graph
    have asks := (casts.respects scene.requests).evaluateNode id locks
      ⟨[], (List.append_nil _).symm, fun _ asked => nomatch asked⟩
    rw [shared] at asks
    exact ⟨asks, surroundings.respects_leaving.evaluateNode id locks⟩
  · -- The cast is stored in the order in which the actors have their turns.
    have ascending : (world.readKeys time).Ascending := reachable.ascending
    exact ⟨known, fun actor member => ⟨tidy.staying actor member, tidy.below actor member⟩,
      ascending.forall₂_behave, _, tick_cast tidy.expectsNobody time, fulfilled, numbers, next⟩

/-- The second night begins with a rabbit on the stage. -/
def secondNight : World := openingNight.tick 1

theorem reachable_secondNight : Reachable magicShow secondNight :=
  (opens_of_spawnAll setUp_emptyStage spawnAll_openingNight []).reachable.tick 1

theorem inOrder_secondNight :
    inOrder (secondNight.readKeys 1).cast = (secondNight.readKeys 1).cast :=
  inOrder_of_ascending ((List.pairwise_map.mp reachable_secondNight.ascending).imp Nat.le_of_lt)

/-- In the second tick of the show the first rabbit leaves, and the one that the conjurer calls
enters under the next number. -/
theorem no_spawn_is_dropped_magicShow :
    ∃ conjurer spawn rabbit, secondNight.issued 1 = [.spawnActor spawn] ∧
      secondNight.cast.map Actor.id = [0, 1] ∧
      (secondNight.tick 1).cast = [conjurer, rabbit] ∧ conjurer.id = 0 ∧
      spawn.FulfilledBy secondNight.graph rabbit ∧ spawn.template = "Rabbit" ∧ rabbit.id = 2 := by
  obtain ⟨spawn, asked, named⟩ :
      ∃ spawn, secondNight.issued 1 = [.spawnActor spawn] ∧ spawn.template = "Rabbit" := by
    rw [issued, behave, inOrder_secondNight, secondNight, tick_eq, act, behave,
      inOrder_openingNight]
    exact ⟨_, rfl, rfl⟩
  obtain ⟨conjurer, stays, first⟩ : ∃ conjurer,
      ((secondNight.readKeys 1).behave.1.filter fun actor => !actor.isLeaving) = [conjurer] ∧
        conjurer.id = 0 := by
    rw [behave, inOrder_secondNight, secondNight, tick_eq, act, behave, inOrder_openingNight]
    exact ⟨_, rfl, rfl⟩
  have started : secondNight.cast.map Actor.id = [0, 1] ∧ secondNight.nextId = 2 := by
    rw [secondNight, tick_eq, act, behave, inOrder_openingNight]
    exact ⟨rfl, rfl⟩
  obtain ⟨-, -, -, -, entered, cast, fulfilled, numbers, -⟩ :=
    @no_spawn_is_dropped AnimationRuns _ _ reachable_secondNight 1
  simp only [asked, stays] at cast fulfilled numbers
  obtain ⟨rabbit, others, fulfils, nobody, rfl⟩ := List.forall₂_cons_left_iff.mp fulfilled
  cases nobody
  rw [started.2] at numbers
  exact ⟨conjurer, spawn, rabbit, asked, started.1, cast, first, fulfils, named,
    List.head_eq_of_cons_eq numbers⟩

end World

end Stagecraft
