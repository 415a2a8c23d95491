/-
Module: Stagecraft.Proofs.RequestDelivery
Purpose: What the requests of a tick come to: each channel gets its own ones, all of them,
  once and in order, and of several map switches the last one counts.
Main exports:
  Request.sound?, Request.music?, Request.switch?, Request.copy?, Request.overlay?,
  Request.visibility?, lastOf, MapState.foldl_apply, AudioLog.foldl_apply,
  World.tick_audio, World.tick_map, World.tick_cast, requests_are_delivered
-/
import Mathlib.Data.List.Induction
import Stagecraft.Proofs.Lifecycle

namespace Stagecraft

/-! ### The channels -/

namespace Request

def sound? : Request → Option String
  | .playSound path => some path
  | _ => none

def music? : Request → Option Music
  | .playMusic music => some music
  | _ => none

/-- The map that a request switches to. -/
def switch? : Request → Option MapSwitch
  | .changeMap path keepVariables => some { path, keepVariables }
  | _ => none

/-- The layers between which a request copies. -/
def copy? : Request → Option (String × String)
  | .instantiateTemplate source destination => some (source, destination)
  | _ => none

/-- The text that a request shows. -/
def overlay? : Request → Option TextOverlay
  | .spawnText overlay => some overlay
  | _ => none

/-- Whether a request hides or shows a layer. -/
def visibility? (layer : String) : Request → Option Bool
  | .setLayerHidden other hidden => if other = layer then some hidden else none
  | _ => none

/-- The only request for a switch is one to change the map. -/
theorem switch?_eq_some_iff {request : Request} {switch : MapSwitch} :
    request.switch? = some switch ↔ request = .changeMap switch.path switch.keepVariables := by
  cases request with
  | changeMap path keepVariables =>
      simp only [switch?, Option.some.injEq, changeMap.injEq]
      constructor
      · intro same
        rw [← same]
        exact ⟨rfl, rfl⟩
      · intro same
        rw [same.1, same.2]
  | _ => simp [switch?]

end Request

/-- What the last of some requests has for a part of the stage. -/
def lastOf {α : Type} (part : Request → Option α) (requests : List Request) : Option α :=
  (requests.filterMap part).getLast?

@[simp] theorem lastOf_nil {α : Type} (part : Request → Option α) : lastOf part [] = none := rfl

/-- The last request counts if it is one of the kind. -/
theorem lastOf_concat {α : Type} (part : Request → Option α) (requests : List Request)
    (request : Request) :
    lastOf part (requests ++ [request]) = (part request).or (lastOf part requests) := by
  rw [lastOf, List.filterMap_append, List.getLast?_append]
  cases said : part request <;> simp [said, lastOf]

theorem lastOf_eq_none_iff {α : Type} {part : Request → Option α} {requests : List Request} :
    lastOf part requests = none ↔ ∀ request ∈ requests, part request = none := by
  rw [lastOf, List.getLast?_eq_none_iff, List.filterMap_eq_nil_iff]

/-! ### What all requests together do -/

/-- Each log grows by the sounds or the music that is asked for. -/
theorem AudioLog.foldl_apply (requests : List Request) (log : AudioLog) :
    requests.foldl AudioLog.apply log =
      { sounds := log.sounds ++ requests.filterMap Request.sound?
        music := log.music ++ requests.filterMap Request.music? } := by
  induction requests generalizing log with
  | nil => simp
  | cons request rest ih =>
      rw [List.foldl_cons, ih]
      cases request <;>
        simp [AudioLog.apply, Request.sound?, Request.music?, List.filterMap_cons]

namespace MapState

/-- To hide or show a layer leaves the others. -/
theorem isHidden_setHidden (map : MapState) (layer other : String) (hidden : Bool) :
    (map.setHidden other hidden).isHidden layer =
      if other = layer then hidden else map.isHidden layer := by
  by_cases named : other = layer
  · cases hidden <;>
      simp [setHidden, isHidden, Dictionary.contains, Dictionary.find?_insert,
        Dictionary.find?_erase, named]
  · cases hidden <;>
      simp [setHidden, isHidden, Dictionary.contains, Dictionary.find?_insert,
        Dictionary.find?_erase, named, Ne.symm named]

/-- The last request for a layer says whether it is hidden. -/
theorem isHidden_foldl_apply (requests : List Request) (map : MapState) (layer : String) :
    (requests.foldl apply map).isHidden layer =
      (lastOf (Request.visibility? layer) requests).getD (map.isHidden layer) := by
  -- The induction is from the end, where the last request for the layer stands.
  induction requests using List.reverseRecOn with
  | nil => rfl
  | append_singleton requests request ih =>
      rw [List.foldl_append, lastOf_concat]
      cases request with
      | setLayerHidden other hidden =>
          simp only [List.foldl_cons, List.foldl_nil, apply, isHidden_setHidden, ih,
            Request.visibility?]
          split <;> simp
      | _ => exact ih

/-- Apart from the layers, every part of the map gets what is meant for it. -/
theorem foldl_apply (requests : List Request) (map : MapState) :
    requests.foldl apply map =
      { map with
        pending := (lastOf Request.switch? requests).or map.pending
        hiddenLayers := (requests.foldl apply map).hiddenLayers
        overlays := map.overlays ++ requests.filterMap Request.overlay?
        copies := map.copies ++ requests.filterMap Request.copy?
        closeRequested := map.closeRequested || requests.contains .closeMap
        quitRequested := map.quitRequested || requests.contains .quit } := by
  induction requests using List.reverseRecOn with
  | nil => simp
  | append_singleton requests request ih =>
      rw [List.foldl_append, lastOf_concat]
      generalize requests.foldl apply map = done at ih ⊢
      rw [ih]
      cases request with
      | setLayerHidden layer hidden =>
          cases hidden <;> simp [apply, setHidden, Request.switch?, Request.overlay?, Request.copy?]
      | _ => simp [apply, Request.switch?, Request.overlay?, Request.copy?]

end MapState

/-! ### What a tick does with the requests -/

namespace World

variable {world : World} {time : Float32}

/-- The variables of the map after the turns of the next tick. -/
def mapAfterTurns (world : World) (time : Float32) : VariableStore :=
  (world.readKeys time).behave.2.map

/-- All that is issued in a tick reaches the audio, in the order of issue. -/
theorem tick_audio (world : World) (time : Float32) :
    (world.tick time).audio = (world.issued time).foldl AudioLog.apply world.audio := by
  rw [tick_eq, switchMap_eq, dismiss_eq, act_eq]
  rfl

/-- When the actors have left, the switch that was asked for last is pending. -/
theorem pending_dismiss (settled : world.map.pending = none) (time : Float32) :
    (world.readKeys time).act.dismiss.map.pending =
      lastOf Request.switch? (world.issued time) := by
  rw [dismiss_eq, act_eq, MapState.foldl_apply]
  exact (congrArg _ settled).trans Option.or_none

/-- After the requests of a tick nobody has asked for another map, or the switch that was
asked for last is made. -/
theorem tick_map (settled : world.map.pending = none) (time : Float32) :
    (world.tick time).map =
      let asked := (world.issued time).foldl MapState.apply
        { world.map with store := world.mapAfterTurns time }
      ((lastOf Request.switch? (world.issued time)).map asked.switchTo).getD asked := by
  have asked : (world.readKeys time).act.dismiss.map =
      (world.issued time).foldl MapState.apply
        { world.map with store := world.mapAfterTurns time } := by
    rw [dismiss_eq, act_eq]
    rfl
  rw [tick_eq, switchMap_eq, ← asked, ← pending_dismiss settled]
  simp only [MapState.takePending]
  cases (world.readKeys time).act.dismiss.map.pending <;> rfl

/-- A switch of the map stops all animations. -/
theorem tick_runs (settled : world.map.pending = none) {switch : MapSwitch}
    (asked : lastOf Request.switch? (world.issued time) = some switch) :
    (world.tick time).animations.runs = [] := by
  rw [tick_eq, switchMap_eq, pending_dismiss settled, asked]
  rfl

/-- Who enters does not leave at once. -/
theorem isLeaving_of_mem_entering {actor : Actor} (member : actor ∈ world.entering) :
    actor.isLeaving = false := by
  obtain ⟨spawn, -, template, -, same⟩ := exists_of_mem_newcomers member
  rw [same]
  rfl

/-- Actors that leave are gone, and behind the others stand the ones that were asked for. -/
theorem tick_cast (expectsNobody : world.queue = []) (time : Float32) :
    (world.tick time).cast =
      ((world.readKeys time).behave.1.filter fun actor => !actor.isLeaving) ++
        newcomers world.graph world.nextId ((world.issued time).filterMap spawnOf?) := by
  have stay : (world.readKeys time).entering.filter (fun actor => !actor.isLeaving) =
      newcomers world.graph world.nextId (world.queue ++ (world.issued time).filterMap spawnOf?) :=
    List.filter_eq_self.mpr fun actor member => by rw [isLeaving_of_mem_entering member]; rfl
  have cast : (world.tick time).cast =
      ((world.readKeys time).turned.cast ++ (world.readKeys time).entering).filter
        fun actor => !actor.isLeaving := by
    rw [tick_eq, switchMap_eq, dismiss_eq, act_eq]
  rw [cast, List.filter_append, stay, expectsNobody]
  rfl

/-- **Every request is delivered once and in order.**  On any stage that a host can bring
about, the sounds and the music of a tick are those that its turns ask for, and so are the
actors that enter.  The map is to be closed, or the game to end, if that was asked for now or
before.  If no turn asks for another map, texts and layer copies are added in the order of the
requests, the last request for a layer says whether it is hidden, and nothing else about the
map changes after the turns.  If some turn does, the last such request decides, and
everything that belongs to the old map is gone. -/
theorem requests_are_delivered {document : Document} (reachable : Reachable document world)
    (time : Float32) :
    let issued := world.issued time
    let after := world.tick time
    after.audio.sounds = world.audio.sounds ++ issued.filterMap Request.sound? ∧
    after.audio.music = world.audio.music ++ issued.filterMap Request.music? ∧
    (after.map.closeRequested = true ↔
      .closeMap ∈ issued ∨ world.map.closeRequested = true) ∧
    (after.map.quitRequested = true ↔ .quit ∈ issued ∨ world.map.quitRequested = true) ∧
    after.cast = ((world.readKeys time).behave.1.filter fun actor => !actor.isLeaving) ++
      newcomers world.graph world.nextId (issued.filterMap spawnOf?) ∧
    ((∀ path keepVariables, .changeMap path keepVariables ∉ issued) →
      after.map.overlays = world.map.overlays ++ issued.filterMap Request.overlay? ∧
      after.map.copies = world.map.copies ++ issued.filterMap Request.copy? ∧
      (∀ layer, after.map.isHidden layer =
        (lastOf (Request.visibility? layer) issued).getD (world.map.isHidden layer)) ∧
      after.map.current = world.map.current ∧
      after.map.store = world.mapAfterTurns time) ∧
    ∀ switch, lastOf Request.switch? issued = some switch →
      after.map.current = some switch.path ∧
      after.map.store = (if switch.keepVariables then world.mapAfterTurns time else .empty) ∧
      after.map.hiddenLayers = .empty ∧
      after.map.overlays = [] ∧ after.map.copies = [] ∧ after.animations.runs = [] := by
  intro issued after
  have tidy := reachable.tidy
  have audio : after.audio = issued.foldl AudioLog.apply world.audio := tick_audio world time
  rw [AudioLog.foldl_apply] at audio
  -- All requests are applied to the map first.  The last switch among them comes behind all.
  generalize beforeSwitch : issued.foldl MapState.apply
    { world.map with store := world.mapAfterTurns time } = asked
  have map : after.map = ((lastOf Request.switch? issued).map asked.switchTo).getD asked := by
    rw [← beforeSwitch]
    exact tick_map tidy.settled time
  have parts := MapState.foldl_apply issued
    { world.map with store := world.mapAfterTurns time }
  have flags : after.map.closeRequested = asked.closeRequested ∧
      after.map.quitRequested = asked.quitRequested := by
    rw [map]
    cases lastOf Request.switch? issued <;> exact ⟨rfl, rfl⟩
  rw [beforeSwitch] at parts
  refine ⟨by rw [audio], by rw [audio], ?_, ?_, tick_cast tidy.expectsNobody time, ?_, ?_⟩
  · rw [flags.1, parts]
    simp [or_comm]
  · rw [flags.2, parts]
    simp [or_comm]
  · intro stays
    have unswitched : lastOf Request.switch? issued = none := by
      apply lastOf_eq_none_iff.mpr
      intro request member
      apply Option.eq_none_iff_forall_ne_some.mpr
      intro switch switches
      rw [Request.switch?_eq_some_iff.mp switches] at member
      exact stays _ _ member
    rw [unswitched] at map
    have hidden : ∀ layer, after.map.isHidden layer =
        (lastOf (Request.visibility? layer) issued).getD (world.map.isHidden layer) := by
      intro layer
      rw [show after.map = asked from map, ← beforeSwitch]
      exact MapState.isHidden_foldl_apply issued _ layer
    rw [show after.map = asked from map] at hidden ⊢
    rw [parts] at hidden ⊢
    exact ⟨rfl, rfl, hidden, rfl, rfl⟩
  · intro switch switches
    have stops := tick_runs tidy.settled switches
    have store : asked.store = world.mapAfterTurns time := by rw [parts]
    rw [switches] at map
    rw [map, ← store]
    exact ⟨rfl, rfl, rfl, rfl, rfl, stops⟩

end World

/-- An usher who rings, dims the lamps, and then moves the show to the garden and on to the
street. -/
def tour : Document :=
  { actors :=
      [ { name := "Usher"
          events :=
            [ { name := "Ring", kind := "sound", properties := [textProperty "PATH" "bell"] },
              { name := "Dim", kind := "layer-state"
                properties :=
                  [textProperty "LAYER_NAME" "lamps", { name := "HIDE", value := .bool true }] },
              { name := "Garden", kind := "change-map"
                properties := [textProperty "PATH" "garden"] },
              { name := "Street", kind := "change-map"
                properties := [textProperty "PATH" "street"] },
              { name := "Leave", kind := "multi"
                properties :=
                  [ textProperty "1" "Ring", textProperty "2" "Dim", textProperty "3" "Garden",
                    textProperty "4" "Street" ] } ]
          responses := [("ON_SPAWN", "Leave")] } ] }

namespace World

def emptyHall : World := (setUp {} tour).toOption.getD default

def lastNight : World := (emptyHall.spawn "Usher" .zero).toOption.getD default

theorem reachable_lastNight : Reachable tour lastNight := by
  have begun : Reachable tour emptyHall :=
    .setUp (show setUp {} tour = .ok emptyHall from rfl)
  exact begun.spawn (show emptyHall.spawn "Usher" .zero = .ok lastNight from rfl)

theorem issued_lastNight :
    lastNight.issued 1 =
      [ .playSound "bell", .setLayerHidden "lamps" true, .changeMap "garden" false,
        .changeMap "street" false ] := by
  have order : inOrder (lastNight.readKeys 1).cast = (lastNight.readKeys 1).cast :=
    inOrder_of_ascending (List.pairwise_singleton _ _)
  rw [issued, behave, order]
  rfl

theorem issued_openingNight :
    ∃ spawn, openingNight.issued 1 = [.playSound "applause", .spawnActor spawn] := by
  rw [issued, behave, inOrder_openingNight]
  exact ⟨_, rfl⟩

/-- The bell is heard once, the show goes on in the street, and no layers are hidden there; on
the opening night there is applause, and the show stays where it is. -/
theorem requests_are_delivered_tour :
    (lastNight.tick 1).audio.sounds = ["bell"] ∧
      (lastNight.tick 1).map.current = some "street" ∧
      (lastNight.tick 1).map.hiddenLayers = .empty ∧
      (openingNight.tick 1).audio.sounds = ["applause"] ∧
      (openingNight.tick 1).map.current = none := by
  obtain ⟨bell, -, -, -, -, -, moved⟩ := requests_are_delivered reachable_lastNight 1
  rw [issued_lastNight] at bell moved
  obtain ⟨street, -, shown, -⟩ := moved _ rfl
  obtain ⟨spawn, asked⟩ := issued_openingNight
  obtain ⟨applause, -, -, -, -, stays, -⟩ := requests_are_delivered
    (opens_of_spawnAll setUp_emptyStage spawnAll_openingNight []).reachable 1
  have same : { openingNight with script := [] } = openingNight := rfl
  rw [same, asked] at applause stays
  obtain ⟨-, -, -, here, -⟩ := stays (by simp)
  exact ⟨bell, street, shown, applause, here⟩

end World

end Stagecraft
