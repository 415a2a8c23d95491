/-
Module: Stagecraft.Proofs.Runs
Purpose: Where a run of ticks ends, and that a run which is cut in two comes to the same as one
  that is not.
Main exports:
  World.AsksToEnd, World.shouldStop_tick_iff, World.after, World.EndsAt, World.goesOn_or_endsAt,
  World.runTicks_of_goesOn, World.runTicks_of_endsAt, World.runTicks_add_of_goesOn,
  World.runTicks_add_of_endsAt, World.runs_can_be_cut
-/
import Mathlib.Logic.Function.Iterate
import Stagecraft.Proofs.RequestDelivery

namespace Stagecraft

/-! ### What ends a run -/

namespace MapState

/-- To take a pending switch leaves the wish to stop. -/
theorem shouldStop_takePending (map : MapState) :
    map.takePending.2.shouldStop = map.shouldStop := by
  unfold takePending
  split <;> rfl

/-- Once the end was asked for, no request takes that back. -/
theorem shouldStop_foldl_apply_iff {requests : List Request} {map : MapState} :
    (requests.foldl apply map).shouldStop = true ↔
      map.shouldStop = true ∨ .closeMap ∈ requests ∨ .quit ∈ requests := by
  rw [foldl_apply]
  simp only [shouldStop, Bool.or_eq_true, List.contains_iff_mem]
  grind

end MapState

namespace World

variable {world : World} {time : Float32}

/-- Some turn of the next tick asks to close the map or to end the game. -/
def AsksToEnd (world : World) (time : Float32) : Prop :=
  .closeMap ∈ world.issued time ∨ .quit ∈ world.issued time

/-- The run is to stop after a tick if it was before, or if somebody asks for the end in the
tick. -/
theorem shouldStop_tick_iff (world : World) (time : Float32) :
    (world.tick time).map.shouldStop = true ↔
      world.map.shouldStop = true ∨ world.AsksToEnd time := by
  have flags : (world.tick time).map.shouldStop =
      ((world.issued time).foldl MapState.apply
        { world.map with store := world.mapAfterTurns time }).shouldStop := by
    rw [tick_eq, switchMap_eq, dismiss_eq, act_eq]
    exact MapState.shouldStop_takePending _
  rw [flags, MapState.shouldStop_foldl_apply_iff]
  rfl

/-! ### Ticks that are counted without regard to the end -/

/-- The stage after some ticks, whatever they ask for. -/
def after (world : World) (time : Float32) (ticks : Nat) : World :=
  (fun stage => stage.tick time)^[ticks] world

@[simp] theorem after_zero (world : World) (time : Float32) : world.after time 0 = world := rfl

theorem after_succ (world : World) (time : Float32) (ticks : Nat) :
    world.after time (ticks + 1) = (world.tick time).after time ticks := rfl

/-- Ticks in two parts lead where all of them lead. -/
theorem after_add (world : World) (time : Float32) (first second : Nat) :
    world.after time (first + second) = (world.after time first).after time second := by
  rw [after, after, after, Nat.add_comm, Function.iterate_add_apply]

/-- None of the next ticks asks for the end. -/
def GoesOn (world : World) (time : Float32) (ticks : Nat) : Prop :=
  ∀ earlier < ticks, ¬ (world.after time earlier).AsksToEnd time

/-- Of the ticks from a stage on, counted from zero, this is the first one that asks for the
end. -/
structure EndsAt (world : World) (time : Float32) (last : Nat) : Prop where
  goesOn : world.GoesOn time last
  asks : (world.after time last).AsksToEnd time

/-- A run goes on for one tick more if nobody asks for the end in the first one. -/
theorem goesOn_succ_iff {ticks : Nat} :
    world.GoesOn time (ticks + 1) ↔
      ¬ world.AsksToEnd time ∧ (world.tick time).GoesOn time ticks := by
  simp only [GoesOn, Nat.forall_lt_succ_left, after_zero, after_succ]

/-- Either all of some ticks leave the run to go on, or one of them is the first that does
not. -/
theorem goesOn_or_endsAt (world : World) (time : Float32) (ticks : Nat) :
    world.GoesOn time ticks ∨ ∃ last < ticks, world.EndsAt time last := by
  induction ticks with
  | zero => exact .inl fun _ before => absurd before (Nat.not_lt_zero _)
  | succ ticks ih =>
      rcases ih with goesOn | ⟨last, before, ends⟩
      · by_cases asks : (world.after time ticks).AsksToEnd time
        · exact .inr ⟨ticks, Nat.lt_succ_self ticks, goesOn, asks⟩
        · exact .inl (Nat.forall_lt_succ_right.mpr ⟨goesOn, asks⟩)
      · exact .inr ⟨last, Nat.lt_succ_of_lt before, ends⟩

/-! ### Runs -/

/-- A run goes on after a tick exactly if that asks for no end, provided that nobody did so
before. -/
theorem runFrom_succ (begun : world.map.shouldStop = false) (ran ticks : Nat) :
    (world.AsksToEnd time → runFrom ran (ticks + 1) time world = (ran + 1, world.tick time)) ∧
      (¬ world.AsksToEnd time →
        (world.tick time).map.shouldStop = false ∧
          runFrom ran (ticks + 1) time world = runFrom (ran + 1) ticks time (world.tick time)) := by
  have stops : (world.tick time).map.shouldStop = true ↔ world.AsksToEnd time := by
    simp [shouldStop_tick_iff, begun]
  constructor
  · intro asks
    exact if_pos (stops.mpr asks)
  · intro patient
    exact ⟨Bool.eq_false_iff.mpr (stops.not.mpr patient), if_neg (stops.not.mpr patient)⟩

/-- Where no tick asks for the end, a run goes through the ticks one by one, and what it has
left to do after them it does from there. -/
theorem runFrom_of_goesOn (begun : world.map.shouldStop = false) {ticks : Nat}
    (goesOn : world.GoesOn time ticks) (ran more : Nat) :
    (world.after time ticks).map.shouldStop = false ∧
      runFrom ran (ticks + more) time world =
        runFrom (ran + ticks) more time (world.after time ticks) := by
  induction ticks generalizing world ran with
  | zero => simp [begun]
  | succ ticks ih =>
      obtain ⟨patient, later⟩ := goesOn_succ_iff.mp goesOn
      obtain ⟨still, first⟩ := (runFrom_succ begun ran (ticks + more)).2 patient
      obtain ⟨ended, rest⟩ := ih still later (ran + 1)
      refine ⟨ended, ?_⟩
      rw [Nat.add_right_comm, first, rest, after_succ, Nat.add_right_comm, Nat.add_assoc]

/-- What was counted before a run is only added to its count. -/
theorem runFrom_eq_add (ran ticks : Nat) (time : Float32) (world : World) :
    runFrom ran ticks time world =
      (ran + (runTicks ticks time world).1, (runTicks ticks time world).2) := by
  rw [runFrom_eq, runTicks_eq]

theorem runTicks_of_goesOn (begun : world.map.shouldStop = false) {ticks : Nat}
    (goesOn : world.GoesOn time ticks) :
    runTicks ticks time world = (ticks, world.after time ticks) := by
  have whole := (runFrom_of_goesOn begun goesOn 0 0).2
  rwa [Nat.add_zero, Nat.zero_add] at whole

/-- A run ends with the first tick that asks for it, however many ticks it might still make. -/
theorem runTicks_of_endsAt (begun : world.map.shouldStop = false) {last ticks : Nat}
    (ends : world.EndsAt time last) (before : last < ticks) :
    runTicks ticks time world = (last + 1, world.after time (last + 1)) := by
  obtain ⟨more, rfl⟩ : ∃ more, ticks = last + (more + 1) := ⟨ticks - last - 1, by omega⟩
  obtain ⟨still, reaches⟩ := runFrom_of_goesOn begun ends.goesOn 0 (more + 1)
  rw [runTicks, reaches, (runFrom_succ still _ more).1 ends.asks, Nat.zero_add,
    after_add world time last 1]
  rfl

/-- A run that may go on is continued by another one. -/
theorem runTicks_add_of_goesOn (begun : world.map.shouldStop = false) {first : Nat}
    (goesOn : world.GoesOn time first) (second : Nat) :
    let rest := runTicks second time (runTicks first time world).2
    runTicks (first + second) time world = (first + rest.1, rest.2) := by
  intro rest
  have reached : rest = runTicks second time (world.after time first) := by
    unfold rest
    rw [runTicks_of_goesOn begun goesOn]
  rw [reached, runTicks, (runFrom_of_goesOn begun goesOn 0 second).2, runFrom_eq_add,
    Nat.zero_add]

/-- A run that has ended is not changed by ticks that it might still have made. -/
theorem runTicks_add_of_endsAt (begun : world.map.shouldStop = false) {last first : Nat}
    (ends : world.EndsAt time last) (before : last < first) (second : Nat) :
    runTicks (first + second) time world = runTicks first time world := by
  rw [runTicks_of_endsAt begun ends before,
    runTicks_of_endsAt begun ends (Nat.lt_add_right second before)]

/-- No run is over before it begins. -/
theorem shouldStop_of_spawnAll {document : Document} {settings : Settings} {start entered : World}
    (made : setUp settings document = .ok start) {spawns : List (String × Vec2)}
    (enters : start.spawnAll spawns = .ok entered) : entered.map.shouldStop = false := by
  have begun : start.map.shouldStop = false := by
    obtain ⟨-, -, -, fresh, -⟩ := exists_of_setUp made
    rw [fresh]
    rfl
  apply spawnAll_keeps enters _ begun
  intro world entered name position enters goesOn
  obtain ⟨template, -, rfl⟩ := exists_of_spawn enters
  exact goesOn

/-- **Runs end where they are asked to, and can be cut anywhere before.**  On a stage that was
set up, with any actors let enter and any script, a run of some ticks makes all of them if no
turn asks to close the map or to end the game; otherwise it makes the first tick in which one
does, and no other one after that.  It counts the ticks that it makes.  If a run makes all its
ticks, another run from there comes to the same stage as one run of both lengths, and their
counts add up.  If it does not, a longer run is the same run. -/
theorem runs_can_be_cut {document : Document} {settings : Settings} {start entered : World}
    (made : setUp settings document = .ok start) {spawns : List (String × Vec2)}
    (enters : start.spawnAll spawns = .ok entered) (script : List KeyHold) (time : Float32)
    (first second : Nat) :
    let opening := { entered with script }
    let run := runTicks first time opening
    let whole := runTicks (first + second) time opening
    let rest := runTicks second time run.2
    let patient := ∀ tick < first, ¬ (opening.after time tick).AsksToEnd time
    (patient → run = (first, opening.after time first)) ∧
    (¬ patient → ∃ last < first,
      (opening.after time last).AsksToEnd time ∧
      (∀ tick < last, ¬ (opening.after time tick).AsksToEnd time) ∧
      run = (last + 1, opening.after time (last + 1))) ∧
    (patient → whole = (run.1 + rest.1, rest.2)) ∧
    (¬ patient → whole = run) := by
  intro opening run whole rest patient
  have goesOn := shouldStop_of_spawnAll made enters
  have begun : opening.map.shouldStop = false := goesOn
  have endsAt : ¬ patient → ∃ last < first, opening.EndsAt time last :=
    (goesOn_or_endsAt opening time first).resolve_left
  refine ⟨runTicks_of_goesOn begun, ?_, ?_, ?_⟩
  · intro asked
    obtain ⟨last, before, ends⟩ := endsAt asked
    exact ⟨last, before, ends.asks, ends.goesOn, runTicks_of_endsAt begun ends before⟩
  · intro goesOn
    have counted : run.1 = first := congrArg Prod.fst (runTicks_of_goesOn begun goesOn)
    rw [counted]
    exact runTicks_add_of_goesOn begun goesOn second
  · intro asked
    obtain ⟨last, before, ends⟩ := endsAt asked
    exact runTicks_add_of_endsAt begun ends before second

end World

/-- A caretaker who locks up as soon as the day begins. -/
def closingDay : Document :=
  { actors :=
      [ { name := "Caretaker"
          events := [ { name := "Lock", kind := "close-map" } ]
          responses := [("ON_SPAWN", "Lock")] } ] }

namespace World

def lobby : World := (setUp {} closingDay).toOption.getD default

def lastDay : World := (lobby.spawnAll [("Caretaker", .zero)]).toOption.getD default

theorem asksToEnd_lastDay : lastDay.AsksToEnd 1 := by
  have order : inOrder (lastDay.readKeys 1).cast = (lastDay.readKeys 1).cast :=
    inOrder_of_ascending (List.pairwise_singleton _ _)
  refine .inl ?_
  rw [issued, behave, order]
  exact List.mem_cons_self

theorem not_asksToEnd_openingNight : ¬ openingNight.AsksToEnd 1 := by
  obtain ⟨spawn, asked⟩ := issued_openingNight
  simp [AsksToEnd, asked]

/-- The day is over after one tick, whether three ticks were planned or five; the show goes on
after its first tick, so its second tick may as well be a run of its own. -/
theorem runs_can_be_cut_closingDay :
    (setUp {} closingDay = .ok lobby ∧ lobby.spawnAll [("Caretaker", .zero)] = .ok lastDay) ∧
      runTicks 3 1 lastDay = (1, lastDay.tick 1) ∧
      runTicks (3 + 2) 1 lastDay = runTicks 3 1 lastDay ∧
      runTicks 1 1 openingNight = (1, openingNight.tick 1) ∧
      (runTicks (1 + 1) 1 openingNight).2 = (runTicks 1 1 (openingNight.tick 1)).2 := by
  have made : setUp {} closingDay = .ok lobby := by rfl
  have enters : lobby.spawnAll [("Caretaker", .zero)] = .ok lastDay := by rfl
  have impatient : ¬ ∀ tick < 3, ¬ (lastDay.after 1 tick).AsksToEnd 1 :=
    fun patient => patient 0 (by decide) asksToEnd_lastDay
  obtain ⟨-, ends, -, longer⟩ := runs_can_be_cut made enters [] 1 3 2
  obtain ⟨last, -, -, first, ended⟩ := ends impatient
  obtain rfl : last = 0 :=
    Nat.eq_zero_of_not_pos fun later => first 0 later asksToEnd_lastDay
  have patient : ∀ tick < 1, ¬ (openingNight.after 1 tick).AsksToEnd 1 := by
    simpa using not_asksToEnd_openingNight
  obtain ⟨all, -, joined, -⟩ := runs_can_be_cut setUp_emptyStage spawnAll_openingNight [] 1 1 1
  have same : { openingNight with script := [] } = openingNight := rfl
  rw [same] at all joined
  have shown : runTicks 1 1 openingNight = (1, openingNight.tick 1) := all patient
  have both := congrArg Prod.snd (joined patient)
  rw [shown] at both
  exact ⟨⟨made, enters⟩, ended, longer impatient, shown, both⟩

end World

end Stagecraft
