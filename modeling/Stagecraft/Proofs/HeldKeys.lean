/-
Module: Stagecraft.Proofs.HeldKeys
Purpose: Over any sequence of ticks, an action lasts exactly as long as its key is
  held after a press, unless STOP cancels it.
Main exports:
  KeyTick, KeySession, KeySession.play, HeldSincePress, HeldUntil,
  sustained_actions_follow_keys
-/
import Stagecraft.Proofs.KeyEdges
import Stagecraft.Proofs.KeyView
import Stagecraft.Proofs.Walk

namespace Stagecraft

variable {σ : Type}

/-- No key goes down and up in one tick. -/
theorem InputState.sharp_update (input : InputState) (down : List KeyName) :
    Surroundings.Sharp (input.update down).key := by
  intro key
  by_cases held : key ∈ down
  · rw [key_update_of_mem held]
    exact fun both => Bool.false_ne_true both.2
  · rw [key_update_of_notMem held]
    split
    · exact fun both => Bool.false_ne_true both.1
    · exact fun both => Bool.false_ne_true both.1

/-! ### Sessions at the keyboard -/

/-- One tick at the keyboard: what surrounds the actor, and the keys that are held. -/
structure KeyTick (σ : Type) where
  surroundings : Surroundings σ
  down : List KeyName

/-- The record of one tick. -/
structure KeyMoment where
  down : List KeyName
  input : InputState
  report : DispatchReport

/-- An actor with its keys, and the record of the ticks so far with the latest one
first. -/
structure KeySession (σ : Type) where
  input : InputState
  scene : Scene σ
  log : List KeyMoment := []

namespace KeySession

/-- What the next tick does: the keys change, and the actor acts on them. -/
def dispatch (template : Template) (session : KeySession σ) (tick : KeyTick σ) :
    DispatchReport × Scene σ :=
  tick.surroundings.dispatch template (session.input.update tick.down).key session.scene

def moment (template : Template) (session : KeySession σ) (tick : KeyTick σ) : KeyMoment :=
  { down := tick.down
    input := session.input.update tick.down
    report := (session.dispatch template tick).1 }

/-- The session after the next tick. -/
def tick (template : Template) (session : KeySession σ) (tick : KeyTick σ) : KeySession σ :=
  { input := session.input.update tick.down
    scene := (session.dispatch template tick).2
    log := session.moment template tick :: session.log }

/-- The session after several ticks. -/
def play (template : Template) (session : KeySession σ) (ticks : List (KeyTick σ)) :
    KeySession σ :=
  ticks.foldl (KeySession.tick template) session

end KeySession

/-- Some ticks, the latest one first, all of which hold a key.  In the first of them it
went down. -/
structure Stretch (key : KeyName) (moments : List KeyMoment) : Prop where
  held : ∀ moment ∈ moments, key ∈ moment.down
  pressed : ∃ first, moments.getLast? = some first ∧ (first.input.key key).pressed = true

/-- The key has been held since it went down, and no STOP has cancelled its action
since then. -/
def HeldSincePress (key : KeyName) (log : List KeyMoment) : Prop :=
  ∃ stretch earlier, log = stretch ++ earlier ∧ Stretch key stretch ∧
    ∀ moment ∈ stretch, moment.report.cancels key = false

/-- The same up to a tick that may cancel the action itself. -/
def HeldUntil (key : KeyName) (moment : KeyMoment) (log : List KeyMoment) : Prop :=
  ∃ stretch earlier, log = stretch ++ earlier ∧ Stretch key (moment :: stretch) ∧
    ∀ before ∈ stretch, before.report.cancels key = false

variable {key : KeyName} {moment : KeyMoment} {log : List KeyMoment}

theorem heldUntil_iff : HeldUntil key moment log ↔
    key ∈ moment.down ∧ ((moment.input.key key).pressed = true ∨ HeldSincePress key log) := by
  constructor
  · rintro ⟨stretch, earlier, rfl, ⟨held, first, last, pressed⟩, quiet⟩
    refine ⟨held moment List.mem_cons_self, ?_⟩
    cases stretch with
    | nil =>
        obtain rfl : moment = first := by simpa using last
        exact .inl pressed
    | cons before stretch =>
        rw [List.getLast?_cons_cons] at last
        have heldBefore := fun other member => held other (List.mem_cons_of_mem _ member)
        exact .inr ⟨before :: stretch, earlier, rfl, ⟨heldBefore, first, last, pressed⟩, quiet⟩
  · rintro ⟨now, pressed | ⟨stretch, earlier, rfl, ⟨held, first, last, pressed⟩, quiet⟩⟩
    · exact ⟨[], log, rfl, ⟨by simpa using now, moment, rfl, pressed⟩, by simp⟩
    · have both : ∀ other ∈ moment :: stretch, key ∈ other.down := by
        intro other member
        rcases List.mem_cons.mp member with rfl | before
        · exact now
        · exact held other before
      have last : (moment :: stretch).getLast? = some first := by
        simp [List.getLast?_cons, last]
      exact ⟨stretch, earlier, rfl, ⟨both, first, last, pressed⟩, quiet⟩

/-- A key is held since a press through one more tick unless its action is cancelled there. -/
theorem heldSincePress_cons : HeldSincePress key (moment :: log) ↔
    HeldUntil key moment log ∧ moment.report.cancels key = false := by
  constructor
  · rintro ⟨stretch, earlier, parts, pressed, quiet⟩
    cases stretch with
    | nil =>
        rcases pressed.pressed with ⟨first, last, -⟩
        cases last
    | cons latest stretch =>
        obtain ⟨rfl, rfl⟩ := List.cons.inj parts
        exact ⟨⟨stretch, earlier, rfl, pressed, fun other member =>
          quiet other (List.mem_cons_of_mem _ member)⟩, quiet moment List.mem_cons_self⟩
  · rintro ⟨⟨stretch, earlier, rfl, pressed, quiet⟩, now⟩
    refine ⟨moment :: stretch, earlier, rfl, pressed, ?_⟩
    intro other member
    rcases List.mem_cons.mp member with rfl | before
    · exact now
    · exact quiet other before

/-! ### What every tick keeps -/

/-- A template sustains a key if it has a sustained binding with an event for it. -/
theorem Template.isSome_sustains?_iff {template : Template} {key : KeyName} :
    (template.sustains? key).isSome = true ↔ ∃ binding ∈ template.bindings,
      binding.key = key ∧ binding.sustained = true ∧ binding.event.isSome = true := by
  simp only [Template.sustains?]
  rw [List.findSome?_isSome_iff]
  constructor
  · rintro ⟨binding, member, sustains⟩
    unfold KeyBinding.sustains? at sustains
    split at sustains
    · next both => exact ⟨binding, member, both.2, both.1, by simpa using sustains⟩
    · cases sustains
  · rintro ⟨binding, member, same, sustained, event⟩
    refine ⟨binding, member, ?_⟩
    simp only [KeyBinding.sustains?]
    rw [if_pos ⟨sustained, same⟩, Option.isSome_map]
    exact event

namespace KeySession

/-- The action that a key has once its bindings are handled in the next tick. -/
def begun (template : Template) (session : KeySession σ) (tick : KeyTick σ) (key : KeyName) :
    Option (NodeId × Option NodeId) :=
  KeyView.begun ((session.input.update tick.down).key key) (template.sustains? key)
    (session.scene.actor.sustained.events? key)

/-- The actions of the actor are those of the keys that have been held since they went
down, and each is that of the first sustained binding of its key. -/
structure Tracks (template : Template) (session : KeySession σ) : Prop where
  keyed : session.scene.actor.sustained.Keyed
  sound : ∀ key action, session.scene.actor.sustained.events? key = some action →
    template.sustains? key = some action ∧ HeldSincePress key session.log
  complete : ∀ key, HeldSincePress key session.log →
    session.scene.actor.sustained.events? key = template.sustains? key
  down : ∀ key, HeldSincePress key session.log → session.input.isDown key = true

/-- At the beginning there are no actions, and no key has been seen to go down. -/
theorem Tracks.start (template : Template) (input : InputState) {scene : Scene σ}
    (idle : scene.actor.sustained.active = []) : Tracks template { input, scene } := by
  have never : ∀ key, ¬ HeldSincePress key [] := by
    rintro key ⟨stretch, earlier, parts, ⟨-, first, last, -⟩, -⟩
    obtain ⟨rfl, -⟩ := List.append_eq_nil_iff.mp parts.symm
    cases last
  refine ⟨?_, ?_, fun key held => absurd held (never key), fun key held => absurd held (never key)⟩
  · simp [SustainedActions.Keyed, idle]
  · intro key action found
    simp [SustainedActions.events?, SustainedActions.find?, idle] at found

namespace Tracks

variable {template : Template} {session : KeySession σ}

/-- The action of a key, if there is one, is what the template sustains. -/
theorem fits (tracks : session.Tracks template) (key : KeyName) :
    session.scene.actor.sustained.events? key = none ∨
      session.scene.actor.sustained.events? key = template.sustains? key := by
  cases found : session.scene.actor.sustained.events? key with
  | none => exact .inl rfl
  | some action => exact .inr (tracks.sound key action found).1.symm

/-- The next tick for one key. -/
theorem dispatch_key (tracks : session.Tracks template) (tick : KeyTick σ) (key : KeyName) :
    let report := (session.moment template tick).report
    (session.tick template tick).scene.actor.sustained.events? key =
        (if report.cancels key then none else begun template session tick key) ∧
      report.eventsFor (.held key) = ((begun template session tick key).map Prod.fst).toList ∧
      report.eventsFor (.ended key) =
        if ((session.input.update tick.down).key key).released then
          ((session.scene.actor.sustained.events? key).bind Prod.snd).toList
        else [] :=
  Surroundings.dispatch_key (InputState.sharp_update session.input tick.down) tracks.keyed key
    (tracks.fits key)

/-- A key held until the dispatch of a tick has its action in it. -/
theorem begun_of_heldUntil (tracks : session.Tracks template) {tick : KeyTick σ}
    {key : KeyName} (held : HeldUntil key (session.moment template tick) session.log) :
    begun template session tick key = template.sustains? key := by
  obtain ⟨down, since⟩ := heldUntil_iff.mp held
  have now : key ∈ tick.down := down
  simp only [begun, KeyView.begun]
  rw [InputState.key_update_of_mem now]
  cases before : session.input.isDown key with
  | false => rfl
  | true =>
      rcases since with pressed | since
      · have edge : ((session.input.update tick.down).key key).pressed = true := pressed
        rw [InputState.key_update_of_mem now, before] at edge
        cases edge
      · exact tracks.complete key since

/-- A key that is not held has none. -/
theorem begun_of_not_heldUntil (tracks : session.Tracks template) {tick : KeyTick σ}
    {key : KeyName} (free : ¬ HeldUntil key (session.moment template tick) session.log) :
    begun template session tick key = none := by
  rw [heldUntil_iff] at free
  -- A key that has not been held since a press has no action yet.
  have idle : ¬ HeldSincePress key session.log →
      session.scene.actor.sustained.events? key = none := by
    intro fresh
    cases found : session.scene.actor.sustained.events? key with
    | none => rfl
    | some action => exact absurd (tracks.sound key action found).2 fresh
  simp only [begun, KeyView.begun]
  by_cases now : key ∈ tick.down
  · have edge : (session.input.update tick.down).key key = _ := InputState.key_update_of_mem now
    have fresh : ¬ HeldSincePress key session.log := fun since => free ⟨now, .inr since⟩
    have kept : ((session.input.update tick.down).key key).pressed = false := by
      rw [← Bool.not_eq_true]
      exact fun pressed => free ⟨now, .inl pressed⟩
    rw [kept, edge]
    exact idle fresh
  · rw [InputState.key_update_of_notMem now]
    split
    · rfl
    · next up =>
        apply idle
        intro since
        apply up
        exact InputState.mem_heldKeys_of_isDown (tracks.down key since)

/-- Every tick keeps track. -/
theorem tick (tracks : session.Tracks template) (tick : KeyTick σ) :
    (session.tick template tick).Tracks template where
  keyed := Surroundings.dispatch_keyed template _ tracks.keyed
  sound := by
    intro key action found
    rw [(tracks.dispatch_key tick key).1] at found
    split at found
    · cases found
    · next quiet =>
        by_cases held : HeldUntil key (session.moment template tick) session.log
        · rw [tracks.begun_of_heldUntil held] at found
          exact ⟨found, heldSincePress_cons.mpr ⟨held, by simpa using quiet⟩⟩
        · rw [tracks.begun_of_not_heldUntil held] at found
          cases found
  complete := by
    intro key since
    obtain ⟨held, quiet⟩ := heldSincePress_cons.mp since
    rw [(tracks.dispatch_key tick key).1, quiet, tracks.begun_of_heldUntil held]
    rfl
  down := by
    intro key since
    obtain ⟨held, -⟩ := heldSincePress_cons.mp since
    exact InputState.isDown_update (heldUntil_iff.mp held).1

end Tracks

/-- Every session keeps track of the keys. -/
theorem tracks_play (template : Template) {session : KeySession σ}
    (tracks : session.Tracks template) (ticks : List (KeyTick σ)) :
    (session.play template ticks).Tracks template := by
  simp only [play]
  induction ticks generalizing session with
  | nil => exact tracks
  | cons tick rest ih => exact ih (tracks.tick tick)

/-- **Sustained actions follow the keys.**  Let an actor without sustained actions go
through any ticks, each with its held keys and its surroundings.  Afterwards a key has
an action exactly if the template keeps an event up for it and the key has been held
since it went down in one of these ticks, with no STOP from the event in any turn of
the action since then.

In the next tick the event of the first sustained binding of the key runs exactly once
in the pass by rank if the key has been held so far, also if that raises STOP, and
otherwise not at all.  The stop event runs exactly once in the tick that no longer
holds the key, if the action lasted that long, and otherwise not at all. -/
theorem sustained_actions_follow_keys (template : Template) (input : InputState)
    {scene : Scene σ} (idle : scene.actor.sustained.active = []) (ticks : List (KeyTick σ))
    (key : KeyName) :
    let session := KeySession.play template { input, scene } ticks
    (session.scene.actor.sustained.isActive key = true ↔
      (∃ binding ∈ template.bindings,
        binding.key = key ∧ binding.sustained = true ∧ binding.event.isSome = true) ∧
      HeldSincePress key session.log) ∧
    ∀ tick : KeyTick σ,
      let moment := session.moment template tick
      (HeldUntil key moment session.log → moment.report.eventsFor (.held key) =
        ((template.sustains? key).map Prod.fst).toList) ∧
      (¬ HeldUntil key moment session.log → moment.report.eventsFor (.held key) = []) ∧
      (key ∈ tick.down → moment.report.eventsFor (.ended key) = []) ∧
      (key ∉ tick.down → moment.report.eventsFor (.ended key) =
        if session.scene.actor.sustained.isActive key then
          ((template.sustains? key).bind Prod.snd).toList
        else []) := by
  intro session
  have tracks : session.Tracks template := tracks_play template (.start template input idle) ticks
  rw [SustainedActions.isActive_eq_isSome_events?]
  constructor
  · rw [← Template.isSome_sustains?_iff]
    constructor
    · intro active
      obtain ⟨action, found⟩ := Option.isSome_iff_exists.mp active
      obtain ⟨sustains, since⟩ := tracks.sound key action found
      exact ⟨by rw [sustains]; rfl, since⟩
    · rintro ⟨sustains, since⟩
      rw [tracks.complete key since]
      exact sustains
  · intro tick moment
    obtain ⟨-, held, ended⟩ := tracks.dispatch_key tick key
    refine ⟨?_, ?_, ?_, ?_⟩
    · intro lasts
      exact held.trans (by rw [tracks.begun_of_heldUntil lasts])
    · intro free
      exact held.trans (by rw [tracks.begun_of_not_heldUntil free]; rfl)
    · intro now
      apply ended.trans
      rw [InputState.key_update_of_mem now]
      rfl
    · intro up
      apply ended.trans
      rw [InputState.key_update_of_notMem up]
      cases found : session.scene.actor.sustained.events? key with
      | none => simp
      | some action =>
          -- An action that is there is that of the first sustained binding, and its key was
          -- down in the tick before.
          obtain ⟨sustains, since⟩ := tracks.sound key action found
          rw [if_pos (InputState.mem_heldKeys_of_isDown (tracks.down key since)), sustains]
          rfl

/-! ### An example: the player's key -/

/-- The key for which the player acts. -/
def actKey : KeyName := { text := "A" }

def theatreTick (down : List KeyName) : KeyTick Controller :=
  { surroundings := theatreEvening, down }

/-- The player after two ticks with the key held. -/
def theatreSession : KeySession Controller :=
  play player { input := {}, scene := theatreScene } [theatreTick [actKey], theatreTick [actKey]]

/-- The player acts for as long as the key is held, and draws its own curtain when the
key goes up. -/
theorem sustained_actions_follow_keys_theatre :
    theatreScene.actor.sustained.active = [] ∧ HeldSincePress actKey theatreSession.log ∧
      theatreSession.scene.actor.sustained.isActive actKey = true ∧
      (theatreSession.moment player (theatreTick [actKey])).report.eventsFor (.held actKey) =
        [4] ∧
      (theatreSession.moment player (theatreTick [])).report.eventsFor (.held actKey) = [] ∧
      (theatreSession.moment player (theatreTick [])).report.eventsFor (.ended actKey) = [1] := by
  have idle : theatreScene.actor.sustained.active = [] := rfl
  have sustains : player.sustains? actKey = some (4, some 1) := by decide
  have active : theatreSession.scene.actor.sustained.isActive actKey = true := by decide
  obtain ⟨lasts, next⟩ := sustained_actions_follow_keys player {} idle
    [theatreTick [actKey], theatreTick [actKey]] actKey
  unfold theatreSession at active ⊢
  have since := (lasts.mp active).2
  obtain ⟨turn, -, -, -⟩ := next (theatreTick [actKey])
  obtain ⟨-, rest, -, ending⟩ := next (theatreTick [])
  rw [sustains] at turn ending
  rw [active] at ending
  refine ⟨idle, since, active, turn ?_, rest ?_, ending List.not_mem_nil⟩
  · exact heldUntil_iff.mpr ⟨List.mem_cons_self, .inr since⟩
  · rw [heldUntil_iff]
    exact fun held => absurd held.1 List.not_mem_nil

end KeySession

end Stagecraft
