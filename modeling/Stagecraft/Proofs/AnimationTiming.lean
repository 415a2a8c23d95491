/-
Module: Stagecraft.Proofs.AnimationTiming
Purpose: When a timed animation is complete, told from all that was asked for before and
  from the sweeps between.
Main exports:
  FrameLength.gameTicks?, AnimationSession.play, Unbroken, CurrentSeries,
  AnimationSession.timed_runs_count_exactly
-/
import Stagecraft.Animation.Run
import Stagecraft.Proofs.Basic
import Mathlib.Data.Nat.Find

namespace Stagecraft

/-! ### How long animations last -/

namespace FrameLength

/-- Whether an animation takes a time of its own. -/
def isTimed : FrameLength → Bool
  | .once | .continuous => false
  | .gameFrames _ | .animationFrames _ | .cycles _ => true

/-- The ticks of the game in which an animation runs.  They are counted no further than the
longest duration. -/
def gameTicks? (framesPerCycle ticksPerFrame : Nat) : FrameLength → Option Nat
  | .once | .continuous => none
  | .gameFrames count => some count
  | .animationFrames count => some (min (count * ticksPerFrame) AnimationRuns.longest)
  | .cycles count =>
      some (min (count * framesPerCycle * ticksPerFrame) AnimationRuns.longest)

theorem isTimed_of_gameTicks? {framesPerCycle ticksPerFrame ticks : Nat} {frames : FrameLength}
    (lasts : frames.gameTicks? framesPerCycle ticksPerFrame = some ticks) :
    frames.isTimed = true := by
  cases frames with
  | once | continuous => cases lasts
  | gameFrames | animationFrames | cycles => rfl

end FrameLength

namespace AnimationRuns

variable {animations : AnimationRuns} {key other : RunKey}

/-- To cut the frames of some cycles before they are counted in ticks changes nothing. -/
theorem min_mul_longest (frames ticksPerFrame : Nat) :
    min (min frames longest * ticksPerFrame) longest = min (frames * ticksPerFrame) longest := by
  rcases Nat.eq_zero_or_pos ticksPerFrame with rfl | positive
  · rfl
  · have enough : longest ≤ longest * ticksPerFrame := Nat.le_mul_of_pos_right _ positive
    rw [← Nat.mul_min_mul_right, Nat.min_assoc, Nat.min_eq_right enough]

/-- A duration is never less than one tick. -/
theorem duration?_eq (animations : AnimationRuns) (frames : FrameLength) :
    animations.duration? frames =
      (frames.gameTicks? animations.framesPerCycle animations.ticksPerFrame).map (max 1) := by
  cases frames with
  | once | continuous | gameFrames | animationFrames => rfl
  | cycles => simp only [duration?, FrameLength.gameTicks?, min_mul_longest, Option.map_some]

theorem duration?_request (request : AnimationRequest) :
    (animations.request key request).2.duration? = animations.duration? := by
  funext frames
  simp only [AnimationRuns.request]
  split
  · split <;> rfl
  · split <;> cases frames <;> rfl

theorem duration?_sweep : animations.sweep.duration? = animations.duration? := by
  funext frames
  cases frames <;> rfl

/-! ### One key at a time -/

/-- No key has two runs. -/
def Keyed (animations : AnimationRuns) : Prop := (animations.runs.map Prod.fst).Nodup

/-- To store the run of one key leaves those of all others. -/
theorem lookup_store (run : AnimationRun) (runs : List (RunKey × AnimationRun)) :
    (store key run runs).lookup other = if other = key then some run else runs.lookup other := by
  induction runs with
  | nil => rw [store, lookup_cons_eq_ite]
  | cons entry rest ih =>
      rcases entry with ⟨first, old⟩
      simp only [store]
      split
      · next same =>
          rw [lookup_cons_eq_ite, lookup_cons_eq_ite, same]
          split <;> rfl
      · next differs =>
          rw [lookup_cons_eq_ite, lookup_cons_eq_ite, ih]
          split
          · next here => rw [if_neg (by rwa [here])]
          · rfl

theorem mem_keys_store {run : AnimationRun} {runs : List (RunKey × AnimationRun)} :
    other ∈ (store key run runs).map Prod.fst ↔ other = key ∨ other ∈ runs.map Prod.fst := by
  induction runs with
  | nil => simp [store]
  | cons entry rest ih =>
      simp only [store]
      split
      · next same => simp [same]
      · rw [List.map_cons, List.mem_cons, ih, List.map_cons, List.mem_cons]
        exact or_left_comm

/-- A run takes the place of the one before it under the same key. -/
theorem nodup_store {run : AnimationRun} {runs : List (RunKey × AnimationRun)}
    (nodup : (runs.map Prod.fst).Nodup) : ((store key run runs).map Prod.fst).Nodup := by
  induction runs with
  | nil => exact List.nodup_singleton _
  | cons entry rest ih =>
      rw [List.map_cons, List.nodup_cons] at nodup
      simp only [store]
      split
      · next same =>
          rw [same] at nodup
          exact List.nodup_cons.mpr nodup
      · next differs =>
          rw [List.map_cons, List.nodup_cons, mem_keys_store]
          exact ⟨not_or.mpr ⟨differs, nodup.1⟩, ih nodup.2⟩

theorem Keyed.request (keyed : animations.Keyed) (request : AnimationRequest) :
    (animations.request key request).2.Keyed := by
  simp only [AnimationRuns.request]
  split
  · split <;> exact keyed
  · split
    · exact List.Nodup.sublist (List.filter_sublist.map _) keyed
    · exact nodup_store keyed

theorem Keyed.sweep (keyed : animations.Keyed) : animations.sweep.Keyed := by
  simp only [Keyed, AnimationRuns.sweep, List.map_map]
  exact List.Nodup.sublist (List.filter_sublist.map _) keyed

end AnimationRuns

/-! ### Histories -/

/-!
A timed animation goes on for as long as its node keeps asking for it.  The log of a session
tells how often that was, with no regard to what is stored.
-/

/-- What the stage does with the animations: a node asks for one, or a tick ends. -/
inductive AnimationCall where
  | ask (key : RunKey) (request : AnimationRequest)
  | sweep

/-- Whether a call is a sweep or comes from the node and the actor of a key. -/
def AnimationCall.concerns (key : RunKey) : AnimationCall → Bool
  | .ask other _ => other = key
  | .sweep => true

/-- What has happened to the animations. -/
inductive AnimationEvent where
  | asked (key : RunKey) (request : AnimationRequest) (answer : Progress)
  | swept

namespace AnimationEvent

def AsksFor (key : RunKey) (event : AnimationEvent) : Prop :=
  ∃ request answer, event = .asked key request answer ∧ request.frames.isTimed = true

/-- Whether an event is a certain request under a certain key. -/
def isRequest (key : RunKey) (request : AnimationRequest) : AnimationEvent → Bool
  | .asked other same _ => other = key ∧ same = request
  | .swept => false

end AnimationEvent

/-- The animations with all that has happened to them, the latest first. -/
structure AnimationSession where
  animations : AnimationRuns
  log : List AnimationEvent := []

namespace AnimationSession

def call (session : AnimationSession) : AnimationCall → AnimationSession
  | .ask key request =>
      let result := session.animations.request key request
      { animations := result.2, log := .asked key request result.1 :: session.log }
  | .sweep => { animations := session.animations.sweep, log := .swept :: session.log }

/-- Begin without any runs and do what the calls say. -/
def play (framesPerCycle ticksPerFrame : Nat) (calls : List AnimationCall) : AnimationSession :=
  calls.foldl call { animations := { framesPerCycle, ticksPerFrame } }

end AnimationSession

/-- Events through which one timed animation goes on under a key, the latest first: no other
one with a time was asked for there, no answer was that it is complete, and between any
sweep and the next it was asked for. -/
structure Unbroken (key : RunKey) (request : AnimationRequest)
    (series : List AnimationEvent) : Prop where
  same : ∀ other answer, .asked key other answer ∈ series → other.frames.isTimed = true →
    other = request ∧ answer = .running
  steady : ∀ newer between older, series = newer ++ .swept :: between ++ .swept :: older →
    .swept ∉ between → ∃ event ∈ between, event.AsksFor key

/-- The longest such series that reaches up to now. -/
structure CurrentSeries (key : RunKey) (request : AnimationRequest)
    (log series : List AnimationEvent) : Prop where
  unbroken : Unbroken key request series
  latest : series <+: log
  longest : ∀ other, Unbroken key request other → other <+: log → other <+: series

/-- How often an animation was asked for under a key. -/
def countRequests (key : RunKey) (request : AnimationRequest) (series : List AnimationEvent) :
    Nat :=
  series.countP (AnimationEvent.isRequest key request)

/-! ### The next call, for one key -/

namespace AnimationRun

/-- What a sweep leaves of the run of a key. -/
def swept? (run? : Option AnimationRun) : Option AnimationRun :=
  (run?.filter isTouched).map fun run => { run with isTouched := false }

/-- A run outlives a sweep if it was asked for since the one before. -/
theorem swept?_eq_some_iff {run? : Option AnimationRun} {run : AnimationRun} :
    swept? run? = some run ↔
      ∃ before, run? = some before ∧ before.isTouched = true ∧
        run = { before with isTouched := false } := by
  simp only [swept?, Option.map_eq_some_iff, Option.filter_eq_some_iff, and_assoc,
    eq_comm (a := run)]

/-- The run of a key after a call, told from the durations and the run before. -/
def next? (duration? : FrameLength → Option Nat) (key : RunKey)
    (run? : Option AnimationRun) : AnimationCall → Option AnimationRun
  | .ask other request =>
      if other = key then
        match duration? request.frames with
        | none => run?
        | some duration =>
            let ticks := AnimationRuns.ticksAfter request run?
            if duration ≤ ticks then none else some { request, ticks, isTouched := true }
      else run?
  | .sweep => swept? run?

end AnimationRun

namespace AnimationRuns

variable {animations : AnimationRuns} {key : RunKey} {request : AnimationRequest}

/-- The run of a key after a request depends on that run and on the request alone. -/
theorem find?_request (animations : AnimationRuns) (key other : RunKey)
    (request : AnimationRequest) :
    (animations.request other request).2.find? key =
      AnimationRun.next? animations.duration? key (animations.find? key) (.ask other request) := by
  simp only [AnimationRuns.request, AnimationRun.next?]
  cases timed : animations.duration? request.frames with
  | none =>
      simp only [ite_self]
      split <;> rfl
  | some duration =>
      have kept := lookup_filter_fst animations.runs (fun owner => owner != other) key
      simp only
      by_cases mine : other = key
      · subst mine
        rw [if_pos rfl]
        by_cases ends : duration ≤ ticksAfter request (animations.find? other)
        · simp only [if_pos ends]
          exact kept.trans (if_neg (by simp))
        · simp only [if_neg ends]
          exact (lookup_store _ _).trans (if_pos rfl)
      · rw [if_neg mine]
        split
        · exact kept.trans (if_pos (bne_iff_ne.mpr (Ne.symm mine)))
        · exact (lookup_store _ _).trans (if_neg (Ne.symm mine))

/-- A request is answered by the ticks it has counted: complete when they reach the
duration. -/
theorem request_answer {duration : Nat}
    (timed : animations.duration? request.frames = some duration) :
    (animations.request key request).1 =
      if duration ≤ ticksAfter request (animations.find? key) then .completed else .running := by
  simp only [AnimationRuns.request, timed]
  split <;> rfl

/-- An answer depends on nothing but the durations and the run of the key. -/
theorem request_answer_congr {other : AnimationRuns}
    (timed : other.duration? = animations.duration?)
    (same : other.find? key = animations.find? key) :
    (other.request key request).1 = (animations.request key request).1 := by
  simp only [AnimationRuns.request, timed, same]
  split <;> split <;> rfl

/-- The run of a key after a sweep depends on that run alone. -/
theorem find?_sweep (keyed : animations.Keyed) :
    animations.sweep.find? key =
      AnimationRun.next? animations.duration? key (animations.find? key) .sweep := by
  apply Option.ext
  intro run
  apply (lookup_eq_some_iff_mem keyed.sweep).trans
  simp only [AnimationRun.next?, AnimationRun.swept?_eq_some_iff, find?,
    lookup_eq_some_iff_mem keyed]
  simp only [AnimationRuns.sweep, List.mem_map, List.mem_filter, Prod.mk.injEq]
  constructor
  · rintro ⟨⟨other, old⟩, ⟨member, touched⟩, rfl, rfl⟩
    exact ⟨old, member, touched, rfl⟩
  · rintro ⟨old, member, touched, rfl⟩
    exact ⟨(key, old), ⟨member, touched⟩, rfl, rfl⟩

theorem one_le_ticksAfter (request : AnimationRequest) (run? : Option AnimationRun) :
    1 ≤ ticksAfter request run? := by
  cases run? with
  | none => exact Nat.le_refl 1
  | some run =>
      simp only [ticksAfter]
      split
      · exact Nat.le_add_left 1 _
      · exact Nat.le_refl 1

theorem isTimed_iff (animations : AnimationRuns) (frames : FrameLength) :
    frames.isTimed = true ↔ ∃ duration, animations.duration? frames = some duration := by
  cases frames <;> simp [FrameLength.isTimed, duration?]

end AnimationRuns

/-! ### One more event -/

variable {key : RunKey} {request : AnimationRequest} {event : AnimationEvent}
  {series log : List AnimationEvent}

/-- Whether a timed animation was asked for under a key since the last sweep, if there was
one. -/
def Revisited (key : RunKey) (events : List AnimationEvent) : Prop :=
  ∀ between older, events = between ++ .swept :: older → .swept ∉ between →
    ∃ event ∈ between, event.AsksFor key

theorem not_revisited_swept : ¬ Revisited key (.swept :: series) := by
  intro revisited
  obtain ⟨event, member, -⟩ := revisited [] series rfl List.not_mem_nil
  cases member

theorem revisited_cons_iff (plain : event ≠ .swept) :
    Revisited key (event :: series) ↔ event.AsksFor key ∨ Revisited key series := by
  constructor
  · intro revisited
    by_cases asks : event.AsksFor key
    · exact .inl asks
    · refine .inr ?_
      rintro between older rfl quiet
      obtain ⟨found, member, here⟩ := revisited (event :: between) older rfl (by
        rw [List.mem_cons, not_or]
        exact ⟨Ne.symm plain, quiet⟩)
      rcases List.mem_cons.mp member with rfl | member
      · exact absurd here asks
      · exact ⟨found, member, here⟩
  · rintro now between older parts quiet
    cases between with
    | nil => exact absurd (List.cons.inj parts).1 plain
    | cons first between =>
        obtain ⟨rfl, rest⟩ := List.cons.inj parts
        rcases now with asks | revisited
        · exact ⟨event, List.mem_cons_self, asks⟩
        · obtain ⟨found, member, here⟩ := revisited between older rest
            fun sweep => quiet (List.mem_cons_of_mem _ sweep)
          exact ⟨found, List.mem_cons_of_mem _ member, here⟩

theorem not_asksFor_swept : ¬ AnimationEvent.AsksFor key .swept := by
  rintro ⟨_, _, wrong, -⟩
  cases wrong

/-- If nothing was asked for since the last sweep, then no request belongs to a series that
the next sweep would not break. -/
theorem not_asksFor_of_revisited (latest : series <+: log) (revisited : Revisited key series)
    (idle : ¬ Revisited key log) : ∀ event ∈ series, ¬ event.AsksFor key := by
  simp only [Revisited, not_forall, not_exists, not_and] at idle
  obtain ⟨since, older, rfl, quiet, never⟩ := idle
  have lately : since ++ [.swept] <+: since ++ .swept :: older := ⟨older, by simp⟩
  rcases List.prefix_or_prefix_of_prefix latest lately with inside | ⟨rest, rfl⟩
  · intro event member asks
    rcases List.mem_append.mp (inside.mem member) with here | last
    · exact never event here asks
    · obtain rfl := List.mem_singleton.mp last
      exact not_asksFor_swept asks
  · -- The series would go back to before the last sweep.
    obtain ⟨event, member, asks⟩ := revisited since rest (by simp) quiet
    exact absurd asks (never event member)

theorem unbroken_nil : Unbroken key request [] := by
  constructor
  · intro other answer member
    cases member
  · intro newer between older parts
    simp at parts

/-- What one more event in front does to a series that is not broken. -/
theorem unbroken_cons_iff : Unbroken key request (event :: series) ↔
    Unbroken key request series ∧ (event = .swept → Revisited key series) ∧
      ∀ other answer, event = .asked key other answer → other.frames.isTimed = true →
        other = request ∧ answer = .running := by
  constructor
  · intro unbroken
    refine ⟨⟨?_, ?_⟩, ?_, ?_⟩
    · intro other answer member
      exact unbroken.same other answer (List.mem_cons_of_mem _ member)
    · rintro newer between older rfl
      exact unbroken.steady (event :: newer) between older rfl
    · rintro rfl between older rfl
      exact unbroken.steady [] between older rfl
    · rintro other answer rfl
      exact unbroken.same other answer List.mem_cons_self
  · rintro ⟨unbroken, revisited, same⟩
    constructor
    · intro other answer member
      rcases List.mem_cons.mp member with rfl | member
      · exact same other answer rfl
      · exact unbroken.same other answer member
    · intro newer between older parts
      cases newer with
      | nil =>
          obtain ⟨rfl, rest⟩ := List.cons.inj parts
          exact revisited rfl between older rest
      | cons first newer =>
          exact unbroken.steady newer between older (List.cons.inj parts).2

theorem isRequest_iff : event.isRequest key request = true ↔
    ∃ answer, event = .asked key request answer := by
  cases event with
  | asked other same answer => simp [AnimationEvent.isRequest]
  | swept => simp [AnimationEvent.isRequest]

/-- An event that does not concern the key is none of its timed requests. -/
theorem isRequest_eq_false (timed : request.frames.isTimed = true) (idle : ¬ event.AsksFor key) :
    event.isRequest key request = false := by
  rw [← Bool.not_eq_true, isRequest_iff]
  rintro ⟨answer, same⟩
  exact idle ⟨request, answer, same, timed⟩

/-- Where nothing was asked for under the key there is nothing to count. -/
theorem countRequests_eq_zero (timed : request.frames.isTimed = true)
    (idle : ∀ event ∈ series, ¬ event.AsksFor key) : countRequests key request series = 0 := by
  apply List.countP_eq_zero.mpr
  intro event member
  rw [isRequest_eq_false timed (idle event member)]
  exact Bool.false_ne_true

theorem countRequests_cons_of_idle (timed : request.frames.isTimed = true)
    (idle : ¬ event.AsksFor key) :
    countRequests key request (event :: series) = countRequests key request series := by
  unfold countRequests
  rw [List.countP_cons, isRequest_eq_false timed idle]
  rfl

theorem countRequests_cons_of_asked {answer : Progress} :
    countRequests key request (.asked key request answer :: series) =
      countRequests key request series + 1 := by
  unfold countRequests
  rw [List.countP_cons, if_pos (isRequest_iff.mpr ⟨answer, rfl⟩)]

/-! ### What every call keeps -/

/-- The run of a key counts the requests of the series that is not broken, and remembers
whether a sweep would break it. -/
structure RunTally (timing : AnimationRuns) (key : RunKey) (log : List AnimationEvent)
    (run? : Option AnimationRun) : Prop where
  short : ∀ run, run? = some run → ∃ duration,
    timing.duration? run.request.frames = some duration ∧
      1 ≤ run.ticks ∧ run.ticks < duration
  atMost : ∀ request series, request.frames.isTimed = true → Unbroken key request series →
    series <+: log →
      countRequests key request series + 1 ≤ AnimationRuns.ticksAfter request run?
  atLeast : ∀ run, run? = some run → ∃ series, Unbroken key run.request series ∧
    series <+: log ∧ countRequests key run.request series = run.ticks ∧
      (run.isTouched = true → Revisited key series)
  idle : ∀ run, run? = some run → run.isTouched = false → ¬ Revisited key log

namespace RunTally

variable {timing : AnimationRuns} {run? : Option AnimationRun}

theorem start (timing : AnimationRuns) (key : RunKey) : RunTally timing key [] none where
  short run missing := by cases missing
  atMost request series _ _ latest := by
    rw [List.prefix_nil.mp latest]
    exact Nat.le_refl 1
  atLeast run missing := by cases missing
  idle run missing := by cases missing

theorem isTimed (tally : RunTally timing key log run?) {run : AnimationRun}
    (found : run? = some run) : run.request.frames.isTimed = true := by
  obtain ⟨duration, timed, -⟩ := tally.short run found
  exact (timing.isTimed_iff _).mpr ⟨duration, timed⟩

/-- What the run has counted belongs to a series that is not broken. -/
theorem exists_series (tally : RunTally timing key log run?) (request : AnimationRequest) :
    ∃ series, Unbroken key request series ∧ series <+: log ∧
      countRequests key request series + 1 = AnimationRuns.ticksAfter request run? := by
  have fresh : ∃ series, Unbroken key request series ∧ series <+: log ∧
      countRequests key request series + 1 = 1 := ⟨[], unbroken_nil, List.nil_prefix, rfl⟩
  cases found : run? with
  | none => exact fresh
  | some run =>
      simp only [AnimationRuns.ticksAfter]
      split
      · next same =>
          obtain ⟨series, unbroken, latest, count, -⟩ := tally.atLeast run found
          rw [same] at unbroken count
          exact ⟨series, unbroken, latest, by rw [count]⟩
      · exact fresh

/-- An event that concerns other keys, or no animation with a time. -/
theorem other (tally : RunTally timing key log run?) (plain : event ≠ .swept)
    (quiet : ¬ event.AsksFor key) : RunTally timing key (event :: log) run? where
  short := tally.short
  atMost := by
    intro request series timed unbroken latest
    rcases List.prefix_cons_iff.mp latest with rfl | ⟨before, rfl, inside⟩
    · exact AnimationRuns.one_le_ticksAfter request run?
    · rw [countRequests_cons_of_idle timed quiet]
      exact tally.atMost request before timed (unbroken_cons_iff.mp unbroken).1 inside
  atLeast := by
    intro run found
    obtain ⟨series, unbroken, latest, count, revisited⟩ := tally.atLeast run found
    refine ⟨event :: series, unbroken_cons_iff.mpr ⟨unbroken, ?_, ?_⟩,
      List.cons_prefix_cons.mpr ⟨rfl, latest⟩, ?_, ?_⟩
    · exact fun sweep => absurd sweep plain
    · intro other answer asked time
      exact absurd ⟨other, answer, asked, time⟩ quiet
    · rw [countRequests_cons_of_idle (tally.isTimed found) quiet, count]
    · intro touched
      exact (revisited_cons_iff plain).mpr (.inr (revisited touched))
  idle := by
    intro run found untouched revisited
    rcases (revisited_cons_iff plain).mp revisited with asks | before
    · exact quiet asks
    · exact tally.idle run found untouched before

/-- A request that leaves its animation running. -/
theorem running (tally : RunTally timing key log run?) {duration : Nat}
    (timed : timing.duration? request.frames = some duration)
    (less : AnimationRuns.ticksAfter request run? < duration) :
    RunTally timing key (.asked key request .running :: log)
      (some { request, ticks := AnimationRuns.ticksAfter request run?, isTouched := true }) where
  short := by
    rintro run ⟨⟩
    exact ⟨duration, timed, AnimationRuns.one_le_ticksAfter request run?, less⟩
  atMost := by
    intro same series time unbroken latest
    rcases List.prefix_cons_iff.mp latest with rfl | ⟨before, rfl, inside⟩
    · exact AnimationRuns.one_le_ticksAfter same _
    · obtain ⟨unbroken, -, equal⟩ := unbroken_cons_iff.mp unbroken
      obtain ⟨rfl, -⟩ := equal request .running rfl ((timing.isTimed_iff _).mpr ⟨_, timed⟩)
      rw [countRequests_cons_of_asked]
      simp only [AnimationRuns.ticksAfter, if_true]
      exact Nat.succ_le_succ (tally.atMost request before time unbroken inside)
  atLeast := by
    rintro run ⟨⟩
    -- The new request extends the series that the run has counted so far, or begins one.
    have time := (timing.isTimed_iff _).mpr ⟨duration, timed⟩
    obtain ⟨series, unbroken, latest, count⟩ := tally.exists_series request
    refine ⟨.asked key request .running :: series, unbroken_cons_iff.mpr ⟨unbroken, ?_, ?_⟩,
      List.cons_prefix_cons.mpr ⟨rfl, latest⟩, ?_, ?_⟩
    · intro sweep
      cases sweep
    · rintro other answer ⟨⟩ -
      exact ⟨rfl, rfl⟩
    · rw [countRequests_cons_of_asked]
      exact count
    · intro _
      exact (revisited_cons_iff (by simp)).mpr (.inl ⟨request, .running, rfl, time⟩)
  idle := by
    rintro run ⟨⟩ untouched
    cases untouched

/-- A request that completes its animation. -/
theorem completed (timing : AnimationRuns) (log : List AnimationEvent)
    (time : request.frames.isTimed = true) :
    RunTally timing key (.asked key request .completed :: log) none where
  short run missing := by cases missing
  atMost := by
    intro same series _ unbroken latest
    rcases List.prefix_cons_iff.mp latest with rfl | ⟨before, rfl, -⟩
    · exact Nat.le_refl 1
    · obtain ⟨-, -, equal⟩ := unbroken_cons_iff.mp unbroken
      cases (equal request .completed rfl time).2
  atLeast run missing := by cases missing
  idle run missing := by cases missing

/-- A sweep ends the series of a key for which nothing was asked since the sweep before. -/
theorem sweep (tally : RunTally timing key log run?) :
    RunTally timing key (.swept :: log) (AnimationRun.swept? run?) where
  short := by
    intro run found
    obtain ⟨before, same, -, rfl⟩ := AnimationRun.swept?_eq_some_iff.mp found
    exact tally.short before same
  atMost := by
    intro request series timed unbroken latest
    rcases List.prefix_cons_iff.mp latest with rfl | ⟨before, rfl, inside⟩
    · exact AnimationRuns.one_le_ticksAfter request _
    · obtain ⟨unbroken, revisited, -⟩ := unbroken_cons_iff.mp unbroken
      rw [countRequests_cons_of_idle timed not_asksFor_swept]
      have bound := tally.atMost request before timed unbroken inside
      cases found : run? with
      | none =>
          rw [found] at bound
          exact bound
      | some run =>
          rw [found] at bound
          cases touched : run.isTouched with
          | true =>
              rw [AnimationRun.swept?, Option.filter_some, if_pos touched]
              exact bound
          | false =>
              -- The run is forgotten.  A series that goes on past two sweeps would have asked
              -- for it in between.
              have idle := tally.idle run found touched
              have never := not_asksFor_of_revisited inside (revisited rfl) idle
              rw [countRequests_eq_zero timed never]
              exact AnimationRuns.one_le_ticksAfter request _
  atLeast := by
    intro run found
    obtain ⟨before, same, touched, rfl⟩ := AnimationRun.swept?_eq_some_iff.mp found
    obtain ⟨series, unbroken, latest, count, revisited⟩ := tally.atLeast before same
    refine ⟨.swept :: series, unbroken_cons_iff.mpr ⟨unbroken, fun _ => revisited touched, ?_⟩,
      List.cons_prefix_cons.mpr ⟨rfl, latest⟩, ?_, ?_⟩
    · intro other answer wrong
      cases wrong
    · rw [countRequests_cons_of_idle (tally.isTimed same) not_asksFor_swept]
      exact count
    · intro untouched
      cases untouched
  idle := by
    intro run found untouched
    exact not_revisited_swept

end RunTally

namespace AnimationSession

/-- What holds of the animations after any calls. -/
structure Faithful (timing : AnimationRuns) (session : AnimationSession) : Prop where
  keyed : session.animations.Keyed
  timed : session.animations.duration? = timing.duration?
  tally : ∀ key, RunTally timing key session.log (session.animations.find? key)

variable {timing : AnimationRuns} {session : AnimationSession}

/-- The run of a key follows the calls by the same rule in every session. -/
theorem find?_call (faithful : session.Faithful timing) (key : RunKey) (call : AnimationCall) :
    (session.call call).animations.find? key =
      AnimationRun.next? timing.duration? key (session.animations.find? key) call := by
  rw [← faithful.timed]
  cases call with
  | ask other request => exact AnimationRuns.find?_request session.animations key other request
  | sweep => exact AnimationRuns.find?_sweep faithful.keyed

/-- A request is counted for its own key only. -/
theorem Faithful.tally_ask (faithful : session.Faithful timing) (key other : RunKey)
    (request : AnimationRequest) :
    RunTally timing key (session.call (.ask other request)).log
      (AnimationRun.next? timing.duration? key (session.animations.find? key)
        (.ask other request)) := by
  have before := faithful.tally key
  have plain : ∀ answer, AnimationEvent.asked other request answer ≠ .swept := by simp
  simp only [call, AnimationRun.next?]
  split
  · next mine =>
      subst mine
      split
      · next unlimited =>
          apply before.other (plain _)
          rintro ⟨same, answer, equal, time⟩
          obtain ⟨-, rfl, -⟩ := AnimationEvent.asked.inj equal
          obtain ⟨duration, timed⟩ := (timing.isTimed_iff _).mp time
          rw [unlimited] at timed
          cases timed
      · next duration timed =>
          rw [AnimationRuns.request_answer (faithful.timed ▸ timed)]
          split
          · exact .completed timing _ ((timing.isTimed_iff _).mpr ⟨_, timed⟩)
          · next less => exact before.running timed (Nat.lt_of_not_le less)
  · next others =>
      apply before.other (plain _)
      rintro ⟨same, answer, equal, -⟩
      exact others (AnimationEvent.asked.inj equal).1

theorem Faithful.call (faithful : session.Faithful timing) (call : AnimationCall) :
    (session.call call).Faithful timing where
  keyed := by
    cases call with
    | ask key request => exact faithful.keyed.request request
    | sweep => exact faithful.keyed.sweep
  timed := by
    cases call with
    | ask key request => exact (AnimationRuns.duration?_request request).trans faithful.timed
    | sweep => exact AnimationRuns.duration?_sweep.trans faithful.timed
  tally key := by
    rw [find?_call faithful]
    cases call with
    | ask other request => exact faithful.tally_ask key other request
    | sweep => exact (faithful.tally key).sweep

theorem Faithful.start (framesPerCycle ticksPerFrame : Nat) :
    Faithful { framesPerCycle, ticksPerFrame }
      { animations := { framesPerCycle, ticksPerFrame } } where
  keyed := List.nodup_nil
  timed := rfl
  tally key := .start _ key

/-- A session stays faithful through any calls. -/
theorem Faithful.foldl (faithful : session.Faithful timing) (calls : List AnimationCall) :
    (calls.foldl AnimationSession.call session).Faithful timing := by
  induction calls generalizing session with
  | nil => exact faithful
  | cons call rest ih => exact ih (faithful.call call)

/-- The run of a key comes from the sweeps and from what its own node asked for. -/
theorem find?_foldl (faithful : session.Faithful timing) (key : RunKey)
    (calls : List AnimationCall) :
    (calls.foldl AnimationSession.call session).animations.find? key =
      (calls.filter (AnimationCall.concerns key)).foldl (AnimationRun.next? timing.duration? key)
        (session.animations.find? key) := by
  induction calls generalizing session with
  | nil => rfl
  | cons call rest ih =>
      rw [List.foldl_cons, ih (faithful.call call), find?_call faithful, List.filter_cons]
      split
      · rfl
      · next others =>
          cases call with
          | ask other request =>
              have differs : other ≠ key := by simpa [AnimationCall.concerns] using others
              rw [AnimationRun.next?, if_neg differs]
          | sweep => exact absurd rfl others

/-! ### Complete animations -/

/-- There is always a longest series that reaches up to now, if only the empty one. -/
theorem exists_currentSeries (key : RunKey) (request : AnimationRequest)
    (log : List AnimationEvent) : ∃ series, CurrentSeries key request log series := by
  classical
  let reaches := fun length => Unbroken key request (log.take length)
  have empty : reaches 0 := unbroken_nil
  let length := Nat.findGreatest reaches log.length
  refine ⟨log.take length, ?_, List.take_prefix _ _, ?_⟩
  · exact Nat.findGreatest_spec (Nat.zero_le _) empty
  · intro other unbroken latest
    have bound := latest.length_le
    have same := List.prefix_iff_eq_take.mp latest
    rw [same] at unbroken
    rw [same]
    exact List.take_prefix_take_left (Nat.le_findGreatest bound unbroken)

end AnimationSession

/-- The current series holds all requests that the run has counted. -/
theorem RunTally.count_eq {timing : AnimationRuns} {run? : Option AnimationRun}
    (tally : RunTally timing key log run?) (time : request.frames.isTimed = true)
    (current : CurrentSeries key request log series) :
    countRequests key request series + 1 = AnimationRuns.ticksAfter request run? := by
  apply Nat.le_antisymm (tally.atMost request series time current.unbroken current.latest)
  obtain ⟨counted, unbroken, latest, count⟩ := tally.exists_series request
  rw [← count]
  have inside := current.longest counted unbroken latest
  exact Nat.succ_le_succ (inside.sublist.countP_le)

/-- No run reaches the end of its animation. -/
theorem RunTally.ticksAfter_le {timing : AnimationRuns} {run? : Option AnimationRun}
    (tally : RunTally timing key log run?) {duration : Nat} (positive : 1 ≤ duration)
    (timed : timing.duration? request.frames = some duration) :
    AnimationRuns.ticksAfter request run? ≤ duration := by
  cases found : run? with
  | none => exact positive
  | some run =>
      simp only [AnimationRuns.ticksAfter]
      split
      · next same =>
          obtain ⟨_, lasts, -, less⟩ := tally.short run found
          rw [same, timed] at lasts
          obtain rfl := Option.some.inj lasts
          exact less
      · exact positive

namespace AnimationSession

/-- **Timed animations are counted exactly.**  Take any calls, from any actors and nodes.  The
next request of a continuous animation is answered that it runs, that of one that runs once
that it is complete, and neither changes any run.  A request with a time is the last one
exactly if it and the equal requests of the current series under its key are as many as the
ticks for which the animation is to run, and at least one.  The answer is the same after
any calls that differ only in what was asked for under other keys.  No run that is stored
has reached its end. -/
theorem timed_runs_count_exactly (framesPerCycle ticksPerFrame : Nat)
    (calls : List AnimationCall) :
    let session := play framesPerCycle ticksPerFrame calls
    (∀ key request,
      let result := session.animations.request key request
      (request.frames = .continuous → result = (.running, session.animations)) ∧
      (request.frames = .once → result = (.completed, session.animations)) ∧
      (∀ ticks, request.frames.gameTicks? framesPerCycle ticksPerFrame = some ticks →
        (∃ series, CurrentSeries key request session.log series) ∧
        ∀ series, CurrentSeries key request session.log series →
          (result.1 = .completed ↔ countRequests key request series + 1 = max 1 ticks)) ∧
      ∀ others : List AnimationCall,
        others.filter (AnimationCall.concerns key) =
          calls.filter (AnimationCall.concerns key) →
        ((play framesPerCycle ticksPerFrame others).animations.request key request).1 =
          result.1) ∧
    ∀ entry ∈ session.animations.runs, ∃ ticks,
      entry.2.request.frames.gameTicks? framesPerCycle ticksPerFrame = some ticks ∧
        1 ≤ entry.2.ticks ∧ entry.2.ticks < max 1 ticks := by
  have start := Faithful.start framesPerCycle ticksPerFrame
  have faithful := start.foldl calls
  have duration_eq := AnimationRuns.duration?_eq { framesPerCycle, ticksPerFrame }
  intro session
  constructor
  · intro key request result
    refine ⟨?_, ?_, ?_, ?_⟩
    · intro continuous
      simp only [result, AnimationRuns.request, continuous]
      rfl
    · intro once
      simp only [result, AnimationRuns.request, once]
      rfl
    · intro ticks lasts
      have timed := duration_eq request.frames
      rw [lasts] at timed
      -- The run of the key has counted the current series, so the request makes it one more.
      have tally := faithful.tally key
      refine ⟨exists_currentSeries key request session.log, ?_⟩
      intro series current
      have count := tally.count_eq (FrameLength.isTimed_of_gameTicks? lasts) current
      have bound := tally.ticksAfter_le (Nat.le_max_left 1 ticks) timed
      have answer : result.1 = _ := AnimationRuns.request_answer (faithful.timed ▸ timed)
      rw [answer, count]
      split
      · next ends => exact iff_of_true rfl (Nat.le_antisymm bound ends)
      · next less =>
          apply iff_of_false (by simp)
          intro complete
          exact less (Nat.le_of_eq complete.symm)
    · intro others same
      -- Both histories come to the same run of the key, and the answer depends on nothing
      -- else.
      have again := start.foldl others
      apply AnimationRuns.request_answer_congr (again.timed.trans faithful.timed.symm)
      rw [find?_foldl start, find?_foldl start, same]
  · rintro ⟨key, run⟩ member
    have found := (lookup_eq_some_iff_mem faithful.keyed).mpr member
    obtain ⟨duration, timed, least, less⟩ := (faithful.tally key).short run found
    rw [duration_eq, Option.map_eq_some_iff] at timed
    obtain ⟨ticks, lasts, rfl⟩ := timed
    exact ⟨ticks, lasts, least, less⟩

/-! ### An example: a pirouette -/

/-- The dancer's turn of one frame. -/
def pirouette : AnimationRequest :=
  { kind := .run, direction := .right, frames := .animationFrames 1 }

/-- The dancer and the double begin to turn, and the double stops. -/
def pirouetteCalls : List AnimationCall :=
  [.ask (1, 4) pirouette, .ask (2, 4) pirouette, .sweep, .ask (1, 4) pirouette, .sweep]

/-- With three ticks to a frame the dancer's third request is the last one.  That of the
double is the first one again, since no request came between the last two sweeps. -/
theorem timed_runs_count_exactly_pirouette :
    let session := play 4 3 pirouetteCalls
    let dancer := session.animations.request (1, 4)
    let double := (play 4 3 (pirouetteCalls ++ [.sweep])).animations.request (2, 4)
    pirouette.frames.gameTicks? 4 3 = some 3 ∧
      (∃ series, CurrentSeries (1, 4) pirouette session.log series ∧
        countRequests (1, 4) pirouette series + 1 = 3) ∧
      (dancer pirouette).1 = .completed ∧ (double pirouette).1 = .running ∧
      dancer { pirouette with frames := .continuous } = (.running, session.animations) ∧
      dancer { pirouette with frames := .once } = (.completed, session.animations) ∧
      ((play 4 3 [.ask (1, 4) pirouette, .sweep, .ask (1, 4) pirouette,
        .sweep]).animations.request (1, 4) pirouette).1 = .completed ∧
      ((1, 4), ⟨pirouette, 2, false⟩) ∈ session.animations.runs ∧
      ∃ ticks, pirouette.frames.gameTicks? 4 3 = some ticks ∧ 2 < max 1 ticks := by
  intro session dancer double
  obtain ⟨requests, runs⟩ := timed_runs_count_exactly 4 3 pirouetteCalls
  obtain ⟨-, -, counts, others⟩ := requests (1, 4) pirouette
  obtain ⟨continuous, -, -, -⟩ := requests (1, 4) { pirouette with frames := .continuous }
  obtain ⟨-, once, -, -⟩ := requests (1, 4) { pirouette with frames := .once }
  obtain ⟨⟨series, current⟩, complete⟩ := counts 3 rfl
  have last : (dancer pirouette).1 = .completed := by decide
  refine ⟨rfl, ⟨series, current, (complete series current).mp last⟩, last, by decide,
    continuous rfl, once rfl, (others _ rfl).trans last, ?_⟩
  have stored : ((1, 4), ⟨pirouette, 2, false⟩) ∈ session.animations.runs := by decide
  obtain ⟨ticks, lasts, -, less⟩ := runs _ stored
  exact ⟨stored, ticks, lasts, less⟩

end AnimationSession

end Stagecraft
