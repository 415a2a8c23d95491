/-
Module: Stagecraft.Proofs.Acting
Purpose: Which actions an actor has once the keys of a tick have done their part, and
  the events that run for the duties on the way.
Main exports:
  Duty.action, SustainedActions.begun, acting, isActive_acting, isActive_left_iff,
  endCall, firstCalls, lastCalls
-/
import Stagecraft.Proofs.Duties

namespace Stagecraft

/-! ### Actions that end and begin -/

/-- The action that a duty keeps up. -/
def Duty.action (duty : Duty) (seq : Nat) : SustainedAction :=
  { event := duty.event
    priority := duty.binding.priority
    seq
    stopEvent := duty.binding.stopEvent }

namespace SustainedActions

variable {actions : SustainedActions}

theorem isActive_iff_mem {key : KeyName} :
    actions.isActive key = true ↔ key ∈ actions.active.map Prod.fst := by
  simp only [isActive, find?]
  induction actions.active with
  | nil => simp
  | cons entry rest ih =>
      rcases entry with ⟨first, action⟩
      rw [lookup_cons_eq_ite, List.map_cons, List.mem_cons, ← ih]
      split
      · next same => simp [same]
      · next differs => simp [differs]

/-- A key is active after a removal if it was before and is not among those removed. -/
theorem isActive_without (actions : SustainedActions) (gone : KeyName → Bool) (key : KeyName) :
    (actions.without gone).isActive key = (!gone key && actions.isActive key) := by
  simp only [isActive]
  rw [find?_without]
  cases gone key <;> simp

theorem without_without (actions : SustainedActions) (one more : KeyName → Bool) :
    (actions.without one).without more = actions.without fun key => one key || more key := by
  simp only [without]
  rw [List.filter_filter]
  simp [Bool.and_comm]

/-- A removal is known by what it does to the active keys. -/
theorem without_congr {gone missing : KeyName → Bool}
    (same : ∀ key, actions.isActive key = true → gone key = missing key) :
    actions.without gone = actions.without missing := by
  simp only [without]
  congr 1
  apply List.filter_congr
  intro entry member
  rw [same entry.1 (isActive_iff_mem.mpr (List.mem_map_of_mem member))]

/-- Keys without actions are not missed. -/
theorem without_of_inactive {gone : KeyName → Bool}
    (inactive : ∀ key, gone key = true → actions.isActive key = false) :
    actions.without gone = actions := by
  have nothing : actions.without gone = actions.without fun _ => false := by
    apply without_congr
    intro key active
    by_contra left
    rw [inactive key (by simpa using left)] at active
    cases active
  rw [nothing]
  simp [without]

variable (keys : KeyName → KeyEdge) (before : SustainedActions)

/-- Whether a duty begins an action: its key goes down and has none. -/
def begins (duty : Duty) : Bool :=
  duty.sustained && (keys duty.key).pressed && !before.isActive duty.key

/-- The actions that some duties begin, in order. -/
def begun (duties : List Duty) : List (KeyName × SustainedAction) :=
  ((duties.filter (before.begins keys)).zipIdx before.nextSeq).map fun (duty, seq) =>
    (duty.key, duty.action seq)

/-- The actions once some duties are handled: those from before, less those of keys that
go up, and then the new ones. -/
def acting (duties : List Duty) : SustainedActions :=
  { active :=
      (before.without fun key => Duty.sustains duties key && (keys key).goesUp).active ++
        before.begun keys duties
    nextSeq := before.nextSeq + (before.begun keys duties).length }

variable {keys before}

/-- The actions that the next duty begins come last, with the next free sequence number. -/
theorem begun_append (done : List Duty) (duty : Duty) :
    before.begun keys (done ++ [duty]) =
      before.begun keys done ++
        if before.begins keys duty then
          [(duty.key, duty.action (before.nextSeq + (before.begun keys done).length))]
        else [] := by
  simp only [begun]
  rw [List.filter_append, List.zipIdx_append, List.map_append]
  congr 1
  cases starts : before.begins keys duty <;> simp [starts]

/-- The keys of the actions begun, in the order of the duties. -/
theorem map_fst_begun (duties : List Duty) :
    (before.begun keys duties).map Prod.fst =
      (duties.filter (before.begins keys)).map Duty.key := by
  simp only [begun]
  rw [List.map_map]
  conv_rhs => rw [← List.zipIdx_map_fst before.nextSeq (duties.filter (before.begins keys))]
  rw [List.map_map]
  rfl

theorem begins_of_not_pressed {duty : Duty} (up : (keys duty.key).pressed = false) :
    before.begins keys duty = false := by
  simp [begins, up]

/-- Actions begin for keys with sustained duties only. -/
theorem sustains_of_mem_begun {duties : List Duty} {entry : KeyName × SustainedAction}
    (member : entry ∈ before.begun keys duties) : Duty.sustains duties entry.1 = true := by
  have begun : entry.1 ∈ (duties.filter (before.begins keys)).map Duty.key := by
    rw [← map_fst_begun]
    exact List.mem_map_of_mem member
  obtain ⟨duty, begins, same⟩ := List.mem_map.mp begun
  obtain ⟨member, begins⟩ := List.mem_filter.mp begins
  simp only [SustainedActions.begins, Bool.and_eq_true] at begins
  exact Duty.sustains_eq_true_iff.mpr ⟨duty, member, begins.1.1, same⟩

/-- Duties that do not sustain a key begin no action for it. -/
theorem ne_of_mem_begun {duties : List Duty} {key : KeyName}
    (free : Duty.sustains duties key = false) {entry : KeyName × SustainedAction}
    (member : entry ∈ before.begun keys duties) : entry.1 ≠ key := by
  rintro rfl
  rw [sustains_of_mem_begun member] at free
  cases free

/-- A key without a sustained duty keeps its action. -/
theorem find?_acting_of_not_sustains {duties : List Duty} {key : KeyName}
    (free : Duty.sustains duties key = false) :
    (before.acting keys duties).find? key = before.find? key := by
  have kept : (before.without fun key => Duty.sustains duties key && (keys key).goesUp).find? key =
      before.find? key := by
    rw [find?_without, free]
    rfl
  have absent : (before.begun keys duties).lookup key = none := by
    rw [List.lookup_eq_none_iff]
    intro entry member
    rw [bne_iff_ne]
    exact (ne_of_mem_begun free member).symm
  simp only [find?, acting] at kept ⊢
  rw [List.lookup_append, kept, absent, Option.or_none]

/-- A duty that ends no action and begins none. -/
theorem acting_append_of_idle {done : List Duty} {duty : Duty}
    (begins : before.begins keys duty = false)
    (stays : (duty.sustained && (keys duty.key).goesUp) = false) :
    before.acting keys (done ++ [duty]) = before.acting keys done := by
  have ends : ∀ key, (Duty.sustains (done ++ [duty]) key && (keys key).goesUp) =
      (Duty.sustains done key && (keys key).goesUp) :=
    Duty.sustains_append_and_of_not _ stays done
  simp only [acting]
  rw [funext ends, begun_append, begins]
  simp

/-- A duty that begins an action. -/
theorem acting_append_of_begins {done : List Duty} {duty : Duty}
    (begins : before.begins keys duty = true)
    (free : Duty.sustains done duty.key = false) :
    before.acting keys (done ++ [duty]) =
      (before.acting keys done).activate duty.binding duty.event := by
  obtain ⟨⟨sustained, pressed⟩, idle⟩ : (duty.sustained = true ∧ (keys duty.key).pressed = true) ∧
      before.isActive duty.key = false := by
    simpa [SustainedActions.begins] using begins
  have stays : (duty.sustained && (keys duty.key).goesUp) = false := by
    simp [KeyEdge.goesUp, pressed]
  have inactive : (before.acting keys done).isActive duty.key = false := by
    simpa only [isActive, find?_acting_of_not_sustains free] using idle
  -- There is no action under the key, so nothing has to make room for the new one.
  have others : (before.acting keys done).remove duty.key = before.acting keys done := by
    rw [remove_eq_without]
    apply without_of_inactive
    intro key same
    rw [beq_iff_eq.mp same]
    exact inactive
  have active : (before.acting keys done).active.filter (fun entry => entry.1 != duty.key) =
      (before.acting keys done).active := congrArg SustainedActions.active others
  have ends : ∀ key, (Duty.sustains (done ++ [duty]) key && (keys key).goesUp) =
      (Duty.sustains done key && (keys key).goesUp) :=
    Duty.sustains_append_and_of_not _ stays done
  simp only [activate]
  rw [show duty.binding.key = duty.key from rfl, active]
  simp only [acting]
  rw [funext ends, begun_append, if_pos begins, List.append_assoc,
    List.length_append]
  rfl

/-- A duty that ends the action of its key. -/
theorem acting_append_of_goesUp {done : List Duty} {duty : Duty}
    (sustained : duty.sustained = true) (up : (keys duty.key).goesUp = true)
    (free : Duty.sustains done duty.key = false) :
    before.acting keys (done ++ [duty]) = (before.acting keys done).remove duty.key := by
  obtain ⟨-, down⟩ : (keys duty.key).released = true ∧ (keys duty.key).pressed = false := by
    simpa [KeyEdge.goesUp] using up
  have begun : (before.begun keys done).filter (fun entry => entry.1 != duty.key) =
      before.begun keys done := by
    rw [List.filter_eq_self]
    intro entry member
    rw [bne_iff_ne]
    exact ne_of_mem_begun free member
  have ends : ∀ key, (Duty.sustains (done ++ [duty]) key && (keys key).goesUp) =
      (Duty.sustains done key && (keys key).goesUp || key == duty.key) :=
    Duty.sustains_append_and _ sustained up done
  simp only [acting, remove]
  rw [begun_append, begins_of_not_pressed down, List.filter_append, begun, funext ends,
    ← without_without, ← remove_eq_without]
  simp [remove]

/-- A key with a sustained duty has an action if it had one or goes down, unless it only
goes up. -/
theorem isActive_acting {duties : List Duty} {key : KeyName}
    (sustains : Duty.sustains duties key = true) :
    (before.acting keys duties).isActive key =
      ((before.isActive key || (keys key).pressed) && !(keys key).goesUp) := by
  have kept : key ∈ (before.without fun key =>
      Duty.sustains duties key && (keys key).goesUp).active.map Prod.fst ↔
        (!(keys key).goesUp && before.isActive key) = true := by
    rw [← isActive_iff_mem, isActive_without, sustains, Bool.true_and]
  have new : key ∈ (before.begun keys duties).map Prod.fst ↔
      ((keys key).pressed && !before.isActive key) = true := by
    rw [map_fst_begun, List.mem_map]
    constructor
    · rintro ⟨duty, member, rfl⟩
      have begins := (List.mem_filter.mp member).2
      simp only [SustainedActions.begins, Bool.and_assoc] at begins
      exact (Bool.and_eq_true_iff.mp begins).2
    · intro begins
      obtain ⟨duty, member, sustained, rfl⟩ := Duty.sustains_eq_true_iff.mp sustains
      refine ⟨duty, List.mem_filter.mpr ⟨member, ?_⟩, rfl⟩
      simp only [SustainedActions.begins, Bool.and_assoc]
      exact Bool.and_eq_true_iff.mpr ⟨sustained, begins⟩
  -- A key that goes up without going down is neither kept nor new.
  rw [Bool.eq_iff_iff, isActive_iff_mem, acting, List.map_append, List.mem_append, kept, new]
  simp only [KeyEdge.goesUp]
  cases before.isActive key <;> cases (keys key).pressed <;> cases (keys key).released <;> simp

/-- A tapped key with a sustained duty has an action for as long as nothing takes it. -/
theorem isActive_without_of_isTap {duties : List Duty} {key : KeyName}
    (sustains : Duty.sustains duties key = true) (tap : (keys key).isTap = true)
    (gone : KeyName → Bool) :
    ((before.acting keys duties).without gone).isActive key = !gone key := by
  obtain ⟨pressed, -⟩ := Bool.and_eq_true_iff.mp tap
  rw [isActive_without, isActive_acting sustains]
  simp [KeyEdge.goesUp, pressed]

/-- What is left when some actions are gone and those of tapped keys have ended. -/
theorem isActive_left_iff {duties : List Duty} {key : KeyName}
    (sustains : Duty.sustains duties key = true) (gone : KeyName → Bool) :
    (((before.acting keys duties).without gone).without fun key =>
        Duty.sustains duties key && (keys key).isTap).isActive key = true ↔
      (before.isActive key = true ∨ (keys key).pressed = true) ∧
        (keys key).released = false ∧ gone key = false := by
  rw [isActive_without, isActive_without, sustains, isActive_acting sustains]
  simp only [KeyEdge.isTap, KeyEdge.goesUp]
  cases before.isActive key <;> cases (keys key).pressed <;> cases (keys key).released <;>
    cases gone key <;> simp

/-- The event that runs at the end of the action of a key, and why. -/
def endCall (actions : SustainedActions) (key : KeyName) : List (CallReason × NodeId) :=
  (((actions.find? key).bind SustainedAction.stopEvent).map fun stop => (.ended key, stop)).toList

theorem endCall_without (actions : SustainedActions) (gone : KeyName → Bool) (key : KeyName) :
    (actions.without gone).endCall key = if gone key then [] else actions.endCall key := by
  simp only [endCall]
  rw [find?_without]
  split <;> rfl

/-- The events that a duty runs in the first round: that of an edge, and that at the end
of an action whose key goes up. -/
def firstCalls (keys : KeyName → KeyEdge) (before : SustainedActions)
    (duty : Duty) : List (CallReason × NodeId) :=
  if duty.sustained then
    if (keys duty.key).goesUp then before.endCall duty.key else []
  else if duty.binding.fires (keys duty.key) then [(.edge duty.key, duty.event)] else []

/-- The events that a duty runs in the last round: that at the end of an action whose key
is tapped. -/
def lastCalls (keys : KeyName → KeyEdge) (actions : SustainedActions)
    (duty : Duty) : List (CallReason × NodeId) :=
  if duty.sustained && (keys duty.key).isTap then actions.endCall duty.key else []

/-- A tap ends its action once; where the action is gone there is nothing to end. -/
theorem lastCalls_without (keys : KeyName → KeyEdge)
    (actions : SustainedActions) (gone : KeyName → Bool) (duty : Duty) :
    (actions.without gone).lastCalls keys duty =
      if duty.sustained && (keys duty.key).isTap && !gone duty.key then
        actions.endCall duty.key
      else [] := by
  simp only [lastCalls]
  rw [endCall_without]
  cases duty.sustained <;> cases (keys duty.key).isTap <;> cases gone duty.key <;> rfl

end SustainedActions

end Stagecraft
