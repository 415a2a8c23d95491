/-
Module: Stagecraft.Proofs.KeyEdges
Purpose: What the keys do in each tick of a run, told from the keys that are held in this
  tick and in the one before.
Main exports:
  KeyEdge.between, InputState.Remembers, InputState.run, IsHeld, HoldStretch,
  InputState.edges_follow_held_keys
-/
import Stagecraft.Input.State
import Stagecraft.Proofs.Basic
import Mathlib.Data.Nat.Find

namespace Stagecraft

/-- What a key does when the keys that are held change. -/
def KeyEdge.between (before now : List KeyName) (key : KeyName) : KeyEdge :=
  { held := key ∈ now
    pressed := key ∈ now ∧ key ∉ before
    released := key ∈ before ∧ key ∉ now }

/-- What a pointer button does whose key does something. -/
def KeyEdge.asButton (edge : KeyEdge) : ButtonState :=
  { pressed := edge.pressed, released := edge.released, down := edge.held }

namespace InputState

/-! ### One tick -/

variable {input : InputState} {down held : List KeyName} {key : KeyName}

theorem lookup_map_edge (keys : List KeyName) (edge : KeyName → KeyEdge) (key : KeyName) :
    (keys.map fun other => (other, edge other)).lookup key =
      if key ∈ keys then some (edge key) else none := by
  induction keys with
  | nil => rfl
  | cons first rest ih =>
      rw [List.map_cons, lookup_cons_eq_ite, ih]
      by_cases same : key = first <;> simp [same]

/-- A key that is held now went down unless it was held before. -/
theorem key_update_of_mem (held : key ∈ down) :
    (input.update down).key key = { held := true, pressed := !input.isDown key } := by
  simp only [InputState.key, update]
  rw [List.lookup_append, lookup_map_edge, if_pos held]
  rfl

/-- A key that is not held now went up if it was held before. -/
theorem key_update_of_notMem (up : key ∉ down) :
    (input.update down).key key =
      if key ∈ input.heldKeys then { released := true } else {} := by
  simp only [InputState.key, update]
  rw [List.lookup_append, lookup_map_edge, if_neg up,
    lookup_map_edge _ fun _ => { released := true }]
  by_cases before : key ∈ input.heldKeys <;> simp [before, up]

/-- A key that is down is among those held. -/
theorem mem_heldKeys_of_isDown (held : input.isDown key = true) : key ∈ input.heldKeys := by
  unfold isDown InputState.key at held
  cases found : input.edges.lookup key with
  | none =>
      rw [found] at held
      cases held
  | some edge =>
      rw [found] at held
      obtain ⟨before, after, edges, -⟩ := List.lookup_eq_some_iff.mp found
      refine List.mem_map.mpr ⟨(key, edge), List.mem_filter.mpr ⟨?_, held⟩, rfl⟩
      rw [edges]
      exact List.mem_append_right _ List.mem_cons_self

theorem isDown_update (held : key ∈ down) : (input.update down).isDown key = true := by
  simp only [isDown]
  rw [key_update_of_mem held]

/-- The state tells which keys are held, by the key and as a list. -/
structure Remembers (input : InputState) (held : List KeyName) : Prop where
  isDown : ∀ key, input.isDown key = true ↔ key ∈ held
  heldKeys : ∀ key, key ∈ input.heldKeys ↔ key ∈ held

theorem Remembers.start : ({} : InputState).Remembers [] where
  isDown key := by simp [InputState.isDown, InputState.key]
  heldKeys key := by simp [InputState.heldKeys]

/-- Keys that went up are stored, but not as held ones. -/
theorem heldKeys_update (input : InputState) (down : List KeyName) :
    (input.update down).heldKeys = down := by
  have released : ∀ keys : List KeyName, keys.filter (fun _ => false) = [] := by simp
  have pressed : ∀ keys : List KeyName, keys.filter (fun _ => true) = keys := by simp
  simp only [heldKeys, update]
  rw [List.filter_append, List.filter_map, List.filter_map]
  simp only [Function.comp_def, released, pressed, List.map_nil, List.append_nil, List.map_map]
  exact List.map_id down

/-- A tick leaves nothing of the ticks before it but what went up with it. -/
theorem remembers_update (input : InputState) (down : List KeyName) :
    (input.update down).Remembers down where
  isDown key := by
    constructor
    · intro held
      rw [← heldKeys_update input down]
      exact mem_heldKeys_of_isDown held
    · exact isDown_update
  heldKeys key := by rw [heldKeys_update]

/-- A key does what the change of the held keys says. -/
theorem Remembers.key_update (remembers : input.Remembers held) (down : List KeyName)
    (key : KeyName) : (input.update down).key key = .between held down key := by
  by_cases now : key ∈ down
  · have before : input.isDown key = decide (key ∈ held) := by
      rw [Bool.eq_iff_iff, remembers.isDown, decide_eq_true_iff]
    rw [key_update_of_mem now, before]
    simp [KeyEdge.between, now]
  · rw [key_update_of_notMem now]
    simp only [remembers.heldKeys]
    by_cases before : key ∈ held <;> simp [KeyEdge.between, now, before]

/-- The pointer has five buttons, each with a key of its own. -/
theorem button_eq (input : InputState) (index : Nat) :
    input.button index =
      if 1 ≤ index ∧ index ≤ 5 then (input.key (buttonKey index)).asButton else {} := rfl

/-! ### A run -/

/-- The state in a tick of a run, in which the keys `down tick` are held.  The first tick
has the number one. -/
def run (down : Nat → List KeyName) : Nat → InputState
  | 0 => {}
  | tick + 1 => (run down tick).update (down (tick + 1))

/-- The keys that are held in a tick of a run; before its first tick there are none. -/
def heldIn (down : Nat → List KeyName) : Nat → List KeyName
  | 0 => []
  | tick + 1 => down (tick + 1)

/-- The state in a tick remembers the keys that are held in it. -/
theorem remembers_run (down : Nat → List KeyName) (tick : Nat) :
    (run down tick).Remembers (heldIn down tick) := by
  cases tick with
  | zero => exact .start
  | succ tick => exact remembers_update _ _

/-- An edge is what lies between two ticks, whatever else is held. -/
theorem key_run (down : Nat → List KeyName) (tick : Nat) (key : KeyName) :
    (run down (tick + 1)).key key = .between (heldIn down tick) (down (tick + 1)) key :=
  (remembers_run down tick).key_update _ key

end InputState

/-! ### Scripts -/

/-- Whether a script holds a key in a tick. -/
def IsHeld (script : List KeyHold) (key : KeyName) (tick : Nat) : Prop :=
  ∃ hold ∈ script, hold.key = key ∧ hold.covers tick = true

/-- The ticks from `first` through `last` are as many as a script holds a key without a
break. -/
structure HoldStretch (script : List KeyHold) (key : KeyName) (first last : Nat) : Prop where
  positive : 1 ≤ first
  ordered : first ≤ last
  held : ∀ tick, first ≤ tick → tick ≤ last → IsHeld script key tick
  before : first = 1 ∨ ¬ IsHeld script key (first - 1)
  after : ¬ IsHeld script key (last + 1)

/-- Whether two holds overlap or follow each other immediately. -/
def KeyHold.Meets (one other : KeyHold) : Prop :=
  one.start ≤ other.stop + 1 ∧ other.start ≤ one.stop + 1

variable {script : List KeyHold} {key : KeyName} {tick first last : Nat}

/-- A script presses a key in a tick if one of its holds of that key covers the tick. -/
theorem mem_keysDown_iff : key ∈ keysDown script tick ↔ IsHeld script key tick := by
  simp only [keysDown, IsHeld, List.mem_eraseDups, List.mem_map, List.mem_filter]
  constructor
  · rintro ⟨hold, ⟨member, covers⟩, same⟩
    exact ⟨hold, member, same, covers⟩
  · rintro ⟨hold, member, same, covers⟩
    exact ⟨hold, ⟨member, covers⟩, same⟩

theorem KeyHold.covers_iff {hold : KeyHold} :
    hold.covers tick = true ↔ hold.start ≤ tick ∧ tick ≤ hold.stop := by
  simp [covers]

/-- Holds that meet leave no gap between them. -/
theorem KeyHold.Meets.covers {one other : KeyHold} (meets : one.Meets other)
    (begun : min one.start other.start ≤ tick) (lasts : tick ≤ max one.stop other.stop) :
    one.covers tick = true ∨ other.covers tick = true := by
  rw [covers_iff, covers_iff]
  unfold Meets at meets
  omega

/-- At some time every key is up for good. -/
theorem exists_bound (script : List KeyHold) (key : KeyName) :
    ∃ bound, ∀ tick, bound < tick → ¬ IsHeld script key tick := by
  induction script with
  | nil => exact ⟨0, fun tick late held => by simp [IsHeld] at held⟩
  | cons hold rest ih =>
      obtain ⟨bound, up⟩ := ih
      refine ⟨max hold.stop bound, ?_⟩
      rintro tick late ⟨other, member, same, covers⟩
      rcases List.mem_cons.mp member with rfl | member
      · rw [KeyHold.covers_iff] at covers
        omega
      · exact up tick (by omega) ⟨other, member, same, covers⟩

/-! ### Stretches -/

/-- A held tick belongs to a stretch that begins somewhere. -/
theorem exists_first (positive : 1 ≤ tick) (held : IsHeld script key tick) :
    ∃ first, 1 ≤ first ∧ first ≤ tick ∧
      (∀ other, first ≤ other → other ≤ tick → IsHeld script key other) ∧
      (first = 1 ∨ ¬ IsHeld script key (first - 1)) := by
  induction tick with
  | zero => cases positive
  | succ tick ih =>
      -- The stretch begins here, or it is that of the tick before.
      by_cases before : 1 ≤ tick ∧ IsHeld script key tick
      · obtain ⟨first, least, inside, all, edge⟩ := ih before.1 before.2
        refine ⟨first, least, Nat.le_succ_of_le inside, ?_, edge⟩
        intro other begun lasts
        rcases Nat.le_or_eq_of_le_succ lasts with earlier | rfl
        · exact all other begun earlier
        · exact held
      · refine ⟨tick + 1, positive, Nat.le_refl _, ?_, ?_⟩
        · intro other begun lasts
          rwa [Nat.le_antisymm lasts begun]
        · rw [not_and] at before
          rcases Nat.eq_zero_or_pos tick with rfl | later
          · exact .inl rfl
          · exact .inr (before later)

/-- A held tick belongs to a stretch that ends somewhere. -/
theorem exists_last (held : IsHeld script key tick) :
    ∃ last, tick ≤ last ∧ (∀ other, tick ≤ other → other ≤ last → IsHeld script key other) ∧
      ¬ IsHeld script key (last + 1) := by
  classical
  obtain ⟨bound, up⟩ := exists_bound script key
  have ends : ∃ more, ¬ IsHeld script key (tick + more + 1) := ⟨bound, up _ (by omega)⟩
  refine ⟨tick + Nat.find ends, Nat.le_add_right _ _, ?_, Nat.find_spec ends⟩
  intro other begun lasts
  rcases Nat.eq_or_lt_of_le begun with rfl | later
  · exact held
  · obtain ⟨more, rfl⟩ : ∃ more, other = tick + more + 1 := ⟨other - tick - 1, by omega⟩
    exact of_not_not (Nat.find_min ends (by omega))

/-- Every held tick of a run lies in a stretch. -/
theorem exists_stretch (positive : 1 ≤ tick) (held : IsHeld script key tick) :
    ∃ first last, HoldStretch script key first last ∧ first ≤ tick ∧ tick ≤ last := by
  obtain ⟨first, least, early, before, edge⟩ := exists_first positive held
  obtain ⟨last, late, after, up⟩ := exists_last held
  refine ⟨first, last, ⟨least, Nat.le_trans early late, ?_, edge, up⟩, early, late⟩
  intro other begun lasts
  rcases Nat.le_total other tick with earlier | later
  · exact before other begun earlier
  · exact after other later lasts

namespace HoldStretch

/-- Ticks without a break between them lie in one stretch. -/
theorem mem_of_unbroken (stretch : HoldStretch script key first last) {inside other : Nat}
    (begun : first ≤ inside) (lasts : inside ≤ last) (positive : 1 ≤ other)
    (unbroken : ∀ between, min inside other ≤ between → between ≤ max inside other →
      IsHeld script key between) : first ≤ other ∧ other ≤ last := by
  constructor
  · -- Otherwise the tick in front of the stretch would be held.
    by_contra early
    rcases stretch.before with rfl | up
    · exact early positive
    · exact up (unbroken (first - 1) (by omega) (by omega))
  · by_contra late
    exact stretch.after (unbroken (last + 1) (by omega) (by omega))

/-- A stretch takes in the whole of two holds that meet. -/
theorem mem_of_meets (stretch : HoldStretch script key first last) {one other : KeyHold}
    (here : one ∈ script) (same : one.key = key) (there : other ∈ script)
    (again : other.key = key) (meets : one.Meets other) {inside : Nat} (begun : first ≤ inside)
    (lasts : inside ≤ last) (covered : one.covers inside = true) (positive : 1 ≤ tick)
    (covers : one.covers tick = true ∨ other.covers tick = true) : first ≤ tick ∧ tick ≤ last := by
  apply stretch.mem_of_unbroken begun lasts positive
  intro between after before
  rw [KeyHold.covers_iff] at covered
  rw [KeyHold.covers_iff, KeyHold.covers_iff] at covers
  have begins : min one.start other.start ≤ between := by omega
  rcases meets.covers begins (by omega) with one | other
  · exact ⟨_, here, same, one⟩
  · exact ⟨_, there, again, other⟩

/-- Around a stretch the key is held through its last tick. -/
theorem isHeld_iff (stretch : HoldStretch script key first last) (begun : first ≤ tick)
    (lasts : tick ≤ last + 1) : IsHeld script key tick ↔ tick ≤ last := by
  constructor
  · intro held
    by_contra late
    obtain rfl : tick = last + 1 := by omega
    exact stretch.after held
  · exact stretch.held tick begun

/-- Before a tick of a stretch the key was held unless the stretch begins there. -/
theorem mem_heldIn_iff (stretch : HoldStretch script key first last) (begun : first ≤ tick + 1)
    (lasts : tick ≤ last) :
    key ∈ InputState.heldIn (keysDown script) tick ↔ first ≤ tick := by
  have positive := stretch.positive
  cases tick with
  | zero =>
      constructor
      · intro held
        cases held
      · omega
  | succ tick =>
      apply mem_keysDown_iff.trans
      constructor
      · intro held
        by_contra early
        obtain rfl : first = tick + 2 := by omega
        rcases stretch.before with wrong | up
        · omega
        · exact up held
      · intro later
        exact stretch.held _ later lasts

end HoldStretch

namespace InputState

/-- What a key does in a stretch and in the tick behind it. -/
theorem key_run_stretch (stretch : HoldStretch script key first last) (begun : first ≤ tick)
    (lasts : tick ≤ last + 1) :
    (run (keysDown script) tick).key key =
      { held := decide (tick ≤ last)
        pressed := decide (tick = first)
        released := decide (tick = last + 1) } := by
  have positive := stretch.positive
  have ordered := stretch.ordered
  obtain ⟨tick, rfl⟩ := Nat.exists_eq_add_of_le' (Nat.le_trans positive begun)
  have now := mem_keysDown_iff.trans (stretch.isHeld_iff begun lasts)
  have before := stretch.mem_heldIn_iff begun (by omega)
  rw [key_run]
  simp only [KeyEdge.between, KeyEdge.mk.injEq, decide_eq_decide, now, before,
    true_and, Nat.not_le]
  constructor <;> constructor <;> omega

/-- **What a key does in a tick is the change of the held keys.**  In a run that tells the
state after each tick which keys are held, a key is held if it is one of them, and it goes
down or up if it was none of them, or was one, in the tick before; before the first tick
there are none.  The five buttons of the pointer do what their keys do, and there are no
others.

If a script holds the keys, a key is held in the ticks that one of its holds covers.  All
these ticks lie in stretches, in which the key goes down once, with the first tick, and up
once, in the tick behind the last one.  Of two holds that overlap or follow each other
immediately all ticks lie in the same stretch. -/
theorem edges_follow_held_keys :
    (∀ (down : Nat → List KeyName) (tick : Nat),
      let input := run down (tick + 1)
      let edge := KeyEdge.between (heldIn down tick) (down (tick + 1))
      (∀ key, input.key key = edge key) ∧
      (∀ index name, (index, name) ∈
          [(1, "MOUSE1"), (2, "MOUSE2"), (3, "MOUSE3"), (4, "MOUSE4"), (5, "MOUSE5")] →
        input.button index = (edge (.ofText name)).asButton) ∧
      ∀ index, ¬ (1 ≤ index ∧ index ≤ 5) → input.button index = {}) ∧
    ∀ (script : List KeyHold) (key : KeyName),
      let edge := fun tick => (run (keysDown script) tick).key key
      (∀ tick, 1 ≤ tick →
        ((edge tick).held = true ↔ IsHeld script key tick) ∧
        ((edge tick).held = true →
          ∃ first last, HoldStretch script key first last ∧ first ≤ tick ∧ tick ≤ last)) ∧
      ∀ first last, HoldStretch script key first last →
        (∀ tick, first ≤ tick → tick ≤ last + 1 →
          ((edge tick).held = true ↔ tick ≤ last) ∧
          ((edge tick).pressed = true ↔ tick = first) ∧
          ((edge tick).released = true ↔ tick = last + 1)) ∧
        ∀ one ∈ script, ∀ other ∈ script, one.key = key → other.key = key →
          one.Meets other → ∀ inside, first ≤ inside → inside ≤ last →
          one.covers inside = true → ∀ tick, 1 ≤ tick →
          one.covers tick = true ∨ other.covers tick = true → first ≤ tick ∧ tick ≤ last := by
  constructor
  · intro down tick input edge
    refine ⟨key_run down tick, ?_, ?_⟩
    · intro index name member
      have named : 1 ≤ index ∧ index ≤ 5 ∧ buttonKey index = .ofText name := by
        simp only [List.mem_cons, Prod.mk.injEq, List.not_mem_nil, or_false] at member
        rcases member with ⟨rfl, rfl⟩ | ⟨rfl, rfl⟩ | ⟨rfl, rfl⟩ | ⟨rfl, rfl⟩ | ⟨rfl, rfl⟩ <;>
          decide +kernel
      rw [button_eq, if_pos ⟨named.1, named.2.1⟩, key_run, named.2.2]
    · intro index outside
      rw [button_eq, if_neg outside]
  · intro script key edge
    have held : ∀ tick, 1 ≤ tick → ((edge tick).held = true ↔ IsHeld script key tick) := by
      intro tick positive
      obtain ⟨tick, rfl⟩ := Nat.exists_eq_add_of_le' positive
      apply Iff.trans _ mem_keysDown_iff
      simp [edge, key_run, KeyEdge.between]
    refine ⟨?_, ?_⟩
    · intro tick positive
      refine ⟨held tick positive, ?_⟩
      intro now
      exact exists_stretch positive ((held tick positive).mp now)
    · intro first last stretch
      refine ⟨?_, ?_⟩
      · intro tick begun lasts
        simp [edge, key_run_stretch stretch begun lasts]
      · intro one here other there same again meets inside begun lasts covered tick
        exact stretch.mem_of_meets here same there again meets begun lasts covered

/-! ### An example: a spotlight that follows -/

def spotKey : KeyName := .ofText "d"

/-- The spotlight is moved by three holds, of which the first two follow each other and the
last two overlap, and once more after a pause. -/
def spotScript : List KeyHold :=
  [⟨spotKey, 5, 8⟩, ⟨spotKey, 1, 3⟩, ⟨spotKey, 4, 6⟩, ⟨spotKey, 10, 10⟩]

theorem holdStretch_spot : HoldStretch spotScript spotKey 1 8 where
  positive := Nat.le_refl 1
  ordered := by decide
  held := by
    intro tick begun lasts
    rcases (by omega : tick ≤ 3 ∨ 4 ≤ tick ∧ tick ≤ 6 ∨ 5 ≤ tick ∧ tick ≤ 8) with
      early | middle | late
    · exact ⟨⟨spotKey, 1, 3⟩, by decide, rfl, KeyHold.covers_iff.mpr ⟨begun, early⟩⟩
    · exact ⟨⟨spotKey, 4, 6⟩, by decide, rfl, KeyHold.covers_iff.mpr middle⟩
    · exact ⟨⟨spotKey, 5, 8⟩, by decide, rfl, KeyHold.covers_iff.mpr late⟩
  before := .inl rfl
  after := by
    rintro ⟨hold, member, -, covers⟩
    revert hold
    decide

/-- The key goes down with the first of the three holds and up behind the last one.  The
second pointer button, which is held all the time, goes down only once. -/
theorem edges_follow_held_keys_spot :
    let edge := fun tick => (run (keysDown spotScript) tick).key spotKey
    let clicks := run fun _ => [.ofText "Mouse2"]
    HoldStretch spotScript spotKey 1 8 ∧
      (edge 1).pressed = true ∧ (edge 4).held = true ∧ ¬ (edge 4).pressed = true ∧
      ¬ (edge 7).released = true ∧ (edge 9).released = true ∧
      KeyHold.Meets ⟨spotKey, 1, 3⟩ ⟨spotKey, 4, 6⟩ ∧
      (∀ tick, 1 ≤ tick → KeyHold.covers ⟨spotKey, 1, 3⟩ tick = true ∨
        KeyHold.covers ⟨spotKey, 4, 6⟩ tick = true → 1 ≤ tick ∧ tick ≤ 8) ∧
      (clicks 1).button 2 = { pressed := true, down := true } ∧
      (clicks 2).button 2 = { down := true } ∧ (clicks 2).button 6 = {} := by
  intro edge clicks
  obtain ⟨runs, scripts⟩ := edges_follow_held_keys
  obtain ⟨flags, meets⟩ := (scripts spotScript spotKey).2 1 8 holdStretch_spot
  obtain ⟨-, firstClick, -⟩ := runs (fun _ => [.ofText "Mouse2"]) 0
  obtain ⟨-, laterClick, other⟩ := runs (fun _ => [.ofText "Mouse2"]) 1
  have adjacent : KeyHold.Meets ⟨spotKey, 1, 3⟩ ⟨spotKey, 4, 6⟩ := by constructor <;> decide
  refine ⟨holdStretch_spot, ?_, ?_, ?_, ?_, ?_, adjacent, ?_, ?_, ?_, ?_⟩
  · exact (flags 1 (by decide) (by decide)).2.1.mpr rfl
  · exact (flags 4 (by decide) (by decide)).1.mpr (by decide)
  · rw [(flags 4 (by decide) (by decide)).2.1]
    decide
  · rw [(flags 7 (by decide) (by decide)).2.2]
    decide
  · exact (flags 9 (by decide) (by decide)).2.2.mpr rfl
  · exact meets ⟨spotKey, 1, 3⟩ (by decide) ⟨spotKey, 4, 6⟩ (by decide) rfl rfl adjacent 2
      (by decide) (by decide) (by decide)
  · exact (firstClick 2 "MOUSE2" (by decide)).trans (by decide +kernel)
  · exact (laterClick 2 "MOUSE2" (by decide)).trans (by decide +kernel)
  · exact other 6 (by decide)

end InputState

end Stagecraft
