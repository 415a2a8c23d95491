/-
Module: Stagecraft.Proofs.StorageOrder
Purpose: Nothing that happens on the stage depends on the order in which the actors are
  stored.
Main exports:
  World.Shuffled, World.LooseTick, Shuffled.act, Shuffled.dismiss, LooseTick.shuffled,
  storage_order_is_irrelevant
-/
import Stagecraft.Proofs.Contacts
import Stagecraft.Proofs.RequestDelivery

namespace Stagecraft

/-! ### Stages that differ in the order of storage -/

namespace World

variable {world other stage : World} {time : Float32}

/-- The same stage with its actors stored in some order. -/
def Shuffled (world other : World) : Prop :=
  ∃ cast, cast.Perm world.cast ∧ other = { world with cast }

namespace Shuffled

theorem refl (world : World) : world.Shuffled world := ⟨world.cast, .refl _, rfl⟩

theorem trans (one : world.Shuffled other) (two : other.Shuffled stage) :
    world.Shuffled stage := by
  obtain ⟨cast, perm, rfl⟩ := one
  obtain ⟨last, again, rfl⟩ := two
  exact ⟨last, again.trans perm, rfl⟩

end Shuffled

/-- The actors have their turns by ascending numbers. -/
theorem inOrder_ascending (cast : List Actor) :
    (inOrder cast).Pairwise fun first second => first.id ≤ second.id := by
  have sorted : (inOrder cast).Pairwise fun first second =>
      decide (first.id ≤ second.id) = true := by
    apply List.pairwise_mergeSort
    · intro first second third up higher
      exact decide_eq_true (Nat.le_trans (of_decide_eq_true up) (of_decide_eq_true higher))
    · intro first second
      simpa using Nat.le_total first.id second.id
  exact sorted.imp of_decide_eq_true

/-- Where all numbers differ, there is only one such order. -/
theorem inOrder_of_perm {first second : List Actor} (perm : first.Perm second)
    (distinct : (first.map Actor.id).Nodup) : inOrder first = inOrder second := by
  have same : (inOrder first).Perm (inOrder second) :=
    (inOrder_perm first).trans (perm.trans (inOrder_perm second).symm)
  apply same.eq_of_pairwise _ (inOrder_ascending first) (inOrder_ascending second)
  intro one two here there up down
  have inside := (inOrder_perm first).mem_iff.mp here
  have too := perm.mem_iff.mpr ((inOrder_perm second).mem_iff.mp there)
  exact List.inj_on_of_nodup_map distinct inside too (Nat.le_antisymm up down)

/-! ### The parts of a tick -/

section Behave

variable {cast : List Actor} (perm : cast.Perm world.cast)
  (distinct : (world.cast.map Actor.id).Nodup)
include perm

/-- The bodies of a cast in another order are the same ones in another order. -/
theorem bodies_of_perm :
    world.snapshot.bodies.Perm ({ world with cast } : World).snapshot.bodies :=
  ((perm.symm.filter _).map Actor.body)

include distinct

/-- The surroundings do not depend on the order of the cast. -/
theorem surroundings_of_perm :
    ({ world with cast } : World).surroundings = world.surroundings := by
  have bodies := bodies_of_perm perm
  have numbers : (world.snapshot.bodies.map Body.id).Nodup := by
    have sub : (world.snapshot.bodies.map Body.id).Sublist (world.cast.map Actor.id) := by
      rw [snapshot, List.map_map]
      exact List.filter_sublist.map Actor.id
    exact distinct.sublist sub
  rw [surroundings, surroundings, Snapshot.overlaps_of_perm bodies numbers,
    Snapshot.supportDistance_of_perm bodies numbers rfl]

/-- All actors take their turns in the order of their numbers, however they are stored. -/
theorem behave_of_perm : ({ world with cast } : World).behave = world.behave := by
  have turns := inOrder_of_perm perm.symm distinct
  have touch : ∀ id,
      (Snapshot.contacts ({ world with cast } : World).snapshot.bodies).contains id =
        (Snapshot.contacts world.snapshot.bodies).contains id :=
    fun id => (Snapshot.contains_contacts_of_perm (bodies_of_perm perm) id).symm
  simp only [behave, surroundings_of_perm perm distinct, turns, touch]

end Behave

/-- So the behavior pass of a shuffled world is the same. -/
theorem Shuffled.behave (shuffled : world.Shuffled other)
    (distinct : (world.cast.map Actor.id).Nodup) : other.behave = world.behave := by
  obtain ⟨cast, perm, rfl⟩ := shuffled
  exact behave_of_perm perm distinct

/-- The turns of all actors put the cast into an order of their own. -/
theorem Shuffled.act (shuffled : world.Shuffled other)
    (distinct : (world.cast.map Actor.id).Nodup) : other.act = world.act := by
  have same := shuffled.behave distinct
  obtain ⟨cast, perm, rfl⟩ := shuffled
  rw [World.act, World.act, same]

theorem Shuffled.dismiss (shuffled : world.Shuffled other) :
    world.dismiss.Shuffled other.dismiss := by
  obtain ⟨cast, perm, rfl⟩ := shuffled
  refine ⟨_, perm.filter fun actor => !actor.isLeaving, ?_⟩
  simp only [dismiss_eq, (perm.filter Actor.isLeaving).all_eq]

theorem Shuffled.switchMap (shuffled : world.Shuffled other) :
    world.switchMap.Shuffled other.switchMap := by
  obtain ⟨cast, perm, rfl⟩ := shuffled
  refine ⟨cast, ?_, ?_⟩
  · rw [switchMap_eq]
    exact perm
  · rw [switchMap_eq, switchMap_eq]

theorem Shuffled.readKeys (shuffled : world.Shuffled other) (time : Float32) :
    (world.readKeys time).Shuffled (other.readKeys time) := by
  obtain ⟨cast, perm, rfl⟩ := shuffled
  exact ⟨cast, perm, rfl⟩

/-- A tick of a stage that stores its actors as it likes: before each part of the tick, and
after the last one, they may stand in another order. -/
inductive LooseTick (world : World) (time : Float32) : World → Prop
  | parts {early acting leaving staying after : World}
      (stored : world.Shuffled early)
      (read : (early.readKeys time).Shuffled acting)
      (acted : acting.act.Shuffled leaving)
      (left : leaving.dismiss.Shuffled staying)
      (switched : staying.switchMap.Shuffled after) : LooseTick world time after

/-- However the actors are stored, they end up as in the tick by ascending numbers. -/
theorem LooseTick.shuffled {after : World} (loose : world.LooseTick time after)
    (distinct : (world.cast.map Actor.id).Nodup) : (world.tick time).Shuffled after := by
  obtain ⟨stored, read, acted, left, switched⟩ := loose
  have acts := ((stored.readKeys time).trans read).act distinct
  rw [acts] at acted
  exact (acted.dismiss.trans left).switchMap.trans switched

end World

/-! ### The order of the turns -/

/-- What is run in turns by ascending numbers is run by ascending numbers. -/
theorem Surroundings.ascending_of_turnOf {σ : Type} {surroundings : Surroundings σ}
    {cast : List Actor} {parts : List (List Cue)}
    (turned : List.Forall₂ surroundings.TurnOf cast parts)
    (ascending : cast.Pairwise fun first second => first.id ≤ second.id) :
    parts.flatten.Pairwise fun first second => first.actor ≤ second.actor := by
  induction turned with
  | nil => exact .nil
  | @cons actor part rest parts turn others ih =>
      obtain ⟨least, ascending⟩ := List.pairwise_cons.mp ascending
      rw [List.flatten_cons, List.pairwise_append]
      refine ⟨?_, ih ascending, ?_⟩
      · apply List.pairwise_of_forall_mem_list
        intro first here second there
        exact Nat.le_of_eq ((turn.actor_eq first here).trans (turn.actor_eq second there).symm)
      · intro first here second there
        obtain ⟨later, inside, member⟩ := List.mem_flatten.mp there
        obtain ⟨next, among, its⟩ := exists_of_forall₂_of_mem others inside
        rw [turn.actor_eq first here, its.actor_eq second member]
        exact least next among

namespace World

variable {world : World}

/-- **The order in which actors are stored is irrelevant.**  Take any stage that a host can
bring about, and store its actors in any order.  The next tick leaves exactly the same stage
behind; even if the actors are stored in yet another order between the parts of the tick, all
that can differ afterwards is the order in which they are stored.  And the turns of the tick
run the events of the actors by ascending numbers. -/
theorem storage_order_is_irrelevant {document : Document} (reachable : Reachable document world)
    (time : Float32) :
    (∀ other, world.Shuffled other → other.tick time = world.tick time) ∧
    (∀ after, world.LooseTick time after → (world.tick time).Shuffled after) ∧
    ∀ other, world.Shuffled other →
      (other.readKeys time).behave.2.cues.Pairwise fun first second =>
        first.actor ≤ second.actor := by
  have tidy := reachable.tidy
  refine ⟨?_, fun after loose => loose.shuffled tidy.distinct, ?_⟩
  · intro other shuffled
    rw [tick_eq, tick_eq, (shuffled.readKeys time).act tidy.distinct]
  · intro other shuffled
    rw [(shuffled.readKeys time).behave tidy.distinct]
    -- The cues are those of the turns one after another, and the turns ascend.
    obtain ⟨parts, cues, turned⟩ := (tidy.readKeys time).behave_cues
    rw [cues]
    exact Surroundings.ascending_of_turnOf turned (inOrder_ascending _)

/-- The second night of the show, with the rabbit stored before the conjurer. -/
def backstage : World :=
  { openingNight.tick 1 with cast := (openingNight.tick 1).cast.reverse }

theorem shuffled_backstage : (openingNight.tick 1).Shuffled backstage :=
  ⟨_, List.reverse_perm _, rfl⟩

theorem ids_backstage : backstage.cast.map Actor.id = [1, 0] := by
  rw [backstage, tick_eq, act, behave, inOrder_openingNight]
  rfl

/-- The conjurer has the first turn all the same, and the tick leaves the same stage. -/
theorem storage_order_is_irrelevant_magicShow :
    backstage.cast.map Actor.id = [1, 0] ∧
      backstage.tick 1 = (openingNight.tick 1).tick 1 ∧
      (∃ after, (openingNight.tick 1).LooseTick 1 after ∧
        ((openingNight.tick 1).tick 1).Shuffled after) ∧
      (backstage.readKeys 1).behave.2.cues.Pairwise fun first second =>
        first.actor ≤ second.actor := by
  have reachable : Reachable magicShow (openingNight.tick 1) :=
    (opens_of_spawnAll setUp_emptyStage spawnAll_openingNight []).reachable.tick 1
  obtain ⟨same, loosely, inTurn⟩ := storage_order_is_irrelevant reachable 1
  have loose : (openingNight.tick 1).LooseTick 1 (backstage.tick 1) :=
    .parts shuffled_backstage (.refl _) (.refl _) (.refl _) (.refl _)
  exact ⟨ids_backstage, same _ shuffled_backstage, ⟨_, loose, loosely _ loose⟩,
    inTurn _ shuffled_backstage⟩

end World

end Stagecraft
