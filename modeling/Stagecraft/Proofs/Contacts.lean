/-
Module: Stagecraft.Proofs.Contacts
Purpose: Who touches whom, and what hitboxes overlap, in whatever order the bodies are
  looked at.
Main exports:
  Rectangle.StrictlyOverlap, Body.touches_iff, Snapshot.touching_iff, Snapshot.overlaps_iff,
  Snapshot.contains_contacts_of_perm, Snapshot.body?_of_perm,
  Snapshot.contacts_agree_with_overlaps
-/
import Stagecraft.Geometry.Snapshot
import Stagecraft.Proofs.Asking

namespace Stagecraft

/-! ### Two bodies -/

/-- Two rectangles reach into each other in both directions. -/
structure Rectangle.StrictlyOverlap (a b : Rectangle) : Prop where
  left : a.min.x < b.max.x
  right : b.min.x < a.max.x
  above : a.min.y < b.max.y
  below : b.min.y < a.max.y

/-- Rectangles overlap when they share more than a border. -/
theorem Rectangle.overlaps_iff (a b : Rectangle) : a.overlaps b = true ↔ a.StrictlyOverlap b := by
  simp only [overlaps, Bool.and_eq_true, decide_eq_true_iff, and_assoc]
  constructor
  · rintro ⟨left, right, above, below⟩
    exact ⟨left, right, above, below⟩
  · rintro ⟨left, right, above, below⟩
    exact ⟨left, right, above, below⟩

theorem Rectangle.overlaps_comm (a b : Rectangle) : a.overlaps b = b.overlaps a := by
  simp only [overlaps, Bool.and_assoc, Bool.and_comm, Bool.and_left_comm]

theorem Body.touches_symm {a b : Body} (touches : a.touches b = true) : b.touches a = true := by
  obtain ⟨mine, one, found⟩ := List.any_eq_true.mp touches
  obtain ⟨theirs, other, overlap⟩ := List.any_eq_true.mp found
  apply List.any_eq_true.mpr
  refine ⟨theirs, other, List.any_eq_true.mpr ⟨mine, one, ?_⟩⟩
  rw [Rectangle.overlaps_comm]
  exact overlap

/-- Bodies touch when a box of one strictly overlaps a box of the other. -/
theorem Body.touches_iff (a b : Body) : a.touches b = true ↔
    ∃ mine ∈ a.hitboxes, ∃ theirs ∈ b.hitboxes,
      (mine.at a.position).StrictlyOverlap (theirs.at b.position) := by
  simp only [touches, List.any_eq_true, Rectangle.overlaps_iff]

namespace Body

/-- The hitboxes of two names overlap. -/
def NamedOverlap (mine theirs : String) (a b : Body) : Prop :=
  ∃ hitbox, hitboxNamed? a.hitboxes mine = some hitbox ∧
    ∃ other, hitboxNamed? b.hitboxes theirs = some other ∧
      (hitbox.at a.position).overlaps (other.at b.position) = true

namespace NamedOverlap

variable {mine theirs : String} {a b : Body}

theorem symm (overlap : a.NamedOverlap mine theirs b) : b.NamedOverlap theirs mine a := by
  obtain ⟨hitbox, named, other, found, meets⟩ := overlap
  exact ⟨other, found, hitbox, named, (Rectangle.overlaps_comm _ _).trans meets⟩

theorem touches (overlap : a.NamedOverlap mine theirs b) : a.touches b = true := by
  obtain ⟨hitbox, named, other, found, meets⟩ := overlap
  apply (touches_iff a b).mpr
  exact ⟨hitbox, List.mem_of_find?_eq_some named, other, List.mem_of_find?_eq_some found,
    (Rectangle.overlaps_iff _ _).mp meets⟩

end NamedOverlap

end Body

/-! ### The list of contacts -/

namespace Snapshot

/-- The first body makes contact with those behind it; the others have their contacts among
themselves. -/
theorem mem_contacts_cons {body : Body} {rest : List Body} {id : ActorId} :
    id ∈ contacts (body :: rest) ↔
      (∃ other ∈ rest, body.touches other = true ∧ (id = body.id ∨ id = other.id)) ∨
        id ∈ contacts rest := by
  simp [contacts, and_assoc]

/-- Who touches somebody does not depend on the order of the bodies. -/
theorem mem_contacts_of_perm {first second : List Body} (perm : first.Perm second)
    {id : ActorId} (member : id ∈ contacts first) : id ∈ contacts second := by
  induction perm with
  | nil => exact member
  | cons body perm ih =>
      rcases mem_contacts_cons.mp member with ⟨other, inside, touch⟩ | later
      · exact mem_contacts_cons.mpr (.inl ⟨other, perm.mem_iff.mp inside, touch⟩)
      · exact mem_contacts_cons.mpr (.inr (ih later))
  | swap second first rest =>
      -- The two bodies in front touch each other in either order.
      rcases mem_contacts_cons.mp member with ⟨other, inside, touch, named⟩ | later
      · rcases List.mem_cons.mp inside with rfl | inside
        · apply mem_contacts_cons.mpr
          exact .inl ⟨_, List.mem_cons_self, Body.touches_symm touch, named.symm⟩
        · apply mem_contacts_cons.mpr
          exact .inr (mem_contacts_cons.mpr (.inl ⟨other, inside, touch, named⟩))
      · rcases mem_contacts_cons.mp later with ⟨other, inside, touch⟩ | others
        · apply mem_contacts_cons.mpr
          exact .inl ⟨other, List.mem_cons_of_mem _ inside, touch⟩
        · apply mem_contacts_cons.mpr
          exact .inr (mem_contacts_cons.mpr (.inr others))
  | trans _ _ one two => exact two (one member)

/-- Who is in contact does not depend on the order in which the bodies stand. -/
theorem contains_contacts_of_perm {first second : List Body} (perm : first.Perm second)
    (id : ActorId) : (contacts first).contains id = (contacts second).contains id := by
  rw [Bool.eq_iff_iff, List.contains_iff_mem, List.contains_iff_mem]
  exact ⟨mem_contacts_of_perm perm, mem_contacts_of_perm perm.symm⟩

/-- The pairs of bodies in front of each other are all pairs, since those behind are met from
the other side. -/
theorem mem_contacts_iff {bodies : List Body} (distinct : (bodies.map Body.id).Nodup)
    {id : ActorId} : id ∈ contacts bodies ↔
      ∃ body ∈ bodies, body.id = id ∧ ∃ other ∈ bodies, other.id ≠ id ∧
        body.touches other = true := by
  induction bodies with
  | nil => simp [contacts]
  | cons head rest ih =>
      rw [List.map_cons, List.nodup_cons] at distinct
      obtain ⟨alone, distinct⟩ := distinct
      have differs : ∀ other ∈ rest, other.id ≠ head.id := fun other inside same =>
        alone (List.mem_map.mpr ⟨other, inside, same⟩)
      rw [mem_contacts_cons, ih distinct]
      constructor
      · rintro (⟨other, inside, touch, rfl | rfl⟩ | ⟨body, here, same, other, there, rest⟩)
        · exact ⟨head, List.mem_cons_self, rfl, other, List.mem_cons_of_mem _ inside,
            differs other inside, touch⟩
        · exact ⟨other, List.mem_cons_of_mem _ inside, rfl, head, List.mem_cons_self,
            (differs other inside).symm, Body.touches_symm touch⟩
        · exact ⟨body, List.mem_cons_of_mem _ here, same, other, List.mem_cons_of_mem _ there,
            rest⟩
      · rintro ⟨body, here, rfl, other, there, apart, touch⟩
        rcases List.mem_cons.mp here with rfl | inside
        · rcases List.mem_cons.mp there with rfl | behind
          · exact absurd rfl apart
          · exact .inl ⟨other, behind, touch, .inl rfl⟩
        · rcases List.mem_cons.mp there with rfl | behind
          · exact .inl ⟨body, inside, Body.touches_symm touch, .inr rfl⟩
          · exact .inr ⟨body, inside, rfl, other, behind, apart, touch⟩

/-! ### The answers of a snapshot -/

section Perm

variable {first second : Snapshot} (perm : first.bodies.Perm second.bodies)
  (distinct : (first.bodies.map Body.id).Nodup)
include perm distinct

theorem body?_of_perm (id : ActorId) : first.body? id = second.body? id := by
  apply find?_eq_of_perm perm
  apply (List.pairwise_map.mp distinct).imp
  intro body other differs one two
  exact differs ((eq_of_beq one).trans (eq_of_beq two).symm)

theorem overlaps_of_perm : first.overlaps = second.overlaps := by
  funext id mine theirs template
  simp only [overlaps, body?_of_perm perm distinct id]
  split
  · rfl
  · split
    · rfl
    · exact perm.any_eq

/-- Nor does the distance to the ground depend on that order. -/
theorem supportDistance_of_perm (ground : first.solids = second.solids) :
    first.supportDistance = second.supportDistance := by
  funext id position
  simp only [supportDistance, body?_of_perm perm distinct id, ground]

end Perm

variable {snapshot : Snapshot} (distinct : (snapshot.bodies.map Body.id).Nodup)

include distinct in
theorem body?_eq_some_iff {id : ActorId} {body : Body} :
    snapshot.body? id = some body ↔ body ∈ snapshot.bodies ∧ body.id = id := by
  constructor
  · intro found
    unfold body? at found
    exact ⟨List.mem_of_find?_eq_some found, by simpa using List.find?_some found⟩
  · rintro ⟨member, rfl⟩
    cases found : snapshot.body? body.id with
    | none =>
        have wrong := List.find?_eq_none.mp found body member
        simp at wrong
    | some other =>
        unfold body? at found
        have same : other.id = body.id := by simpa using List.find?_some found
        rw [List.inj_on_of_nodup_map distinct (List.mem_of_find?_eq_some found) member same]

include distinct in
/-- An actor is touching when a body of its own touches that of another actor. -/
theorem touching_iff {id : ActorId} : snapshot.touching id = true ↔
    ∃ body ∈ snapshot.bodies, body.id = id ∧ ∃ other ∈ snapshot.bodies, other.id ≠ id ∧
      body.touches other = true :=
  List.contains_iff_mem.trans (mem_contacts_iff distinct)

include distinct in
/-- An overlap in terms of the two bodies. -/
theorem overlaps_iff {id : ActorId} {mine theirs : String} {template : Option String} :
    snapshot.overlaps id mine theirs template = true ↔
      ∃ body ∈ snapshot.bodies, body.id = id ∧ ∃ other ∈ snapshot.bodies, other.id ≠ id ∧
        (template.all fun name => Text.sameName other.template name) = true ∧
        body.NamedOverlap mine theirs other := by
  simp only [overlaps, Body.NamedOverlap]
  constructor
  · intro overlap
    split at overlap
    · cases overlap
    · next body found =>
        split at overlap
        · cases overlap
        · next hitbox named =>
            obtain ⟨member, same⟩ := (body?_eq_some_iff distinct).mp found
            obtain ⟨other, there, holds⟩ := List.any_eq_true.mp overlap
            rw [Bool.and_eq_true, Bool.and_eq_true, bne_iff_ne, Option.any_eq_true] at holds
            obtain ⟨⟨apart, fits⟩, otherHitbox, found, meets⟩ := holds
            exact ⟨body, member, same, other, there, apart, fits, hitbox, named, otherHitbox,
              found, meets⟩
  · rintro ⟨body, member, same, other, there, apart, fits, hitbox, named, otherHitbox, found,
      meets⟩
    rw [(body?_eq_some_iff distinct).mpr ⟨member, same⟩]
    simp only [named]
    apply List.any_eq_true.mpr
    refine ⟨other, there, ?_⟩
    rw [Bool.and_eq_true, Bool.and_eq_true, bne_iff_ne, Option.any_eq_true]
    exact ⟨⟨apart, fits⟩, otherHitbox, found, meets⟩

/-- **Contacts and overlaps agree.**  Take any bodies with numbers of their own, and any solid
ground.  An actor touches another one exactly if a hitbox of its body strictly overlaps one
of some other body.  If it is found to overlap another one by the names of the hitboxes, and
maybe of the template, then it touches another one, and some other body that fits the
template is found to overlap it in turn, by the same names and the template of the actor.
All answers are the same in whatever order the bodies are stored. -/
theorem contacts_agree_with_overlaps (snapshot : Snapshot)
    (distinct : (snapshot.bodies.map Body.id).Nodup) :
    (∀ id, snapshot.touching id = true ↔
      ∃ body ∈ snapshot.bodies, body.id = id ∧ ∃ other ∈ snapshot.bodies, other.id ≠ id ∧
        ∃ mine ∈ body.hitboxes, ∃ theirs ∈ other.hitboxes,
          (mine.at body.position).StrictlyOverlap (theirs.at other.position)) ∧
    (∀ id mine theirs template, snapshot.overlaps id mine theirs template = true →
      snapshot.touching id = true ∧
      ∃ body ∈ snapshot.bodies, body.id = id ∧ ∃ other ∈ snapshot.bodies, other.id ≠ id ∧
        (template.all fun name => Text.sameName other.template name) = true ∧
        snapshot.overlaps other.id theirs mine (some body.template) = true) ∧
    ∀ bodies : List Body, bodies.Perm snapshot.bodies →
      let shuffled : Snapshot := { snapshot with bodies }
      shuffled.touching = snapshot.touching ∧ shuffled.overlaps = snapshot.overlaps ∧
        shuffled.supportDistance = snapshot.supportDistance := by
  refine ⟨?_, ?_, ?_⟩
  · intro id
    rw [touching_iff distinct]
    simp only [Body.touches_iff]
  · intro id mine theirs template overlap
    obtain ⟨body, here, rfl, other, there, apart, fits, meets⟩ :=
      (overlaps_iff distinct).mp overlap
    refine ⟨?_, body, here, rfl, other, there, apart, fits, ?_⟩
    · apply (touching_iff distinct).mpr
      exact ⟨body, here, rfl, other, there, apart, meets.touches⟩
    · -- Seen from the other side, the first body is the one whose template is given.
      apply (overlaps_iff distinct).mpr
      refine ⟨other, there, rfl, body, here, apart.symm, ?_, meets.symm⟩
      exact (Text.sameName_iff _ _).mpr rfl
  · intro bodies perm shuffled
    have still : (shuffled.bodies.map Body.id).Nodup := (perm.map Body.id).nodup_iff.mpr distinct
    refine ⟨?_, overlaps_of_perm perm still, supportDistance_of_perm perm still rfl⟩
    funext id
    exact contains_contacts_of_perm perm id

/-! ### An example: three acrobats -/

/-- An acrobat who stands somewhere on the rope. -/
def acrobat (id : ActorId) (template : String) (place : Float32) : Body :=
  { id
    template
    position := { x := place, y := 0 }
    hitboxes := [{ name := "Body", size := { x := 10, y := 20 } }] }

/-- Two acrobats lean on each other, and the third one only comes up to them. -/
def ropeSnapshot : Snapshot :=
  { bodies := [acrobat 1 "Catcher" 0, acrobat 2 "Flyer" 5, acrobat 3 "Clown" 15] }

/-- The catcher is found to overlap the flyer and the other way round, also if the clown is
stored first; the clown touches nobody. -/
theorem contacts_agree_with_overlaps_rope :
    (ropeSnapshot.bodies.map Body.id).Nodup ∧
      ropeSnapshot.overlaps 1 "body" "BODY" (some "flyer") = true ∧
      ropeSnapshot.touching 1 = true ∧
      (∃ body ∈ ropeSnapshot.bodies, body.id = 1 ∧ ∃ other ∈ ropeSnapshot.bodies, other.id ≠ 1 ∧
        ropeSnapshot.overlaps other.id "BODY" "body" (some body.template) = true) ∧
      ¬ ropeSnapshot.touching 3 = true ∧
      ({ ropeSnapshot with bodies := ropeSnapshot.bodies.reverse } : Snapshot).overlaps =
        ropeSnapshot.overlaps := by
  have distinct : (ropeSnapshot.bodies.map Body.id).Nodup := by decide
  have overlap : ropeSnapshot.overlaps 1 "body" "BODY" (some "flyer") = true := by
    decide +kernel
  obtain ⟨touching, named, orders⟩ := contacts_agree_with_overlaps ropeSnapshot distinct
  obtain ⟨touches, body, here, same, other, there, apart, -, back⟩ := named _ _ _ _ overlap
  obtain ⟨-, answers, -⟩ := orders _ (List.reverse_perm _)
  refine ⟨distinct, overlap, touches, ⟨body, here, same, other, there, apart, back⟩, ?_, answers⟩
  decide +kernel

end Snapshot

end Stagecraft
