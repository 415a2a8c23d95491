/-
Module: Stagecraft.Geometry.Snapshot
Purpose: Where the bodies of all actors and the solid ground are during one
  tick, and what follows for contacts and support.
Main exports:
  ActorId, Body, Snapshot, Snapshot.touching, Snapshot.overlaps,
  Snapshot.supportDistance
-/
import Stagecraft.Geometry.Hitbox
import Stagecraft.Number.Conversion

namespace Stagecraft

/-- The number of an actor.  Actors that entered earlier have smaller
numbers. -/
abbrev ActorId := Nat

/-- The body of an actor. -/
structure Body where
  id : ActorId
  template : String
  position : Vec2
  hitboxes : List Hitbox
deriving Inhabited

/-- Whether some hitbox of one body overlaps some hitbox of another. -/
def Body.touches (a b : Body) : Bool :=
  a.hitboxes.any fun mine =>
    b.hitboxes.any fun theirs => (mine.at a.position).overlaps (theirs.at b.position)

/-!
All questions of one tick are answered from one snapshot, so the answers do not
depend on which actor moves first.
-/

/-- The bodies of the actors and the solid ground. -/
structure Snapshot where
  bodies : List Body := []
  solids : List Rectangle := []
deriving Inhabited

namespace Snapshot

/-- The numbers of the bodies that touch another body. -/
def contacts : List Body → List ActorId
  | [] => []
  | body :: rest =>
      ((rest.filter body.touches).flatMap fun other => [body.id, other.id]) ++ contacts rest

/-- Whether an actor touches another one. -/
def touching (snapshot : Snapshot) (id : ActorId) : Bool :=
  (contacts snapshot.bodies).contains id

/-- The body of an actor. -/
def body? (snapshot : Snapshot) (id : ActorId) : Option Body :=
  snapshot.bodies.find? fun body => body.id == id

/-- Whether the hitbox `mine` of an actor overlaps the hitbox `theirs` of
another one, whose template is `template` if that is given. -/
def overlaps (snapshot : Snapshot) (id : ActorId) (mine theirs : String)
    (template : Option String) : Bool :=
  match snapshot.body? id with
  | none => false
  | some body =>
      match hitboxNamed? body.hitboxes mine with
      | none => false
      | some hitbox =>
          snapshot.bodies.any fun other =>
            other.id != id &&
              (template.all fun name => Text.sameName other.template name) &&
              (hitboxNamed? other.hitboxes theirs).any fun otherHitbox =>
                (hitbox.at body.position).overlaps (otherHitbox.at other.position)

/-- Positive infinity. -/
def infinity : Float32 := Number.singleOf (.infinite false)

/-- The height that an actor at a position stands above the ground: the least
distance from its feet down to a solid below it, negative when the feet have
sunk in, infinite over an abyss.  A solid counts when it lies below the top of
the actor and under its width. -/
def supportDistance (snapshot : Snapshot) (id : ActorId) (position : Vec2) : Float32 :=
  let feet : Rectangle :=
    match snapshot.body? id with
    | some body => bounds body.hitboxes position
    | none => { min := position, max := position }
  let below := snapshot.solids.filter fun solid =>
    solid.min.x < feet.max.x && feet.min.x < solid.max.x && feet.min.y ≤ solid.min.y
  (below.map fun solid => solid.min.y - feet.max.y).foldl Number.least infinity

end Snapshot

end Stagecraft
