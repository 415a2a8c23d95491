/-
Module: Stagecraft.Graph.Cycle
Purpose: The search for cycles among the static edges of a graph.
Main exports:
  EdgeTable, EdgeTable.targets, Search, findCycles
-/

namespace Stagecraft

/-!
The search walks the edges depth first.  It keeps the path from the start to
the current node and the nodes that are finished.  An edge back to the path
closes a cycle, which is reported with the closing node at both ends; an edge
to a finished node leads to nothing new.

The path never repeats a node, so it is never longer than the table.
-/

/-- The targets of the edges of each node. -/
abbrev EdgeTable := List (List Nat)

def EdgeTable.targets (table : EdgeTable) (node : Nat) : List Nat := (table[node]?).getD []

/-- What a search has found. -/
structure Search where
  finished : List Nat := []
  cycles : List (List Nat) := []
deriving Repr, DecidableEq, Inhabited

namespace Search

/-- The cycle that an edge from the end of a path to one of its nodes closes.
The path is given from its end to its start. -/
def closedBy (target : Nat) (path : List Nat) : List Nat :=
  path.reverse.dropWhile (· != target) ++ [target]

/-- Look along an edge: close a cycle, pass by, or `visit` a new node. -/
def follow (visit : Nat → Search → Search) (path : List Nat) (search : Search)
    (target : Nat) : Search :=
  if path.contains target then
    { search with cycles := search.cycles ++ [closedBy target path] }
  else if search.finished.contains target then search
  else visit target search

/-- Visit a node at the end of a path. -/
def visit (table : EdgeTable) : Nat → List Nat → Nat → Search → Search
  | 0, _, _, search => search
  | fuel + 1, path, node, search =>
      let path := node :: path
      let search := (table.targets node).foldl (follow (visit table fuel path) path) search
      { search with finished := node :: search.finished }

end Search

/-- The cycles of a table, one for each edge that leads back to the path. -/
def findCycles (table : EdgeTable) : List (List Nat) :=
  ((List.range table.length).foldl
    (Search.follow (Search.visit table (table.length + 1) []) []) {}).cycles

end Stagecraft
