import BinaryLayout.Profile.Basic

/-!
# Structures That Contain Themselves

A structure may not contain itself, directly or through others. Pointers and arrays do not count: only
a field that refers to a structure makes its structure contain the other. The search goes through the
structures depth first and returns the first cycle that it meets.
-/

namespace BinaryLayout.Cycle

/-- Each structure with those it contains, in order and each once. -/
abbrev Edges := List (String × List String)

/-- The structure that a field contains. -/
def contained? (member : Member) : Option String :=
  match member.field.kind with
  | .reference target => some target
  | _ => none

def edges (structures : List Structure) : Edges :=
  structures.map fun struct ↦
    let targets := struct.members.filterMap contained?
    (struct.name, targets.eraseDups.mergeSort fun first second ↦ first ≤ second)

/-- Searches from a structure. `path` leads to it, and none of `done` reaches a cycle. The result is a
cycle, or the structures that are known to reach none. The fuel exceeds the number of structures that
the path can still take in. -/
def visit (graph : Edges) : Nat → List String → List String → String →
    Except (List String) (List String)
  | 0, _, done, _ => .ok done
  | fuel + 1, path, done, node =>
    if path.contains node then .error (path.dropWhile (· ≠ node) ++ [node])
    else if done.contains node then .ok done
    else
      match graph.lookup node with
      | none => .ok done
      | some targets =>
        (targets.foldlM (visit graph fuel (path ++ [node])) done).map (node :: ·)

/-- Where the search starts, one after another. -/
def starts (structures : List Structure) : List String :=
  (structures.map Structure.name).mergeSort fun first second ↦ first ≤ second

/-- The first cycle among the structures, if there is one. -/
def find? (structures : List Structure) : Option (List String) :=
  let graph := edges structures
  match (starts structures).foldlM (visit graph (graph.length + 1) []) [] with
  | .error cycle => some cycle
  | .ok _ => none

end BinaryLayout.Cycle
