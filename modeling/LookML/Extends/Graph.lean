/-!
# Graphs of bases

The nodes are numbered in order of definition; an edge leads from an heir to each of its bases, in
order of declaration. Two nodes are in the same component if each leads to the other. Which
components there are, a library finds out.
-/

namespace LookML.Extends

open Relation (TransGen)

/-- For each node its bases, which are nodes too. -/
structure Graph where
  bases : Array (List Nat)
  base_lt : ∀ bs ∈ bases, ∀ b ∈ bs, b < bases.size

namespace Graph

def size (g : Graph) : Nat :=
  g.bases.size

def basesOf (g : Graph) (v : Nat) : List Nat :=
  g.bases[v]?.getD []

def Edge (g : Graph) (v w : Nat) : Prop :=
  w ∈ g.basesOf v

theorem lt_size_of_edge {g : Graph} {v w : Nat} (h : g.Edge v w) : v < g.size ∧ w < g.size := by
  unfold Edge basesOf at h
  cases hbases : g.bases[v]? with
  | none => simp [hbases] at h
  | some bs =>
    rw [hbases, Option.getD_some] at h
    obtain ⟨hv, hget⟩ := Array.getElem?_eq_some_iff.1 hbases
    exact ⟨hv, g.base_lt bs (hget ▸ Array.getElem_mem hv) w h⟩

/-- The strongly connected components, in whatever order: every node is in one of them, once, and
together with the nodes that it leads to and that lead back to it. -/
structure ListsComponents (g : Graph) (components : List (List Nat)) : Prop where
  nonempty : [] ∉ components
  nodup : components.flatten.Nodup
  mem_iff : ∀ v, v ∈ components.flatten ↔ v < g.size
  together : ∀ members ∈ components, ∀ v ∈ members, ∀ w, w ≠ v →
    (w ∈ members ↔ TransGen g.Edge v w ∧ TransGen g.Edge w v)

end Graph

/-- The library that finds the strongly connected components of graphs. -/
class ComponentFinder where
  components : Graph → List (List Nat)
  correct (g : Graph) : g.ListsComponents (components g)

namespace Graph

/-- A component is a cycle if it has several nodes, or its one node is its own base. -/
def isCycle (g : Graph) (members : List Nat) : Bool :=
  members.length > 1 || members.head?.any fun v => v ∈ g.basesOf v

def cycles [ComponentFinder] (g : Graph) : List (List Nat) :=
  (ComponentFinder.components g).filter g.isCycle

def isCyclic [ComponentFinder] (g : Graph) (v : Nat) : Bool :=
  g.cycles.any (v ∈ ·)

/-- The rest of a path that leads from one of `candidates` to `start` through `members`, and the
nodes that the search for it has entered. Bases are tried in order of declaration; a node that led
nowhere is not tried again. At most `steps` more nodes are entered on the way. -/
def pathTo (g : Graph) (members : List Nat) (start : Nat) (steps : Nat)
    (candidates visited : List Nat) : Option (List Nat) × List Nat :=
  match candidates with
  | [] => (none, visited)
  | v :: vs =>
    if v ∉ members then g.pathTo members start steps vs visited
    else if v = start then (some [start], visited)
    else if v ∈ visited then g.pathTo members start steps vs visited
    else match steps with
      | 0 => (none, visited)
      | steps + 1 =>
        match g.pathTo members start steps (g.basesOf v) (v :: visited) with
        | (some path, visited) => (some (v :: path), visited)
        | (none, visited) => g.pathTo members start (steps + 1) vs visited
termination_by (steps, candidates.length)

def cyclePath (g : Graph) (members : List Nat) (start : Nat) : List Nat :=
  start :: ((g.pathTo members start members.length (g.basesOf start) [start]).1.getD [start])

end Graph

end LookML.Extends
