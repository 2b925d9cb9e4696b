import LookML.Definition
/-!
# Merging bases

The walk over the bases of a definition, from the most basic one upwards. It leaves out bases that
lie on the way to it, which would close a cycle, and cuts a chain at `maxExtendsDepth` links. What
was merged once without being cut and lies on no cycle is kept and used again wherever it fits
under the cap.
-/

namespace LookML.Extends

/-- A definition as the walk needs it. -/
structure Node where
  name : EntityName
  /-- its own content -/
  own : Layer
  bases : List Nat
  isCyclic : Bool
  /-- what is missing before any base is looked at -/
  reasons : List Degradation

/-- A definition with its bases merged. -/
structure Merged where
  layer : Layer
  reasons : List Degradation
  /-- whether some chain was cut -/
  truncated : Bool
  /-- the links of the longest chain merged -/
  height : Nat

namespace Merged

def start (node : Node) : Merged :=
  ⟨.empty, node.reasons, false, 0⟩

def addBase (node base : Node) (m below : Merged) : Merged where
  layer := m.layer.inherit node.name below.layer
  reasons :=
    if below.reasons.isEmpty || .baseDegraded base.name ∈ m.reasons then m.reasons
    else m.reasons ++ [.baseDegraded base.name]
  truncated := m.truncated || below.truncated
  height := max m.height (below.height + 1)

/-- The definition's own content put on top. -/
def finish (node : Node) (m : Merged) : Merged :=
  { m with layer := m.layer.overlay node.own }

end Merged

abbrev Memo := Array (Option Merged)

def Memo.get? (memo : Memo) (id : Nat) : Option Merged :=
  memo[id]?.bind fun kept => kept

/-- Keeps what holds wherever the node is met: nothing was cut and it lies on no cycle. -/
def Memo.keep (memo : Memo) (id : Nat) (node : Node) (m : Merged) : Memo :=
  if m.truncated || node.isCyclic then memo else memo.setIfInBounds id (some m)

/-- The node `id` with its bases merged, and what is kept after that. The nodes on the way to it
are `above`, and the chain may go on for `room` links. -/
def merge (nodes : Array Node) : (room : Nat) → (above : List Nat) → Memo → Node → Nat →
    Merged × Memo
  | room, above, memo, node, id =>
    match (memo.get? id).filter (·.height ≤ room) with
    | some kept => (kept, memo)
    | none =>
      let bases := node.bases.filter (· ∉ above)
      let (m, memo) : Merged × Memo :=
        match room with
        | 0 => ({ Merged.start node with truncated := !bases.isEmpty }, memo)
        | room + 1 =>
          bases.foldl (fun (m, memo) baseId =>
            match nodes[baseId]? with
            | none => (m, memo)
            | some base =>
              let (below, memo) := merge nodes room (id :: above) memo base baseId
              (m.addBase node base below, memo)) (Merged.start node, memo)
      let m := m.finish node
      (m, memo.keep id node m)

def mergeAll (nodes : Array Node) : List Merged :=
  let (merged, _) := nodes.zipIdx.foldl (fun ((done, memo) : List Merged × Memo) (node, id) =>
    let (m, memo) := merge nodes maxExtendsDepth [] memo node id
    (m :: done, memo)) ([], Array.replicate nodes.size none)
  merged.reverse

end LookML.Extends
