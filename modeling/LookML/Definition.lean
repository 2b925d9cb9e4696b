import LookML.Extends.Graph
import LookML.Layer
/-!
# Definitions

The first step towards a model: the definitions that count, in input order, each with its
refinements put on it. A second definition of the same key is reported and left out. Then the
declared bases are linked to definitions.
-/

namespace LookML

/-- What a top-level block declares. -/
inductive Declaration where
  | definition (key : EntityKey) (block : Block)
  /-- a block named `+target` -/
  | refinement (kind : EntityKind) (target : String) (block : Block)

namespace Declaration

/-- The declaration that a top-level block makes, if it declares a view or explore by name. -/
def ofBlock? (b : Block) : Option Declaration :=
  match EntityKind.ofBlockKind? b.kind, b.name.map String.toList with
  | some kind, some ('+' :: target) => some (.refinement kind (String.ofList target) b)
  | some kind, some name =>
    (Identifier.ofText? (String.ofList name)).map fun name => .definition ⟨kind, name⟩ b
  | _, _ => none

end Declaration

/-- A view or explore before its bases are merged. -/
structure Definition where
  key : EntityKey
  location : Location
  /-- its own content, with the refinements put on it -/
  layer : Layer
  refinements : List Location
  /-- the definitions of the same key that were left out -/
  conflicts : List Location

namespace Definition

/-- The definition that a block makes, and the complaints about it. -/
def ofBlock (key : EntityKey) (b : Block) : Definition × List ResolutionError :=
  let (layer, problems) := Layer.ofBlock key.name b
  (⟨key, b.location, layer, [], []⟩, problems)

def refine (d : Definition) (b : Block) : Definition × List ResolutionError :=
  let (layer, problems) := Layer.ofBlock d.key.name b
  ({ d with layer := d.layer.overlay layer, refinements := d.refinements ++ [b.location] },
    problems)

def define (key : EntityKey) (b : Block) :
    List Definition → List Definition × List ResolutionError
  | [] =>
    let (d, problems) := ofBlock key b
    ([d], problems)
  | d :: ds =>
    if d.key = key then
      ({ d with conflicts := d.conflicts ++ [b.location] } :: ds,
        [.duplicateEntity key b.location d.location])
    else
      let (ds, problems) := define key b ds
      (d :: ds, problems)

def refineTarget (kind : EntityKind) (target : String) (b : Block) :
    List Definition → List Definition × List ResolutionError
  | [] =>
    ([], [.unresolved s!"{kind.word}:+{target}" (.undefinedTarget kind target) b.location])
  | d :: ds =>
    if d.key.kind = kind ∧ d.key.name.text = target then
      let (d, problems) := d.refine b
      (d :: ds, problems)
    else
      let (ds, problems) := refineTarget kind target b ds
      (d :: ds, problems)

def addDefinition (ds : List Definition) : Declaration → List Definition × List ResolutionError
  | .definition key b => define key b ds
  | .refinement .. => (ds, [])

def addRefinement (ds : List Definition) : Declaration → List Definition × List ResolutionError
  | .definition .. => (ds, [])
  | .refinement kind target b => refineTarget kind target b ds

def addAll (step : List Definition → Declaration → List Definition × List ResolutionError)
    (ds : List Definition) : List Declaration → List Definition × List ResolutionError
  | [] => (ds, [])
  | d :: rest =>
    let (next, problems) := step ds d
    let (last, others) := addAll step next rest
    (last, problems ++ others)

/-- The definitions of a project: all definitions first, then all refinements, so that it does
not matter which of them comes first in the input. -/
def collect (blocks : List Block) : List Definition × List ResolutionError :=
  let declarations := blocks.filterMap Declaration.ofBlock?
  let (defined, problems) := addAll addDefinition [] declarations
  let (refined, others) := addAll addRefinement defined declarations
  (refined, problems ++ others)

def indexOf? (ds : List Definition) (key : EntityKey) : Option Nat :=
  ds.findIdx? (·.key = key)

/-- The declared bases that are not defined. Views extend views, explores extend explores. -/
def missingBases (ds : List Definition) (d : Definition) : List EntityName :=
  d.layer.bases.filter fun base => (indexOf? ds ⟨d.key.kind, base⟩).isNone

def missingBaseErrors (ds : List Definition) (d : Definition) : List ResolutionError :=
  let location := (d.layer.extends?.map Property.location).getD d.location
  (missingBases ds d).map fun base => .extendsNotFound d.key base location

theorem lt_length_of_indexOf? {ds : List Definition} {key : EntityKey} {id : Nat}
    (h : indexOf? ds key = some id) : id < ds.length :=
  (List.findIdx?_eq_some_iff_getElem.1 h).1

/-- The places of the declared bases that are defined, in order of declaration. -/
def linkedIds (ds : List Definition) (d : Definition) : List Nat :=
  d.layer.bases.filterMap fun base => indexOf? ds ⟨d.key.kind, base⟩

theorem lt_length_of_mem_linkedIds {ds : List Definition} {d : Definition} {id : Nat}
    (h : id ∈ linkedIds ds d) : id < ds.length := by
  obtain ⟨base, _, hindex⟩ := List.mem_filterMap.1 h
  exact lt_length_of_indexOf? hindex

def graph (ds : List Definition) : Extends.Graph where
  bases := (ds.map (linkedIds ds)).toArray
  base_lt := by
    intro bs hbs b hb
    obtain ⟨d, _, rfl⟩ := List.mem_map.1 (List.mem_toArray.1 hbs)
    simpa using lt_length_of_mem_linkedIds hb

/-- The complaint about each cycle, at its first member in input order. -/
def cycleErrors [Extends.ComponentFinder] (ds : List Definition) : List ResolutionError :=
  let g := graph ds
  g.cycles.filterMap fun members => do
    let start ← members.min?
    let d ← ds[start]?
    let path := (g.cyclePath members start).filterMap fun v => ds[v]?.map Definition.key
    return .extendsCycle d.key path d.location

end Definition

end LookML
