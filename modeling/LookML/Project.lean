import LookML.Extends.Walk
/-!
# Projects

The model of a project: its views and explores with refinements and bases merged, the documents
they come from, and for each name the places that contribute to it.
-/

namespace LookML

/-- All documents of a project as one consistent model. -/
structure Project where
  /-- in order of definition -/
  entities : List Entity
  /-- in input order -/
  documents : List Document
  /-- what each declaration contributes to the history of a qualified name -/
  contributions : List (String × List Location)

namespace Project

def entity? (p : Project) (kind : EntityKind) (name : String) : Option Entity :=
  p.entities.find? fun e => e.kind = kind && e.name = name

def view? (p : Project) (name : String) : Option Entity :=
  p.entity? .view name

def explore? (p : Project) (name : String) : Option Entity :=
  p.entity? .explore name

def views (p : Project) : List Entity :=
  p.entities.filter (·.kind = .view)

def explores (p : Project) : List Entity :=
  p.entities.filter (·.kind = .explore)

def viewFields (p : Project) : List (Entity × Member) :=
  (p.views.filter (!·.isTemplate)).flatMap fun v => v.fields.map fun f => (v, f)

def document? (p : Project) (path : String) : Option Document :=
  p.documents.reverse.find? (·.path = path)

def documentPaths (p : Project) : List String :=
  p.documents.map Document.path

/-- Every place that defines, refines or overrides the given qualified name. -/
def provenance (p : Project) (qualified : String) : List Location :=
  (p.contributions.filter (·.1 = qualified)).flatMap (·.2)

end Project

namespace Definition

/-- The definition as the walk over bases needs it, at its place in the graph. -/
def toNode [Extends.ComponentFinder] (ds : List Definition) (g : Extends.Graph) (d : Definition)
    (id : Nat) : Extends.Node :=
  let isCyclic := g.isCyclic id
  { name := d.key.name
    own := d.layer
    bases := g.basesOf id
    isCyclic := isCyclic
    reasons := (missingBases ds d).map .baseNotFound ++
      if isCyclic then [.extendsCycle] else [] }

def mergeBases [Extends.ComponentFinder] (ds : List Definition) :
    List (Definition × Extends.Merged) :=
  let g := graph ds
  ds.zip (Extends.mergeAll (ds.mapIdx fun id d => d.toNode ds g id).toArray)

def toEntity (d : Definition) (m : Extends.Merged) : Entity where
  key := d.key
  location := d.location
  bases := d.layer.bases
  properties := m.layer.properties
  fields := m.layer.fields
  joins := m.layer.joins
  others := m.layer.others
  refinements := d.refinements
  isTemplate := d.layer.isTemplate
  resolution := .ofReasons (m.reasons ++ if m.truncated then [.truncated] else [])

/-- The complaint about a chain that was cut. -/
def tooDeepError? (d : Definition) (m : Extends.Merged) : Option ResolutionError :=
  if m.truncated then some (.extendsTooDeep d.key d.location) else none

/-- What a definition contributes to the history of its own name and of its fields' names. -/
def contributions (d : Definition) (m : Extends.Merged) : List (String × List Location) :=
  (d.key.qualified, d.location :: (d.refinements ++ d.conflicts)) ::
    match d.key.kind with
    | .view => m.layer.fields.map fun f => (f.qualified, f.overridden ++ [f.location])
    | .explore => []

end Definition

end LookML
