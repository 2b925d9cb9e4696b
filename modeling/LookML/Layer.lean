import LookML.Keyed
import LookML.ResolutionError
/-!
# Layers

A layer is what one block, or a merged chain of blocks, contributes to a view or explore. Layers
are put on top of one another: members of the same name are replaced, properties of the same name
are replaced together, everything else is kept.
-/

namespace LookML

/-- The member put in the place of `old`, which joins the history. -/
def Member.replacing (old m : Member) : Member :=
  { m with overridden := old.overridden ++ old.location :: m.overridden }

/-- The properties with every occurrence of `name` replaced by `incoming`, at the place of the
first one, or at the end if there is none. -/
def Property.replaceNamed (name : String) (incoming properties : List Property) :
    List Property :=
  properties.takeWhile (·.name ≠ name) ++ incoming ++
    (properties.dropWhile (·.name ≠ name)).filter (·.name ≠ name)

/-- The properties with those of every name that `incoming` mentions replaced. -/
def Property.overlay (properties incoming : List Property) : List Property :=
  (names incoming).foldl (fun acc name => replaceNamed name (occurrences incoming name) acc)
    properties

/-- What a block, or a chain of blocks, contributes. -/
structure Layer where
  properties : List Property
  fields : List Member
  joins : List Member
  others : List Block

namespace Layer

def empty : Layer := ⟨[], [], [], []⟩

/-- What tells the remaining children apart. -/
def otherKey (b : Block) : BlockKind × Option String :=
  (b.kind, b.name)

/-- Declares a member: the last declaration of a name counts and stands in the place of the one
before. -/
def declareMember (members : List Member) (m : Member) : List Member :=
  Keyed.put Member.name (fun _ new => new) m members

/-- The complaint about a member whose name is declared already. -/
def repetition? (owner : EntityName) (members : List Member) (m : Member) :
    Option ResolutionError :=
  (members.find? (·.name = m.name)).map fun old =>
    .duplicateMember owner m.name m.location old.location

def declare (owner : EntityName) (l : Layer) (child : Block) : Layer × Option ResolutionError :=
  match Member.field? owner child, Member.join? owner child with
  | some field, _ =>
    ({ l with fields := declareMember l.fields field }, repetition? owner l.fields field)
  | none, some join =>
    ({ l with joins := declareMember l.joins join }, repetition? owner l.joins join)
  | none, none =>
    ({ l with others := Keyed.put otherKey (fun _ new => new) child l.others }, none)

def declareAll (owner : EntityName) (l : Layer) : List Block → Layer × List ResolutionError
  | [] => (l, [])
  | child :: children =>
    let (next, problem) := l.declare owner child
    let (last, problems) := next.declareAll owner children
    (last, problem.toList ++ problems)

/-- What a definition or refinement contributes, and the complaints about its members. -/
def ofBlock (owner : EntityName) (b : Block) : Layer × List ResolutionError :=
  declareAll owner { empty with properties := b.properties } b.children

def overlay (bottom top : Layer) : Layer where
  properties := Property.overlay bottom.properties top.properties
  fields := Keyed.putAll Member.name Member.replacing bottom.fields top.fields
  joins := Keyed.putAll Member.name Member.replacing bottom.joins top.joins
  others := Keyed.putAll otherKey (fun _ new => new) bottom.others top.others

/-- The properties that say something about a view or explore itself and are never inherited. -/
def ownProperties : List String :=
  ["extends", "extension"]

def bequeath (heir : EntityName) (base : Layer) : Layer where
  properties := base.properties.filter (·.name ∉ ownProperties)
  fields := base.fields.map ({ · with owner := heir })
  joins := base.joins.map ({ · with owner := heir })
  others := base.others

def inherit (heir : EntityName) (l base : Layer) : Layer :=
  l.overlay (base.bequeath heir)

def extends? (l : Layer) : Option Property :=
  Property.last? l.properties "extends"

def bases (l : Layer) : List EntityName :=
  match l.extends? with
  | some p => p.value.texts.filterMap Identifier.ofText?
  | none => []

def isTemplate (l : Layer) : Bool :=
  ((Property.last? l.properties "extension").map Property.value).bind Value.text? =
    some "required"

end Layer

end LookML
