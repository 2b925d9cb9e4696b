import LookML.Document
import LookML.Identifier
/-!
# Views and explores

What a project declares, after refinements and bases are merged. The named members of a view are
its fields, those of an explore are its joins.
-/

namespace LookML

/-- The kinds of top-level declarations that are merged into the model. -/
inductive EntityKind where
  | view
  | explore
deriving DecidableEq

namespace EntityKind

/-- What a top-level block of the given kind declares. -/
def ofBlockKind? : BlockKind → Option EntityKind
  | .view => some .view
  | .explore => some .explore
  | _ => none

def word : EntityKind → String
  | .view => "view"
  | .explore => "explore"

end EntityKind

/-- What identifies a view or explore in a project. -/
structure EntityKey where
  kind : EntityKind
  name : EntityName
deriving DecidableEq

def EntityKey.qualified (k : EntityKey) : String :=
  s!"{k.kind.word}:{k.name.text}"

/-- A field of a view or a join of an explore. -/
structure Member where
  name : String
  /-- the view or explore it belongs to after merging -/
  owner : EntityName
  /-- the view or explore whose block declares it -/
  declaredIn : EntityName
  /-- the declaration that takes effect -/
  block : Block
  /-- the declarations it replaces, the most basic one first -/
  overridden : List Location

namespace Member

def kind (m : Member) : BlockKind :=
  m.block.kind

def location (m : Member) : Location :=
  m.block.location

def ofBlock? (owner : EntityName) (b : Block) : Option Member :=
  b.name.map fun name => ⟨name, owner, owner, b, []⟩

def field? (owner : EntityName) (b : Block) : Option Member :=
  if b.kind.isField then ofBlock? owner b else none

def join? (owner : EntityName) (b : Block) : Option Member :=
  if b.kind = .join then ofBlock? owner b else none

/-- The name together with that of the owner, `orders.id`. -/
def qualified (m : Member) : String :=
  s!"{m.owner.text}.{m.name}"

def isInherited (m : Member) : Bool :=
  m.declaredIn ≠ m.owner

def isPrimaryKey (m : Member) : Bool :=
  (m.block.get? "primary_key").any Value.isTruthy

/-- The view that a join reads from: its `from`, or the one of its own name. -/
def targetView (m : Member) : String :=
  (m.block.text? "from").getD m.name

def endsProperly (text ending : String) : Bool :=
  ending.toList.isSuffixOf text.toList && ending.length < text.length

def beginsProperly (text beginning : String) : Bool :=
  beginning.toList.isPrefixOf text.toList && beginning.length < text.length

/-- Whether a dimension group generates the name `reference`: for a duration the interval and an
`s` stand before its name, for a time the timeframe stands after it. Any interval or timeframe
will do if the group lists none. -/
def generates (m : Member) (reference : String) : Bool :=
  if m.block.fieldType? = some "duration" then
    match m.block.get? "intervals" with
    | some intervals => intervals.texts.any fun i => reference = i ++ "s_" ++ m.name
    | none => endsProperly reference ("s_" ++ m.name)
  else
    match m.block.get? "timeframes" with
    | some timeframes => timeframes.texts.any fun t => reference = m.name ++ "_" ++ t
    | none => beginsProperly reference (m.name ++ "_")

/-- Whether `reference`, within the view, names this field or one that it generates. -/
def answersTo (m : Member) (reference : String) : Bool :=
  reference = m.name || (m.kind = .dimensionGroup && m.generates reference)

end Member

/-- Why part of a view or explore is missing. -/
inductive Degradation where
  | baseNotFound (base : EntityName)
  | extendsCycle
  | baseDegraded (base : EntityName)
  | truncated
deriving DecidableEq

def Degradation.describe : Degradation → String
  | .baseNotFound base => s!"base '{base.text}' not found"
  | .extendsCycle => "extends cycle"
  | .baseDegraded base => s!"base '{base.text}' is degraded"
  | .truncated => "extends chain truncated"

/-- Whether all bases could be merged. -/
inductive Resolution where
  | complete
  | degraded (reasons : List Degradation)
deriving DecidableEq

namespace Resolution

def ofReasons : List Degradation → Resolution
  | [] => complete
  | reasons => degraded reasons

def isDegraded : Resolution → Bool
  | complete => false
  | degraded _ => true

def reason : Resolution → String
  | complete => ""
  | degraded reasons => "; ".intercalate (reasons.map Degradation.describe)

end Resolution

/-- A view or explore with its refinements and bases merged. -/
structure Entity where
  key : EntityKey
  /-- the definition that counts -/
  location : Location
  /-- the declared bases, in order -/
  bases : List EntityName
  properties : List Property
  fields : List Member
  joins : List Member
  /-- the remaining children -/
  others : List Block
  /-- the refinements that were merged, in order -/
  refinements : List Location
  /-- whether it is a template, to be extended and not used -/
  isTemplate : Bool
  resolution : Resolution

namespace Entity

def name (e : Entity) : String :=
  e.key.name.text

def kind (e : Entity) : EntityKind :=
  e.key.kind

def qualified (e : Entity) : String :=
  e.key.qualified

def property? (e : Entity) (name : String) : Option Property :=
  Property.last? e.properties name

def get? (e : Entity) (name : String) : Option Value :=
  (e.property? name).map Property.value

def text? (e : Entity) (name : String) : Option String :=
  (e.get? name).bind Value.text?

def field? (e : Entity) (name : String) : Option Member :=
  e.fields.find? (·.name = name)

/-- The field that `reference` names within the view, generated names included. A field of
exactly that name comes first. -/
def resolveField? (e : Entity) (reference : String) : Option Member :=
  (e.field? reference).or (e.fields.find? (·.answersTo reference))

def join? (e : Entity) (name : String) : Option Member :=
  e.joins.find? (·.name = name)

def isDerivedTable (e : Entity) : Bool :=
  (e.get? "derived_table").isSome

def baseView (e : Entity) : String :=
  ((e.text? "from").or (e.text? "view_name")).getD e.name

/-- The alias that an explore's base view goes by: `from` keeps the explore's name, `view_name`
does not. -/
def baseAlias (e : Entity) : String :=
  if (e.text? "from").isSome then e.name else (e.text? "view_name").getD e.name

/-- The view that an alias of an explore stands for; a join's alias comes before the base's. -/
def viewOfAlias? (e : Entity) (name : String) : Option String :=
  ((e.join? name).map Member.targetView).or
    (if name = e.baseAlias then some e.baseView else none)

end Entity

end LookML
