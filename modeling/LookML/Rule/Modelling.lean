import LookML.Rule
/-!
# Modelling rules

What the views and explores of a project have to do with each other.
-/

namespace LookML.Rules

def primaryKeys (view : Entity) : List Member :=
  view.fields.filter Member.isPrimaryKey

/-- Whether a view needs a primary key: it has measures, a table of its own, and is used as it
is. -/
def needsPrimaryKey (view : Entity) : Bool :=
  !view.isTemplate && !view.isDerivedTable && view.fields.any (·.kind = .measure)

def primaryKeyFinding? (view : Entity) : Option Finding :=
  if !needsPrimaryKey view then none
  else match primaryKeys view with
    | [_] => none
    | [] => some (.ofEntity view s!"view '{view.name}' has measures but no primary key")
    | keys =>
      let names := ", ".intercalate (keys.map Member.name)
      some { Finding.ofEntity view
          s!"view '{view.name}' declares {keys.length} primary keys: {names}" with
        related := keys.map Member.location }

def primaryKey : Rule :=
  .ofProject ⟨"primary_key", by decide⟩ .warning
    "Views with measures declare exactly one primary key"
    fun p => p.views.filterMap primaryKeyFinding?

def viewsOf (explore : Entity) : List String :=
  explore.baseView :: explore.joins.map Member.targetView

/-- Whether an explore reads from a view of the given name, or something extends it. -/
def isUsed (p : Project) (name : String) : Bool :=
  p.explores.any (viewsOf · |>.contains name) ||
    p.entities.any fun e => e.bases.any (·.text = name)

def noOrphansFindings (p : Project) : List Finding :=
  (p.views.filter fun v => !isUsed p v.name).map fun v =>
    .ofEntity v s!"view '{v.name}' is not used by any explore, join or extends"

def noOrphans : Rule :=
  .ofProject ⟨"no_orphans", by decide⟩ .info
    "Every view is used by an explore, a join or an extends" noOrphansFindings

end LookML.Rules
