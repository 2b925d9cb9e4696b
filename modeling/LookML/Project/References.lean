import LookML.Project
/-!
# Checking references

Every `${…}` reference of a model has to name a field. Explores see the aliases of their base view
and their joins; fields see their own view, other views by name, and let the alias of any explore
pass. Templates are not checked.
-/

namespace LookML.Project

/-- The properties of an explore whose references are checked. -/
def exploreSqlKeys : List String :=
  ["sql_always_where", "sql_always_having"]

/-- The properties of a join whose references are checked. -/
def joinSqlKeys : List String :=
  ["sql_on", "sql_where", "sql_foreign_key"]

def referencesOf (p : Property) : List Reference :=
  (p.value.text?.map Reference.extract).getD []

def checkField (view : Entity) (user : String) (location : Location) (r : Reference) :
    Option ResolutionError :=
  if (view.resolveField? r.name).isSome then none
  else some (.unresolved user (.noSuchField r view.name) location)

def checkBaseView (p : Project) (explore : Entity) : Option ResolutionError :=
  if (p.view? explore.baseView).isSome then none
  else
    let declared := (explore.property? "from").or (explore.property? "view_name")
    some (.unresolved explore.qualified (.undefinedBaseView explore.baseView)
      ((declared.map Property.location).getD explore.location))

def checkJoinView (p : Project) (explore : Entity) (join : Member) : Option ResolutionError :=
  if (p.view? join.targetView).isSome then none
  else some (.unresolved explore.qualified (.undefinedJoinView join.name join.targetView) join.location)

/-- The complaint about a reference of an explore. A bare name means nothing there, and a missing
view is reported where it is joined. -/
def checkExploreReference (p : Project) (explore : Entity) (location : Location)
    (r : Reference) : Option ResolutionError := do
  let name ← r.scope
  match explore.viewOfAlias? name with
  | none => some (.unresolved explore.qualified (.unjoinedAlias r name) location)
  | some name => checkField (← p.view? name) explore.qualified location r

/-- The properties of an explore and of its joins whose references are checked, as they take
effect. -/
def exploreSql (explore : Entity) : List Property :=
  exploreSqlKeys.filterMap explore.property? ++
    explore.joins.flatMap fun j => joinSqlKeys.filterMap j.block.property?

def checkExplore (p : Project) (explore : Entity) : List ResolutionError :=
  (p.checkBaseView explore).toList ++ explore.joins.filterMap (p.checkJoinView explore) ++
    (exploreSql explore).flatMap fun property =>
      (referencesOf property).filterMap (p.checkExploreReference explore property.location)

def aliases (p : Project) : List String :=
  p.explores.flatMap fun e => e.baseAlias :: e.joins.map Member.name

def checkFieldReference (p : Project) (aliases : List String) (view : Entity) (user : String)
    (location : Location) (r : Reference) : Option ResolutionError :=
  match r.scope with
  | none => checkField view user location r
  | some scope =>
    if scope = view.name then checkField view user location r
    else match p.view? scope with
      | some other => checkField other user location r
      | none => if scope ∈ aliases then none else some (.unresolved user (.unknownScope r scope) location)

/-- The properties of a field whose references are checked, every occurrence of them. -/
def fieldSql (field : Member) : List Property :=
  field.block.properties.filter fun p =>
    p.name = "sql" || "sql_".toList.isPrefixOf p.name.toList

def checkFieldOf (p : Project) (aliases : List String) (view : Entity) (field : Member) :
    List ResolutionError :=
  (fieldSql field).flatMap fun property =>
    (referencesOf property).filterMap
      (p.checkFieldReference aliases view field.qualified property.location)

/-- The complaints about all references of the model. -/
def checkReferences (p : Project) : List ResolutionError :=
  let aliases := p.aliases
  (p.explores.filter (!·.isTemplate)).flatMap p.checkExplore ++
    p.viewFields.flatMap fun (view, field) => p.checkFieldOf aliases view field

end LookML.Project
