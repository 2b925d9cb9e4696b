import LookML.Entity
import LookML.Reference
import LookML.Violation
/-!
# Resolution errors

What can be wrong with the declarations of a project as a whole. None of it stops the model from
being built.
-/

namespace LookML

/-- The longest chain of bases that is merged. -/
def maxExtendsDepth : Nat := 32

/-- Why a name that is used does not resolve. -/
inductive Unresolved where
  /-- a refinement of something that is never defined -/
  | undefinedTarget (kind : EntityKind) (target : String)
  /-- an explore starts from a view that is not defined -/
  | undefinedBaseView (view : String)
  /-- a join reads from a view that is not defined -/
  | undefinedJoinView (join view : String)
  /-- a reference uses an alias that the explore does not join -/
  | unjoinedAlias (reference : Reference) (name : String)
  /-- a reference uses a scope that is neither a view nor an alias -/
  | unknownScope (reference : Reference) (scope : String)
  /-- a reference names a field that the view does not have -/
  | noSuchField (reference : Reference) (view : String)
deriving DecidableEq

def Unresolved.describe : Unresolved → String
  | undefinedTarget kind target => s!"{kind.word} '{target}' is refined but never defined"
  | undefinedBaseView view => s!"view '{view}' is not defined"
  | undefinedJoinView join view => s!"join '{join}' view '{view}' is not defined"
  | unjoinedAlias r name => s!"{r.render} uses alias '{name}' which is not joined in this explore"
  | unknownScope r scope => s!"{r.render} names unknown view '{scope}'"
  | noSuchField r view => s!"{r.render} does not match any field of view '{view}'"

/-- A problem found while the declarations of a project are merged. -/
inductive ResolutionError where
  /-- a second definition of the same view or explore -/
  | duplicateEntity (entity : EntityKey) (location first : Location)
  /-- bases that lead back to where they started; the path begins and ends at the same place -/
  | extendsCycle (start : EntityKey) (path : List EntityKey) (location : Location)
  /-- a chain of bases longer than is merged -/
  | extendsTooDeep (entity : EntityKey) (location : Location)
  /-- a base that is not defined -/
  | extendsNotFound (entity : EntityKey) (base : EntityName) (location : Location)
  /-- a name used by `user` that does not resolve -/
  | unresolved (user : String) (problem : Unresolved) (location : Location)
  /-- a second field or join of the same name in one block -/
  | duplicateMember (entity : EntityName) (name : String) (location first : Location)
deriving DecidableEq

namespace ResolutionError

def ruleId : ResolutionError → RuleId
  | duplicateEntity .. => ⟨"duplicate_entity", by decide⟩
  | extendsCycle .. | extendsTooDeep .. => ⟨"extends_cycle", by decide⟩
  | extendsNotFound .. => ⟨"extends_not_found", by decide⟩
  | unresolved .. => ⟨"unresolved_reference", by decide⟩
  | duplicateMember .. => ⟨"duplicate_field", by decide⟩

def location : ResolutionError → Location
  | duplicateEntity _ location _ | extendsCycle _ _ location | extendsTooDeep _ location
  | extendsNotFound _ _ location | unresolved _ _ location | duplicateMember _ _ location _ =>
    location

/-- The qualified name of the view, explore or field concerned. -/
def entity : ResolutionError → String
  | duplicateEntity entity .. | extendsTooDeep entity _ | extendsNotFound entity .. =>
    entity.qualified
  | extendsCycle start .. => start.qualified
  | unresolved user .. => user
  | duplicateMember entity name .. => s!"{entity.text}.{name}"

/-- The problem in words, after its stable code. -/
def message : ResolutionError → String
  | duplicateEntity entity _ first =>
    s!"[R001] {entity.qualified} is already defined at {first.render}"
  | extendsCycle _ path _ =>
    "[R002] extends cycle: " ++ " -> ".intercalate (path.map EntityKey.qualified)
  | extendsTooDeep entity _ =>
    s!"[R003] extends chain of {entity.qualified} exceeds maximum depth of {maxExtendsDepth}"
  | extendsNotFound entity base _ =>
    s!"[R004] {entity.qualified} extends unknown {entity.kind.word} '{base.text}'"
  | unresolved user problem _ => s!"[R005] {user}: {problem.describe}"
  | duplicateMember entity name _ first =>
    s!"[R006] field '{name}' is already defined in {entity.text} at {first.render}"

def first? : ResolutionError → Option Location
  | duplicateEntity _ _ first | duplicateMember _ _ _ first => some first
  | _ => none

/-- The diagnostic that stands for the problem in a report. -/
def toViolation (e : ResolutionError) : Violation :=
  { Violation.finding e.ruleId .error e.message e.location with
    origin := .resolution
    entity := some e.entity
    related := e.first?.toList }

end ResolutionError

end LookML
