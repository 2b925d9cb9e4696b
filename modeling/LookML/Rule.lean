import LookML.Project
import LookML.Text.Quoted
/-!
# Rules

A rule looks at one subject at a time: a field, a file or the whole project. It reports findings,
to which its id and severity are added later. A check takes some time, and it may panic instead of
reporting.
-/

namespace LookML

/-- What a rule looks at. -/
inductive Scope where
  | field
  | file
  | project
deriving DecidableEq

namespace Scope

def word : Scope → String
  | field => "field"
  | file => "file"
  | project => "project"

def title : Scope → String
  | field => "Field"
  | file => "File"
  | project => "Project"

/-- What a rule of the scope is shown: a field with the view that it belongs to, a document, or the
project. -/
def Subject : Scope → Type
  | field => Entity × Member
  | file => Document
  | project => Project

def name : (s : Scope) → s.Subject → String
  | field, (_, f) => f.qualified
  | file, d => d.path
  | project, _ => "project"

def projectPath : String := "<project>"

def location : (s : Scope) → s.Subject → Location
  | field, (_, f) => f.location
  | file, d => .wholeFile d.path
  | project, _ => .wholeFile projectPath

/-- The view, explore or field that a subject is, if it is one. -/
def entity : (s : Scope) → s.Subject → Option String
  | field, (_, f) => some f.qualified
  | file, _ => none
  | project, _ => none

end Scope

/-- What a rule reports. -/
structure Finding where
  message : String
  location : Location
  /-- the qualified name of what is concerned -/
  entity : Option String
  /-- other places involved -/
  related : List Location
deriving DecidableEq

namespace Finding

def ofField (f : Member) (message : String) : Finding :=
  ⟨message, f.location, some f.qualified, []⟩

/-- A finding about a view of the project. -/
def ofEntity (e : Entity) (message : String) : Finding :=
  ⟨message, e.location, some e.qualified, []⟩

/-- A finding about a view as a file declares it. -/
def ofView (view : Block) (message : String) : Finding :=
  ⟨message, view.location, some s!"view:{view.nameOrEmpty}", []⟩

def toViolation (f : Finding) (rule : RuleId) (severity : Severity) : Violation :=
  { Violation.finding rule severity f.message f.location with
    entity := f.entity
    related := f.related }

end Finding

/-- How a check ends. -/
inductive Ending where
  | found (findings : List Finding)
  /-- the check broke off, perhaps with a message -/
  | panicked (message : Option String)

/-- A check as it went. -/
structure Run where
  milliseconds : Nat
  ending : Ending

/-- A check that reports at once. -/
def Run.found (findings : List Finding) : Run :=
  ⟨0, .found findings⟩

structure Rule where
  id : RuleId
  /-- the severity of its findings unless the configuration says otherwise -/
  severity : Severity
  description : String
  scope : Scope
  check : scope.Subject → Run

def Rule.summary (rule : Rule) : String :=
  s!"Rule \x7b id: {Text.quoted rule.id.text}, scope: {rule.scope.title} \x7d"

def Rule.ofField (id : RuleId) (severity : Severity) (description : String)
    (findings : Entity → Member → List Finding) : Rule :=
  ⟨id, severity, description, .field, fun (e, f) => .found (findings e f)⟩

def Rule.ofFile (id : RuleId) (severity : Severity) (description : String)
    (findings : Document → List Finding) : Rule :=
  ⟨id, severity, description, .file, fun d => .found (findings d)⟩

def Rule.ofProject (id : RuleId) (severity : Severity) (description : String)
    (findings : Project → List Finding) : Rule :=
  ⟨id, severity, description, .project, fun p => .found (findings p)⟩

end LookML
