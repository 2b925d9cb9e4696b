import LookML.Registry
import LookML.Rule.Fault
import LookML.Violation.Order
/-!
# Evaluating rules

Every rule is pointed at every instance of its scope, by the instance's place in the project. Each
of these tasks ends in violations or in a fault, whatever becomes of the others. What they add to
the report is collected in the order in which they were started, not in that in which they end.
-/

namespace LookML

/-- What a rule is pointed at: a field of an entity, a document or the whole project. -/
inductive Instance (p : Project) where
  | field (entity : Fin p.entities.length) (field : Fin p.entities[entity].fields.length)
  | file (document : Fin p.documents.length)
  | project

namespace Instance

variable {p : Project}

def scope : Instance p → Scope
  | field .. => .field
  | file _ => .file
  | project => .project

def subject : (x : Instance p) → x.scope.Subject
  | field i j => (p.entities[i], p.entities[i].fields[j])
  | file i => p.documents[i]
  | project => p

def subject? (s : Scope) (x : Instance p) : Option s.Subject :=
  if h : x.scope = s then some (h ▸ x.subject) else none

def fields (p : Project) : List (Instance p) :=
  ((List.finRange p.entities.length).filter fun entity =>
      p.entities[entity].kind = .view && !p.entities[entity].isTemplate).flatMap fun entity =>
    (List.finRange p.entities[entity].fields.length).map (.field entity)

def files (p : Project) : List (Instance p) :=
  (List.finRange p.documents.length).map .file

def ofScope (p : Project) : Scope → List (Instance p)
  | .field => fields p
  | .file => files p
  | .project => [.project]

end Instance

/-- A rule pointed at an instance. -/
structure Task (p : Project) where
  rule : Rule
  target : Instance p

/-- What comes of a task. -/
inductive Outcome where
  | found (violations : List Violation)
  | fault (cause : FaultCause)

namespace Task

variable {p : Project}

/-- The check as it goes. A rule that is pointed at an instance of another scope finds nothing. -/
def run (t : Task p) : Run :=
  match t.target.subject? t.rule.scope with
  | some subject => t.rule.check subject
  | none => .found []

/-- What comes of a task that may take so many milliseconds. -/
def outcome (limit : Nat) (t : Task p) : Outcome :=
  if limit < t.run.milliseconds then .fault (.timedOut limit)
  else match t.run.ending with
    | .found findings => .found (findings.map fun f => f.toViolation t.rule.id t.rule.severity)
    | .panicked message => .fault (.panicked (message.getD Fault.unknownPanic))

/-- The diagnostic for a task that did not finish. -/
def faultViolation (t : Task p) (cause : FaultCause) : Violation :=
  { Fault.toViolation ⟨t.rule.id, t.target.scope.name t.target.subject, cause⟩
      (t.target.scope.location t.target.subject) with
    entity := t.target.scope.entity t.target.subject }

def violations (t : Task p) : Outcome → List Violation
  | .found violations => violations
  | .fault cause => [t.faultViolation cause]

end Task

def Rule.tasks (rule : Rule) (p : Project) : List (Task p) :=
  (Instance.ofScope p rule.scope).map fun target => ⟨rule, target⟩

def Registry.tasks (r : Registry) (p : Project) : List (Task p) :=
  r.rules.flatMap fun rule => rule.tasks p

/-- The tasks in the order in which they were started, each with what came of it if it ended. -/
abbrev Progress (p : Project) := Array (Task p × Option Outcome)

namespace Progress

variable {p : Project}

def start (tasks : List (Task p)) : Progress p :=
  (tasks.map fun t => (t, none)).toArray

def complete (outcome : Task p → Outcome) (progress : Progress p) (place : Nat) : Progress p :=
  progress.modify place fun (t, _) => (t, some (outcome t))

def completeAll (outcome : Task p → Outcome) (progress : Progress p) (places : List Nat) :
    Progress p :=
  places.foldl (complete outcome) progress

/-- What the tasks that have ended add to the report. -/
def collected (progress : Progress p) : List Violation :=
  progress.toList.flatMap fun (t, ended) => ended.elim [] t.violations

end Progress

/-- What the rules report about a project, in canonical order. Here `outcome` says what comes of
each task, and the tasks end in the order of the given places. -/
def Project.evaluateAs (p : Project) (r : Registry) (levels : Levels) (outcome : Task p → Outcome)
    (places : List Nat) : List Violation :=
  Violation.sort p.documentPaths <| levels.apply
    ((Progress.start (r.tasks p)).completeAll outcome places).collected

/-- What the rules report about a project if the tasks end in the order in which they start. -/
def Project.evaluate (p : Project) (r : Registry) (levels : Levels) (outcome : Task p → Outcome) :
    List Violation :=
  p.evaluateAs r levels outcome (List.range (r.tasks p).length)

end LookML
