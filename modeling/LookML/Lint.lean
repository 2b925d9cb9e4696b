import LookML.Evaluation
import LookML.Project.Build
import LookML.Source
/-!
# Linting

From source files to one report: syntax errors, problems between declarations, and what the rules
find in the model.
-/

namespace LookML

/-- What a run found. -/
structure Report where
  /-- in canonical order -/
  violations : List Violation
  /-- the files that parse -/
  documents : Nat
  /-- the views and explores of the model -/
  entities : Nat
  /-- the rules that were applied -/
  rules : Nat
deriving DecidableEq

namespace Report

def hasErrors (r : Report) : Bool :=
  r.violations.any Violation.isError

def count (r : Report) (severity : Severity) : Nat :=
  r.violations.countP (·.severity = severity)

end Report

/-- The report on some files, where `outcome` says what comes of each task. -/
def lint [Extends.ComponentFinder] (sources : List Source) (r : Registry) (levels : Levels)
    (outcome : {p : Project} → Task p → Outcome) : Report :=
  let documents := Source.documents sources
  let (project, problems) := Project.build documents
  { violations := Violation.sort (sources.map Source.path) <|
      (Source.errors sources).map SyntaxError.toViolation ++
        problems.map ResolutionError.toViolation ++ project.evaluate r levels outcome
    documents := documents.length
    entities := project.entities.length
    rules := r.rules.length }

end LookML
