import LookML.Lint
/-!
# Reports as text

A line for each violation, with the view, explore or field concerned below it, and a line of counts
at the end.
-/

namespace LookML.Report

def atLeast (r : Report) (least : Severity) : Report :=
  { r with violations := r.violations.filter fun v => least.rank ≤ v.severity.rank }

def violationLines (v : Violation) : List String :=
  v.render :: (v.entity.map fun e => s!"    in {e}").toList

def summaryLine (r : Report) : String :=
  let counts := s!"{r.count .error} errors, {r.count .warning} warnings, {r.count .info} info"
  s!"{r.violations.length} violations ({counts}) in {r.documents} files, {r.rules} rules checked"

/-- All lines; an empty one divides the violations from the counts. -/
def lines (r : Report) : List String :=
  r.violations.flatMap violationLines ++ (if r.violations.isEmpty then [] else [""]) ++
    [r.summaryLine]

def text (r : Report) : String :=
  String.join (r.lines.map (· ++ "\n"))

end LookML.Report
