import LookML.Keyed
import LookML.Violation
/-!
# Levels

A configuration may set the level of a rule: `off` silences it, a severity replaces the rule's own.
-/

namespace LookML

/-- What a configuration says about a rule. -/
inductive Level where
  | off
  | report (severity : Severity)
deriving DecidableEq

namespace Level

def word : Level → String
  | off => "off"
  | report severity => severity.word

def ofWord? (w : String) : Option Level :=
  if w = "off" then some off else (Severity.ofWord? w).map report

def severity? : Level → Option Severity
  | off => none
  | report severity => some severity

end Level

/-- Levels by rule id. Each id has one. -/
abbrev Levels := List (String × Level)

namespace Levels

def level? (levels : Levels) (id : String) : Option Level :=
  levels.lookup id

def set (levels : Levels) (id : String) (level : Level) : Levels :=
  Keyed.put Prod.fst (fun _ new => new) (id, level) levels

def ofList (entries : List (String × Level)) : Levels :=
  entries.foldl (fun levels (id, level) => levels.set id level) []

def ids (levels : Levels) : List String :=
  (levels.map Prod.fst).mergeSort (· ≤ ·)

def allows (levels : Levels) (id : String) : Bool :=
  levels.level? id ≠ some .off

/-- What becomes of a violation. Only a rule's findings are touched. -/
def relabel? (levels : Levels) (v : Violation) : Option Violation :=
  if v.origin.isDiagnostic then some v
  else match levels.level? v.rule.text with
    | none => some v
    | some .off => none
    | some (.report severity) => some { v with severity := severity }

def apply (levels : Levels) (violations : List Violation) : List Violation :=
  violations.filterMap levels.relabel?

theorem apply_nil (violations : List Violation) : apply [] violations = violations := by
  have h : relabel? [] = some := by
    funext v
    simp [relabel?, level?]
  simp [apply, h]

end Levels

end LookML
