import LookML.Identifier
import LookML.Location
/-!
# Violations

A violation is one finding of a lint run. It keeps what produced it apart from how grave it is,
so that the report can tell a rule's finding from a diagnostic about the input.
-/

namespace LookML

/-- How grave a finding is. -/
inductive Severity where
  | info
  | warning
  | error
deriving DecidableEq

namespace Severity

def word : Severity → String
  | .info => "info"
  | .warning => "warning"
  | .error => "error"

def ofWord? : String → Option Severity
  | "info" => some .info
  | "warning" => some .warning
  | "error" => some .error
  | _ => none

def rank : Severity → Nat
  | .info => 0
  | .warning => 1
  | .error => 2

end Severity

/-- What a violation came from. -/
inductive Origin where
  /-- a rule's finding -/
  | lint
  /-- a file that does not parse -/
  | parse
  /-- a conflict, a base or a reference that does not resolve -/
  | resolution
  /-- a rule that did not finish -/
  | ruleFault
deriving DecidableEq

namespace Origin

def word : Origin → String
  | .lint => "lint"
  | .parse => "parse"
  | .resolution => "resolution"
  | .ruleFault => "rule_fault"

def ofWord? : String → Option Origin
  | "lint" => some .lint
  | "parse" => some .parse
  | "resolution" => some .resolution
  | "rule_fault" => some .ruleFault
  | _ => none

/-- Diagnostics about the input or about a rule, as opposed to a rule's findings. -/
def isDiagnostic (o : Origin) : Bool :=
  o ≠ .lint

def rank : Origin → Nat
  | .lint => 0
  | .parse => 1
  | .resolution => 2
  | .ruleFault => 3

end Origin

/-- One finding. -/
structure Violation where
  /-- the rule, or the kind of diagnostic, that it is reported under -/
  rule : RuleId
  severity : Severity
  origin : Origin
  message : String
  path : String
  /-- absent for findings about a whole file -/
  line : Option Nat
  column : Option Nat
  /-- the qualified name of the view, explore or field concerned -/
  entity : Option String
  /-- other places involved -/
  related : List Location
deriving DecidableEq

namespace Violation

def finding (rule : RuleId) (severity : Severity) (message : String) (location : Location) :
    Violation where
  rule := rule
  severity := severity
  origin := .lint
  message := message
  path := location.path
  line := if location.line = 0 then none else some location.line
  column := if location.line = 0 then none else some location.column
  entity := none
  related := []

def ofFile (rule : RuleId) (severity : Severity) (message path : String) : Violation :=
  finding rule severity message (.wholeFile path)

def relate (v : Violation) (location : Location) : Violation :=
  { v with related := v.related ++ [location] }

/-- Violations of severity `error` make a run fail. -/
def isError (v : Violation) : Bool :=
  v.severity = .error

def place (v : Violation) : String :=
  match v.line, v.column with
  | some line, some column => s!"{v.path}:{line}:{column}"
  | some line, none => s!"{v.path}:{line}"
  | none, _ => v.path

/-- `place severity [rule] message`, the violation's line in a text report. -/
def render (v : Violation) : String :=
  s!"{v.place} {v.severity.word} [{v.rule.text}] {v.message}"

end Violation

end LookML
