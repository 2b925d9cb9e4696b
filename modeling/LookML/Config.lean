import LookML.Rule.Builtin
import LookML.Rule.Level
/-!
# Configurations

What can be set about a run: the levels of rules, their options, limits, and the files that are
left out.
-/

namespace LookML

/-- How much a run may take. -/
structure Limits where
  /-- how long one application of a rule may take -/
  timeoutSeconds : Nat
  /-- how many rules are applied at once, as many as there are processors unless it is given -/
  threads : Option Nat
deriving DecidableEq

namespace Limits

def maxThreads : Nat := Nat.pow 2 61 - 1

def tooManyThreads : String :=
  s!"a semaphore may not have more than MAX_PERMITS permits ({maxThreads})"

/-- How many milliseconds one application of a rule may take. -/
def timeout (l : Limits) : Nat :=
  l.timeoutSeconds * 1000

end Limits

structure Config where
  levels : Levels
  options : RuleOptions
  limits : Limits
  /-- patterns of files that are left out -/
  exclude : List String
deriving DecidableEq

namespace Config

def standard : Config :=
  ⟨[], .standard, ⟨30, none⟩, []⟩

/-- A value that a configuration must not have. -/
inductive Problem where
  | noTimeout
  | noThreads
  | emptyPattern
  | emptyRuleId
deriving DecidableEq

def Problem.describe : Problem → String
  | noTimeout => "engine.timeout_secs must be greater than zero"
  | noThreads => "engine.threads must be greater than zero"
  | emptyPattern => "options.field_naming.pattern cannot be empty"
  | emptyRuleId => "empty rule id in \x60rules\x60: ''"

def problem? (c : Config) : Option Problem :=
  if c.limits.timeoutSeconds = 0 then some .noTimeout
  else if c.limits.threads = some 0 then some .noThreads
  else if c.options.pattern = "" then some .emptyPattern
  else if (c.levels.level? "").isSome then some .emptyRuleId
  else none

/-- Why there is no configuration. -/
inductive Error where
  | notFound (path : String)
  | invalid (problem : Problem)
  | unreadable (path reason : String)
  /-- the text is not the YAML of a configuration -/
  | malformed {complaint : String}
deriving DecidableEq

def Error.message : Error → String
  | notFound path => s!"[C001] Config file not found: {path}"
  | invalid problem => s!"[C002] Invalid config: {problem.describe}"
  | unreadable path reason => s!"[C003] Failed to read '{path}': {reason}"
  | @malformed complaint => s!"[C004] Config parse error: {complaint}"

end Config

end LookML
