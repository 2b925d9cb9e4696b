import LookML.Rule.Builtin
import LookML.Rule.Level
/-!
# Registries

The rules that a run applies. No two of them have the same id, so that an id means one rule.
-/

namespace LookML

/-- What can be wrong with a choice of rules. -/
inductive RegistryError where
  /-- no registered rule has the id -/
  | unknownRule (id : String) (known : List String)
  /-- a rule of that id is registered already -/
  | duplicateRule (id : RuleId)
  /-- a rule without an id -/
  | emptyId
  /-- a naming pattern that cannot be used -/
  | invalidPattern (pattern : String) {complaint : String}
deriving DecidableEq

/-- The problem in words, after its stable code. -/
def RegistryError.message : RegistryError → String
  | unknownRule id known =>
    let names := ", ".intercalate known
    s!"[L001] Unknown rule '{id}'. Known rules: {names}"
  | duplicateRule id => s!"[L002] Rule '{id.text}' is already registered"
  | emptyId => "[L003] Invalid option for rule '': rule id must not be empty"
  | @invalidPattern pattern complaint =>
    s!"[L003] Invalid option for rule 'field_naming': invalid pattern '{pattern}': {complaint}"

/-- The library that compiles regular expressions: which texts have a match of a pattern, or the
complaint about the pattern. -/
class PatternCompiler where
  compile : String → Except String (String → Bool)
  exists_standard : ∃ pattern, compile RuleOptions.standard.pattern = .ok pattern

/-- Rules with ids of their own. -/
structure Registry where
  rules : List Rule
  nodup : (rules.map Rule.id).Nodup

namespace Registry

def empty : Registry := ⟨[], List.nodup_nil⟩

def ids (r : Registry) : List String :=
  r.rules.map (·.id.text)

def rule? (r : Registry) (id : String) : Option Rule :=
  r.rules.find? (·.id.text = id)

def filter (r : Registry) (p : Rule → Bool) : Registry :=
  ⟨r.rules.filter p, r.nodup.sublist (List.filter_sublist.map _)⟩

def checkKnown (r : Registry) (ids : List String) : Except RegistryError Unit :=
  match ids.find? fun id => (r.rule? id).isNone with
  | some id => .error (.unknownRule id r.ids)
  | none => .ok ()

section Standard

variable [SqlParser] [PatternCompiler]

def withOptions (options : RuleOptions) : Except RegistryError Registry :=
  match PatternCompiler.compile options.pattern with
  | .ok pattern => .ok ⟨Rules.builtIn options pattern, Rules.nodup_builtIn options pattern⟩
  | .error complaint => .error (@RegistryError.invalidPattern options.pattern complaint)

/-- The built-in rules with the options that hold unless others are given. -/
def standard : Registry :=
  (withOptions .standard).toOption.getD empty

/-- The built-in rules with the given options that the levels do not silence. Every id that has a
level must be the id of a rule. -/
def configured (options : RuleOptions) (levels : Levels) : Except RegistryError Registry := do
  let all ← withOptions options
  all.checkKnown levels.ids
  return all.filter fun rule => levels.allows rule.id.text

end Standard

def register (r : Registry) (id : String) (make : RuleId → Rule) :
    Except RegistryError Registry :=
  match Identifier.ofText? id with
  | none => .error .emptyId
  | some id =>
    let rule := make id
    if fresh : rule.id ∈ r.rules.map Rule.id then .error (.duplicateRule rule.id)
    else .ok ⟨r.rules ++ [rule], by
      rw [List.map_append, List.nodup_append]
      exact ⟨r.nodup, by simp, by
        intro a ha b hb
        rw [List.map_cons, List.map_nil, List.mem_singleton] at hb
        exact fun e => fresh (hb ▸ e ▸ ha)⟩⟩

def select (r : Registry) (ids : List String) : Except RegistryError Registry := do
  r.checkKnown ids
  return r.filter fun rule => ids.contains rule.id.text

end Registry

end LookML
