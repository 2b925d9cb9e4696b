/-!
# Identifiers

Texts that key a lookup are never empty: the ids of rules and the names of views and explores.
-/

namespace LookML

/-- A non-empty text. -/
structure Identifier where
  text : String
  text_ne : text ≠ ""
deriving DecidableEq

namespace Identifier

def ofText? (text : String) : Option Identifier :=
  if h : text = "" then none else some ⟨text, h⟩

/-- What an identifier is used for. -/
inductive Role where
  | ruleId
  | entityName

def emptyMessage : Role → String
  | .ruleId => "RuleId must not be empty"
  | .entityName => "EntityName must not be empty"

theorem ofText?_eq_some_iff {t : String} {i : Identifier} : ofText? t = some i ↔ i.text = t := by
  cases i with
  | mk text h =>
    unfold ofText?
    split
    · rename_i he
      simp only [reduceCtorEq, false_iff]
      exact fun e => h (e.trans he)
    · simp [eq_comm]

end Identifier

abbrev RuleId := Identifier

/-- The name of a view or explore, without a refinement's plus sign. -/
abbrev EntityName := Identifier

end LookML
