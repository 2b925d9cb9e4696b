import LookML.Rule
import LookML.Text.Blank
/-!
# Presentation rules

What people who pick fields from a list get to see.
-/

namespace LookML.Rules

def descriptionFindings (f : Member) : List Finding :=
  if f.kind ∈ [.dimension, .dimensionGroup, .measure] && !f.block.isHidden &&
      !(f.block.text? "description").any fun d => !(Text.trim d.toList).isEmpty then
    [.ofField f s!"{f.kind.keyword} '{f.name}' has no description"]
  else []

/-- Visible dimensions, dimension groups and measures are described. -/
def description : Rule :=
  .ofField ⟨"description", by decide⟩ .warning
    "Visible dimensions, dimension groups and measures declare a description"
    fun _ f => descriptionFindings f

/-- The types of measures that pass a value on instead of aggregating rows. -/
def passThroughTypes : List String :=
  ["number", "string", "yesno", "date", "date_time"]

def drillDownFindings (f : Member) : List Finding :=
  if f.kind = .measure && !f.block.isHidden && !f.block.has "drill_fields" &&
      !f.block.fieldType?.any passThroughTypes.contains then
    [.ofField f s!"measure '{f.name}' has no drill_fields"]
  else []

/-- Aggregates let people drill into their rows. -/
def drillDown : Rule :=
  .ofField ⟨"drill_down", by decide⟩ .info "Visible aggregating measures declare drill_fields"
    fun _ f => drillDownFindings f

def primaryKeyHiddenFindings (f : Member) : List Finding :=
  if f.isPrimaryKey && !f.block.isHidden then
    [.ofField f s!"primary key '{f.name}' is not hidden"]
  else []

def primaryKeyHidden : Rule :=
  .ofField ⟨"primary_key_hidden", by decide⟩ .info "Primary key dimensions are hidden"
    fun _ f => primaryKeyHiddenFindings f

end LookML.Rules
