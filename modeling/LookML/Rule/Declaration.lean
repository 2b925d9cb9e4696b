import LookML.Rule.Naming
/-!
# Declaration rules

How the blocks of a file are declared.
-/

namespace LookML.Rules

def oneViewFindings (d : Document) : List Finding :=
  match definedViews d with
  | first :: others =>
    if d.isViewFile then
      others.map fun v =>
        { Finding.ofView v (s!"{d.fileName} defines {others.length + 1} views; " ++
            s!"move view '{v.nameOrEmpty}' to its own file") with related := [first.location] }
    else []
  | [] => []

def oneViewPerFile : Rule :=
  .ofFile ⟨"one_view_per_file", by decide⟩ .warning "A view file defines at most one view"
    oneViewFindings

/-- Every property of a block whose name the block has declared before; `what` names the block. -/
def repeatedProperties (what : String) (properties : List Property) : List Finding :=
  (Property.duplicates properties).flatMap fun (name, all) =>
    (all.drop 1).map fun p =>
      { message := s!"property '{name}' is declared {all.length} times in {what}; " ++
          "the last one wins"
        location := p.location
        entity := none
        related := (all.head?.map Property.location).toList }

def describeBlock (b : Block) : String :=
  match b.name with
  | some name => s!"{b.kind.keyword} '{name}'"
  | none => s!"{b.kind.keyword} block"

/-- The repeated properties of the file itself and of all its blocks. -/
def duplicatePropertyFindings (d : Document) : List Finding :=
  repeatedProperties s!"file '{d.fileName}'" d.properties ++
    d.allBlocks.flatMap fun b => repeatedProperties (describeBlock b) b.properties

/-- A block does not declare the same property twice. -/
def duplicateProperty : Rule :=
  .ofFile ⟨"duplicate_property", by decide⟩ .warning
    "A block does not declare the same property twice" duplicatePropertyFindings

/-- Keywords of nested blocks that are LookML although they are no kinds of their own. -/
def nestedKeywords : List String :=
  ["access_filter", "allowed_value", "always_filter", "application", "assert", "bind_all_filters",
    "bind_filters", "case", "column", "conditionally_filter", "constant", "derived_column",
    "explore_source", "form_param", "local_dependency", "localization_settings",
    "named_value_format", "option", "override_constant", "param", "remote_dependency",
    "user_attribute_param", "visualization", "when"]

def unknownKindFindings (d : Document) : List Finding :=
  (d.allBlocks.filter fun b => !b.kind.isKnown && !nestedKeywords.contains b.kind.keyword).map
    fun b => ⟨s!"unknown block kind '{b.kind.keyword}'", b.location, none, []⟩

def unknownBlockKind : Rule :=
  .ofFile ⟨"unknown_block_kind", by decide⟩ .info "Blocks use a known LookML keyword"
    unknownKindFindings

end LookML.Rules
