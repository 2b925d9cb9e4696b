import LookML.Rule.DataSource
import LookML.Rule.Declaration
import LookML.Rule.Modelling
import LookML.Rule.Presentation
/-!
# Built-in rules

All rules that there are without registering more, and the options that some of them take.
-/

namespace LookML

/-- The options of the built-in rules. -/
structure RuleOptions where
  /-- what field names match -/
  pattern : String
  /-- what the names of yes-no dimensions begin with -/
  questionStarts : List String
  /-- what names and texts avoid -/
  forbidden : List String
deriving DecidableEq

def RuleOptions.standard : RuleOptions :=
  ⟨"^[a-z][a-z0-9_]*$", ["is_", "has_"], ["TODO", "FIXME", "TBD"]⟩

namespace Rules

variable [SqlParser]

def builtIn (options : RuleOptions) (pattern : String → Bool) : List Rule :=
  [description, drillDown, yesnoName options.questionStarts, countName, allCaps,
    fieldNaming pattern options.pattern, lexicon options.forbidden, primaryKeyHidden, dataSource,
    oneViewPerFile, filenameViewnameMatch, duplicateProperty, unknownBlockKind, derivedTableSql,
    primaryKey, noOrphans]

def builtInIds : List String :=
  ["description", "drill_down", "yesno_name", "count_name", "all_caps", "field_naming", "lexicon",
    "primary_key_hidden", "data_source", "one_view_per_file", "filename_viewname_match",
    "duplicate_property", "unknown_block_kind", "derived_table_sql", "primary_key", "no_orphans"]

theorem map_id_builtIn (options : RuleOptions) (pattern : String → Bool) :
    (builtIn options pattern).map (·.id.text) = builtInIds := rfl

theorem nodup_builtIn (options : RuleOptions) (pattern : String → Bool) :
    ((builtIn options pattern).map Rule.id).Nodup := by
  have h : (((builtIn options pattern).map Rule.id).map Identifier.text).Nodup := by
    rw [List.map_map]
    exact map_id_builtIn options pattern ▸ (by decide : builtInIds.Nodup)
  exact List.Pairwise.of_map Identifier.text (fun _ _ ne e => ne (congrArg _ e)) h

end Rules

end LookML
