import LookML.Rule.Naming
import LookML.Reference
/-!
# Data source rules

Where views read their rows from.
-/

namespace LookML

/-- What counts of a statement of SQL is whether it is a query. -/
inductive SqlStatement where
  | query
  | other
deriving DecidableEq

/-- The library that parses SQL: the statements of a text, or the complaint about it. -/
class SqlParser where
  parse : String → Except String (List SqlStatement)

namespace Rules

open Text

/-- The views of a file that stand for themselves: neither refinements nor templates. -/
def concreteViews (d : Document) : List Block :=
  (definedViews d).filter fun v => v.text? "extension" ≠ some "required"

/-- Every view that names no table and inherits none. -/
def dataSourceFindings (d : Document) : List Finding :=
  ((concreteViews d).filter fun v =>
      !v.has "extends" && !v.has "sql_table_name" && !v.has "derived_table").map fun v =>
    .ofView v s!"view '{v.nameOrEmpty}' has neither sql_table_name nor derived_table"

/-- Views have a table to read from. -/
def dataSource : Rule :=
  .ofFile ⟨"data_source", by decide⟩ .error "Views declare sql_table_name or derived_table"
    dataSourceFindings

def isTemplated (sql : List Char) : Bool :=
  contains ['{', '%'] sql || contains ['{', '{'] sql || contains ['@', '{'] sql

def referenceStandIn : String := "lkml_ref"

def sqlProblem? [SqlParser] (view sql : String) : Option String :=
  if isTemplated sql.toList then none
  else if (trim sql.toList).isEmpty then some s!"derived_table of view '{view}' has empty SQL"
  else match SqlParser.parse (Reference.substitute sql referenceStandIn) with
    | .error complaint =>
      some s!"derived_table SQL of view '{view}' does not parse: {complaint}"
    | .ok [.query] => none
    | .ok [_] => some s!"derived_table SQL of view '{view}' is not a SELECT query"
    | .ok statements => some <| s!"derived_table SQL of view '{view}' has " ++
        s!"{statements.length} statements, expected one query"

def derivedTableFinding? [SqlParser] (view : Block) : Option Finding := do
  let derived ← (← view.get? "derived_table").block?
  let property ← derived.property? "sql"
  let message ← sqlProblem? view.nameOrEmpty (← property.value.text?)
  return { Finding.ofView view message with location := property.location }

def derivedTableSql [SqlParser] : Rule :=
  .ofFile ⟨"derived_table_sql", by decide⟩ .warning "derived_table SQL parses as a single query"
    fun d => d.views.filterMap derivedTableFinding?

end Rules

end LookML
