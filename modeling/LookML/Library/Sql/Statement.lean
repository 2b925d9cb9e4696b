import LookML.Library.Sql.Query
import LookML.Rule.DataSource
/-!
# SQL statements

`Sql.statements?` reads a text as statements separated by semicolons, and tells queries from
everything else. What follows a statement that is no query is read as far as the common forms of
each kind go.
-/

namespace LookML.Sql

open Reader

namespace Grammar

def assignments (g : Grammar) : Reader :=
  commaSeparated (seq [oneOf [nameList, qualifiedName], symbol "=", g.any])

def whereClause (g : Grammar) : Reader :=
  after (keyword "WHERE") g.any

def returning (g : Grammar) : Reader :=
  after (keyword "RETURNING") (commaSeparated g.selectItem)

def insert (g : Grammar) : Reader :=
  let source := oneOf [keywords ["DEFAULT", "VALUES"], seq [keyword "SET", g.assignments], g.query]
  let aliased := optional (seq [keyword "AS", name])
  let conflict := oneOf [
    seq [keyword "CONFLICT", optional (oneOf [nameList, seq [keywords ["ON", "CONSTRAINT"],
      qualifiedName]]), keyword "DO", oneOf [keyword "NOTHING",
      seq [keywords ["UPDATE", "SET"], g.assignments, g.whereClause]]],
    seq [keywords ["DUPLICATE", "KEY", "UPDATE"], g.assignments]]
  seq [optional (keyword "IGNORE"), optional (keyword "OVERWRITE"), optional (keyword "INTO"),
    optional (keyword "TABLE"), qualifiedName, aliased,
    optional (seq [nameList, notAhead atEnd]),
    after (keyword "PARTITION") (tuple g.any), optional nameList, source,
    after (keyword "ON") conflict, g.returning]

def update (g : Grammar) : Reader :=
  seq [g.tableAndJoins maxJoinDepth, keyword "SET", g.assignments,
    after (keyword "FROM") g.tables, g.whereClause, g.returning, after (keyword "LIMIT") g.any]

def delete (g : Grammar) : Reader :=
  seq [optional (keyword "FROM"), g.tables, after (keyword "USING") g.tables, g.whereClause,
    g.returning, g.orderBy, after (keyword "LIMIT") g.any]

def merge (g : Grammar) : Reader :=
  let action := oneOf [
    seq [keywords ["UPDATE", "SET"], g.assignments], keyword "DELETE",
    seq [keyword "INSERT", optional nameList, oneOf [keyword "ROW",
      seq [keyword "VALUES", commaSeparated (tuple g.any)]]],
    keywords ["DO", "NOTHING"]]
  seq [optional (keyword "INTO"), g.tableFactor refuse, keyword "USING", g.tableFactor refuse,
    keyword "ON", g.any, repeatAfter (keyword "WHEN") (seq [optional (keyword "NOT"),
      keyword "MATCHED", optional (seq [keyword "BY", keywordIn ["SOURCE", "TARGET"]]),
      after (keyword "AND") g.any, keyword "THEN", action])]

def columnOption (g : Grammar) : Reader :=
  let reference := seq [keyword "REFERENCES", qualifiedName, optional nameList, many (oneOf [
    seq [keyword "ON", keywordIn ["DELETE", "UPDATE"], oneOf [keywordIn ["CASCADE", "RESTRICT"],
      keywords ["SET", "NULL"], keywords ["SET", "DEFAULT"], keywords ["NO", "ACTION"]]]])]
  seq [after (keyword "CONSTRAINT") name, oneOf [keywords ["NOT", "NULL"], keyword "NULL",
    seq [keyword "DEFAULT", g.expression Precedence.and], keywords ["PRIMARY", "KEY"],
    keyword "UNIQUE", reference, seq [keyword "CHECK", parens g.any],
    seq [keyword "COLLATE", qualifiedName], seq [keyword "COMMENT", token (· = .string)],
    keyword "AUTO_INCREMENT", keyword "AUTOINCREMENT",
    seq [keywords ["GENERATED", "ALWAYS", "AS"], parens g.any],
    seq [keyword "GENERATED", oneOf [keyword "ALWAYS", keywords ["BY", "DEFAULT"]],
      keywords ["AS", "IDENTITY"]]]]

def columnDefinition (g : Grammar) : Reader :=
  seq [name, optional (seq [notAhead g.columnOption, dataType maxTypeDepth]), many g.columnOption]

def tableConstraint (g : Grammar) : Reader :=
  seq [after (keyword "CONSTRAINT") name, oneOf [
    seq [keywords ["PRIMARY", "KEY"], nameList],
    seq [keyword "UNIQUE", optional (keyword "KEY"), optional (seq [name, ahead (symbol "(")]),
      nameList],
    seq [keywords ["FOREIGN", "KEY"], nameList, g.columnOption],
    seq [keyword "CHECK", parens g.any]]]

def optionList (g : Grammar) : Reader :=
  tuple (seq [name, symbol "=", g.any])

def create (g : Grammar) : Reader :=
  let replace := optional (keywords ["OR", "REPLACE"])
  let absent := optional (keywords ["IF", "NOT", "EXISTS"])
  let table := seq [keyword "TABLE", absent, qualifiedName, optional (parens (optional
      (commaSeparated (oneOf [g.tableConstraint, g.columnDefinition])))),
    after (keyword "WITH") g.optionList, after (keywords ["CLUSTER", "BY"]) (commaSeparated g.any),
    after (keywords ["PARTITION", "BY"]) g.any, after (keyword "COMMENT")
      (seq [optional (symbol "="), token (· = .string)]),
    optional (seq [optional (keyword "AS"), g.query])]
  let view := seq [optional (keyword "MATERIALIZED"), keyword "VIEW", absent, qualifiedName,
    optional (tuple name), after (keyword "WITH") g.optionList, keyword "AS", g.query]
  let index := seq [optional (keyword "UNIQUE"), keyword "INDEX", absent,
    optional (seq [notAhead (keyword "ON"), qualifiedName]), keyword "ON", qualifiedName,
    after (keyword "USING") name, tuple g.orderItem, g.whereClause]
  let container := seq [keywordIn ["SCHEMA", "DATABASE"], absent, qualifiedName]
  seq [replace, many (keywordIn ["TEMPORARY", "TEMP", "EXTERNAL", "TRANSIENT", "GLOBAL", "LOCAL"]),
    oneOf [table, view, index, container, seq [keyword "SEQUENCE", absent, qualifiedName],
      seq [keyword "ROLE", absent, commaSeparated qualifiedName]]]

def drop : Reader :=
  let kind := oneOf [keywordIn ["TABLE", "VIEW", "INDEX", "SCHEMA", "DATABASE", "ROLE", "SEQUENCE",
    "STAGE", "TYPE", "USER", "STREAM"], keywords ["MATERIALIZED", "VIEW"]]
  seq [optional (keyword "TEMPORARY"), kind, optional (keywords ["IF", "EXISTS"]),
    commaSeparated qualifiedName, optional (keywordIn ["CASCADE", "RESTRICT"]),
    optional (keyword "PURGE")]

def alter (g : Grammar) : Reader :=
  let exist := optional (keywords ["IF", "EXISTS"])
  let operation := oneOf [
    seq [keyword "ADD", g.tableConstraint],
    seq [keyword "ADD", optional (keyword "COLUMN"), optional (keywords ["IF", "NOT", "EXISTS"]),
      g.columnDefinition],
    seq [keyword "RENAME", optional (keyword "COLUMN"), name, keyword "TO", name],
    seq [keywords ["RENAME", "TO"], qualifiedName],
    seq [keyword "DROP", optional (keywordIn ["COLUMN", "CONSTRAINT"]), exist, name,
      optional (keywordIn ["CASCADE", "RESTRICT"])],
    seq [keyword "ALTER", optional (keyword "COLUMN"), name, oneOf [
      keywords ["SET", "NOT", "NULL"], keywords ["DROP", "NOT", "NULL"],
      keywords ["DROP", "DEFAULT"], seq [keywords ["SET", "DEFAULT"], g.any],
      seq [optional (keywords ["SET", "DATA"]), keyword "TYPE", dataType maxTypeDepth]]]]
  seq [keyword "TABLE", exist, optional (keyword "ONLY"), qualifiedName, commaSeparated operation]

def transaction : Reader :=
  let work := optional (keywordIn ["TRANSACTION", "WORK"])
  oneOf [seq [keyword "START", keyword "TRANSACTION"], seq [keyword "BEGIN", work],
    seq [keyword "COMMIT", work],
    seq [keyword "ROLLBACK", work, after (keyword "TO") (seq [optional (keyword "SAVEPOINT"), name])],
    seq [keyword "END", work], seq [keyword "SAVEPOINT", name],
    seq [keyword "RELEASE", optional (keyword "SAVEPOINT"), name]]

def rights (g : Grammar) : Reader :=
  let privilege := seq [keywordIn ["ALL", "SELECT", "INSERT", "UPDATE", "DELETE", "TRUNCATE",
    "REFERENCES", "TRIGGER", "USAGE", "CREATE", "CONNECT", "EXECUTE"],
    optional (keyword "PRIVILEGES"), optional (tuple name)]
  let objects := seq [optional (keywordIn ["TABLE", "SCHEMA", "SEQUENCE", "DATABASE"]),
    commaSeparated qualifiedName]
  let holder := seq [optional (keywordIn ["ROLE", "USER", "GROUP"]), g.any]
  oneOf [
    seq [keyword "GRANT", commaSeparated privilege, keyword "ON", objects, keyword "TO",
      commaSeparated holder, optional (keywords ["WITH", "GRANT", "OPTION"])],
    seq [keyword "REVOKE", commaSeparated privilege, keyword "ON", objects, keyword "FROM",
      commaSeparated holder, optional (keywordIn ["CASCADE", "RESTRICT"])]]

def session (g : Grammar) : Reader :=
  let filter := optional (oneOf [seq [keyword "LIKE", token (· = .string)],
    seq [keyword "WHERE", g.any]])
  let place := after (keywordIn ["FROM", "IN"]) qualifiedName
  oneOf [
    seq [keyword "SHOW", optional (keywordIn ["EXTENDED", "FULL"]), keywordIn ["TABLES", "VIEWS",
      "SCHEMAS", "DATABASES", "FUNCTIONS"], place, filter],
    seq [keywords ["SHOW", "COLUMNS"], place, place, filter],
    seq [keywords ["SHOW", "CREATE"], keywordIn ["TABLE", "VIEW", "FUNCTION", "PROCEDURE",
      "TRIGGER", "EVENT"], qualifiedName],
    seq [keyword "SHOW", many (token fun t => t ≠ .symbol "=" && t ≠ .symbol ";")],
    seq [keyword "SET", optional (keywordIn ["SESSION", "LOCAL", "GLOBAL"]), qualifiedName,
      oneOf [symbol "=", keyword "TO"], commaSeparated g.any],
    seq [keyword "USE", optional (keywordIn ["CATALOG", "SCHEMA", "DATABASE", "ROLE",
      "WAREHOUSE"]), qualifiedName]]

def copy (g : Grammar) : Reader :=
  let table := seq [qualifiedName, optional nameList, keywordIn ["FROM", "TO"]]
  let file := oneOf [keyword "STDOUT", seq [keyword "PROGRAM", token (· = .string)],
    token (· = .string)]
  seq [keyword "COPY", ifElse (symbol "(") (seq [g.query, symbol ")", keyword "TO"]) table, file,
    optional (keyword "WITH"), optional (tuple (seq [name, optional (oneOf [nameList, value, name])])),
    many (oneOf [keywordIn ["BINARY", "CSV", "HEADER"], seq [keywordIn ["DELIMITER", "NULL"],
      optional (keyword "AS"), token (· = .string)]])]

/-- Statements prepared, named results walked through, and the database kept in order. -/
def upkeep (g : Grammar) : Reader :=
  let names := commaSeparated name
  let cursor := seq [optional (keyword "BINARY"), optional (keywordIn ["INSENSITIVE",
    "ASENSITIVE"]), optional (seq [optional (keyword "NO"), keyword "SCROLL"]), keyword "CURSOR",
    optional (seq [keywordIn ["WITH", "WITHOUT"], keyword "HOLD"]), keyword "FOR", g.query]
  oneOf [
    seq [keyword "PRAGMA", qualifiedName, optional (oneOf [parens value, seq [symbol "=", value]])],
    seq [keyword "ANALYZE", optional (keyword "TABLE"), qualifiedName, many (oneOf [
      seq [keyword "PARTITION", tuple g.any], keywords ["CACHE", "METADATA"], keyword "NOSCAN",
      seq [keyword "FOR", keyword "COLUMNS", names], keywords ["COMPUTE", "STATISTICS"]])],
    seq [keyword "VACUUM", optional (oneOf [keyword "FULL", keywords ["SORT", "ONLY"],
      keywords ["DELETE", "ONLY"], keyword "REINDEX", keyword "RECLUSTER"]),
      optional qualifiedName],
    seq [keyword "DECLARE", names, cursor],
    seq [keyword "CLOSE", name], seq [keyword "DEALLOCATE", optional (keyword "PREPARE"), name],
    seq [keyword "DISCARD", keywordIn ["ALL", "PLANS", "SEQUENCES", "TEMP", "TEMPORARY"]],
    seq [keyword "ASSERT", g.any, after (keyword "AS") g.any],
    seq [keyword "KILL", optional (keywordIn ["CONNECTION", "QUERY", "MUTATION"]),
      token (· = .number)],
    seq [keywords ["MSCK", "REPAIR"], optional (keyword "TABLE"), qualifiedName],
    seq [keywords ["UNCACHE", "TABLE"], optional (keywords ["IF", "EXISTS"]), qualifiedName],
    seq [keywords ["OPTIMIZE", "TABLE"], qualifiedName],
    seq [keywordIn ["EXECUTE", "EXEC"], qualifiedName, optional (oneOf [tuple g.any,
      commaSeparated g.any]), after (keyword "USING") (commaSeparated g.any)]]

/-- A query with the named queries before it. Instead of rows it may also change a table. -/
def queryAbove (g : Grammar) : Reader :=
  seq [g.withClause, ifElse (keyword "INSERT") g.insert <| ifElse (keyword "UPDATE") g.update <|
    ifElse (keyword "DELETE") g.delete <| ifElse (keyword "MERGE") g.merge <|
    seq [g.setExpression, g.queryTail]]

def nested : Nat → Grammar
  | 0 => ⟨fun _ => refuse, refuse⟩
  | depth + 1 =>
    let inner := nested depth
    ⟨inner.expressionAbove, inner.queryAbove⟩

def isQueryAhead (ts : List Token) : Bool :=
  (oneOf [keywordIn ["SELECT", "WITH", "VALUES", "FROM"], symbol "("] ts).isSome

def otherStatement (g : Grammar) : Reader :=
  let explained := seq [optional (keyword "ANALYZE"), optional (keyword "VERBOSE"),
    fun ts => if isQueryAhead ts then g.query ts
      else oneOf [seq [keyword "INSERT", g.insert], seq [keyword "UPDATE", g.update],
        seq [keyword "DELETE", g.delete], seq [optional (keyword "TABLE"), qualifiedName]] ts]
  oneOf [
    seq [keyword "INSERT", g.insert], seq [keyword "REPLACE", g.insert],
    seq [keyword "UPDATE", g.update], seq [keyword "DELETE", g.delete],
    seq [keyword "MERGE", g.merge], seq [keyword "CREATE", g.create], seq [keyword "DROP", drop],
    seq [keyword "ALTER", g.alter], transaction, g.rights, g.session,
    g.copy, g.upkeep,
    seq [keyword "TRUNCATE", optional (keyword "TABLE"), commaSeparated qualifiedName,
      optional (keywordIn ["CASCADE", "RESTRICT"])],
    seq [keywordIn ["EXPLAIN", "DESCRIBE", "DESC"], explained],
    seq [keyword "CALL", qualifiedName, optional (seq [symbol "(", symbol ")"]), optional
      g.arguments],
    seq [keyword "COMMENT", keyword "ON", keywordIn ["TABLE", "COLUMN", "VIEW", "SCHEMA"],
      qualifiedName, keyword "IS", oneOf [token (· = .string), keyword "NULL"]]]

end Grammar

def maxDepth : Nat := 50

def readStatement (ts : List Token) : Option (SqlStatement × List Token) :=
  let g := Grammar.nested (maxDepth - 1)
  if Grammar.isQueryAhead ts then (g.query ts).map fun rest => (.query, rest)
  else (g.otherStatement ts).map fun rest => (.other, rest)

/-- Statements separated by semicolons, with as much fuel as there are tokens. The word `END` may
stand where a semicolon could. -/
def readStatements : Nat → List Token → Option (List SqlStatement)
  | 0, ts => if ts.isEmpty then some [] else none
  | fuel + 1, ts =>
    match ts.dropWhile (· = .symbol ";") with
    | [] => some []
    | ts => do
      let (kind, rest) ← readStatement ts
      match rest with
      | [] | .word "END" :: _ => return [kind]
      | .symbol ";" :: rest => return kind :: (← readStatements fuel rest)
      | _ => none

def statements? (text : String) : Option (List SqlStatement) := do
  let ts ← tokenize text
  readStatements (ts.length + 1) ts

end LookML.Sql
