import LookML.Library.Sql.Expression
/-!
# SQL queries

`SELECT` with its clauses, tables and joins, set operations, and what may stand around them.
-/

namespace LookML.Sql

def noTableAlias : List String :=
  ["WITH", "EXPLAIN", "ANALYZE", "SELECT", "WHERE", "GROUP", "SORT", "HAVING", "ORDER", "PIVOT",
    "UNPIVOT", "TOP", "LATERAL", "VIEW", "LIMIT", "OFFSET", "FETCH", "UNION", "EXCEPT",
    "INTERSECT", "MINUS", "ON", "JOIN", "INNER", "CROSS", "FULL", "LEFT", "RIGHT", "NATURAL",
    "USING", "CLUSTER", "DISTRIBUTE", "GLOBAL", "ANTI", "SEMI", "RETURNING", "OUTPUT", "ASOF",
    "MATCH_CONDITION", "OUTER", "SET", "QUALIFY", "WINDOW", "END", "FOR", "PARTITION", "PREWHERE",
    "SETTINGS", "FORMAT", "START", "CONNECT", "MATCH_RECOGNIZE", "SAMPLE", "TABLESAMPLE", "OPEN"]

def noColumnAlias : List String :=
  ["WITH", "EXPLAIN", "ANALYZE", "SELECT", "WHERE", "GROUP", "SORT", "HAVING", "ORDER", "TOP",
    "LATERAL", "VIEW", "LIMIT", "OFFSET", "FETCH", "UNION", "EXCEPT", "EXCLUDE", "INTERSECT",
    "MINUS", "CLUSTER", "DISTRIBUTE", "RETURNING", "VALUES", "FROM", "INTO", "END"]

open Reader

namespace Grammar

def aliasExcept (reserved : List String) : Reader :=
  ifElse (keyword "AS") name <| optional <| token fun
    | .word k => !reserved.contains k
    | .quotedName | .string => true
    | _ => false

def tableAlias : Reader := fun ts =>
  match aliasExcept noTableAlias ts with
  | some rest =>
    if rest.length < ts.length then
      after (symbol "(") (seq [commaSeparated (seq [name, optional (dataType maxTypeDepth)]),
        symbol ")"]) rest
    else some ts
  | none => none

def wildcardOptions (g : Grammar) : Reader :=
  let names := oneOf [tuple name, name]
  seq [after (keyword "ILIKE") (token (· = .string)), after (keyword "EXCLUDE") names,
    after (keyword "EXCEPT") (tuple name),
    after (seq [keyword "REPLACE", symbol "("]) (seq [commaSeparated (seq [g.any,
      optional (keyword "AS"), name]), symbol ")"]),
    after (keyword "RENAME") (oneOf [tuple (seq [name, keyword "AS", name]),
      seq [name, keyword "AS", name]])]

def selectItem (g : Grammar) : Reader :=
  let wildcard := seq [repeatAfter (seq [name, symbol "."]) nothing, symbol "*"]
  let column := seq [notAhead (seq [keyword "FROM", notAhead (symbol "(")]), g.any,
    aliasExcept noColumnAlias]
  oneOf [seq [wildcard, g.wildcardOptions], column]

/-- The columns of a result. The last one may be followed by a comma. -/
def projection (g : Grammar) : Reader :=
  let ends := oneOf [atEnd, keywordIn noColumnAlias,
    token fun
      | .symbol s => [")", ";", "]", "\x7d"].contains s
      | _ => false]
  seq [g.selectItem, repeatAfter (seq [symbol ",", notAhead ends]) g.selectItem,
    optional (seq [symbol ",", ahead ends])]

def joinConstraint (g : Grammar) : Reader :=
  ifElse (keyword "ON") g.any (after (keyword "USING") nameList)

def joinWords : Reader :=
  let side := seq [keywordIn ["LEFT", "RIGHT"],
    ifElse (keywordIn ["OUTER", "SEMI", "ANTI"]) (keyword "JOIN") (keyword "JOIN")]
  seq [optional (keyword "NATURAL"), oneOf [
    seq [optional (keyword "INNER"), keyword "JOIN"], side,
    seq [keywordIn ["ANTI", "SEMI"], keyword "JOIN"],
    seq [keyword "FULL", optional (keyword "OUTER"), keyword "JOIN"],
    keyword "STRAIGHT_JOIN"]]

def tableSample (g : Grammar) : Reader :=
  after (keywordIn ["TABLESAMPLE", "SAMPLE"]) <| seq [
    optional (keywordIn ["BERNOULLI", "ROW", "SYSTEM", "BLOCK"]),
    parens (seq [optional (keyword "BUCKET"), g.any, optional (keywordIn ["ROWS", "PERCENT"])]),
    after (keywordIn ["REPEATABLE", "SEED"]) (parens value)]

/-- A table whose values become columns, or whose columns become values. -/
def pivot (g : Grammar) : Reader :=
  let renamed := optional (seq [keyword "AS", name])
  let member := seq [g.any, renamed]
  let subject := g.expression Precedence.comparison
  let members := ifElse (keyword "ANY") g.orderBy <|
    ifElse (ahead (keywordIn ["SELECT", "WITH"])) g.query (commaSeparated member)
  let toColumns := parens (seq [commaSeparated (seq [name, g.call, renamed]), keyword "FOR",
    ifElse (ahead (symbol "(")) (tuple subject) subject, keyword "IN", parens members,
    after (keywords ["DEFAULT", "ON", "NULL"]) (parens g.any)])
  let toValues := seq [after (keywordIn ["INCLUDE", "EXCLUDE"]) (keyword "NULLS"),
    parens (seq [g.any, keyword "FOR", name, keyword "IN", tuple member])]
  repeatAfter (ahead (keywordIn ["PIVOT", "UNPIVOT"])) <|
    seq [ifElse (keyword "PIVOT") toColumns (seq [keyword "UNPIVOT", toValues]), tableAlias]

/-- A table named, called as a function or written out, where `nested` reads tables and joins in
parentheses. -/
def tableFactor (g : Grammar) (nested : Reader) : Reader :=
  let derived := seq [g.query, symbol ")", tableAlias]
  let grouped := seq [nested, symbol ")", tableAlias]
  let arguments := oneOf [parens nothing, g.arguments]
  ifElse (keyword "LATERAL") (ifElse (symbol "(") derived
    (seq [qualifiedName, arguments, tableAlias])) <|
  ifElse (seq [keyword "TABLE", symbol "("]) (seq [g.any, symbol ")", tableAlias]) <|
  ifElse (symbol "(") (oneOf [seq [derived, g.pivot], grouped]) <|
  ifElse (seq [keyword "VALUES", ahead (symbol "(")])
    (seq [commaSeparated (parens (optional (commaSeparated g.any))), tableAlias]) <|
  ifElse (keyword "UNNEST") (seq [tuple g.any, optional (keywords ["WITH", "ORDINALITY"]),
    tableAlias, after (keywords ["WITH", "OFFSET"]) tableAlias]) <|
  seq [qualifiedName, after (keyword "PARTITION") (tuple name),
    after (ahead (symbol "(")) (seq [arguments, after (keyword "SETTINGS") nothing]),
    optional (keywords ["WITH", "ORDINALITY"]), tableAlias,
    after (seq [keyword "WITH", symbol "("]) (seq [commaSeparated g.any, symbol ")"]),
    g.tableSample, g.pivot]

/-- A table and the tables joined to it. Parentheses around joins nest at most `fuel` deep. -/
def tableAndJoins (g : Grammar) : Nat → Reader
  | 0 => refuse
  | fuel + 1 =>
    let factor := g.tableFactor (g.tableAndJoins fuel)
    let crossed := seq [optional (keyword "GLOBAL"), oneOf [
      seq [keyword "CROSS", keywordIn ["JOIN", "APPLY"]], keywords ["OUTER", "APPLY"]]]
    let asOf := keywords ["ASOF", "JOIN"]
    seq [factor, repeatAfter (ahead (oneOf [crossed, asOf,
      seq [optional (keyword "GLOBAL"), joinWords]])) <|
      ifElse crossed factor <|
      ifElse asOf (seq [factor, keyword "MATCH_CONDITION", parens g.any, g.joinConstraint]) <|
      seq [optional (keyword "GLOBAL"), joinWords, factor, g.joinConstraint]]

def maxJoinDepth : Nat := 50

def tables (g : Grammar) : Reader :=
  commaSeparated (g.tableAndJoins maxJoinDepth)

def groupBy (g : Grammar) : Reader :=
  let sets := tuple (oneOf [parens (optional (commaSeparated g.any)), g.any])
  let item := oneOf [seq [keywords ["GROUPING", "SETS"], sets],
    seq [keywordIn ["CUBE", "ROLLUP"], sets], parens nothing, g.any]
  after (keywords ["GROUP", "BY"]) <| seq [ifElse (keyword "ALL") nothing (commaSeparated item),
    repeatAfter (keyword "WITH") (keywordIn ["ROLLUP", "CUBE", "TOTALS"]),
    after (keywords ["GROUPING", "SETS"]) sets]

/-- `DISTINCT`, or nothing. All rows and distinct rows cannot both be asked for. -/
def distinct (g : Grammar) : Reader :=
  seq [ifElse (keyword "ALL") (notAhead (keyword "DISTINCT")) (after (keyword "DISTINCT")
    (after (keyword "ON") (parens (optional (commaSeparated g.any)))))]

def connectBy (g : Grammar) : Reader :=
  let starting := seq [keywords ["START", "WITH"], g.any]
  let connecting := seq [keywords ["CONNECT", "BY"], optional (keyword "NOCYCLE"),
    commaSeparated g.any]
  oneOf [seq [starting, connecting], seq [connecting, optional starting], nothing]

def selectClauses (g : Grammar) : Reader :=
  let window := after (keyword "WINDOW") (commaSeparated (seq [name, keyword "AS",
    ifElse (symbol "(") g.windowBody name]))
  let qualify := after (keyword "QUALIFY") g.any
  seq [
    repeatAfter (keywords ["LATERAL", "VIEW"]) (seq [optional (keyword "OUTER"), g.any,
      qualifiedName, after (keyword "AS") (commaSeparated name)]),
    after (keyword "PREWHERE") g.any, after (keyword "WHERE") g.any, g.connectBy, g.groupBy,
    after (keywords ["CLUSTER", "BY"]) (commaSeparated g.any),
    after (keywords ["DISTRIBUTE", "BY"]) (commaSeparated g.any),
    after (keywords ["SORT", "BY"]) (commaSeparated g.orderItem),
    after (keyword "HAVING") g.any,
    ifElse (ahead (keyword "WINDOW")) (seq [window, qualify]) (seq [qualify, window]),
    g.connectBy]

def select (g : Grammar) : Reader :=
  let top := after (keyword "TOP") (seq [ifElse (symbol "(") (seq [g.any, symbol ")"])
    (token (· = .number)), optional (keyword "PERCENT"), optional (keywords ["WITH", "TIES"])])
  let into := after (keyword "INTO") (seq [optional (keywordIn ["TEMPORARY", "TEMP"]),
    optional (keyword "UNLOGGED"), optional (keyword "TABLE"), qualifiedName])
  let columns := seq [keyword "SELECT", g.distinct, top,
    ifElse (ahead (keyword "FROM")) nothing g.projection, into]
  ifElse (keyword "FROM")
    (seq [g.tables, after (ahead (keyword "SELECT")) (seq [columns, g.selectClauses])])
    (seq [columns, after (keyword "FROM") g.tables, g.selectClauses])

def setOperand (g : Grammar) : Reader :=
  ifElse (ahead (keywordIn ["SELECT", "FROM"])) g.select <|
  ifElse (symbol "(") (seq [g.query, symbol ")"]) <|
  ifElse (keywordIn ["VALUES", "VALUE"]) (commaSeparated (seq [optional (keyword "ROW"),
    parens (optional (commaSeparated g.any))])) <|
  seq [keyword "TABLE", name, optional (seq [symbol ".", name])]

def setExpression (g : Grammar) : Reader :=
  let quantifier := seq [optional (keywordIn ["ALL", "DISTINCT"]), optional (keywords ["BY", "NAME"])]
  seq [g.setOperand, repeatAfter (keywordIn ["UNION", "EXCEPT", "INTERSECT", "MINUS"])
    (seq [quantifier, g.setOperand])]

def limit (g : Grammar) : Reader :=
  let offset := after (keyword "OFFSET") (seq [g.any, optional (keywordIn ["ROW", "ROWS"])])
  let count := seq [ifElse (keyword "ALL") nothing (seq [g.any, after (symbol ",") g.any]),
    after (keyword "BY") (commaSeparated g.any)]
  ifElse (ahead (keyword "OFFSET")) (seq [offset, after (keyword "LIMIT") count])
    (seq [after (keyword "LIMIT") count, offset])

def queryTail (g : Grammar) : Reader :=
  let interpolated := after (keyword "INTERPOLATE") (parens nothing)
  let fetch := after (keyword "FETCH") (seq [keywordIn ["FIRST", "NEXT"],
    ifElse (ahead (keywordIn ["ROW", "ROWS"])) nothing (seq [value, optional (keyword "PERCENT")]),
    keywordIn ["ROW", "ROWS"], oneOf [keyword "ONLY", keywords ["WITH", "TIES"]]])
  let lock := seq [keywordIn ["UPDATE", "SHARE"], after (keyword "OF") qualifiedName,
    optional (oneOf [keyword "NOWAIT", keywords ["SKIP", "LOCKED"]])]
  seq [g.orderBy, interpolated, g.limit,
    after (keyword "SETTINGS") (commaSeparated (seq [name, symbol "=", g.any])), fetch,
    repeatAfter (keyword "FOR") lock, after (keyword "FORMAT") name]

def namedQuery (g : Grammar) : Reader :=
  seq [name, optional (tuple (seq [name, optional (dataType maxTypeDepth)])), keyword "AS",
    g.subquery, after (keyword "FROM") name]

def withClause (g : Grammar) : Reader :=
  after (keyword "WITH") (seq [optional (keyword "RECURSIVE"), commaSeparated g.namedQuery])

end Grammar

end LookML.Sql
