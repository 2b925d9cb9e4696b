import LookML.Library.Sql.Type
/-!
# SQL expressions

Operands and operators, read by precedence climbing. Expressions and queries contain each other: a
`Grammar` holds the readers for what is one level further in.
-/

namespace LookML.Sql

/-- The readers for nested expressions, by the precedence that their operators must exceed, and for
nested queries. -/
structure Grammar where
  expression : Nat → Reader
  query : Reader

namespace Precedence

def or : Nat := 5
def and : Nat := 10
def not : Nat := 15
def access : Nat := 16
def is : Nat := 17
def like : Nat := 19
def comparison : Nat := 20
def bitOr : Nat := 21
def bitShift : Nat := 22
def bitAnd : Nat := 23
def xor : Nat := 24
def sum : Nat := 30
def product : Nat := 40
def timeZone : Nat := 41
def cast : Nat := 50

def ofSymbol : String → Nat
  | ":=" | "=" | "<" | "<=" | "<>" | "!=" | ">" | ">=" | "==" | "<=>" | "~" | "~*" | "!~" | "!~*"
  | "~~" | "~~*" | "!~~" | "!~~*" => comparison
  | "|" => bitOr
  | "^" | "#" | "<<" | ">>" => bitShift
  | "&" => bitAnd
  | "+" | "-" => sum
  | "*" | "/" | "//" | "%" | "||" => product
  | "::" | "&&" | "^@" => cast
  | "->" | "->>" | "#>" | "#>>" | "@>" | "<@" | "#-" | "@?" | "@@" => access
  | _ => 0

def ahead : List Token → Nat
  | .symbol s :: _ => ofSymbol s
  | .word "OR" :: _ => or
  | .word "AND" :: _ => and
  | .word "XOR" :: _ => xor
  | .word "AT" :: .word "TIME" :: .word "ZONE" :: _ => timeZone
  | .word "NOT" :: .word k :: _ =>
    if k ∈ ["IN", "BETWEEN"] then comparison
    else if k ∈ ["LIKE", "ILIKE", "SIMILAR", "REGEXP", "RLIKE"] then like
    else 0
  | .word "IS" :: _ => is
  | .word k :: _ =>
    if k ∈ ["IN", "BETWEEN", "OVERLAPS"] then comparison
    else if k ∈ ["LIKE", "ILIKE", "SIMILAR", "REGEXP", "RLIKE"] then like
    else if k = "DIV" then product
    else 0
  | _ => 0

end Precedence

open Reader

namespace Grammar

def any (g : Grammar) : Reader :=
  g.expression 0

def subquery (g : Grammar) : Reader :=
  parens g.query

def value : Reader :=
  oneOf [token fun
      | .string | .literal | .number | .placeholder => true
      | _ => false,
    keywordIn ["TRUE", "FALSE", "NULL"]]

def dateField : Reader :=
  token fun
    | .word _ | .string => true
    | _ => false

def timeUnits : List String :=
  ["YEAR", "YEARS", "MONTH", "MONTHS", "WEEK", "WEEKS", "DAY", "DAYS", "DAYOFWEEK", "DAYOFYEAR",
    "DATE", "DATETIME", "HOUR", "HOURS", "MINUTE", "MINUTES", "SECOND", "SECONDS", "CENTURY",
    "DECADE", "DOW", "DOY", "EPOCH", "ISODOW", "ISOYEAR", "ISOWEEK", "JULIAN", "MICROSECOND",
    "MICROSECONDS", "MILLENIUM", "MILLENNIUM", "MILLISECOND", "MILLISECONDS", "NANOSECOND",
    "NANOSECONDS", "QUARTER", "TIME", "TIMEZONE", "TIMEZONE_ABBR", "TIMEZONE_HOUR",
    "TIMEZONE_MINUTE", "TIMEZONE_REGION"]

/-- The order that rows are put in: an expression with a direction and a place for nulls. -/
def orderItem (g : Grammar) : Reader :=
  seq [g.any, optional (keywordIn ["ASC", "DESC"]),
    after (keyword "NULLS") (keywordIn ["FIRST", "LAST"])]

def orderBy (g : Grammar) : Reader :=
  after (keywords ["ORDER", "BY"]) (commaSeparated g.orderItem)

def wildcardOr (g : Grammar) : Reader :=
  oneOf [symbol "*", seq [name, symbol ".", repeatAfter (seq [name, symbol "."]) nothing,
    symbol "*"], g.any]

def argument (g : Grammar) : Reader :=
  oneOf [seq [name, oneOf [symbol "=>", symbol ":="], g.wildcardOr], g.wildcardOr]

def arguments (g : Grammar) : Reader :=
  parens <| ifElse (ahead (symbol ")")) nothing <| seq [
    optional (keywordIn ["ALL", "DISTINCT"]), commaSeparated g.argument,
    after (keywordIn ["IGNORE", "RESPECT"]) (keyword "NULLS"), g.orderBy,
    after (keyword "LIMIT") g.any,
    after (keyword "HAVING") (seq [keywordIn ["MIN", "MAX"], g.any]),
    after (keyword "SEPARATOR") value]

def frameBound (g : Grammar) : Reader :=
  ifElse (keywords ["CURRENT", "ROW"]) nothing <|
    seq [oneOf [keyword "UNBOUNDED", g.any], keywordIn ["PRECEDING", "FOLLOWING"]]

def windowBody (g : Grammar) : Reader :=
  let units := keywordIn ["ROWS", "RANGE", "GROUPS"]
  let startsClause := oneOf [keywords ["PARTITION", "BY"], keywords ["ORDER", "BY"], units,
    symbol ")"]
  seq [ifElse (ahead startsClause) nothing (optional name),
    after (keywords ["PARTITION", "BY"]) (commaSeparated g.any), g.orderBy,
    after units (ifElse (keyword "BETWEEN")
      (seq [g.frameBound, keyword "AND", g.frameBound]) g.frameBound),
    symbol ")"]

def call (g : Grammar) : Reader :=
  seq [g.arguments,
    after (keywords ["WITHIN", "GROUP"]) (parens (seq [ahead (keyword "ORDER"), g.orderBy])),
    after (seq [keyword "FILTER", symbol "(", keyword "WHERE"]) (seq [g.any, symbol ")"]),
    after (keywordIn ["IGNORE", "RESPECT"]) (keyword "NULLS"),
    after (keyword "OVER") (ifElse (symbol "(") g.windowBody name)]

/-- What may follow an operand directly: members, calls and elements. -/
def accesses (g : Grammar) : Reader :=
  let called := after (ahead (symbol "(")) g.call
  let position := seq [optional g.any, repeatAfter (symbol ":") (optional g.any)]
  repeatAfter (ahead (oneOf [symbol ".", symbol "["])) <|
    ifElse (symbol ".") (seq [name, called]) (seq [symbol "[", position, symbol "]"])

def caseBody (g : Grammar) : Reader :=
  let branch := seq [g.any, keyword "THEN", g.any]
  seq [ifElse (keyword "WHEN") branch (seq [g.any, keyword "WHEN", branch]),
    repeatAfter (keyword "WHEN") branch, after (keyword "ELSE") g.any, keyword "END"]

def precision : Reader :=
  after (symbol "(") (seq [token (· = .number), optional (seq [symbol ",", token (· = .number)]),
    symbol ")"])

def arrayItems (g : Grammar) : Reader :=
  seq [symbol "[", optional (commaSeparated g.any), symbol "]"]

def special (g : Grammar) (operand : Reader) : Reader :=
  oneOf [
    keywordIn ["TRUE", "FALSE", "NULL", "CURRENT_CATALOG", "CURRENT_USER", "SESSION_USER", "USER"],
    seq [keywordIn ["CURRENT_TIMESTAMP", "CURRENT_TIME", "CURRENT_DATE", "LOCALTIME",
      "LOCALTIMESTAMP"], after (ahead (symbol "(")) g.arguments],
    seq [keyword "CASE", g.caseBody],
    seq [keywordIn ["CAST", "TRY_CAST", "SAFE_CAST"], parens (seq [g.any, keyword "AS",
      dataType maxTypeDepth, after (keyword "FORMAT") (seq [value,
        after (keywords ["AT", "TIME", "ZONE"]) value])])],
    seq [keyword "EXISTS", g.subquery],
    seq [keyword "EXTRACT", parens (seq [dateField, optional precision,
      oneOf [keyword "FROM", symbol ","], g.any])],
    seq [keywordIn ["CEIL", "FLOOR"], parens (seq [g.any,
      ifElse (keyword "TO") dateField (after (symbol ",") value)])],
    seq [keyword "POSITION", parens (seq [g.expression Precedence.comparison, keyword "IN", g.any])],
    seq [keywordIn ["SUBSTRING", "SUBSTR"], parens (seq [g.any,
      after (oneOf [keyword "FROM", symbol ","]) g.any,
      after (oneOf [keyword "FOR", symbol ","]) g.any])],
    seq [keyword "OVERLAY", parens (seq [g.any, keyword "PLACING", g.any, keyword "FROM", g.any,
      after (keyword "FOR") g.any])],
    seq [keyword "TRIM", parens (seq [optional (keywordIn ["BOTH", "LEADING", "TRAILING"]), g.any,
      ifElse (keyword "FROM") g.any (after (symbol ",") (commaSeparated g.any))])],
    seq [keyword "INTERVAL", operand, after (keywordIn timeUnits) (seq [precision,
      after (keyword "TO") (seq [dateField, precision])])],
    seq [keyword "ARRAY", oneOf [g.arrayItems, g.subquery]],
    seq [keyword "NOT", ifElse (keyword "EXISTS") g.subquery (g.expression Precedence.not)],
    seq [keyword "MATCH", nameList, keyword "AGAINST", symbol "(", value,
      optional (keywords ["IN", "NATURAL", "LANGUAGE", "MODE"]),
      optional (keywords ["IN", "BOOLEAN", "MODE"]),
      optional (keywords ["WITH", "QUERY", "EXPANSION"]), symbol ")"],
    seq [keyword "STRUCT", optional (seq [symbol "<", commaSeparated (seq [name,
      dataType maxTypeDepth]), symbol ">"]), tuple (seq [g.any, after (keyword "AS") name])],
    seq [keyword "PRIOR", g.expression Precedence.sum],
    seq [keyword "MAP", symbol "\x7b", optional (commaSeparated (seq [g.any, symbol ":", g.any])),
      symbol "\x7d"]]

def neverIdentifiers : List String :=
  ["EXISTS", "INTERVAL", "STRUCT", "TRIM"]

/-- An identifier, called as a function if parentheses follow, or a function of one parameter. -/
def identifier (g : Grammar) : Reader :=
  let head := token fun
    | .word k => !neverIdentifiers.contains k
    | .quotedName => true
    | _ => false
  seq [head, ifElse (ahead (symbol "(")) g.call (after (symbol "->") g.any)]

/-- What operators stand between. An interval's value is an operand again, at most `fuel` deep. -/
def operand (g : Grammar) : Nat → Reader
  | 0 => refuse
  | fuel + 1 => oneOf [
    seq [builtInType, value],
    special g (operand g fuel),
    g.identifier,
    value,
    g.arrayItems,
    seq [oneOf [symbol "+", symbol "-", symbol "~"], g.expression Precedence.product],
    seq [symbol "(", ifElse (ahead (keywordIn ["SELECT", "WITH"])) g.query (commaSeparated g.any),
      symbol ")"],
    seq [oneOf [symbol ":", symbol "@"], token fun
      | .word _ | .number => true
      | _ => false],
    seq [symbol "\x7b", optional (commaSeparated (seq [name, symbol ":", g.any])),
      symbol "\x7d"]]

def memberSet (g : Grammar) : Reader :=
  ifElse (keyword "UNNEST") (parens g.any) <|
    seq [symbol "(", oneOf [seq [g.query, ahead (symbol ")")], commaSeparated g.any], symbol ")"]

def wordOperation (g : Grammar) : Reader :=
  let escaped := seq [optional (keyword "ANY"), g.expression Precedence.like,
    after (keyword "ESCAPE") value]
  let negatable := [
    seq [keyword "IN", g.memberSet],
    seq [keyword "BETWEEN", g.expression Precedence.comparison, keyword "AND",
      g.expression Precedence.comparison],
    seq [keywordIn ["LIKE", "ILIKE"], escaped],
    seq [keywords ["SIMILAR", "TO"], g.expression Precedence.like,
      after (keyword "ESCAPE") value],
    seq [keywordIn ["REGEXP", "RLIKE"], g.expression Precedence.like]]
  oneOf ([
    seq [keyword "IS", optional (keyword "NOT"),
      ifElse (keywords ["DISTINCT", "FROM"]) g.any <|
        oneOf [keywordIn ["NULL", "TRUE", "FALSE", "UNKNOWN", "NORMALIZED"],
          seq [keyword "JSON", optional (keywordIn ["VALUE", "SCALAR", "ARRAY", "OBJECT"])]]],
    seq [keywords ["AT", "TIME", "ZONE"], g.expression Precedence.timeZone],
    seq [keyword "NOT", oneOf negatable]] ++ negatable)

/-- The operator ahead, of precedence `p`, and its right operand. A number sign has a precedence, but
it stands between no operands. -/
def operation (g : Grammar) (p : Nat) : Reader := fun
  | .symbol "::" :: ts => dataType maxTypeDepth ts
  | .symbol "#" :: _ => none
  | .symbol _ :: ts =>
    ifElse (seq [keywordIn ["ANY", "ALL", "SOME"], ahead (symbol "(")])
      (oneOf [g.subquery, parens g.any]) (g.expression p) ts
  | .word k :: ts =>
    if k ∈ ["OR", "AND", "XOR", "DIV", "OVERLAPS"] then g.expression p ts
    else g.wordOperation (.word k :: ts)
  | _ => none

def operations (g : Grammar) (p : Nat) : Reader := fun ts =>
  repeatAfter (fun ts => if p < Precedence.ahead ts then some ts else none)
    (fun ts => g.operation (Precedence.ahead ts) ts) ts

def expressionAbove (g : Grammar) (p : Nat) : Reader :=
  seq [g.operand 4, g.accesses, after (keyword "COLLATE") qualifiedName, g.operations p]

end Grammar

end LookML.Sql
