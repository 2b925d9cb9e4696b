import LookML.Library.Sql.Reader
/-!
# SQL data types

The names of types, which may consist of several words and take arguments.
-/

namespace LookML.Sql.Reader

def typeArguments : Reader :=
  parens <| commaSeparated <| many <| token fun
    | .word _ | .number | .string => true
    | _ => false

def typeWords : List String :=
  ["BOOLEAN", "BOOL", "FLOAT", "FLOAT4", "FLOAT8", "FLOAT32", "FLOAT64", "REAL", "DOUBLE",
    "TINYINT", "SMALLINT", "MEDIUMINT", "INT", "INT2", "INT4", "INT8", "INT16", "INT32", "INT64",
    "INT128", "INT256", "UINT8", "UINT16", "UINT32", "UINT64", "UINT128", "UINT256", "INTEGER",
    "BIGINT", "HUGEINT", "VARCHAR", "NVARCHAR", "CHARACTER", "CHAR", "CLOB", "BINARY",
    "VARBINARY", "BLOB", "BYTES", "BYTEA", "UUID", "DATE", "DATETIME", "TIMESTAMP",
    "TIMESTAMPTZ", "TIME", "TIMETZ", "JSON", "JSONB", "REGCLASS", "STRING", "TEXT", "NUMERIC",
    "DECIMAL", "DEC", "BIGNUMERIC", "BIGDECIMAL", "BIT", "VARBIT"]

def typeTail : Reader :=
  seq [optional (keywordIn ["PRECISION", "VARYING"]), optional (keywords ["LARGE", "OBJECT"]),
    optional typeArguments,
    after (keywords ["WITH", "TIME", "ZONE"]) nothing,
    after (keywords ["WITHOUT", "TIME", "ZONE"]) nothing,
    optional (keywordIn ["UNSIGNED", "SIGNED"]),
    repeatAfter (symbol "[") (seq [optional (token (· = .number)), symbol "]"])]

def builtInType : Reader :=
  seq [keywordIn typeWords, typeTail]

/-- A type, which may be any name. Types in angle brackets nest, with `fuel` as the limit. -/
def dataType : Nat → Reader
  | 0 => refuse
  | fuel + 1 =>
    let field := oneOf [seq [name, dataType fuel], dataType fuel]
    let closing : Reader
      | .symbol ">" :: ts => some ts
      | .symbol ">>" :: ts => some (.symbol ">" :: ts)
      | _ => none
    oneOf [
      seq [keywordIn ["ARRAY", "STRUCT", "MAP"], symbol "<", commaSeparated field, closing],
      seq [keywordIn ["ARRAY", "NULLABLE", "LOWCARDINALITY", "STRUCT", "TUPLE", "NESTED", "MAP",
        "UNION"], symbol "(", commaSeparated field, symbol ")"],
      seq [keywordIn ["SIGNED", "UNSIGNED"], optional (keyword "INTEGER")],
      builtInType,
      seq [qualifiedName, typeTail]]

def maxTypeDepth : Nat := 50

end LookML.Sql.Reader
