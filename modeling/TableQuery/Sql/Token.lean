/-
# TableQuery.Sql.Token — the tokens of the query language.

A token is a word, a quoted name, a text, a number, a hexadecimal string or a sign.  Words are
keywords or names by where they stand: the classes of words below say which words can never be a
name, which can name a column but not rename a table, and which name a type of values.

## §A — tokens.
## §B — classes of words.
-/
import TableQuery.Text.Case

namespace TableQuery
namespace Sql

/-! ## §A — tokens -/

/-- A token.  A word keeps its spelling and has its capitals as key; two words that form one
keyword are one word whose key has one space.  A question mark remembers how many stand before it in
the text, and a semicolon whether a comment belongs to it. -/
inductive Token where
  | word (text key : String)
  | quoted (text : String)
  | string (text : String)
  | national (text : String)
  | number (text : String)
  | hex (text : String)
  | sign (text : String)
  | question (place : Nat)
  | semicolon (commented : Bool)
  deriving DecidableEq, Repr

namespace Token

/-- The word of a spelling. -/
def ofWord (text : String) : Token :=
  .word text (String.ofList (Text.upper text.toList))

/-- Whether the token is the given word. -/
def isWord (t : Token) (key : String) : Bool :=
  match t with
  | .word _ k => k == key
  | _ => false

/-- Whether the token is the given sign. -/
def isSign (t : Token) (text : String) : Bool :=
  match t with
  | .sign s => s == text
  | _ => false

end Token

/-! ## §B — classes of words -/

namespace Words

/-- Pairs of words that form one keyword. -/
def pairs : List String :=
  ["CHARACTER SET", "CHARACTER VARYING", "CHAR VARYING", "CLUSTER BY", "CONNECT BY",
   "DISTRIBUTE BY", "DOUBLE PRECISION", "FOREIGN KEY", "GROUP BY", "GROUPING SETS", "INDEXED BY",
   "ORDER BY", "PARTITION BY", "PARTITIONED BY", "PRIMARY KEY", "SIMILAR TO", "SORT BY",
   "START WITH"]

/-- Words that never stand for a name. -/
def reserved : List String :=
  ["ALTER", "AND", "AS", "BETWEEN", "CHARACTER SET", "CLUSTER BY", "CONNECT BY", "CREATE", "CROSS",
   "DISTINCT", "DISTRIBUTE BY", "DROP", "ELSE", "EXCEPT", "FETCH", "FOR", "FROM", "GLOB", "GRANT",
   "GROUP BY", "GROUPING SETS", "HAVING", "ILIKE", "IN", "INDEXED BY", "INNER", "INSERT",
   "INTERSECT", "INTO", "JOIN", "LATERAL", "LIKE", "MATCH", "NOT", "NOTNULL", "NULL", "ON", "OR",
   "ORDER BY", "OUTER", "OVER", "PARTITION BY", "PARTITIONED BY", "PRIMARY KEY", "QUALIFY",
   "REGEXP", "RETURNING", "RLIKE", "ROLLBACK", "SELECT", "SIMILAR TO", "SORT BY", "START WITH",
   "STRAIGHT_JOIN", "TABLESAMPLE", "THEN", "UNCACHE", "UNION", "USING", "VALUES", "WHEN", "WHERE",
   "WITH", "XOR"]

/-- Words that mean something in some place and are names elsewhere. -/
def contextual : List String :=
  ["ALL", "ANALYZE", "ANTI", "ANY", "APPLY", "ARRAY", "ASC", "ASOF", "ATTACH", "AUTOINCREMENT",
   "AUTO_INCREMENT", "BEGIN", "CACHE", "CALL", "CASE", "COLLATE", "COLUMN", "COMMENT", "COMMIT",
   "CONSTRAINT", "COPY", "CUBE", "CURRENT_CATALOG", "CURRENT_DATE", "CURRENT_SCHEMA",
   "CURRENT_TIME", "CURRENT_TIMESTAMP", "CURRENT_USER", "DATABASE", "DEFAULT", "DELETE", "DESC",
   "DESCRIBE", "DETACH", "DIV", "END", "ENUM", "ESCAPE", "EXECUTE", "EXISTS", "EXPLAIN", "FALSE",
   "FILE", "FILTER", "FIRST", "FOREIGN KEY", "FORMAT", "FULL", "FUNCTION", "INDEX", "INTERVAL",
   "IS", "ISNULL", "KEEP", "KILL", "LEFT", "LIMIT", "LOAD", "LOCALTIME", "LOCALTIMESTAMP", "LOCK",
   "MERGE", "NAMESPACE", "NATURAL", "NEXT", "OBJECT", "OFFSET", "OPERATOR", "OPTIMIZE",
   "ORDINALITY", "OVERLAPS", "OVERWRITE", "PARTITION", "PERCENT", "PIVOT", "PRAGMA", "PREPARE",
   "PROCEDURE", "RANGE", "RECURSIVE", "REFERENCES", "RENAME", "REPLACE", "REVOKE", "RIGHT",
   "ROLLUP", "ROW", "ROWS", "SCHEMA", "SEMI", "SEQUENCE", "SESSION", "SESSION_USER", "SET",
   "SETTINGS", "SHOW", "SOME", "STRUCT", "TABLE", "TEMP", "TEMPORARY", "TRIGGER", "TRUE",
   "TRUNCATE", "UNKNOWN", "UNNEST", "UNPIVOT", "UPDATE", "USE", "VACUUM", "VIEW", "VOLATILE",
   "WINDOW"]

/-- Words that name a type, with the name under which the type is written. -/
def types : List (String × String) :=
  [("BIGINT", "BIGINT"), ("BINARY", "BINARY"), ("BIT", "BIT"), ("BLOB", "VARBINARY"),
   ("BOOL", "BOOLEAN"), ("BOOLEAN", "BOOLEAN"), ("BPCHAR", "BPCHAR"), ("BYTE", "TINYINT"),
   ("BYTEA", "VARBINARY"), ("CHAR", "CHAR"), ("CHAR VARYING", "VARCHAR"), ("CHARACTER", "CHAR"),
   ("CHARACTER VARYING", "VARCHAR"), ("CLOB", "TEXT"), ("DATE", "DATE"), ("DATETIME", "DATETIME"),
   ("DEC", "DECIMAL"), ("DECIMAL", "DECIMAL"), ("DOUBLE", "DOUBLE"),
   ("DOUBLE PRECISION", "DOUBLE"), ("FLOAT", "FLOAT"), ("FLOAT4", "FLOAT"), ("FLOAT8", "DOUBLE"),
   ("GEOGRAPHY", "GEOGRAPHY"), ("GEOMETRY", "GEOMETRY"), ("HUGEINT", "INT128"), ("INET", "INET"),
   ("INT", "INT"), ("INT1", "TINYINT"), ("INT2", "SMALLINT"), ("INT4", "INT"), ("INT8", "BIGINT"),
   ("INT128", "INT128"), ("INTEGER", "INT"), ("JSON", "JSON"), ("JSONB", "JSONB"),
   ("LONGBLOB", "BLOB"), ("LONGTEXT", "TEXT"), ("LONGVARCHAR", "TEXT"), ("MAP", "MAP"),
   ("MEDIUMBLOB", "BLOB"), ("MEDIUMINT", "MEDIUMINT"), ("MEDIUMTEXT", "TEXT"), ("NCHAR", "CHAR"),
   ("NUMERIC", "DECIMAL"), ("NVARCHAR", "VARCHAR"), ("NVARCHAR2", "VARCHAR"), ("REAL", "FLOAT"),
   ("SHORT", "SMALLINT"), ("SMALLDATETIME", "TIMESTAMP"), ("SMALLINT", "SMALLINT"),
   ("STR", "TEXT"), ("STRING", "TEXT"), ("SUPER", "SUPER"), ("TEXT", "TEXT"), ("TIME", "TIME"),
   ("TIMESTAMP", "TIMESTAMP"), ("TIMESTAMPTZ", "TIMESTAMPTZ"), ("TIMETZ", "TIMETZ"),
   ("TINYBLOB", "BLOB"), ("TINYINT", "TINYINT"), ("TINYTEXT", "TEXT"), ("UINT", "UINT"),
   ("UUID", "UUID"), ("VARBINARY", "VARBINARY"), ("VARCHAR", "VARCHAR"), ("VARCHAR2", "VARCHAR"),
   ("VARIANT", "VARIANT"), ("VECTOR", "VECTOR"), ("XML", "XML"), ("YEAR", "YEAR")]

/-- Words that introduce a join and so rename no table. -/
def joining : List String :=
  ["ANTI", "ASOF", "FULL", "LEFT", "LOCK", "NATURAL", "RIGHT", "SEMI", "WINDOW"]

/-- Words that begin the clause behind them and so rename nothing. -/
def cutting : List String := ["LIMIT", "OFFSET"]

/-- Words that may be the name of a function although they mean something else elsewhere. -/
def callable : List String :=
  ["GLOB", "ILIKE", "INSERT", "LIKE", "PRIMARY KEY", "REGEXP", "RLIKE", "XOR"]

/-- Words of the second class that are never the name of a function. -/
def uncallable : List String :=
  ["ANTI", "APPLY", "ASC", "ASOF", "AUTOINCREMENT", "AUTO_INCREMENT", "BEGIN", "CACHE", "CASE",
   "COLUMN", "COMMENT", "COMMIT", "CONSTRAINT", "COPY", "CUBE", "DATABASE", "DEFAULT", "DELETE",
   "DESC", "DESCRIBE", "DETACH", "ATTACH", "DIV", "END", "ESCAPE", "EXECUTE", "FALSE",
   "FOREIGN KEY", "FULL", "FUNCTION", "INTERVAL", "IS", "KEEP", "KILL", "LIMIT", "LOAD", "LOCK",
   "NATURAL", "OPERATOR", "ORDINALITY", "OVERLAPS", "OVERWRITE", "PARTITION", "PERCENT", "PIVOT",
   "PRAGMA", "PROCEDURE", "RECURSIVE", "REFERENCES", "RENAME", "ROLLUP", "ROWS", "SCHEMA", "SEMI",
   "SET", "SETTINGS", "SHOW", "TEMP", "TEMPORARY", "TRIGGER", "TRUE", "UNPIVOT", "UPDATE", "USE",
   "VIEW", "VOLATILE"]

/-- Whether a word can be a name. -/
def canName (key : String) : Bool := !reserved.contains key

/-- Whether a word means something to the grammar anywhere. -/
def isKnown (key : String) : Bool :=
  reserved.contains key || contextual.contains key || (types.lookup key).isSome

/-- Whether a word can rename a table. -/
def canRenameTable (key : String) : Bool :=
  canName key && !joining.contains key && !cutting.contains key

/-- Whether a word can rename an expression. -/
def canRename (key : String) : Bool := canName key && !cutting.contains key

/-- Whether a word can be the name of a function. -/
def canCall (key : String) : Bool :=
  callable.contains key || (canName key && !uncallable.contains key)

end Words
end Sql
end TableQuery
