/-
# TableQuery.Sql.Functions — the functions that the grammar knows by name.

A known function has one name, whichever of its spellings is written, and takes a number of arguments
between two bounds; outside of them the text is refused.  A function that is not known keeps the name
written and takes any arguments.  Some functions are another way to write an operator.

## §A — names and bounds.
## §B — paths into documents.
## §C — a function and its arguments as a phrase.
-/
import TableQuery.Sql.Written

namespace TableQuery
namespace Sql

/-! ## §A — names and bounds -/

/-- A function that the grammar knows. -/
structure KnownFunction where
  /-- The spellings. -/
  spellings : List String
  /-- The name under which it is called. -/
  name : String
  /-- The fewest arguments. -/
  least : Nat
  /-- The most arguments, if there is a bound. -/
  most : Option Nat
  deriving DecidableEq, Repr

namespace KnownFunction

/-- Functions of one row. -/
def calls : List KnownFunction :=
  [⟨["ABS"], "ABS", 1, some 1⟩,
   ⟨["ACOS"], "ACOS", 1, some 1⟩,
   ⟨["ASIN"], "ASIN", 1, some 1⟩,
   ⟨["CEIL", "CEILING"], "CEIL", 1, some 3⟩,
   ⟨["CHAR", "CHR"], "CHR", 1, none⟩,
   ⟨["COALESCE", "IFNULL", "NVL"], "COALESCE", 1, none⟩,
   ⟨["CONCAT"], "CONCAT", 1, none⟩,
   ⟨["CONCAT_WS"], "CONCAT_WS", 1, none⟩,
   ⟨["COS"], "COS", 1, some 1⟩,
   ⟨["CURRENT_DATE"], "CURRENT_DATE", 0, some 1⟩,
   ⟨["CURRENT_TIME"], "CURRENT_TIME", 0, some 1⟩,
   ⟨["CURRENT_TIMESTAMP"], "CURRENT_TIMESTAMP", 0, some 2⟩,
   ⟨["CURRENT_USER"], "CURRENT_USER", 0, some 1⟩,
   ⟨["DATE"], "DATE", 0, none⟩,
   ⟨["DEGREES"], "DEGREES", 1, some 1⟩,
   ⟨["EXISTS"], "EXISTS", 1, some 2⟩,
   ⟨["EXP"], "EXP", 1, some 1⟩,
   ⟨["FLOOR"], "FLOOR", 1, some 3⟩,
   ⟨["FORMAT"], "FORMAT", 1, none⟩,
   ⟨["GREATEST"], "GREATEST", 1, none⟩,
   ⟨["HEX"], "HEX", 1, some 1⟩,
   ⟨["IF", "IIF"], "IF", 2, some 3⟩,
   ⟨["INSTR", "STRPOS"], "STR_POSITION", 2, some 4⟩,
   ⟨["LEAST"], "LEAST", 1, none⟩,
   ⟨["LEFT"], "LEFT", 2, some 2⟩,
   ⟨["LENGTH", "LEN", "CHAR_LENGTH", "CHARACTER_LENGTH"], "LENGTH", 1, some 3⟩,
   ⟨["LN"], "LN", 1, some 1⟩,
   ⟨["LOG"], "LOG", 1, some 2⟩,
   ⟨["LOWER", "LCASE"], "LOWER", 1, some 1⟩,
   ⟨["LTRIM"], "LTRIM", 1, some 2⟩,
   ⟨["MD5"], "MD5", 1, some 1⟩,
   ⟨["NULLIF"], "NULLIF", 2, some 2⟩,
   ⟨["PI"], "PI", 0, some 0⟩,
   ⟨["POWER", "POW"], "POWER", 2, some 2⟩,
   ⟨["RADIANS"], "RADIANS", 1, some 1⟩,
   ⟨["RANDOM", "RAND"], "RAND", 0, some 2⟩,
   ⟨["REPLACE"], "REPLACE", 2, some 3⟩,
   ⟨["RIGHT"], "RIGHT", 2, some 2⟩,
   ⟨["ROUND"], "ROUND", 1, some 3⟩,
   ⟨["ROW_NUMBER"], "ROW_NUMBER", 0, some 1⟩,
   ⟨["RTRIM"], "RTRIM", 1, some 2⟩,
   ⟨["SIGN", "SIGNUM"], "SIGN", 1, some 1⟩,
   ⟨["SIN"], "SIN", 1, some 1⟩,
   ⟨["SOUNDEX"], "SOUNDEX", 1, some 1⟩,
   ⟨["SQRT"], "SQRT", 1, some 1⟩,
   ⟨["SUBSTRING", "SUBSTR"], "SUBSTRING", 1, some 3⟩,
   ⟨["TAN"], "TAN", 1, some 1⟩,
   ⟨["TYPEOF"], "TYPEOF", 1, some 1⟩,
   ⟨["UNICODE"], "UNICODE", 1, some 1⟩,
   ⟨["UPPER", "UCASE"], "UPPER", 1, some 1⟩]

/-- Functions of many rows. -/
def aggregates : List KnownFunction :=
  [⟨["ANY_VALUE"], "ANYVALUE", 1, some 1⟩,
   ⟨["ARRAY_AGG"], "ARRAYAGG", 1, some 2⟩,
   ⟨["AVG"], "AVG", 1, some 1⟩,
   ⟨["COUNT"], "COUNT", 0, none⟩,
   ⟨["COUNTIF", "COUNT_IF"], "COUNTIF", 1, some 1⟩,
   ⟨["CUME_DIST"], "CUMEDIST", 0, none⟩,
   ⟨["DENSE_RANK"], "DENSERANK", 0, none⟩,
   ⟨["FIRST_VALUE"], "FIRSTVALUE", 1, some 1⟩,
   ⟨["GROUP_CONCAT", "STRING_AGG"], "GROUPCONCAT", 1, some 3⟩,
   ⟨["LAG"], "LAG", 1, some 3⟩,
   ⟨["LAST_VALUE"], "LASTVALUE", 1, some 1⟩,
   ⟨["LEAD"], "LEAD", 1, some 3⟩,
   ⟨["MAX"], "MAX", 1, none⟩,
   ⟨["MEDIAN"], "MEDIAN", 1, some 1⟩,
   ⟨["MIN"], "MIN", 1, none⟩,
   ⟨["NTH_VALUE"], "NTHVALUE", 2, some 2⟩,
   ⟨["NTILE"], "NTILE", 0, some 1⟩,
   ⟨["PERCENT_RANK"], "PERCENTRANK", 0, none⟩,
   ⟨["RANK"], "RANK", 0, none⟩,
   ⟨["STDDEV", "STDEV"], "STDDEV", 1, some 1⟩,
   ⟨["STDDEV_POP"], "STDDEVPOP", 1, some 1⟩,
   ⟨["STDDEV_SAMP"], "STDDEVSAMP", 1, some 1⟩,
   ⟨["SUM"], "SUM", 1, some 1⟩,
   ⟨["VARIANCE", "VAR_SAMP", "VARIANCE_SAMP"], "VARIANCE", 1, some 1⟩,
   ⟨["VAR_POP", "VARIANCE_POP"], "VARIANCEPOP", 1, some 1⟩]

/-- Finds a function by a spelling. -/
def find? (functions : List KnownFunction) (key : String) : Option KnownFunction :=
  functions.find? (·.spellings.contains key)

/-- Whether the function takes so many arguments. -/
def accepts (f : KnownFunction) (count : Nat) : Bool :=
  f.least ≤ count && (match f.most with
    | some most => count ≤ most
    | none => true)

end KnownFunction

/-! ## §B — paths into documents -/

/-- A path into a document: a text names a field unless it starts with the root, a number counts
from the start of a list. -/
def documentPath : Phrase → Phrase
  | .string text =>
    .other "JSONPath" (marked '\'' (if text.startsWith "$" then text else "$." ++ text)) []
  | .number text => .other "JSONPath" (marked '\'' ("$[" ++ text ++ "]")) []
  | p => p

/-! ## §C — a function and its arguments as a phrase -/

/-- An operand of an operator that is written as a function: an operation is put in parentheses. -/
def enclosed : Phrase → Phrase
  | .between op l r => .paren (.between op l r)
  | p => p

/-- Operators that may be written as functions, and functions that stand for calls of others. -/
def operatorForms : List String :=
  ["MOD", "GLOB", "LIKE", "LOG2", "LOG10", "JSON_EXTRACT", "STRFTIME"]

/-- Whether the grammar knows a function of that spelling. -/
def isKnownFunction (key : String) : Bool :=
  operatorForms.contains key || (KnownFunction.find? KnownFunction.calls key).isSome ||
    (KnownFunction.find? KnownFunction.aggregates key).isSome

/-- A known function under any spelling, if it takes so many arguments. -/
def ofKnown (key : String) (args : List Phrase) : Option (Option Phrase) :=
  match KnownFunction.find? KnownFunction.calls key with
  | some f => some (if f.accepts args.length then some (.call f.name args) else none)
  | none =>
    match KnownFunction.find? KnownFunction.aggregates key with
    | some f => some (if f.accepts args.length then some (.aggregate f.name args) else none)
    | none => none

/-- **A function and its arguments**; nothing if a known function does not take so many. -/
def Phrase.ofFunction (text : String) (quoted : Bool) (args : List Phrase) : Option Phrase :=
  match capitals text, args with
  | "MOD", l :: r :: _ => some (.between .mod (enclosed l) (enclosed r))
  | "MOD", _ => none
  | "GLOB", r :: l :: _ => some (.between .glob l r)
  | "GLOB", _ => none
  | "LIKE", [r, l] => some (.between .like l r)
  | "LIKE", r :: l :: mark :: _ => some (.escape (.between .like l r) mark)
  | "LIKE", _ => none
  | "LOG2", [x] => some (.call "LOG" [.number "2", x])
  | "LOG2", _ => none
  | "LOG10", [x] => some (.call "LOG" [.number "10", x])
  | "LOG10", _ => none
  | "JSON_EXTRACT", x :: path :: more => some (.call "JSON_EXTRACT" (x :: documentPath path :: more))
  | "JSON_EXTRACT", _ => none
  | "STRFTIME", [format] =>
    some (.call "TIME_TO_STR"
      [.call "TS_OR_DS_TO_TIMESTAMP" [.call "CURRENT_TIMESTAMP" []], format])
  | "STRFTIME", [format, x] =>
    some (.call "TIME_TO_STR" [.call "TS_OR_DS_TO_TIMESTAMP" [x], format])
  | key, args =>
    match ofKnown key args with
    | some known => known
    | none => some (.userCall text quoted args)

end Sql
end TableQuery
