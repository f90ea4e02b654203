/-
# TableQuery.Sql.Readers — the places where the grammar meets itself.

A phrase holds phrases and a query holds queries, so the rules of the grammar need each other.  Every
rule is a plain function of the record `Readers`, which holds the rules that may stand inside; the
record is tied to itself once, in `TableQuery.Sql.Grammar`.  A rule takes at least one token before it
turns to the record, so as many ties as there are tokens are enough.

## §A — the record.
## §B — names.
## §C — names of types.
-/
import TableQuery.Sql.Phrase
import TableQuery.Sql.Reader

namespace TableQuery
namespace Sql

/-! ## §A — the record -/

/-- Where a query is expected: whether it may stand in parentheses, whether a table may, and whether
UNION and its kin may follow. -/
structure QueryPlace where
  nested : Bool := false
  ofTable : Bool := false
  combined : Bool := true

/-- The rules that other rules have inside.  Each answers nothing where nothing of its kind starts. -/
structure Readers where
  /-- A phrase that may be renamed. -/
  phrase : Reader (Option Phrase)
  /-- A phrase without a new name, loosest operators first. -/
  condition : Reader (Option Phrase)
  /-- Comparisons for equality and what binds tighter. -/
  equality : Reader (Option Phrase)
  /-- Bit operators and what binds tighter. -/
  bitwise : Reader (Option Phrase)
  /-- Sums and what binds tighter. -/
  term : Reader (Option Phrase)
  /-- An operand with the operators before it. -/
  unary : Reader (Option Phrase)
  /-- A name or a value without what may follow it. -/
  reference : Reader (Option Phrase)
  /-- A query. -/
  query : QueryPlace → Reader (Option Phrase)
  /-- What can be read by a query. -/
  table : Reader Phrase
  /-- Joins, as many as there are. -/
  joins : Reader (List Phrase)
  /-- A phrase with the clauses behind it. -/
  clauses : Phrase → Reader Phrase
  /-- A whole statement. -/
  sentence : Reader (Option Sentence)

/-- No rule at all. -/
def Readers.none : Readers :=
  ⟨failure, failure, failure, failure, failure, failure, failure, fun _ => failure, failure, failure,
    fun _ => failure, failure⟩

/-! ## §B — names -/

namespace Reader

/-- A marker for a parameter: a question mark, or a colon and a word that means nothing else. -/
def marker : Reader (Option Phrase) := fun ts =>
  match ts with
  | .question place :: rest => some (some (.question place), rest)
  | .sign ":" :: .word text key :: rest =>
    if Words.isKnown key then some (none, ts) else some (some (.marker text), rest)
  | _ => some (none, ts)

/-- A name: quoted, or a word that `can` be one.  With `any` every word is a name, and so are texts
and numbers; only signs, NOT and SELECT are none. -/
def nameOf (any : Bool) (can : String → Bool) : Reader (Option Phrase) := fun ts =>
  match ts with
  | .quoted text :: rest => some (some (.name text true), rest)
  | .word text key :: rest =>
    if can key || (any && key != "NOT" && key != "SELECT") then some (some (.name text false), rest)
    else some (none, ts)
  | .string text :: rest => if any then some (some (.name text true), rest) else some (none, ts)
  | .national text :: rest | .number text :: rest | .hex text :: rest =>
    if any then some (some (.name text false), rest) else some (none, ts)
  | _ => marker ts

/-- A name in the usual sense. -/
def name : Reader (Option Phrase) := nameOf false Words.canName

/-- A text in the place of a name. -/
def stringName : Reader (Option Phrase) := fun ts =>
  match ts with
  | .string text :: rest => some (some (.name text true), rest)
  | _ => some (none, ts)

/-- The first reader that answers. -/
def orElse {α : Type} (a b : Reader (Option α)) : Reader (Option α) := do
  match ← a with
  | some x => return some x
  | none => b

/-- The text of the next token if it is a word or a number. -/
def plainText : Reader (Option String) := fun ts =>
  match ts with
  | .word text _ :: rest | .number text :: rest => some (some text, rest)
  | _ => some (none, ts)

/-! ## §C — names of types -/

/-- The sizes of a type in parentheses; none with nothing taken where they are not sizes. -/
def sizes : Reader (Option (List String)) := attempt do
  unless ← sign "(" do return none
  let items ← list plainText
  if items.isEmpty then return none
  needSign ")"
  return some (items.map fun text => String.ofList (Text.upper text.toList))

/-- A zone behind the name of a type of times. -/
def zoned (type : String) : Reader String := do
  if type = "TIMESTAMP" ∨ type = "TIME" then
    if ← words ["WITH", "TIME", "ZONE"] then return type ++ "TZ"
    let _ ← words ["WITHOUT", "TIME", "ZONE"]
  return type

/-- A type by one of its known names, and whether sizes were written. -/
def knownType : Reader (Option (String × Bool)) := do
  match ← peek with
  | some (.word _ key) =>
    match Words.types.lookup key with
    | some type => do
      skip
      let type ← zoned type
      match ← sizes with
      | some items => return some (type ++ "(" ++ ", ".intercalate items ++ ")", true)
      | none => return some (type, false)
    | none => return none
  | _ => return none

/-- A type by a name of its own: words and points. -/
def ownType : Reader (Option String) := do
  match ← peek with
  | some (.quoted text) =>
    skip
    match Words.types.lookup (String.ofList (Text.upper text.toList)) with
    | some type => return some type
    | none => return some text
  | some (.word text key) =>
    if Words.isKnown key then return none
    skip
    return some text
  | _ => return none

/-- Any type. -/
def type : Reader (Option String) := do
  match ← knownType with
  | some (text, _) => return some text
  | none => ownType

end Reader
end Sql
end TableQuery
