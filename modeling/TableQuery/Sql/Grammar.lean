/-
# TableQuery.Sql.Grammar — a text as statements.

The rules of the grammar are tied together here, as many times as tokens can nest, and a text is cut
into statements at its semicolons.

## §A — the tied rules.
## §B — statements of a text.
-/
import TableQuery.Sql.Sentences

namespace TableQuery
namespace Sql

/-! ## §A — the tied rules -/

namespace Readers

/-- The rules, with the given rules inside. -/
def tied (g : Readers) : Readers where
  phrase := Operators.phrase g
  condition := Operators.condition g
  equality := Operators.equality g
  bitwise := Operators.bitwise g
  term := Operators.term g
  unary := Operators.unary g
  reference := Operand.reference g
  query := Queries.query g
  table := Sentences.usualTable g
  joins := Queries.joins g (Sentences.usualTable g)
  clauses := Queries.furtherClauses g (Sentences.usualTable g)
  sentence := Sentences.sentence g

/-- The rules for phrases that nest no deeper than the given number. -/
def upTo : Nat → Readers
  | 0 => .none
  | depth + 1 => tied (upTo depth)

end Readers

/-! ## §B — statements of a text -/

/-- The tokens between semicolons.  A semicolon with a comment is a statement of its own; nothing
follows the last one. -/
def cutFrom : List Token → List Token → List (List Token)
  | done, [] => [done.reverse]
  | done, .semicolon commented :: rest =>
    let here := done.reverse :: if commented then [[.semicolon true]] else []
    match rest with
    | [] => here
    | t :: more => here ++ cutFrom [] (t :: more)
  | done, t :: rest => cutFrom (t :: done) rest

/-- The statement of some tokens, every one of which has to be read; none if there are none. -/
def sentenceOf (tokens : List Token) : Option (Option Sentence) :=
  match Sentences.first (Readers.upTo (2 * tokens.length + 2)) tokens with
  | some (s, []) => some s
  | _ => none

/-- **The statements of a text**, with `none` where nothing stands between semicolons; nothing if it
does not follow the grammar. -/
def sentences? (text : String) : Option (List (Option Sentence)) := do
  let tokens ← Token.ofText? text
  (cutFrom [] tokens).mapM sentenceOf

end Sql
end TableQuery
