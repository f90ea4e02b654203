/-
# TableQuery.Sql.Operators — which operator binds tighter.

From the tightest to the loosest: signs before an operand; `*` and `/`; `+`, `-`, `%` and COLLATE;
bit operators and `||`; tests such as LIKE, IN and BETWEEN, one after an operand, and IS behind it;
`<` and its kin; `=` and its kin; AND; OR.  Operators of one level group to the left.  NOT stands
before an operand but takes everything up to the level of `=`.

## §A — chains of operators.
## §B — tight operators.
## §C — tests.
## §D — loose operators and new names.
-/
import TableQuery.Sql.Operand

namespace TableQuery
namespace Sql
namespace Operators

open Reader Operand

/-! ## §A — chains of operators -/

/-- The rest of a chain behind its left side. -/
def chainFrom (operand : Reader (Option Phrase)) (next : Reader (Option Infix)) :
    Nat → Phrase → Reader Phrase
  | 0, left => pure left
  | fuel + 1, left => do
    match ← next with
    | some op => do
      let right ← need operand
      chainFrom operand next fuel (.between op left right)
    | none => return left

/-- Operands with operators of one level between them, grouped to the left.  An operator without an
operand on either side is refused. -/
def chain (operand : Reader (Option Phrase)) (next : Reader (Option Infix)) :
    Reader (Option Phrase) := do
  let first ← operand
  match ← next with
  | some op => do
    let some left := first | failure
    let right ← need operand
    return some (← chainFrom operand next (← get).length (.between op left right))
  | none => return first

/-- Takes one of the given signs. -/
def signOf (signs : List (String × Infix)) : Reader (Option Infix) := fun ts =>
  match ts with
  | .sign s :: rest =>
    match signs.lookup s with
    | some op => some (some op, rest)
    | none => some (none, ts)
  | _ => some (none, ts)

/-- Takes the given word for an operator. -/
def wordOf (key : String) (op : Infix) : Reader (Option Infix) := do
  return if ← word key then some op else none

/-! ## §B — tight operators -/

/-- An operand with the operators before it; a plus sign has no effect. -/
def unary (g : Readers) : Reader (Option Phrase) := do
  if ← sign "+" then
    return some (← need g.unary)
  if ← sign "-" then
    return some (.leading .neg (← need g.unary))
  if ← sign "~" then
    return some (.leading .bitNot (← need g.unary))
  if ← orM (word "NOT") (sign "!") then
    return some (.leading .not (← need g.equality))
  operand g

/-- A zone of time behind an operand. -/
def withZone (g : Readers) (p : Phrase) : Reader Phrase := do
  if ← words ["AT", "TIME", "ZONE"] then
    let zone ← need g.unary
    return .other "AtTimeZone" (p.written ++ " AT TIME ZONE " ++ zone.written) [p, zone]
  return p

/-- The operators of products; DIV counts only where an operand follows. -/
def productsFrom (g : Readers) : Nat → Phrase → Reader Phrase
  | 0, left => pure left
  | fuel + 1, left => do
    match ← signOf [("*", .mul), ("/", .div)] with
    | some op => do
      let right ← need (unary g)
      productsFrom g fuel (.between op left right)
    | none => do
      let here ← get
      unless ← word "DIV" do return left
      match ← unary g with
      | some right => productsFrom g fuel (.between .intDiv left right)
      | none => do
        set here
        return left

/-- Products. -/
def factor (g : Readers) : Reader (Option Phrase) := do
  match ← unary g with
  | some p => do
    let p ← withZone g p
    return some (← productsFrom g ((← get).length + 1) p)
  | none => do
    if ← orM (seesSign "*") (seesSign "/") then failure
    return none

/-- The name of an order behind COLLATE. -/
def collationName : Phrase → Phrase
  | .column [.name text quoted] => .name text quoted
  | p => p

/-- Sums behind their first operand. -/
def sumsFrom (g : Readers) : Nat → Phrase → Reader Phrase
  | 0, left => pure left
  | fuel + 1, left => do
    match ← signOf [("+", .add), ("-", .sub), ("%", .mod)] with
    | some op => do
      let right ← need (factor g)
      sumsFrom g fuel (.between op left right)
    | none => do
      unless ← word "COLLATE" do return left
      let right ← need (factor g)
      sumsFrom g fuel (.collate left (collationName right))

/-- Sums. -/
def term (g : Readers) : Reader (Option Phrase) := do
  match ← factor g with
  | some p => return some (← sumsFrom g ((← get).length + 1) p)
  | none => do
    if (← seesSign "%") then failure
    return none

/-- Takes a sign that is written twice. -/
def doubled (s : String) (op : Infix) : Reader (Option Infix) := fun ts =>
  match ts with
  | .sign a :: .sign b :: rest => if a == s && b == s then some (some op, rest) else some (none, ts)
  | _ => some (none, ts)

/-- Bit operators behind their first operand. -/
def bitsFrom (g : Readers) : Nat → Phrase → Reader Phrase
  | 0, left => pure left
  | fuel + 1, left => do
    let op ← orElse (signOf [("&", .bitAnd), ("^", .bitXor), ("|", .bitOr), ("||", .concat)])
      (orElse (doubled "<" .shiftLeft) (doubled ">" .shiftRight))
    match op with
    | some op => do
      let right ← need (term g)
      bitsFrom g fuel (.between op left right)
    | none => do
      unless ← sign "??" do return left
      bitsFrom g fuel (.call "COALESCE" (left :: (← term g).toList))

/-- Bit operators and what joins texts. -/
def bitwise (g : Readers) : Reader (Option Phrase) := do
  match ← term g with
  | some p => return some (← bitsFrom g ((← get).length + 1) p)
  | none => return none

/-! ## §C — tests -/

/-- The words of tests that take one operand. -/
def testWords : List (String × Infix) :=
  [("LIKE", .like), ("ILIKE", .ilike), ("GLOB", .glob), ("MATCH", .matching), ("REGEXP", .regexp),
   ("RLIKE", .regexp), ("OVERLAPS", .overlaps), ("SIMILAR TO", .similar)]

/-- Takes the word of a test. -/
def testWord : Reader (Option Infix) := fun ts =>
  match ts with
  | .word _ key :: rest =>
    match testWords.lookup key with
    | some op => some (some op, rest)
    | none => some (none, ts)
  | _ => some (none, ts)

/-- A mark behind ESCAPE. -/
def withEscape (g : Readers) (p : Phrase) : Reader Phrase := do
  unless ← word "ESCAPE" do return p
  match ← peek with
  | some (.string _) | some (.national _) | some (.word _ "NULL") =>
    return .escape p (← need (value g))
  | _ => failure

/-- What follows IN. -/
def membership (g : Readers) (p : Phrase) : Reader Phrase := do
  unless ← sign "(" do
    let field ← match ← reference g with
      | some f => pure (some (← withFields g f))
      | none => pure none
    return .memberOfField p field
  let items ← list (queryOr g g.condition)
  let q ← match items with
    | [q] => do
      let q ← g.clauses q
      match q with
      | .query _ | .combined .. | .subquery .. => pure (.memberOfQuery p q)
      | _ => pure (.memberOf p [q])
    | _ => pure (.memberOf p items)
  needSign ")"
  return q

/-- What follows IS: NULL, a phrase, or DISTINCT FROM and a phrase; none with nothing taken where
none of these stands. -/
def identity (g : Readers) (p : Phrase) : Reader (Option Phrase) := do
  let here ← get
  unless ← word "IS" do return none
  let negative ← word "NOT"
  if ← words ["DISTINCT", "FROM"] then
    let right ← need (bitwise g)
    return some (.between (if negative then .isNotDistinct else .isDistinct) p right)
  let right ← if ← word "NULL" then pure (some .null) else bitwise g
  match right with
  | none => do
    set here
    return none
  | some right => do
    let test : Phrase := .between .is p right
    return some (← withFields g (if negative then .leading .not test else test))

/-- The bounds behind BETWEEN. -/
def bounds (g : Readers) (p : Phrase) : Reader Phrase := do
  let _ ← oneOf ["SYMMETRIC", "ASYMMETRIC"]
  let low ← need (bitwise g)
  let _ ← word "AND"
  let high ← need (bitwise g)
  return .within p low high

/-- One test behind an operand, if there is one. -/
def test (g : Readers) (p : Option Phrase) (negative : Bool) : Reader (Option Phrase) := do
  let isNull (p : Phrase) : Phrase := .between .is p .null
  if ← word "BETWEEN" then
    let some p := p | failure
    return some (← bounds g p)
  match ← testWord with
  | some op => do
    let some p := p | failure
    let right ← need (bitwise g)
    return some (← withEscape g (.between op p right))
  | none => pure ()
  if ← word "IN" then
    let some p := p | failure
    return some (← membership g p)
  if ← orM (word "ISNULL") (do if negative then word "NULL" else return false) then
    let some p := p | failure
    return some (isNull p)
  return none

/-- An operand and the tests behind it. -/
def range (g : Readers) : Reader (Option Phrase) := do
  let first ← bitwise g
  let negative ← word "NOT"
  if ← seesWord "IS" then
    match first with
    | none => if negative then failure else return none
    | some p =>
      match ← identity g p with
      | none => return first
      | some q => rest q negative
  else
    match ← test g first negative with
    | some q => rest q negative
    | none =>
      match first with
      | some p => rest p negative
      | none => do
        if ← seesWord "NOTNULL" then failure
        return none
where
  /-- NOTNULL, the negation of what was read, and one more IS. -/
  rest (p : Phrase) (negative : Bool) : Reader (Option Phrase) := do
    let p ← if ← word "NOTNULL" then pure (.leading .not (.between .is p .null)) else pure p
    let p := if negative then .leading .not p else p
    if ← seesWord "IS" then identity g p else return some p

/-! ## §D — loose operators and new names -/

/-- Comparisons for order. -/
def comparison (g : Readers) : Reader (Option Phrase) :=
  chain (range g) (signOf [("<", .lt), ("<=", .le), (">", .gt), (">=", .ge)])

/-- Comparisons for equality. -/
def equality (g : Readers) : Reader (Option Phrase) :=
  chain (comparison g) (signOf [("=", .eq), ("!=", .ne), ("<=>", .nullSafeEq)])

/-- Conditions that all have to hold. -/
def conjunction (g : Readers) : Reader (Option Phrase) :=
  chain (equality g) (wordOf "AND" .and)

/-- Conditions one of which has to hold. -/
def condition (g : Readers) : Reader (Option Phrase) :=
  chain (conjunction g) (wordOf "OR" .or)

/-- A phrase and what is assigned to it. -/
def assignment (g : Readers) : Reader (Option Phrase) :=
  chain (condition g) (signOf [(":=", .assign)])

/-- A phrase with its new name, if one follows: AS and any name, a name, or a text. -/
def withName (p : Option Phrase) : Reader (Option Phrase) := do
  if ← seesWord "AS" then namedBehindAs p
  else if ← sign "(" then
    let names ← list (nameOf false Words.canRename)
    needSign ")"
    match p with
    | some p => return some (.renamedAll p names)
    | none => failure
  else
    match ← orElse (nameOf false Words.canRename) stringName, p with
    | some n, some p => return some (.renamed p n)
    | some _, none => failure
    | none, p => return p

/-- **A phrase that may be renamed.** -/
def phrase (g : Readers) : Reader (Option Phrase) := do
  withName (← assignment g)

end Operators
end Sql
end TableQuery
