/-
# TableQuery.Reading.Plan — how a SELECT is going to read its table.

A SELECT either streams, row by row as the table gives them, or gathers all rows and sorts them.  It
streams when no order is asked for, or when the table claims the very order that is asked for.  A
claim may also say that the table applied the condition and left out some of the rows that OFFSET
skips; then the rest of OFFSET is left to do.

## §A — plans.
## §B — terms of the order.
## §C — planning.
-/
import TableQuery.Collation.Basic
import TableQuery.Evaluation.Basic
import TableQuery.Table.Item

namespace TableQuery

/-! ## §A — plans -/

/-- The two ways to read. -/
inductive Strategy where
  | stream
  | gather
  deriving DecidableEq, Repr

/-- The name of a strategy. -/
def Strategy.name : Strategy → String
  | stream => "stream"
  | gather => "materialize"

/-- A plan: the strategy and why, the claim it was made on, whether the table has applied the
condition, how many rows are still to be skipped, and how many may come at most. -/
structure Plan where
  strategy : Strategy
  reason : String
  claim : Option Claim := none
  trusted : Bool := false
  offset : Nat := 0
  limit : Option Nat := none
  deriving Repr

/-! ## §B — terms of the order -/

/-- A term of the order with the place of its expression in the statement. -/
structure SortTerm where
  expression : Expr
  desc : Bool
  place : Place

namespace SortTerm

/-- The result column at a position counted from one, unless it stands for all columns. -/
def atPosition? (columns : List ResultColumn) (position : Int) : Option (ResultColumn × Nat) :=
  if 1 ≤ position then
    match columns[position.toNat - 1]? with
    | some c => if c.isStar then none else some (c, position.toNat - 1)
    | none => none
  else none

/-- The first result column with the name after it, unless it stands for all columns. -/
def named? (columns : List ResultColumn) (name : String) : Option (ResultColumn × Nat) :=
  columns.zipIdx.find? fun (c, _) => c.aliasName == some name && !c.isStar

/-- A term for the expression of a result column. -/
def ofColumn (desc : Bool) (column : ResultColumn × Nat) : SortTerm :=
  ⟨column.1.expression, desc, [column.2, 0]⟩

/-- **What a term of ORDER BY stands for** — a whole number is the position of a result column, a
name without a dot may be the name after one. -/
def resolve (columns : List ResultColumn) (index : Nat) (t : OrderTerm) :
    Except EvaluationFault SortTerm :=
  let plain : SortTerm := ⟨t.expression, t.desc, [index, 2]⟩
  match t.expression with
  | .literal (.int position) =>
    match atPosition? columns position with
    | some c => .ok (ofColumn t.desc c)
    | none => .error (.orderPosition (toString position))
  | .column name =>
    if name.toList.contains '.' then .ok plain
    else
      match named? columns name with
      | some c => .ok (ofColumn t.desc c)
      | none => .ok plain
  | _ => .ok plain

/-- The terms of an ORDER BY list. -/
def resolveAll (columns : List ResultColumn) (terms : List OrderTerm) :
    Except EvaluationFault (List SortTerm) :=
  terms.zipIdx.mapM fun (t, i) => resolve columns i t

end SortTerm

/-! ## §C — planning -/

namespace Claim

/-- What is wrong with a claim for a query that skips `offset` rows. -/
def faultFor? (c : Claim) (offset : Nat) : Option ClaimFault :=
  c.fault?.orElse fun _ =>
    match c.skippedCount with
    | some skipped => if offset < skipped then some (.skippedTooMany skipped offset) else none
    | none => none

/-- **Why a claim is not the order asked for**; none when it is. -/
def mismatch? (c : Claim) (collation : Collation) (terms : List SortTerm) :
    Except Collation.LocaleError (Option String) :=
  match terms with
  | [term] =>
    match term.expression with
    | .column name =>
      let asked := Expr.lastPart name
      if asked ≠ c.columnName then
        .ok (some ("table is ordered by " ++ c.columnName ++ ", not " ++ asked))
      else if !c.directed term.desc then .ok (some "sort direction differs")
      else do
        let claimed := c.collationName.getD collation.name
        if ← collation.matchesName claimed then return none
        else
          return some ("table collation " ++ claimed ++ " differs from " ++ collation.name)
    | _ => .ok (some "ORDER BY term is not a column")
  | _ => .ok (some "ORDER BY has more than one term")

end Claim

namespace Plan

/-- The strategy for some terms of order under a claim, and why. -/
def choose (collation : Collation) (terms : List SortTerm) (claim : Option Claim) :
    Except Collation.LocaleError (Strategy × String) :=
  if terms.isEmpty then .ok (.stream, "no ORDER BY")
  else
    match claim with
    | none => .ok (.gather, "table declared no order")
    | some c => do
      match ← c.mismatch? collation terms with
      | none => return (.stream, "table order matches ORDER BY")
      | some reason => return (.gather, reason)

/-- **The plan** for a claim without fault. -/
def make (collation : Collation) (terms : List SortTerm) (claim : Option Claim) (offset : Nat)
    (limit : Option Nat) : Except Collation.LocaleError Plan := do
  let (strategy, reason) ← choose collation terms claim
  let skipped := claim.bind Claim.skippedCount
  return {
    strategy, reason, claim, limit
    trusted := skipped.isSome
    offset := offset - skipped.getD 0 }

end Plan
end TableQuery
