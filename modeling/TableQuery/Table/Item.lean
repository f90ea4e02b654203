/-
# TableQuery.Table.Item — what a table yields when it is read.

A table that is read yields rows, each under a value that tells it from the others.  Before the
first row it may claim that the rows come in order.  The fields of a claim are whatever the table
gave; `Claim.fault?` says what is wrong with them.  Anything else that a table yields is a breach of
its contract.

## §A — rows.
## §B — claims of order.
## §C — items.
-/
import TableQuery.Error
import TableQuery.Value.Identity
import TableQuery.Value.Record

namespace TableQuery

/-! ## §A — rows -/

/-- A row: its identity and its columns. -/
structure Row where
  id : Value
  columns : Record
  deriving Repr

namespace Row

/-- The value of a column, or `default` when the row has no such column. -/
def get (r : Row) (column : String) (default : Value := .null) : Value :=
  (r.columns.get? (.name column)).getD default

/-- Whether the row has a column. -/
def has (r : Row) (column : String) : Bool := r.columns.has (.name column)

end Row

/-! ## §B — claims of order -/

/-- A claim that rows come in the order of a column: which column, in which direction, under which
collation, and how many rows that satisfy the condition were left out before the first one. -/
structure Claim where
  column : Value
  desc : Value := .bool false
  skipped : Value := .null
  collation : Value := .null
  deriving Repr

namespace Claim

/-- **What is wrong with a claim by itself.** -/
def fault? (c : Claim) : Option ClaimFault :=
  match c.column with
  | .text s =>
    if s.isEmpty then some .column
    else
      match c.skipped with
      | .null => none
      | .int i => if i < 0 then some (.skippedNegative (toString i)) else none
      | v => some (.skippedKind v.kindName)
  | _ => some .column

/-- The claimed column. -/
def columnName (c : Claim) : String :=
  match c.column with
  | .text s => s
  | _ => ""

/-- How many rows were left out; none when the table applied no condition. -/
def skippedCount (c : Claim) : Option Nat :=
  match c.skipped with
  | .int i => some i.toNat
  | _ => none

/-- The claimed collation; none when it is the one that the rows were asked for under. -/
def collationName (c : Claim) : Option String :=
  match c.collation with
  | .text s => if s.isEmpty then none else some s
  | _ => none

/-- Whether the claimed direction is the given one. -/
def directed (c : Claim) (desc : Bool) : Bool := c.desc.same (.bool desc)

end Claim

/-! ## §C — items -/

/-- What a table yields. -/
inductive Item where
  | row (row : Row)
  | claim (claim : Claim)
  | other (value : Value)
  deriving Repr

end TableQuery
