/-
# TableQuery.Table.Kept — tables that keep their rows.

The rows of a kept table stay in the order of their insertion and are told apart by their ids.  A
new row gets a number that no row has had.  A table may be asked to yield its rows sorted by a
column, and then says so.  A deleted row is remembered as it last was, since a reading that began
before the deletion still comes to it.

## §A — the table and its rows.
## §B — changes.
## §C — reading.
-/
import TableQuery.Collation.Order
import TableQuery.Table.Item

namespace TableQuery

/-! ## §A — the table and its rows -/

/-- A table that keeps its rows. -/
structure Kept where
  rows : List Row := []
  removed : List Row := []
  nextId : Int := 0
  sortedBy : Option String := none
  desc : Bool := false
  deriving Repr

namespace Kept

/-- The row of an id. -/
def find? (rows : List Row) (id : Value) : Option Row := rows.find? (·.id.same id)

/-- Whether a row has the id. -/
def has (k : Kept) (id : Value) : Bool := k.rows.any (·.id.same id)

/-- Puts a row among rows: in the place of the one with its id, else last. -/
def put (rows : List Row) (id : Value) (columns : Record) : List Row :=
  if rows.any (·.id.same id) then
    rows.map fun r => if r.id.same id then { r with columns } else r
  else rows ++ [⟨id, columns⟩]

/-- The whole number that an id is by kind. -/
def wholeId? : Value → Option Int
  | .int i => some i
  | .bool b => some (if b then 1 else 0)
  | _ => none

/-- The number after the greatest whole number among the ids, zero when there is none. -/
def numberAfter (rows : List Row) : Int :=
  match (rows.filterMap (wholeId? ·.id)).max? with
  | some n => n + 1
  | none => 0

/-- The table of some rows; of rows with one id the last columns stay, in the place of the first. -/
def ofRows (rows : List Row) (sortedBy : Option String := none) (desc : Bool := false) : Kept :=
  let rows := rows.foldl (fun rows r => put rows r.id r.columns) []
  { rows, nextId := numberAfter rows, sortedBy, desc }

/-- Rows under the numbers from zero on. -/
def numbered (rows : List Record) : List Row := rows.mapIdx fun i r => ⟨.int i, r⟩

/-! ## §B — changes -/

/-- The first number from `n` on that is not the id of a row, among `count` candidates. -/
def freshId (k : Kept) : Nat → Int → Int
  | 0, n => n
  | count + 1, n => if k.has (.int n) then k.freshId count (n + 1) else n

/-- **Insertion** — the row comes last, under a new number. -/
def insert (k : Kept) (columns : Record) : Kept × Int :=
  let id := k.freshId k.rows.length k.nextId
  ({ k with rows := k.rows ++ [⟨.int id, columns⟩], nextId := id + 1 }, id)

/-- The rows that are there stay, and the new one comes last under the id that is answered. -/
theorem rows_insert (k : Kept) (columns : Record) :
    (k.insert columns).1.rows = k.rows ++ [⟨.int (k.insert columns).2, columns⟩] := rfl

/-- Writes the changes into the row of an id. -/
def change (k : Kept) (changes : Record) (id : Value) : Kept :=
  { k with rows := k.rows.map fun r =>
      if r.id.same id then { r with columns := r.columns.update changes } else r }

/-- **Change** of the rows of some ids, with the number of ids that had a row. -/
def update (k : Kept) (ids : List Value) (changes : Record) : Kept × Nat :=
  ids.foldl (fun (k, n) id => (k.change changes id, if k.has id then n + 1 else n)) (k, 0)

/-- Removes the row of an id. -/
def remove (k : Kept) (id : Value) : Kept :=
  { k with
    rows := k.rows.filter (!·.id.same id)
    removed := k.removed ++ k.rows.filter (·.id.same id) }

/-- **Deletion** of the rows of some ids, with the number of rows that went. -/
def delete (k : Kept) (ids : List Value) : Kept × Nat :=
  ids.foldl (fun (k, n) id => (k.remove id, if k.has id then n + 1 else n)) (k, 0)

/-! ## §C — reading -/

/-- Sorts rows by a column; rows with equal keys keep their order in both directions. -/
def sortRows (c : Collation) (column : String) (desc : Bool) (rows : List Row) : List Row :=
  let keyed := rows.map fun r => (c.sortKey (r.columns.column column), r)
  let le (a b : Collation.SortKey × Row) : Bool :=
    if desc then b.1.compare a.1 != .gt else a.1.compare b.1 != .gt
  (keyed.mergeSort le).map (·.2)

/-- The rows in the order in which a reading comes to them. -/
def ordered (k : Kept) (c : Collation) : List Row :=
  match k.sortedBy with
  | some column => sortRows c column k.desc k.rows
  | none => k.rows

/-- The claim that a reading begins with, when the rows are sorted. -/
def claim? (k : Kept) (c : Collation) : Option Claim :=
  k.sortedBy.map fun column =>
    { column := .text column, desc := .bool k.desc, collation := .text c.name }

/-- A row of an earlier reading as it is now, or as it was when it went. -/
def current (k : Kept) (r : Row) : Row :=
  ((find? k.rows r.id).orElse fun _ => find? k.removed r.id).getD r

end Kept
end TableQuery
