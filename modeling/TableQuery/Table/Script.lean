/-
# TableQuery.Table.Script — tables that follow a script.

A scripted table stands for a source outside the program.  Its script says what a reading yields and
where it fails, which ids insertions get, and what changes answer; a capability that the script
lacks is one that the table does not offer.  Everything that is asked of the table is written down
in order.

## §A — scripts.
## §B — what is asked.
-/
import TableQuery.Collation.Basic
import TableQuery.Statement.Shown
import TableQuery.Table.Item

namespace TableQuery

/-! ## §A — scripts -/

/-- What a reading comes to: an item, or a failure that ends it. -/
inductive Entry where
  | item (item : Item)
  | failure (message : String)
  deriving Repr

/-- What a change of rows answers: the number of ids, or a number of its own. -/
inductive Reply where
  | count
  | fixed (number : Int)
  deriving Repr

/-- The number that a reply gives for some ids. -/
def Reply.number (ids : List Value) : Reply → Int
  | count => ids.length
  | fixed n => n

/-! ## §B — what is asked -/

/-- Something that is asked of a table. -/
inductive Call where
  | select (collation condition : String) (order : List String) (limit offset : String)
  | pull (number : Int)
  /-- A reading that has begun is over. -/
  | finish
  | insert (row : Record)
  | update (ids : List Value) (changes : Record)
  | delete (ids : List Value)
  deriving Repr

/-- Something that was asked of a table, under the name that the table had. -/
structure Event where
  table : String
  call : Call
  deriving Repr

/-- An optional expression as text. -/
def shownOrNone : Option Expr → Except NumberError String
  | some e => e.shown
  | none => .ok "None"

/-- The request for a reading. -/
def Call.ofSelect (c : Collation) (s : Select) : Except NumberError Call := do
  let condition ← shownOrNone s.condition
  let order ← s.orderBy.mapM OrderTerm.shown
  let limit ← shownOrNone s.limit
  let offset ← shownOrNone s.offset
  return .select c.name condition order limit offset

/-- A table that follows a script.  `listed` items are handed over at once; `endless` numbers go on
without end after the items.  The events stand last first. -/
structure Script where
  items : Option (List Entry) := none
  listed : Bool := false
  endless : Option Int := none
  ids : Option (List Value) := none
  update : Option Reply := none
  delete : Option Reply := none
  events : List Event := []
  deriving Repr

namespace Script

/-- Writes down what is asked. -/
def note (s : Script) (table : String) (call : Call) : Script :=
  { s with events := ⟨table, call⟩ :: s.events }

/-- The number that stands for an entry in the events: its place, and after the items the endless
number itself. -/
def number (s : Script) (index : Nat) : Int :=
  match (s.items.getD []).length, s.endless with
  | count, some n => if index < count then index else n + (index - count : Nat)
  | _, none => index

/-- The entry at a place; none where the script ends. -/
def entry? (s : Script) (index : Nat) : Option Entry :=
  match (s.items.getD [])[index]? with
  | some e => some e
  | none =>
    s.endless.map fun _ =>
      let n := Value.int (s.number index)
      .item (.row ⟨n, [(.name "n", n)]⟩)

/-- The items of a script without its failures. -/
def listedItems (s : Script) : List Item :=
  (s.items.getD []).filterMap fun
    | .item i => some i
    | .failure _ => none

/-- The capabilities that a script offers, by name. -/
def offers (s : Script) (operation : String) : Bool :=
  match operation with
  | "select" => s.items.isSome
  | "insert" => s.ids.isSome
  | "update" => s.update.isSome
  | "delete" => s.delete.isSome
  | _ => false

end Script
end TableQuery
