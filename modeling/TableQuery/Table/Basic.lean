/-
# TableQuery.Table.Basic — tables and reading them.

A table has a name, perhaps a collation of its own, and contents of one of five kinds.  Each of the
four operations is a pure step: it gives an answer and the table as it is afterwards.  Reading goes
item by item through a `Source`, which knows what is still to come; nothing is read before the first
pull, and a source that is over stays so.

## §A — tables.
## §B — sources.
## §C — pulling and closing.
## §D — changes.
-/
import TableQuery.Table.Csv
import TableQuery.Table.Kept
import TableQuery.Table.Script
import TableQuery.Telemetry

namespace TableQuery

/-! ## §A — tables -/

/-- What a table holds. -/
inductive Content where
  /-- Nothing: a table without any capability. -/
  | bare
  | kept (table : Kept)
  /-- Rows that are only read. -/
  | fixed (rows : List Row)
  | file (file : Csv.File)
  | script (script : Script)
  deriving Repr

/-- A table: the name under which it was last registered, its collation, and its contents. -/
structure Table where
  name : String := ""
  collation : Option Collation := none
  content : Content := .bare
  deriving Repr

namespace Table

/-- What messages call the kind of a table. -/
def kindName (t : Table) : String :=
  match t.content with
  | .bare => "TableInterface"
  | .kept _ => "InMemoryTable"
  | .fixed _ | .file _ => "CsvTable"
  | .script _ => "VirtualTable"

/-- The rows that a kept table holds; no other table has rows at hand. -/
def keptRows? (t : Table) : Option (List Row) :=
  match t.content with
  | .kept k => some k.rows
  | _ => none

/-- The number of rows, which only a kept table has at hand. -/
def length (t : Table) : Except Error Nat :=
  match t.keptRows? with
  | some rows => .ok rows.length
  | none => .error (.noLength t.kindName)

/-- How many items a reading of the table yields at most, the endless ones aside. -/
def size (t : Table) : Nat :=
  match t.content with
  | .bare => 0
  | .kept k => k.rows.length + k.removed.length + 1
  | .fixed rows => rows.length
  | .file f => f.bytes.length
  | .script s => (s.items.getD []).length

/-- How many items are pulled at most: all that the table holds, and of endless ones far more than
can ever be pulled. -/
def patience (t : Table) : Nat := t.size + 0x10000000000000000

/-- Whether a scripted table offers an operation, whose name may have any case. -/
def supports (t : Table) (operation : String) : Bool :=
  match t.content with
  | .script s => s.offers (String.ofList (operation.toList.map Char.toLower))
  | _ => false

/-- What was asked of a scripted table. -/
def events (t : Table) : List Event :=
  match t.content with
  | .script s => s.events.reverse
  | _ => []

/-- The table without a record of what was asked. -/
def forgetful (t : Table) : Table :=
  match t.content with
  | .script s => { t with content := .script { s with events := [] } }
  | _ => t

/-- Writes down what is asked of a scripted table. -/
def note (t : Table) (call : Call) : Table :=
  match t.content with
  | .script s => { t with content := .script (s.note t.name call) }
  | _ => t

end Table

/-! ## §B — sources -/

/-- **What is still to come** of a reading. -/
inductive Source where
  /-- A reading that begins with the first pull, under a collation. -/
  | unread (collation : Collation)
  | rows (left : List Row)
  | records (left : List Csv.Numbered) (fault : Option Error)
  | script (index : Nat)
  | listed (left : List Item)
  | closed
  deriving Repr

/-- A pull: what it gives, what is still to come, the table afterwards, and a remark on the item. -/
structure Pulled where
  answer : Except Error (Option Item)
  source : Source
  table : Table
  remark : Option String := none

namespace Table

/-- Beginning a reading for a statement. -/
def read (t : Table) (c : Collation) (s : Select) : Except Error Source × Table :=
  match t.content with
  | .bare => (.error (.incapable "SELECT"), t)
  | .script sc =>
    if sc.offers "select" then
      match Call.ofSelect c s with
      | .ok call => (.ok (if sc.listed then .listed sc.listedItems else .script 0), t.note call)
      | .error e => (.error (.number e), t)
    else (.error (.incapable "SELECT"), t)
  | _ => (.ok (.unread c), t)

/-! ## §C — pulling and closing -/

/-- The end of a reading. -/
def exhausted (t : Table) : Pulled := ⟨.ok none, .closed, t, none⟩

/-- The next of some rows, as it is now. -/
def pullRow (t : Table) : List Row → Pulled
  | [] => t.exhausted
  | r :: left =>
    let r := match t.content with
      | .kept k => k.current r
      | _ => r
    ⟨.ok (some (.row r)), .rows left, t, none⟩

/-- The next record of a file. -/
def pullRecord (t : Table) (fault : Option Error) : List Csv.Numbered → Pulled
  | [] =>
    match fault with
    | none => t.exhausted
    | some e => ⟨.error e, .closed, t, none⟩
  | r :: left => ⟨.ok (some (.row r.row)), .records left fault, t, r.remark⟩

/-- The next entry of a script. -/
def pullEntry (t : Table) (s : Script) (index : Nat) : Pulled :=
  match s.entry? index with
  | none => (t.note .finish).exhausted
  | some entry =>
    let t := t.note (.pull (s.number index))
    match entry with
    | .item i => ⟨.ok (some i), .script (index + 1), t, none⟩
    | .failure message => ⟨.error (.source message), .closed, t.note .finish, none⟩

/-- **The next item** of a reading. -/
def pull (t : Table) : Source → Pulled
  | .unread c =>
    match t.content with
    | .kept k =>
      match k.claim? c with
      | some claim => ⟨.ok (some (.claim claim)), .rows (k.ordered c), t, none⟩
      | none => t.pullRow (k.ordered c)
    | .fixed rows => t.pullRow rows
    | .file f => t.pullRecord f.read.2 f.read.1
    | _ => t.exhausted
  | .rows left => t.pullRow left
  | .records left fault => t.pullRecord fault left
  | .script index =>
    match t.content with
    | .script s => t.pullEntry s index
    | _ => t.exhausted
  | .listed left =>
    match left with
    | [] => t.exhausted
    | i :: left => ⟨.ok (some i), .listed left, t, none⟩
  | .closed => t.exhausted

/-- Giving a reading up; a script notes it when the reading had begun. -/
def close (t : Table) : Source → Table
  | .script (_ + 1) => t.note .finish
  | _ => t

/-- The items from a source on, up to the end or a failure; `patience` bounds their number. -/
def itemsFrom (t : Table) (source : Source) : Nat → Except Error (List Item) × Table
  | 0 => (.error .unfinished, t)
  | patience + 1 =>
    let p := t.pull source
    match p.answer with
    | .error e => (.error e, p.table)
    | .ok none => (.ok [], p.table)
    | .ok (some i) =>
      let (rest, t) := p.table.itemsFrom p.source patience
      ((i :: ·) <$> rest, t)

/-- **All items** that a reading for a statement yields. -/
def items (t : Table) (c : Collation) (s : Select) : Except Error (List Item) × Table :=
  match t.read c s with
  | (.error e, t) => (.error e, t)
  | (.ok source, t) => t.itemsFrom source t.patience

/-! ## §D — changes -/

/-- **Insertion** of a row, answered with its id. -/
def insert (t : Table) (row : Record) : Except Error Value × Table :=
  match t.content with
  | .kept k =>
    let (k, id) := k.insert row
    (.ok (.int id), { t with content := .kept k })
  | .script s =>
    match s.ids with
    | none => (.error (.incapable "INSERT"), t)
    | some ids =>
      let t : Table := { t with content := .script { s with ids := some ids.tail } }
      (.ok (ids.headD .null), t.note (.insert row))
  | _ => (.error (.incapable "INSERT"), t)

/-- Changes kept rows by id, up to the first value that is no identity. -/
def keptChange (t : Table) (ids : List Value) (change : List Value → Kept × Nat) :
    Except Error Int × Table :=
  let (k, n) := change (ids.takeWhile Value.isIdentity)
  let t : Table := { t with content := .kept k }
  match ids.find? (!Value.isIdentity ·) with
  | some v => (.error (.unhashable v.kindName), t)
  | none => (.ok n, t)

/-- **Change** of the rows of some ids, answered with their number. -/
def update (t : Table) (ids : List Value) (changes : Record) : Except Error Int × Table :=
  match t.content with
  | .kept k => t.keptChange ids (k.update · changes)
  | .script s =>
    match s.update with
    | none => (.error (.incapable "UPDATE"), t)
    | some reply => (.ok (reply.number ids), t.note (.update ids changes))
  | _ => (.error (.incapable "UPDATE"), t)

/-- **Deletion** of the rows of some ids, answered with their number. -/
def delete (t : Table) (ids : List Value) : Except Error Int × Table :=
  match t.content with
  | .kept k => t.keptChange ids k.delete
  | .script s =>
    match s.delete with
    | none => (.error (.incapable "DELETE"), t)
    | some reply => (.ok (reply.number ids), t.note (.delete ids))
  | _ => (.error (.incapable "DELETE"), t)

end Table
end TableQuery
