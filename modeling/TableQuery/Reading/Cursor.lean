/-
# TableQuery.Reading.Cursor — running a SELECT row by row.

A SELECT over a table is run by asking for its result rows one at a time.  What it runs on is a
`Host`: the table it pulls items from, the meaning of its expressions, and where remarks go.  Every
item is checked against the contract of tables before it is used.  A reading that has begun is given
up exactly once, when the last row has been passed, when something fails, or when the caller has
enough.

## §A — hosts.
## §B — the contract.
## §C — strategies.
## §D — stages.
## §E — whole readings.
-/
import TableQuery.Reading.Plan

namespace TableQuery

/-! ## §A — hosts -/

/-- A remark of a running SELECT. -/
inductive Remark where
  | planned (plan : Plan)
  /-- A row has passed the check. -/
  | scanned
  /-- The table broke its contract. -/
  | breached

/-- What a SELECT runs on.  `patience` bounds the number of items that one reading pulls. -/
structure Host (σ : Type) where
  name : String
  evaluator : Evaluator σ
  read : Select → Run σ Unit
  pull : Run σ (Option Item)
  close : StateM σ Unit
  note : Remark → StateM σ Unit
  patience : StateM σ Nat

/-! ## §B — the contract -/

/-- The rows that a reading has come to: how many, and their ids, last first. -/
structure Seen where
  count : Nat := 0
  ids : List Value := []
  deriving Repr

namespace Seen

/-- A further row. -/
def add (s : Seen) (r : Row) : Seen := ⟨s.count + 1, r.id :: s.ids⟩

/-- An id as messages show it. -/
def shownId (id : Value) : String :=
  match id.shown with
  | .ok s => s
  | .error _ => ""

/-- **How an item breaks the contract** after the rows that came before. -/
def breach? (s : Seen) : Item → Option Breach
  | .row r => if s.ids.any (·.same r.id) then some (.repeatedId s.count (shownId r.id)) else none
  | .claim _ => some (.claim (.late s.count))
  | .other v => some (.notRow s.count v.kindName)

end Seen

namespace Host
variable {σ : Type}

/-- Refuses the table. -/
def refuse {α : Type} (h : Host σ) (b : Breach) : Run σ α := do
  h.note .breached
  throw (.contract h.name b)

/-- A checked item. -/
def check (h : Host σ) (seen : Seen) (i : Item) : Run σ (Row × Seen) :=
  match seen.breach? i, i with
  | some b, _ => h.refuse b
  | none, .row r => do
    if !r.id.isIdentity then throw (.unhashable r.id.kindName)
    h.note .scanned
    return (r, seen.add r)
  | none, .claim _ => h.refuse (.claim (.late seen.count))
  | none, .other v => h.refuse (.notRow seen.count v.kindName)

/-- The next checked row; `first` is an item that has been pulled already. -/
def row? (h : Host σ) (first : Option Item) (seen : Seen) : Run σ (Option (Row × Seen)) := do
  let item ← match first with
    | some i => pure (some i)
    | none => h.pull
  match item with
  | none => return none
  | some i => some <$> h.check seen i

/-! ## §C — strategies -/

/-- Whether a row of the table belongs to the result: the table has seen to that, or the condition
holds. -/
def admits (h : Host σ) (trusted : Bool) (s : Select) (r : Row) : Run σ Bool :=
  if trusted then pure true else h.evaluator.holds r.columns [1] s.condition

/-- The next row of a stream after `skip` rows of the result are passed over. -/
def seek (h : Host σ) (s : Select) (trusted : Bool) :
    Nat → Option Item → Seen → Nat → Run σ (Option (Row × Seen))
  | 0, _, _, _ => throw .unfinished
  | patience + 1, first, seen, skip => do
    match ← h.row? first seen with
    | none => return none
    | some (r, seen) =>
      if ← h.admits trusted s r then
        match skip with
        | 0 => return some (r, seen)
        | skip + 1 => h.seek s trusted patience none seen skip
      else h.seek s trusted patience none seen skip

/-- All rows of the result, in the order in which the table gives them. -/
def gather (h : Host σ) (s : Select) (trusted : Bool) :
    Nat → Option Item → Seen → Run σ (List Row)
  | 0, _, _ => throw .unfinished
  | patience + 1, first, seen => do
    match ← h.row? first seen with
    | none => return []
    | some (r, seen) =>
      if ← h.admits trusted s r then
        return r :: (← h.gather s trusted patience none seen)
      else h.gather s trusted patience none seen

/-- The order of two rows by the values of the terms, the first difference deciding. -/
def compareKeys (c : Collation) : List SortTerm → List Value → List Value → Ordering
  | t :: ts, a :: as, b :: bs =>
    match c.compare a b with
    | .eq => compareKeys c ts as bs
    | o => if t.desc then o.swap else o
  | _, _, _ => .eq

/-- Rows in the order of the terms; rows that are equal keep their order. -/
def sortByKeys (c : Collation) (terms : List SortTerm) (keyed : List (List Value × Row)) :
    List Row :=
  (keyed.mergeSort fun a b => compareKeys c terms a.1 b.1 != .gt).map (·.2)

/-- Sorts rows by the terms. -/
def sortRows (h : Host σ) (terms : List SortTerm) (rows : List Row) : Run σ (List Row) := do
  let keyed ← rows.mapM fun r => do
    let keys ← terms.mapM fun t => h.evaluator.evaluate r.columns t.place t.expression
    return (keys, r)
  return sortByKeys h.evaluator.collation terms keyed

/-- The part of the rows that OFFSET and LIMIT leave. -/
def slice (p : Plan) (rows : List Row) : List Row :=
  match p.limit with
  | none => rows.drop p.offset
  | some n => (rows.drop p.offset).take n

/-! ## §D — stages -/

/-- How far a SELECT has come. -/
inductive Stage where
  | fresh
  | streaming (plan : Plan) (seen : Seen) (emitted : Nat)
  | emitting (rows : List Row)
  | finished

/-- The whole number that a clause gives, none when the clause is absent or NULL. -/
def clause (h : Host σ) (name : String) (place : Place) : Option Expr → Run σ (Option Int)
  | none => return none
  | some e => do
    let v ← h.evaluator.evaluate [] place e
    if v.isNull then return none
    let whole ← match v.number? with
      | some n => Run.ofNumber n.whole?
      | none => pure none
    match whole with
    | some i => return some i
    | none => throw (.evaluation (.notInteger name (← Run.ofNumber v.shown)))

/-- The greatest number of rows: a negative LIMIT is none. -/
def limit (h : Host σ) (s : Select) : Run σ (Option Nat) :=
  return (← h.clause "LIMIT" [3] s.limit).bind fun i => if i < 0 then none else some i.toNat

/-- The number of rows to pass over: a negative OFFSET is zero. -/
def offset (h : Host σ) (s : Select) : Run σ Nat :=
  return ((← h.clause "OFFSET" [4] s.offset).getD 0).toNat

/-- The terms of the order. -/
def terms (s : Select) : Run σ (List SortTerm) :=
  match SortTerm.resolveAll s.columns s.orderBy with
  | .ok ts => pure ts
  | .error fault => throw (.evaluation fault)

/-- Parts the first item into a claim and what is left of it. -/
def claimed : Option Item → Option Claim × Option Item
  | some (.claim c) => (some c, none)
  | first => (none, first)

/-- The plan for a claim. -/
def plan (h : Host σ) (terms : List SortTerm) (claim : Option Claim) (offset : Nat)
    (limit : Option Nat) : Run σ Plan := do
  if let some fault := claim.bind (·.faultFor? offset) then h.refuse (.claim fault)
  let p ← Run.ofLocale (Plan.make h.evaluator.collation terms claim offset limit)
  h.note (.planned p)
  return p

/-- A streaming SELECT asked for its next row. -/
def stream (h : Host σ) (s : Select) (p : Plan) (first : Option Item) (seen : Seen)
    (skip emitted : Nat) : Run σ (Option (Row × Stage)) := do
  if p.limit.any (· ≤ emitted) then return none
  match ← h.seek s p.trusted (← h.patience) first seen skip with
  | none => return none
  | some (r, seen) => return some (r, .streaming p seen (emitted + 1))

/-- The next of the rows that are ready. -/
def emit : List Row → Option (Row × Stage)
  | [] => none
  | r :: rest => some (r, .emitting rest)

/-- The first row, once the reading has begun. -/
def begin (h : Host σ) (s : Select) (terms : List SortTerm) (offset : Nat) (limit : Option Nat) :
    Run σ (Option (Row × Stage)) := do
  let (claim, first) := claimed (← h.pull)
  let p ← h.plan terms claim offset limit
  match p.strategy with
  | .stream => h.stream s p first {} p.offset 0
  | .gather =>
    let rows ← h.gather s p.trusted (← h.patience) first {}
    return emit (slice p (← h.sortRows terms rows))

/-- **The next row of the table** that belongs to the result; none at the end. -/
def advance (h : Host σ) (s : Select) : Stage → Run σ (Option (Row × Stage))
  | .fresh => do
    let limit ← h.limit s
    let offset ← h.offset s
    let terms ← terms s
    h.read s
    h.begin s terms offset limit
  | .streaming p seen emitted => h.stream s p none seen 0 emitted
  | .emitting rows => return emit rows
  | .finished => return none

/-- The result row of a row of the table, from the `n`-th item of the select list on. -/
def projectFrom (h : Host σ) (r : Row) : Nat → List ResultColumn → Record → Run σ Record
  | _, [], out => return out
  | n, c :: cs, out =>
    if c.isStar then h.projectFrom r (n + 1) cs (out.update r.columns)
    else do
      let v ← h.evaluator.evaluate r.columns [n, 0] c.expression
      h.projectFrom r (n + 1) cs (out.set (.name c.label) v)

/-- **The result row** of a row of the table. -/
def project (h : Host σ) (s : Select) (r : Row) : Run σ Record := h.projectFrom r 0 s.columns []

/-- The next result row and the stage after it. -/
def step (h : Host σ) (s : Select) (stage : Stage) : Run σ (Option (Record × Stage)) := do
  match ← h.advance s stage with
  | none => return none
  | some (r, stage) => return some (← h.project s r, stage)

/-- Gives the reading up when the answer is the end or a failure. -/
def concluding {α : Type} (h : Host σ) (x : Run σ (Option α)) : Run σ (Option α) :=
  ExceptT.mk do
    let answer ← x.run
    match answer with
    | .ok (some a) => return .ok (some a)
    | answer =>
      h.close
      return answer

/-- **Asking for the next result row** — the reading is given up at the end and on failure. -/
def next (h : Host σ) (s : Select) (stage : Stage) : Run σ (Option (Record × Stage)) :=
  h.concluding (h.step s stage)

/-- Asking for the next row of the table in the same way. -/
def nextRow (h : Host σ) (s : Select) (stage : Stage) : Run σ (Option (Row × Stage)) :=
  h.concluding (h.advance s stage)

/-! ## §E — whole readings -/

/-- What is answered from a stage on, up to the end or a failure. -/
def collect {α : Type} (ask : Stage → Run σ (Option (α × Stage))) :
    Nat → Stage → StateM σ (List α × Option Error)
  | 0, _ => return ([], some .unfinished)
  | patience + 1, stage => do
    match ← Run.attempt (ask stage) with
    | .error e => return ([], some e)
    | .ok none => return ([], none)
    | .ok (some (a, stage)) =>
      let (as, e) ← collect ask patience stage
      return (a :: as, e)

/-- **The results of a SELECT**, with the failure that ended it. -/
def results (h : Host σ) (s : Select) : StateM σ (List Record × Option Error) := do
  collect (h.next s) (← h.patience) .fresh

/-- **The rows of the table** that belong to the result, in its order, with the failure that ended
the reading. -/
def rows (h : Host σ) (s : Select) : StateM σ (List Row × Option Error) := do
  collect (h.nextRow s) (← h.patience) .fresh

/-- The claim of a table that is read for its ids must be sound, and is not followed. -/
def disregard (h : Host σ) (first : Option Item) : Run σ (Option Item) := do
  let (claim, first) := claimed first
  if let some fault := claim.bind Claim.fault? then h.refuse (.claim fault)
  return first

/-- **The ids of the rows that satisfy the condition**, in the order in which the table gives
them. -/
def matchingIds (h : Host σ) (s : Select) : Run σ (List Value) := do
  h.read s
  Run.ensuring (do
    let first ← h.disregard (← h.pull)
    let rows ← h.gather s false (← h.patience) first {}
    return rows.map (·.id)) h.close

end Host
end TableQuery
