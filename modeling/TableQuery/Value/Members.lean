/-
# TableQuery.Value.Members — sets of values.

The right side of IN, and a subquery in the place of a value, are sets of values: one scalar, a list
that is written down, or a subquery that is still to be run.  A deferred set is filled on its first
use and never again; a run that fails leaves it as it was.  All three answer the same questions,
from the list of their values.

## §A — one value of a list.
## §B — deferred sets.
## §C — the three kinds.
-/
import TableQuery.Collation.Order
import TableQuery.Error
import TableQuery.Value.Equality
import TableQuery.Value.Record

namespace TableQuery

/-! ## §A — one value of a list -/

/-- **The single value** of a list; every other count is refused. -/
def Value.single : List Value → Except Error Value
  | [v] => .ok v
  | vs => .error (.arity vs.length)

/-- The value that a result row contributes: the named column if the row has it, else the first. -/
def Value.contributed (column : String) (row : Record) : Value :=
  if column ≠ "*" ∧ row.has (.name column) then row.column column else row.first

/-! ## §B — deferred sets -/

/-- A set that is filled by running a subquery. -/
structure Deferred where
  column : String := "*"
  values : Option (List Value) := none
  deriving Repr, Inhabited

namespace Deferred
variable {σ : Type}

/-- Whether the subquery has been run. -/
def isFilled (d : Deferred) : Bool := d.values.isSome

/-- **Filling** — runs the subquery unless it has been run. -/
def fill (d : Deferred) (run : Run σ (List Record)) : Run σ Deferred :=
  match d.values with
  | some _ => pure d
  | none => do
    let rows ← run
    return { d with values := some (rows.map (Value.contributed d.column)) }

end Deferred

/-! ## §C — the three kinds -/

/-- A set of values. -/
inductive ValueSet where
  | scalar (value : Value)
  | list (values : List Value)
  | deferred (set : Deferred)
  deriving Repr

namespace ValueSet

/-- The values that are there; none of a deferred set that is not filled. -/
def known : ValueSet → List Value
  | scalar v => [v]
  | list vs => vs
  | deferred d => d.values.getD []

/-- The set with its values at hand. -/
def ready {σ : Type} (run : Run σ (List Record)) : ValueSet → Run σ ValueSet
  | deferred d => return deferred (← d.fill run)
  | s => pure s

/-- Whether a value is loosely equal to a member. -/
def contains (s : ValueSet) (v : Value) : Except NumberError Bool :=
  match s with
  | scalar w => w.looseEqual v
  | s => v.memberOf s.known

/-- The single member. -/
def single (s : ValueSet) : Except Error Value := Value.single s.known

/-- The order of the single member against a value, by code points. -/
def compareTo (s : ValueSet) (v : Value) : Except Error Ordering :=
  return Collation.binary.compare (← s.single) v

/-- Whether the set is one scalar by kind. -/
def isScalar : ValueSet → Bool
  | scalar _ => true
  | _ => false

/-- What messages call the kind of a set. -/
def kindName : ValueSet → String
  | scalar _ => "ScalarValue"
  | list _ => "ValueList"
  | deferred _ => "LazySubquery"

/-- The number of members, which only a written list has. -/
def length : ValueSet → Except Error Nat
  | list vs => .ok vs.length
  | s => .error (.noLength s.kindName)

/-- The set as messages show it. -/
def shown (s : ValueSet) : Except NumberError String :=
  match s with
  | scalar v => return s.kindName ++ "(" ++ (← v.shown) ++ ")"
  | list vs => return s.kindName ++ "(" ++ (← (Value.list vs).shown) ++ ")"
  | deferred d =>
    .ok (s.kindName ++ "(column=" ++ Text.quoted d.column ++ ", " ++
      (if d.isFilled then "materialized" else "pending") ++ ")")

end ValueSet
end TableQuery
