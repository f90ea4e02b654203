/-
# TableQuery.Collation.Order — the order of values under a collation.

NULL is below everything, numbers come next in the order of their values, all other texts and byte
strings last.  A text or byte string that writes a number counts as that number, so the collation
has a say only between two texts that write none.  `Collation.compare` decides a pair directly;
`Collation.sortKey` gives each value a key once, for sorting.

## §A — direct comparison.
## §B — sort keys.
-/
import TableQuery.Collation.Basic
import TableQuery.Value.Text

namespace TableQuery

/-! ## §A — direct comparison -/

/-- The bands of the order: NULL, numbers, all else. -/
inductive Value.Band where
  | null
  | number
  | text
  deriving DecidableEq, Repr

/-- Where a band stands. -/
def Value.Band.rank : Value.Band → Nat
  | .null => 0
  | .number => 1
  | .text => 2

/-- The band of a value. -/
def Value.band (v : Value) : Value.Band :=
  if v.isNull then .null else if v.number?.isSome then .number else .text

/-- The code points that the order of texts looks at.  A list that holds an integer beyond the digit
limit has no text; it is ordered as the empty one. -/
def Value.orderPoints (v : Value) : List Nat :=
  match v.points with
  | .ok s => s
  | .error _ => []

namespace Collation

/-- Two texts under the collation. -/
def compareText (c : Collation) (s t : List Nat) : Ordering :=
  Ord.compare (c.textKey s) (c.textKey t)

/-- **The order of two values.** -/
def compare (c : Collation) (a b : Value) : Ordering :=
  if a.isNull then (if b.isNull then .eq else .lt)
  else if b.isNull then .gt
  else
    match a.number?, b.number? with
    | some m, some n => m.compare n
    | some _, none => .lt
    | none, some _ => .gt
    | none, none => c.compareText a.orderPoints b.orderPoints

/-- Whether two values have the same place in the order. -/
def equal (c : Collation) (a b : Value) : Bool := c.compare a b == .eq

/-! ## §B — sort keys -/

/-- The key of a value: its band, and its place inside the band. -/
inductive SortKey where
  | null
  | number (key : Number.Key)
  | text (key : List Nat)
  deriving DecidableEq, Repr

/-- The order of keys. -/
def SortKey.compare : SortKey → SortKey → Ordering
  | .null, .null => .eq
  | .null, _ => .lt
  | .number _, .null => .gt
  | .number a, .number b => a.compare b
  | .number _, .text _ => .lt
  | .text a, .text b => Ord.compare a b
  | .text _, _ => .gt

/-- **The sort key of a value.** -/
def sortKey (c : Collation) (v : Value) : SortKey :=
  match v with
  | .null => .null
  | v =>
    match v.number? with
    | some n => .number n.key
    | none => .text (c.textKey v.orderPoints)

end Collation
end TableQuery
