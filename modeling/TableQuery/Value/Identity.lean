/-
# TableQuery.Value.Identity — values as the identity of rows.

Rows are told apart by a value.  Identity is exact: numbers of all kinds are one when they are
equal, so `TRUE` and `1` are the same identity and the text `1` is another; NaN is the identity of
nothing.  Lists and records are no identities at all.
-/
import TableQuery.Value.Basic

namespace TableQuery
namespace Value

/-- The number that a value is by kind; texts are none. -/
def plainNumber? : Value → Option Number
  | .bool b => some (.ofBool b)
  | .int i => some (.int i)
  | .float x => some (.float x)
  | _ => none

/-- Whether a value can tell rows apart. -/
def isIdentity : Value → Bool
  | .list _ | .record _ => false
  | _ => true

/-- **Identity of values.** -/
def same (a b : Value) : Bool :=
  match a, b with
  | .null, .null => true
  | .int i, .int j => i == j
  | .text s, .text t => s == t
  | .blob s, .blob t => s == t
  | a, b =>
    match a.plainNumber?, b.plainNumber? with
    | some m, some n => m.equal n
    | _, _ => false

/-- Whether a value counts as nothing given: NULL, false, zero, and what is empty. -/
def isAbsent : Value → Bool
  | .null => true
  | .bool b => !b
  | .int i => i == 0
  | .float x => x.isZero
  | .text s => s.isEmpty
  | .blob bytes => bytes.isEmpty
  | .list items => items.isEmpty
  | .record fields => fields.isEmpty

end Value
end TableQuery
