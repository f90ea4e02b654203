/-
# TableQuery.Value.Equality — equality across kinds.

Two values are loosely equal when both count as numbers and the numbers are equal, or when not both
do and their texts are the same.  NULL is loosely equal to nothing.  Membership in a list of values
is loose equality with one of its members, tried in order.
-/
import TableQuery.Value.Text

namespace TableQuery
namespace Value

/-- **Loose equality.** -/
def looseEqual (a b : Value) : Except NumberError Bool :=
  if a.isNull || b.isNull then .ok false
  else
    match a.number?, b.number? with
    | some m, some n => .ok (m.equal n)
    | _, _ => do
      let s ← a.points
      let t ← b.points
      return s == t

/-- Whether the value is loosely equal to a member; the first match ends the search. -/
def memberOf (v : Value) : List Value → Except NumberError Bool
  | [] => .ok false
  | member :: rest => do
    if ← v.looseEqual member then return true
    memberOf v rest

end Value
end TableQuery
