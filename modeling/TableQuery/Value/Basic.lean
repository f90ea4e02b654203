/-
# TableQuery.Value.Basic — the values that rows and parameters hold.

A value is NULL, a truth value, a number, a text or a byte string; a parameter may also be a list or
a record of values, which the query language only carries and shows.  Truth values are numbers, and
so are texts and byte strings that write one: `Value.number?` says which.
-/
import TableQuery.Number.Reading
import TableQuery.Text.Utf8

namespace TableQuery

/-- A value of a column, a literal or a parameter. -/
inductive Value where
  | null
  | bool (value : Bool)
  | int (value : Int)
  | float (value : Double)
  | text (value : String)
  | blob (bytes : List UInt8)
  | list (items : List Value)
  | record (fields : List (String × Value))
  deriving Repr, BEq, Inhabited

namespace Value

/-- The number as a value. -/
def ofNumber : Number → Value
  | .int i => .int i
  | .float x => .float x

/-- What messages call the kind of a value. -/
def kindName : Value → String
  | .null => "NoneType"
  | .bool _ => "bool"
  | .int _ => "int"
  | .float _ => "float"
  | .text _ => "str"
  | .blob _ => "bytes"
  | .list _ => "list"
  | .record _ => "dict"

/-- NULL, and nothing else. -/
def isNull : Value → Bool
  | .null => true
  | _ => false

/-- **The number a value counts as** — truth values are 0 and 1, numbers are themselves, a text or a
byte string is the number it writes.  Byte strings that are no text write none. -/
def number? : Value → Option Number
  | .bool b => some (.ofBool b)
  | .int i => some (.int i)
  | .float x => some (.float x)
  | .text s => Number.ofText? s.toList
  | .blob bytes => (Utf8.decode? bytes).bind Number.ofText?
  | _ => none

end Value
end TableQuery
