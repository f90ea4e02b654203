/-
# TableQuery.Value.Text — values as text.

Three texts of one value: how a message shows it (`shown`, texts in quotes), how it reads when it is
printed alone (`printed`, texts as they are), and what the text operators of the query language see
(`operand`, truth values as `1` and `0`, bytes decoded).  An integer beyond the digit limit has none
of them.
-/
import TableQuery.Text.Quoted
import TableQuery.Value.Basic

namespace TableQuery
namespace Value

mutual

/-- **The value as a message shows it.** -/
def shown : Value → Except NumberError String
  | .null => .ok "None"
  | .bool b => .ok (if b then "True" else "False")
  | .int i => Number.intText i
  | .float x => .ok x.text
  | .text s => .ok (Text.quoted s)
  | .blob bytes => .ok (Text.quotedBytes bytes)
  | .list items => do return "[" ++ ", ".intercalate (← shownItems items) ++ "]"
  | .record fields => do return "\x7b" ++ ", ".intercalate (← shownFields fields) ++ "\x7d"

/-- The items of a list, each as a message shows it. -/
def shownItems : List Value → Except NumberError (List String)
  | [] => .ok []
  | v :: rest => do
    let first ← shown v
    return first :: (← shownItems rest)

/-- The fields of a record, each as a message shows it. -/
def shownFields : List (String × Value) → Except NumberError (List String)
  | [] => .ok []
  | (name, v) :: rest => do
    let first ← shown v
    return (Text.quoted name ++ ": " ++ first) :: (← shownFields rest)

end

/-- The value printed alone: a text as it is, anything else as a message shows it. -/
def printed : Value → Except NumberError String
  | .text s => .ok s
  | v => v.shown

/-- **The text that the text operators see** — bytes decoded with replacement characters, truth
values as digits, anything else printed. -/
def operand : Value → Except NumberError (List Char)
  | .text s => .ok s.toList
  | .blob bytes => .ok (Utf8.decodeLossy bytes)
  | .bool b => .ok [if b then '1' else '0']
  | v => do return (← v.printed).toList

/-- The code points that comparison of texts sees: bytes keep every bad byte apart, anything else is
printed. -/
def points : Value → Except NumberError (List Nat)
  | .blob bytes => .ok (Utf8.decodePoints bytes)
  | v => do return (← v.printed).toList.map Char.toNat

end Value
end TableQuery
