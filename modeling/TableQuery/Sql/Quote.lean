/-
# TableQuery.Sql.Quote — values and names as they are written in statements.

A value is written as a literal and a name as a quoted identifier.  The mark that closes either is
written twice inside.  A dot parts a name, and each part is quoted by itself.
-/
import TableQuery.Value.Text

namespace TableQuery

/-- A text between marks, the mark inside written twice. -/
def Text.enclosed (mark : Char) (s : List Char) : List Char :=
  mark :: s.flatMap (fun c => if c = mark then [mark, mark] else [c]) ++ [mark]

/-- **A value as a literal.** Truth values are numbers, bytes are text, and a list is its text. -/
def Value.sqlLiteral (v : Value) : Except NumberError String :=
  match v with
  | .null => .ok "NULL"
  | .bool b => .ok (if b then "1" else "0")
  | .int i => Number.intText i
  | .float x => .ok x.text
  | .blob bytes => .ok (String.ofList (Text.enclosed '\'' (Utf8.decodeLossy bytes)))
  | v => do return String.ofList (Text.enclosed '\'' (← v.printed).toList)

/-- The parts of a text between dots. -/
def Text.dotParts : List Char → List (List Char)
  | [] => [[]]
  | '.' :: rest => [] :: dotParts rest
  | c :: rest =>
    match dotParts rest with
    | [] => [[c]]
    | part :: more => (c :: part) :: more

/-- **A name as a quoted identifier.** -/
def quoteName (name : String) : String :=
  String.ofList ((['.'] : List Char).intercalate
    ((Text.dotParts name.toList).map (Text.enclosed '"')))

end TableQuery
