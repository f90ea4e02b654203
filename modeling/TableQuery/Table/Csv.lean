/-
# TableQuery.Table.Csv — tables in files of separated values.

A file holds records of fields.  Fields are parted by a mark, and a field in quotes may hold the
mark, line ends, and the quote written twice.  The first record names the columns unless the file
has no header; a record without fields is skipped; the others are rows, numbered from zero.  A row
that lacks fields has NULL in their columns, and surplus fields are dropped.

## §A — lines.
## §B — records.
## §C — rows.
## §D — files.
-/
import TableQuery.Table.Item
import TableQuery.Text.Encoding

namespace TableQuery
namespace Csv

/-! ## §A — lines -/

/-- The lines of a text, each with its line end: a line feed, a carriage return, or both. -/
def lines : List Char → List (List Char)
  | [] => []
  | '\r' :: '\n' :: rest => ['\r', '\n'] :: lines rest
  | c :: rest =>
    if c = '\n' ∨ c = '\r' then [c] :: lines rest
    else
      match lines rest with
      | [] => [[c]]
      | line :: more => (c :: line) :: more

/-- Nothing of the text is lost. -/
theorem flatten_lines (s : List Char) : (lines s).flatten = s := by
  fun_induction lines s with
  | case1 => rfl
  | case2 rest ih => simp [ih]
  | case3 c rest h hc ih => simp [ih]
  | case4 c rest h hc hl ih =>
    rw [hl] at ih
    simpa using ih
  | case5 c rest h hc line more hl ih =>
    rw [hl] at ih
    simpa using ih

/-- The lines of the portions of a text that is cut off: a line without an end is no line yet. -/
def endedLines (text : List Char) : List (List Char) :=
  (lines text).filter fun line => line.getLast? == some '\n' || line.getLast? == some '\r'

/-! ## §B — records -/

/-- The marks of a file. -/
structure Marks where
  delimiter : Char := ','
  quote : Char := '"'
  deriving Repr

/-- Where in a record the reading stands. -/
inductive Place where
  /-- Before the first character of the record. -/
  | record
  /-- Before the first character of a field. -/
  | field
  | bare
  | quoted
  /-- After a quote inside quotes, which ends the field or begins a doubled quote. -/
  | closing
  /-- After the line end. -/
  | ended
  deriving DecidableEq, Repr

/-- A record that is being read: the place, the fields that are complete, and the characters of the
one that is not, both last first. -/
structure Draft where
  place : Place := .record
  fields : List (List Char) := []
  chars : List Char := []
  deriving Repr

namespace Draft

/-- Completes a field. -/
def complete (p : Draft) (next : Place) : Draft :=
  { place := next, fields := p.chars.reverse :: p.fields, chars := [] }

/-- Adds a character to the field. -/
def add (p : Draft) (c : Char) (next : Place) : Draft :=
  { p with place := next, chars := c :: p.chars }

/-- A character outside quotes, where it is no opening quote. -/
def plain (m : Marks) (p : Draft) (c : Char) : Draft :=
  if c = '\n' ∨ c = '\r' then p.complete .ended
  else if c = m.delimiter then p.complete .field
  else p.add c .bare

/-- The first character of a field. -/
def opening (m : Marks) (p : Draft) (c : Char) : Draft :=
  if c = m.quote ∧ ¬ (c = '\n' ∨ c = '\r') then { p with place := .quoted } else p.plain m c

/-- **One character of a record.** -/
def step (m : Marks) (p : Draft) (c : Char) : Draft :=
  match p.place with
  | .record => if c = '\n' ∨ c = '\r' then { p with place := .ended } else p.opening m c
  | .field => p.opening m c
  | .bare => p.plain m c
  | .quoted => if c = m.quote then { p with place := .closing } else p.add c .quoted
  | .closing =>
    if c = m.quote then p.add c .quoted
    else if c = m.delimiter then p.complete .field
    else p.plain m c
  | .ended => p

/-- The fields of a record that has no more. -/
def close (p : Draft) : List String :=
  (p.complete .ended).fields.reverse.map String.ofList

/-- The record at the end of a line; none inside quotes, where it goes on in the next line. -/
def atLineEnd (p : Draft) : Option (List String) :=
  match p.place with
  | .quoted => none
  | .record | .ended => some (p.fields.reverse.map String.ofList)
  | .field | .bare | .closing => some p.close

end Draft

/-- **The records of some lines.** A record that the end of the file cuts inside quotes counts when
`whole` says that the file ends there by itself. -/
def recordsFrom (m : Marks) (whole : Bool) (p : Draft) : List (List Char) → List (List String)
  | [] => if p.place = .quoted ∧ whole then [p.close] else []
  | line :: rest =>
    let p := line.foldl (Draft.step m) p
    match p.atLineEnd with
    | some record => record :: recordsFrom m whole {} rest
    | none => recordsFrom m whole p rest

/-- The records of some lines. -/
def records (m : Marks) (whole : Bool) (text : List (List Char)) : List (List String) :=
  recordsFrom m whole {} text

/-! ## §C — rows -/

/-- A row, with a remark on its record. -/
structure Numbered where
  row : Row
  remark : Option String := none
  deriving Repr

/-- What is said of a record of a file with another number of fields than the header. -/
def remark (path : String) (number fields expected : Nat) : String :=
  path ++ ": record " ++ toString number ++ " has " ++ toString fields ++ " fields, expected " ++
    toString expected

/-- The columns of a record under a header; a name that comes again keeps its first place and takes
the later value. -/
def named (header record : List String) : Record :=
  Record.ofPairs (header.mapIdx fun i name =>
    (.name name, match record[i]? with
      | some s => Value.text s
      | none => .null))

/-- The columns of a record without a header. -/
def unnamed (record : List String) : Record :=
  record.mapIdx fun i s => (.name ("c" ++ toString i), .text s)

/-- A record of a file as a row. -/
def rowOf (path : String) (header : Option (List String)) (number : Nat) (record : List String) : Numbered :=
  match header with
  | none => { row := ⟨.int number, unnamed record⟩ }
  | some header =>
    { row := ⟨.int number, named header record⟩
      remark :=
        if record.length = header.length then none
        else some (remark path number record.length header.length) }

/-- The rows of records, those without fields left out. -/
def rowsOf (path : String) (header : Option (List String)) (records : List (List String)) : List Numbered :=
  (records.filter (!·.isEmpty)).mapIdx (rowOf path header)

/-- **The rows of a file's records.** -/
def rows (path : String) (hasHeader : Bool) (records : List (List String)) : List Numbered :=
  if hasHeader then
    match records with
    | [] => []
    | header :: rest => rowsOf path (some header) rest
  else rowsOf path none records

/-! ## §D — files -/

/-- A file with its options as they were given. -/
structure File where
  path : String
  bytes : List UInt8
  hasHeader : Bool := true
  delimiter : String := ","
  quote : String := "\""
  encoding : String := "utf-8"
  deriving Repr

namespace File

/-- A mark must be one character. -/
def mark (option text : String) : Except Error Char :=
  match text.toList with
  | [c] => .ok c
  | _ => .error (.csvMark option)

/-- The marks of a file. -/
def marks (f : File) : Except Error Marks := do
  let delimiter ← mark "delimiter" f.delimiter
  let quote ← mark "quotechar" f.quote
  return { delimiter, quote }

/-- The rows of a decoded file, and the fault that ends it. -/
def decodedRows (f : File) (m : Marks) (d : Text.Decoded) : List Numbered × Option Error :=
  let text := d.texts.flatten
  match d.fault with
  | none => (rows f.path f.hasHeader (records m true (lines text)), none)
  | some fault => (rows f.path f.hasHeader (records m false (endedLines text)), some (.encoding fault))

/-- **Reading a file** — its rows, and the fault that ends it. -/
def read (f : File) : List Numbered × Option Error :=
  match Text.Encoding.ofName? f.encoding with
  | none => ([], some (.encoding (.unknown f.encoding)))
  | some e =>
    match f.marks with
    | .error fault => ([], some fault)
    | .ok m => f.decodedRows m (Text.decodeFile e f.bytes)

end File
end Csv
end TableQuery
