/-
# TableQuery.Value.Json — JSON text as values.

A JSON text is read as a value: objects are records, a number with a point or an exponent is a
binary64 number and any other an integer.  A member that comes again keeps its first place and takes
the later value.  The names of NaN and the infinities are numbers too.

## §A — faults.
## §B — texts.
## §C — numbers.
## §D — values.
-/
import TableQuery.Number.Reading
import TableQuery.Value.Basic

namespace TableQuery
namespace Json

/-! ## §A — faults -/

/-- Why a text is no JSON. -/
inductive Fault where
  | malformed
  /-- An integer beyond the digit limit. -/
  | tooManyDigits
  deriving DecidableEq, Repr

/-- The text without blanks at its start. -/
def skip (s : List Char) : List Char :=
  s.dropWhile fun c => c == ' ' || c == '\t' || c == '\n' || c == '\r'

/-! ## §B — texts -/

/-- The value of a hexadecimal digit. -/
def hexValue? (c : Char) : Option Nat :=
  if '0' ≤ c ∧ c ≤ '9' then some (c.toNat - 48)
  else if 'a' ≤ c ∧ c ≤ 'f' then some (c.toNat - 87)
  else if 'A' ≤ c ∧ c ≤ 'F' then some (c.toNat - 55)
  else none

/-- The number of four hexadecimal digits. -/
def unit? (a b c d : Char) : Option Nat := do
  return (((← hexValue? a) * 16 + (← hexValue? b)) * 16 + (← hexValue? c)) * 16 + (← hexValue? d)

/-- The character of a letter after a backslash. -/
def escaped? (c : Char) : Option Nat :=
  match c with
  | '"' | '\\' | '/' => some c.toNat
  | 'b' => some 8
  | 'f' => some 12
  | 'n' => some 10
  | 'r' => some 13
  | 't' => some 9
  | _ => none

/-- The numbers of the characters up to the closing quote, surrogates apart. -/
def units : List Char → Except Fault (List Nat × List Char)
  | [] => .error .malformed
  | '"' :: rest => .ok ([], rest)
  | '\\' :: 'u' :: a :: b :: c :: d :: rest =>
    match unit? a b c d with
    | none => .error .malformed
    | some n => do
      let (ns, rest) ← units rest
      return (n :: ns, rest)
  | '\\' :: c :: rest =>
    match escaped? c with
    | none => .error .malformed
    | some n => do
      let (ns, rest) ← units rest
      return (n :: ns, rest)
  | c :: rest =>
    if c.toNat < 0x20 ∨ c = '\\' then .error .malformed
    else do
      let (ns, rest) ← units rest
      return (c.toNat :: ns, rest)

/-- Joins the halves of surrogate pairs; a half that stands alone is no character. -/
def joined : List Nat → List Char
  | [] => []
  | [n] => [if 0xD800 ≤ n ∧ n ≤ 0xDFFF then Char.ofNat 0xFFFD else Char.ofNat n]
  | m :: n :: rest =>
    if 0xD800 ≤ m ∧ m ≤ 0xDBFF ∧ 0xDC00 ≤ n ∧ n ≤ 0xDFFF then
      Char.ofNat (0x10000 + (m - 0xD800) * 0x400 + (n - 0xDC00)) :: joined rest
    else
      (if 0xD800 ≤ m ∧ m ≤ 0xDFFF then Char.ofNat 0xFFFD else Char.ofNat m) :: joined (n :: rest)

/-- A text after its opening quote. -/
def text (s : List Char) : Except Fault (String × List Char) := do
  let (ns, rest) ← units s
  return (String.ofList (joined ns), rest)

/-! ## §C — numbers -/

/-- Whether the character is an ASCII digit. -/
def isDigit (c : Char) : Bool := '0' ≤ c ∧ c ≤ '9'

/-- The whole part of a number: a zero alone, or digits that begin with another. -/
def whole (s : List Char) : Except Fault (List Char × List Char) :=
  match s with
  | '0' :: rest => .ok (['0'], rest)
  | s =>
    match s.takeWhile isDigit with
    | [] => .error .malformed
    | ds => .ok (ds, s.dropWhile isDigit)

/-- The fraction after a point, if digits follow it. -/
def fraction (s : List Char) : List Char × List Char :=
  match s with
  | '.' :: rest =>
    match rest.takeWhile isDigit with
    | [] => ([], s)
    | ds => ('.' :: ds, rest.dropWhile isDigit)
  | s => ([], s)

/-- The exponent, if digits follow its mark and sign. -/
def exponent (s : List Char) : List Char × List Char :=
  match s with
  | c :: rest =>
    if c = 'e' ∨ c = 'E' then
      let (sign, digits) := match rest with
        | '+' :: r => (['+'], r)
        | '-' :: r => (['-'], r)
        | r => ([], r)
      match digits.takeWhile isDigit with
      | [] => ([], s)
      | ds => ('e' :: sign ++ ds, digits.dropWhile isDigit)
    else ([], s)
  | [] => ([], [])

/-- A number: an integer unless it has a fraction or an exponent. -/
def number (sign s : List Char) : Except Fault (Value × List Char) := do
  let (ds, rest) ← whole s
  let (f, rest) := fraction rest
  let (e, rest) := exponent rest
  if f.isEmpty && e.isEmpty then
    match Number.readInt? (sign ++ ds) with
    | some i => return (.int i, rest)
    | none => throw .tooManyDigits
  else
    match Number.readDouble? (sign ++ ds ++ f ++ e) with
    | some x => return (.float x, rest)
    | none => throw .malformed

/-! ## §D — values -/

/-- The words that are values. -/
def words : List (String × Value) :=
  [("null", .null), ("true", .bool true), ("false", .bool false), ("NaN", .float .nan),
   ("Infinity", .float (.infinity false)), ("-Infinity", .float (.infinity true))]

/-- The word at the start of a text. -/
def word? (s : List Char) : Option (Value × List Char) :=
  (words.find? fun w => w.1.toList.isPrefixOf s).map fun w => (w.2, s.drop w.1.length)

/-- Writes a member of an object. -/
def setMember : List (String × Value) → String → Value → List (String × Value)
  | [], name, v => [(name, v)]
  | (n, w) :: rest, name, v =>
    if n = name then (n, v) :: rest else (n, w) :: setMember rest name v

mutual

/-- A value, nested no deeper than the fuel. -/
def valueFrom : Nat → List Char → Except Fault (Value × List Char)
  | 0, _ => .error .malformed
  | fuel + 1, s =>
    match word? s with
    | some found => .ok found
    | none =>
      match s with
      | '"' :: rest => do
        let (t, rest) ← text rest
        return (.text t, rest)
      | '[' :: rest =>
        match skip rest with
        | ']' :: rest => .ok (.list [], rest)
        | rest => do
          let (items, rest) ← itemsFrom fuel rest
          return (.list items, rest)
      | '-' :: rest => number ['-'] rest
      | c :: rest =>
        if c = '\x7b' then
          match skip rest with
          | '\x7d' :: rest => .ok (.record [], rest)
          | rest => do
            let (members, rest) ← membersFrom fuel [] rest
            return (.record members, rest)
        else number [] s
      | [] => .error .malformed

/-- The items of a list up to its closing bracket. -/
def itemsFrom : Nat → List Char → Except Fault (List Value × List Char)
  | 0, _ => .error .malformed
  | fuel + 1, s => do
    let (v, rest) ← valueFrom fuel s
    match skip rest with
    | ',' :: rest => do
      let (vs, rest) ← itemsFrom fuel (skip rest)
      return (v :: vs, rest)
    | ']' :: rest => return ([v], rest)
    | _ => throw .malformed

/-- The members of an object up to its closing brace. -/
def membersFrom : Nat → List (String × Value) → List Char →
    Except Fault (List (String × Value) × List Char)
  | 0, _, _ => .error .malformed
  | fuel + 1, members, s =>
    match s with
    | '"' :: rest => do
      let (name, rest) ← text rest
      match skip rest with
      | ':' :: rest => do
        let (v, rest) ← valueFrom fuel (skip rest)
        let members := setMember members name v
        match skip rest with
        | ',' :: rest => membersFrom fuel members (skip rest)
        | '\x7d' :: rest => return (members, rest)
        | _ => throw .malformed
      | _ => throw .malformed
    | _ => .error .malformed

end

/-- **A JSON text as a value.** -/
def read (s : List Char) : Except Fault Value := do
  let (v, rest) ← valueFrom (2 * s.length + 2) (skip s)
  if (skip rest).isEmpty then return v else throw .malformed

end Json
end TableQuery
