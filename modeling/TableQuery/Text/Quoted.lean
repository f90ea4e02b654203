/-
# TableQuery.Text.Quoted — texts and bytes shown inside messages.

A shown text stands in single quotes, or in double quotes when it holds a single quote and no double
one.  The backslash, the surrounding quote, line breaks and tabs are escaped, and a character that
is not printed as itself is shown by its number.  Bytes are shown in the same way after a `b`, every
byte outside printable ASCII by its number.
-/
import TableQuery.Text.ClassTable
import TableQuery.Text.Table

namespace TableQuery
namespace Text

/-- Letters of every kind. -/
def letterRanges : Ranges := ⟨ClassTable.letterRanges⟩

/-- Digits of every kind. -/
def digitRanges : Ranges := ⟨ClassTable.digitRanges⟩

/-- Characters that are not printed as themselves. -/
def hiddenRanges : Ranges := ⟨ClassTable.hiddenRanges⟩

/-- Whether the character is a letter. -/
def isLetter (c : Char) : Bool := letterRanges.contains c.toNat

/-- Whether the character is a digit of any kind. -/
def isAnyDigit (c : Char) : Bool :=
  if c.toNat < 0x80 then '0' ≤ c && c ≤ '9' else digitRanges.contains c.toNat

/-- Whether the character is printed as itself. -/
def isShown (c : Char) : Bool :=
  if c.toNat < 0x80 then 0x20 ≤ c.toNat && c.toNat < 0x7F else !hiddenRanges.contains c.toNat

/-- A number in lower case hexadecimal with at least `width` digits. -/
def hexText (width n : Nat) : List Char :=
  let ds := Nat.toDigits 16 n
  List.replicate (width - ds.length) '0' ++ ds

/-- The quote that surrounds a shown text: the double quote only when the text holds a single quote
and no double one. -/
def quoteFor (single double : Bool) : Char := if single && !double then '"' else '\''

/-- A character inside the given quotes. -/
def showChar (quote c : Char) : List Char :=
  if c == quote || c == '\\' then ['\\', c]
  else if c == '\n' then ['\\', 'n']
  else if c == '\r' then ['\\', 'r']
  else if c == '\t' then ['\\', 't']
  else if isShown c then [c]
  else if c.toNat < 0x100 then '\\' :: 'x' :: hexText 2 c.toNat
  else if c.toNat < 0x10000 then '\\' :: 'u' :: hexText 4 c.toNat
  else '\\' :: 'U' :: hexText 8 c.toNat

/-- **A text as messages show it.** -/
def quoted (s : String) : String :=
  let cs := s.toList
  let quote := quoteFor (cs.contains '\'') (cs.contains '"')
  String.ofList (quote :: cs.flatMap (showChar quote) ++ [quote])

/-- A byte inside the given quotes. -/
def showByte (quote : Char) (b : UInt8) : List Char :=
  if b < 0x80 then
    let c := Char.ofNat b.toNat
    if b < 0x20 || b == 0x7F then
      if c == '\n' then ['\\', 'n']
      else if c == '\r' then ['\\', 'r']
      else if c == '\t' then ['\\', 't']
      else '\\' :: 'x' :: hexText 2 b.toNat
    else if c == quote || c == '\\' then ['\\', c]
    else [c]
  else '\\' :: 'x' :: hexText 2 b.toNat

/-- **Bytes as messages show them.** -/
def quotedBytes (bytes : List UInt8) : String :=
  let quote := quoteFor (bytes.contains 0x27) (bytes.contains 0x22)
  String.ofList ('b' :: quote :: bytes.flatMap (showByte quote) ++ [quote])

end Text
end TableQuery
