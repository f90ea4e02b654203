/-
# TableQuery.Number.Reading — numbers written in text.

A text is numeric when, blanks at its ends aside, it is a signed run of decimal digits, or a decimal
with a point or an exponent.  The first kind reads as an exact integer, refused beyond the digit
limit; the second as the nearest binary64 number.  Digits of every script count; digit separators
and the names of infinities and NaN do not.
-/
import TableQuery.Number.Basic
import TableQuery.Text.Blank
import TableQuery.Text.Digit

namespace TableQuery
namespace Number

open Text

/-- A sign at the start of a text: whether it is a minus, and the rest. -/
def splitSign : List Char → Bool × List Char
  | '-' :: rest => (true, rest)
  | '+' :: rest => (false, rest)
  | rest => (false, rest)

/-- A signed run of digits as an integer, within the digit limit. -/
def readInt? (s : List Char) : Option Int :=
  let (negative, ds) := splitSign s
  if ds.isEmpty || !ds.all isDigit || digitLimit < ds.length then none
  else some (if negative then -(digitsValue ds : Int) else digitsValue ds)

/-- The exponent part of a decimal: nothing, or a mark and a signed run of digits to the end. -/
def readExponent? : List Char → Option Int
  | [] => some 0
  | c :: rest =>
    if c == 'e' || c == 'E' then
      let (negative, ds) := splitSign rest
      if ds.isEmpty || !ds.all isDigit then none
      else some (if negative then -(digitsValue ds : Int) else digitsValue ds)
    else none

/-- **A decimal** — digits with a point somewhere among or beside them, then an exponent; at least
one digit before the exponent. -/
def readDouble? (s : List Char) : Option Double :=
  let (negative, body) := splitSign s
  let (whole, rest) := spanDigits body
  let (fraction, tail) :=
    match rest with
    | '.' :: r => spanDigits r
    | r => ([], r)
  if whole.isEmpty && fraction.isEmpty then none
  else
    (readExponent? tail).map fun exponent =>
      let ds := whole ++ fraction
      Double.ofDecimal negative (digitsValue ds) ds.length (exponent - fraction.length)

/-- Whether a text has the marks of a decimal: a point or an exponent letter. -/
def hasDecimalMark (s : List Char) : Bool := s.any fun c => c == '.' || c == 'e' || c == 'E'

/-- A text without surrounding blanks as a number. -/
def readTrimmed? (s : List Char) : Option Number :=
  if hasDecimalMark s then (readDouble? s).map .float else (readInt? s).map .int

/-- **The number that a text writes**, if it writes one. -/
def ofText? (s : List Char) : Option Number := readTrimmed? (trim s)

end Number
end TableQuery
