/-
# TableQuery.Text.Case — letter case of whole texts and of single letters.

Upper, lower and title case of a text follow the full Unicode mappings, in which a character may
become several and a sigma at the end of a word has a form of its own.  Beside them stands
`sameLetter`, the comparison of single characters that ignores case: no character ever stands for
several there.

## §A — case of texts.
## §B — letters without case.
-/
import TableQuery.Text.CaseTable

namespace TableQuery
namespace Text

/-! ## §A — case of texts -/

/-- The upper case mapping. -/
def upperMap : CharMap := ⟨CaseTable.upperRuns, CaseTable.upperLong⟩

/-- The lower case mapping, context aside. -/
def lowerMap : CharMap := ⟨CaseTable.lowerRuns, CaseTable.lowerLong⟩

/-- The title case mapping. -/
def titleMap : CharMap := ⟨CaseTable.titleRuns, CaseTable.titleLong⟩

/-- The characters that have case. -/
def casedRanges : Ranges := ⟨CaseTable.casedRanges⟩

/-- The characters that case looks through. -/
def ignorableRanges : Ranges := ⟨CaseTable.ignorableRanges⟩

/-- An ASCII letter in upper case made lower case, anything else as it is. -/
def asciiLower (c : Char) : Char :=
  if 'A' ≤ c ∧ c ≤ 'Z' then Char.ofNat (c.toNat + 32) else c

/-- An ASCII letter in lower case made upper case, anything else as it is. -/
def asciiUpper (c : Char) : Char :=
  if 'a' ≤ c ∧ c ≤ 'z' then Char.ofNat (c.toNat - 32) else c

/-- The upper case of one character. -/
def upperChar (c : Char) : List Char :=
  if c.toNat < 0x80 then [asciiUpper c] else upperMap.apply c

/-- The lower case of one character, context aside. -/
def lowerChar (c : Char) : List Char :=
  if c.toNat < 0x80 then [asciiLower c] else lowerMap.apply c

/-- The title case of one character. -/
def titleChar (c : Char) : List Char :=
  if c.toNat < 0x80 then [asciiUpper c] else titleMap.apply c

/-- Whether the character has case. -/
def isCased (c : Char) : Bool := casedRanges.contains c.toNat

/-- Whether the first character that case does not look through has case. -/
def casedAhead (s : List Char) : Bool :=
  match s.dropWhile fun c => ignorableRanges.contains c.toNat with
  | c :: _ => isCased c
  | [] => false

/-- The capital sigma, whose lower case depends on where it stands. -/
def capitalSigma : Char := Char.ofNat 0x3A3

/-- The lower case of a character between what stands before it, nearest first, and after it: a
sigma that ends a word has its final form. -/
def lowerBetween (before : List Char) (c : Char) (after : List Char) : List Char :=
  if c = capitalSigma then
    [Char.ofNat (if casedAhead before && !casedAhead after then 0x3C2 else 0x3C3)]
  else lowerChar c

/-- The lower case of a text that follows `before`, nearest first. -/
def lowerAfter (before : List Char) : List Char → List Char
  | [] => []
  | c :: rest => lowerBetween before c rest ++ lowerAfter (c :: before) rest

/-- The text in lower case. -/
def lower (s : List Char) : List Char := lowerAfter [] s

/-- The text in upper case. -/
def upper (s : List Char) : List Char := s.flatMap upperChar

/-- The title case of a text that follows `before`: a letter after a cased one is lower case. -/
def titleAfter (before : List Char) : List Char → List Char
  | [] => []
  | c :: rest =>
    let here :=
      match before with
      | b :: _ => if isCased b then lowerBetween before c rest else titleChar c
      | [] => titleChar c
    here ++ titleAfter (c :: before) rest

/-- The text with each word capitalised. -/
def title (s : List Char) : List Char := titleAfter [] s

/-! ## §B — letters without case -/

/-- The one-character lower case mapping and the mates of its images. -/
def foldMap : CharMap := ⟨CaseTable.foldRuns, []⟩

/-- The letter behind a character, lower case and always one character. -/
def fold (c : Char) : Char :=
  if c.toNat < 0x80 then asciiLower c else (foldMap.apply c).headD c

/-- **Same letter** — whether a character written in a pattern stands for a character of a text when
case does not count. -/
def sameLetter (written read : Char) : Bool :=
  let w := fold written
  let r := fold read
  w == r || (CaseTable.foldMates.any fun (c, mates) => c == w.toNat && mates.contains r.toNat)

end Text
end TableQuery
