/-
# TableQuery.Collation.Elements — sort keys of the Unicode Collation Algorithm.

A text is decomposed and cut into pieces that the default element table knows; each piece gives
collation elements of three weights.  The sort key lists the nonzero first weights, then the second
ones, then the third ones, a zero after each level; two texts are ordered as their keys.

## §A — the table.
## §B — the longest piece.
## §C — elements and keys.
-/
import Std.Data.HashMap
import TableQuery.Collation.ElementTable
import TableQuery.Text.Normal

namespace TableQuery
namespace Collation

/-! ## §A — the table -/

/-- A collation element: the weight of the letter, of its accents, of its case. -/
structure Element where
  primary : Nat
  secondary : Nat
  tertiary : Nat
  deriving DecidableEq, Repr

/-- The sequences of code points that have elements, by their first code point: what follows the
first one, and the elements. -/
abbrev Table := Std.HashMap Nat (List (List Nat × List Element))

/-- An element as the table text writes it. -/
def Element.ofText (s : String) : Element :=
  match (s.splitOn "/").map Text.hexValue with
  | [p, t, s] => ⟨p, s, t⟩
  | [p, t] => ⟨p, 0x20, t⟩
  | p :: _ => ⟨p, 0x20, 2⟩
  | [] => ⟨0, 0, 0⟩

/-- Adds a sequence and its elements. -/
def Table.add (t : Table) (first : Nat) (more : List Nat) (elements : List Element) : Table :=
  t.insert first ((more, elements) :: t.getD first [])

/-- Adds `count` code points from `start` on, the first weight rising by `step`. -/
def Table.addRun (t : Table) (start count step : Nat) (e : Element) : Table :=
  (List.range count).foldl
    (fun t i => t.add (start + i) [] [⟨e.primary + i * step, e.secondary, e.tertiary⟩]) t

/-- Adds an entry of the table text. -/
def Table.addEntry (t : Table) (entry : String) : Table :=
  match entry.splitOn "=" with
  | [key, value] =>
    let elements := (value.splitOn ",").map Element.ofText
    let run (step : Nat) (parts : List String) : Table :=
      match parts.map Text.hexValue, elements with
      | [start, count], [e] => t.addRun start count step e
      | _, _ => t
    if key.contains '*' then run 0 (key.splitOn "*")
    else if key.contains '+' then run 1 (key.splitOn "+")
    else
      match (key.splitOn ",").map Text.hexValue with
      | first :: more => t.add first more elements
      | [] => t
  | _ => t

/-- **The default table.** -/
def defaultTable : Table :=
  ElementTable.pieces.foldl (fun t piece => (piece.splitOn " ").foldl Table.addEntry t) ∅

/-! ## §B — the longest piece -/

/-- What following the table along a text found: the code points passed, the elements if they are an
entry, and what is left. -/
structure Found where
  matched : List Nat
  elements : Option (List Element)
  rest : List Nat

/-- Follows the candidates, which agree with the text so far, as long as one of them goes on with
the next code point. -/
def follow (candidates : List (List Nat × List Element)) (matched : List Nat) :
    List Nat → Found
  | [] => ⟨matched, (candidates.find? (·.1.isEmpty)).map (·.2), []⟩
  | n :: rest =>
    let next := candidates.filterMap fun (more, elements) =>
      match more with
      | m :: ms => if m = n then some (ms, elements) else none
      | [] => none
    if next.isEmpty then ⟨matched, (candidates.find? (·.1.isEmpty)).map (·.2), n :: rest⟩
    else follow next (matched ++ [n]) rest

/-- The farthest that the table goes along a text. -/
def Table.longest (t : Table) : List Nat → Found
  | [] => ⟨[], none, []⟩
  | n :: rest =>
    match t[n]? with
    | some candidates => follow candidates [n] rest
    | none => ⟨[], none, n :: rest⟩

/-- The elements of a sequence that is an entry as a whole. -/
def Table.whole? (t : Table) (s : List Nat) : Option (List Element) :=
  let found := t.longest s
  if found.rest.isEmpty then found.elements else none

/-- **A mark farther on** — the first mark after the piece that is not cut off from it and forms an
entry with it: the elements of that entry, and the text without the mark.  A mark is cut off by a
base character and by a mark of its own class right before it. -/
def Table.joinMark? (t : Table) (piece : List Nat) (lastClass : Nat) (passed : List Nat) :
    List Nat → Option (List Element × List Nat)
  | [] => none
  | n :: rest =>
    let k := Text.combiningClass n
    if k = 0 || k == lastClass then none
    else
      match t.whole? (piece ++ [n]) with
      | some elements => some (elements, passed.reverse ++ rest)
      | none => t.joinMark? piece k (n :: passed) rest

/-! ## §C — elements and keys -/

/-- The band of weights for code points without an entry: unified ideographs first, then their
extensions, then all else. -/
def implicitBase (n : Nat) : Nat :=
  if 0x4E00 ≤ n ∧ n ≤ 0x9FD5 then 0xFB40
  else if (0x3400 ≤ n ∧ n ≤ 0x4DB5) ∨ (0x20000 ≤ n ∧ n ≤ 0x2A6D6) ∨ (0x2A700 ≤ n ∧ n ≤ 0x2B734) ∨
      (0x2B740 ≤ n ∧ n ≤ 0x2B81D) ∨ (0x2B820 ≤ n ∧ n ≤ 0x2CEAF) then 0xFB80
  else 0xFBC0

/-- The elements of a code point without an entry, in code point order inside its band. -/
def implicitElements (n : Nat) : List Element :=
  [⟨implicitBase n + n / 0x8000, 0x20, 2⟩, ⟨n % 0x8000 + 0x8000, 0, 0⟩]

/-- The elements of a decomposed text, piece by piece; every piece takes at least one code point, so
`fuel` may be the length of the text. -/
def Table.elements (t : Table) : Nat → List Nat → List Element
  | 0, _ => []
  | _, [] => []
  | fuel + 1, s =>
    let found := t.longest s
    match t.joinMark? found.matched 0 [] found.rest, found.elements with
    | some (elements, rest), _ => elements ++ t.elements fuel rest
    | none, some elements => elements ++ t.elements fuel found.rest
    | none, none =>
      match found.rest with
      | n :: rest => implicitElements n ++ t.elements fuel rest
      | [] => []

/-- The weights of one level, without the zeros. -/
def level (weight : Element → Nat) (es : List Element) : List Nat :=
  (es.map weight).filter (· ≠ 0)

/-- The key of a list of elements. -/
def keyOfElements (es : List Element) : List Nat :=
  level Element.primary es ++ 0 :: (level Element.secondary es ++ 0 :: (level Element.tertiary es ++ [0]))

/-- **The sort key** of a text given as code points. -/
def unicodeKey (s : List Nat) : List Nat :=
  let decomposed := Text.normalize s
  keyOfElements (defaultTable.elements decomposed.length decomposed)

end Collation
end TableQuery
