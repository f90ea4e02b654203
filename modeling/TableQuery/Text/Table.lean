/-
# TableQuery.Text.Table — character tables.

The character properties of Unicode are kept as ranges, runs and exceptions that can be looked up.
Longer tables are kept as texts: entries apart by spaces, the fields of an entry apart by commas,
each field a hexadecimal number.
-/
namespace TableQuery
namespace Text

/-- The value of a hexadecimal digit in lower case; zero for anything else. -/
def hexDigit (c : Char) : Nat :=
  let n := c.toNat
  if 0x30 ≤ n ∧ n ≤ 0x39 then n - 0x30 else if 0x61 ≤ n ∧ n ≤ 0x66 then n - 0x57 else 0

/-- The value of a hexadecimal number. -/
def hexValue (s : String) : Nat := s.toList.foldl (fun n c => 16 * n + hexDigit c) 0

/-- The entries of a table, each as its numbers. -/
def tableRows (table : String) : List (List Nat) :=
  (table.splitOn " ").map fun entry => (entry.splitOn ",").map hexValue

/-- A set of characters, as ranges with both ends in it. -/
structure Ranges where
  ranges : List (Nat × Nat)

/-- Whether a code point lies in one of the ranges. -/
def Ranges.contains (r : Ranges) (n : Nat) : Bool := r.ranges.any fun (a, b) => a ≤ n && n ≤ b

/-- `count` characters, `step` apart from `start` on, each mapped as far as `start` is to
`image`. -/
structure Run where
  start : Nat
  count : Nat
  step : Nat
  image : Nat

/-- A mapping from characters to texts: runs of characters with a one-character image, and
exceptions. -/
structure CharMap where
  runs : List Run
  long : List (Nat × List Nat)

/-- Where a run takes a code point, if the run has it. -/
def Run.image? (r : Run) (n : Nat) : Option Nat :=
  if r.start ≤ n ∧ n ≤ r.start + (r.count - 1) * r.step ∧ (n - r.start) % r.step = 0 then
    some (r.image + (n - r.start))
  else none

/-- The image of a character; one that the mapping does not mention stays as it is. -/
def CharMap.apply (m : CharMap) (c : Char) : List Char :=
  match m.long.find? (·.1 == c.toNat) with
  | some (_, images) => images.map Char.ofNat
  | none =>
    match m.runs.findSome? (·.image? c.toNat) with
    | some n => [Char.ofNat n]
    | none => [c]

end Text
end TableQuery
