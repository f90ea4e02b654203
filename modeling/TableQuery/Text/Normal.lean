/-
# TableQuery.Text.Normal — canonical decomposition.

Text is taken apart into base characters and marks, and the marks after a base are put in the order
of their combining classes, marks of one class keeping their order.  Texts that look the same then
are the same.  Everything here works on code points, so that bytes kept as code points of their own
pass through unchanged.
-/
import Std.Data.HashMap
import TableQuery.Text.NormalTable
import TableQuery.Text.Table

namespace TableQuery
namespace Text

/-- The decompositions, by code point. -/
def decompositions : Std.HashMap Nat (List Nat) :=
  (tableRows NormalTable.decompositions).foldl
    (fun m row => match row with
      | c :: parts => m.insert c parts
      | [] => m) ∅

/-- The combining classes other than zero, by code point. -/
def classes : Std.HashMap Nat Nat :=
  (tableRows NormalTable.classes).foldl
    (fun m row => match row with
      | [first, last, k] => (List.range (last - first + 1)).foldl (fun m i => m.insert (first + i) k) m
      | _ => m) ∅

/-- The combining class of a code point; zero for everything that is not a mark. -/
def combiningClass (n : Nat) : Nat := classes.getD n 0

/-- The code points that a code point stands for.  A Hangul syllable is its letters, which its place
among the syllables gives. -/
def decompose (n : Nat) : List Nat :=
  if 0xAC00 ≤ n ∧ n ≤ 0xD7A3 then
    let s := n - 0xAC00
    let tail := s % 28
    [0x1100 + s / 588, 0x1161 + s % 588 / 28] ++ if tail = 0 then [] else [0x11A7 + tail]
  else decompositions.getD n [n]

/-- Puts a mark of class `k` behind a text, last character first: before it stays every character
that is no mark or whose class is not greater. -/
def insertMark (k n : Nat) : List (Nat × Nat) → List (Nat × Nat)
  | [] => [(k, n)]
  | (j, m) :: rest => if k < j then (j, m) :: insertMark k n rest else (k, n) :: (j, m) :: rest

/-- Adds a code point behind a text, last character first. -/
def appendOrdered (done : List (Nat × Nat)) (n : Nat) : List (Nat × Nat) :=
  let k := combiningClass n
  if k = 0 then (0, n) :: done else insertMark k n done

/-- **Canonical decomposition** of a text given as code points. -/
def normalize (s : List Nat) : List Nat :=
  (((s.flatMap decompose).foldl appendOrdered []).map (·.2)).reverse

end Text
end TableQuery
