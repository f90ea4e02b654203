/-
# TableQuery.Number.Shortest — the fewest digits that read back.

A finite nonzero binary64 number is the nearest one to every real of an interval around it; any
decimal in that interval reads back as the number.  `Shortest.digits` walks the powers of ten
downward and stops at the coarsest one that has a multiple in the interval, so no decimal with
fewer digits reads back, and of the two multiples next to the number it takes the nearer.

How the digits are laid out (where positional notation ends, what an exponent looks like) is the
one record `Layout`; `Double.text` uses the layout of the query language.

## §A — the interval and the digits.
## §B — the layout.
-/
import TableQuery.Number.Double

namespace TableQuery
namespace Shortest

/-! ## §A — the interval and the digits -/

/-- The reals that round to `significand · 2 ^ exponent`, in quarters of `2 ^ exponent`: the number
itself at `middle`, the ends of the interval, and whether the ends belong to it. -/
structure Interval where
  low : Nat
  middle : Nat
  high : Nat
  closed : Bool
  deriving Repr, DecidableEq

/-- The interval of a normal-form pair.  Below a power of two the neighbour is half as far away,
and an even significand owns the ties at both ends. -/
def interval (significand : Nat) (exponent : Int) : Interval where
  low := if significand = Double.full ∧ -1074 < exponent then 4 * significand - 1
    else 4 * significand - 2
  middle := 4 * significand
  high := 4 * significand + 2
  closed := significand % 2 == 0

/-- `2 ^ (exponent - 2) / 10 ^ place`, as a numerator and a denominator: one quarter unit measured
in units of the decimal place. -/
def quarter (exponent place : Int) : Nat × Nat :=
  let two := exponent - 2
  let num := if 0 ≤ two then Nat.pow 2 two.toNat else 1
  let den := if 0 ≤ two then 1 else Nat.pow 2 (-two).toNat
  if 0 ≤ place then (num, den * Nat.pow 10 place.toNat) else (num * Nat.pow 10 (-place).toNat, den)

/-- Whether `count` units of the place lie in the interval. -/
def Interval.holds (i : Interval) (num den count : Nat) : Bool :=
  if i.closed then i.low * num ≤ count * den && count * den ≤ i.high * num
  else i.low * num < count * den && count * den < i.high * num

/-- The multiple of `10 ^ place` that reads back, if there is one: the nearer of the two next to the
number, an exact tie going to the even one. -/
def atPlace (i : Interval) (exponent place : Int) : Option Nat :=
  let (num, den) := quarter exponent place
  let below := i.middle * num / den
  let above := below + 1
  match i.holds num den below, i.holds num den above with
  | false, false => none
  | true, false => some below
  | false, true => some above
  | true, true =>
    let toBelow := i.middle * num - below * den
    let toAbove := above * den - i.middle * num
    if toBelow < toAbove then some below
    else if toAbove < toBelow then some above
    else if below % 2 = 0 then some below else some above

/-- The first place, walking down from `place`, that has a multiple in the interval. -/
def search (i : Interval) (exponent : Int) : Nat → Int → Nat × Int
  | 0, place => (0, place)
  | fuel + 1, place =>
    match atPlace i exponent place with
    | some count => if count = 0 then search i exponent fuel (place - 1) else (count, place)
    | none => search i exponent fuel (place - 1)

/-- A decimal place whose unit is above the number. -/
def topPlace (significand : Nat) (exponent : Int) : Int :=
  let bits : Int := significand.log2 + 1 + exponent
  if 0 ≤ bits then bits / 3 + 1 else bits / 4 + 1

/-- **Shortest digits** — `(count, place)` with `count · 10 ^ place` in the interval of the number
and `place` as large as possible.  The number is itself a multiple of `10 ^ min exponent 0`, so the
walk ends there at the latest. -/
def digits (significand : Nat) (exponent : Int) : Nat × Int :=
  let top := topPlace significand exponent
  search (interval significand exponent) exponent ((top - min exponent 0).toNat + 1) top

/-! ## §B — the layout -/

/-- How the digits of a floating-point number are written.  A number is written positionally when
its decimal point stands after more than `leastPoint` and at most `mostPoint` digits. -/
structure Layout where
  leastPoint : Int
  mostPoint : Int
  wholeTail : String
  mark : String
  exponentWidth : Nat

/-- `n` written with at least `width` digits. -/
def padded (width n : Nat) : String :=
  let s := toString n
  String.ofList (List.replicate (width - s.length) '0') ++ s

/-- Positional notation: the point after `point` digits, zeros filling the gaps. -/
def positional (l : Layout) (ds : List Char) (point : Int) : String :=
  if point ≤ 0 then
    "0." ++ String.ofList (List.replicate (-point).toNat '0' ++ ds)
  else if point.toNat < ds.length then
    String.ofList (ds.take point.toNat) ++ "." ++ String.ofList (ds.drop point.toNat)
  else
    String.ofList (ds ++ List.replicate (point.toNat - ds.length) '0') ++ l.wholeTail

/-- Exponent notation: one digit, the rest after a point, a signed exponent. -/
def exponential (l : Layout) (ds : List Char) (point : Int) : String :=
  let exponent := point - 1
  let fraction := match ds.drop 1 with
    | [] => ""
    | rest => "." ++ String.ofList rest
  String.ofList (ds.take 1) ++ fraction ++ l.mark ++ (if exponent < 0 then "-" else "+") ++
    padded l.exponentWidth exponent.natAbs

/-- Digits and place in the given layout. -/
def Layout.write (l : Layout) (count : Nat) (place : Int) : String :=
  let ds := (toString count).toList
  let point := (ds.length : Int) + place
  if l.leastPoint < point ∧ point ≤ l.mostPoint then positional l ds point
  else exponential l ds point

end Shortest

/-- Numbers are written positionally from 0.0001 up to but not including ten to the sixteenth, a
whole number keeps one zero after the point, and an exponent has a sign and two digits or more. -/
def Double.layout : Shortest.Layout where
  leastPoint := -4
  mostPoint := 16
  wholeTail := ".0"
  mark := "e"
  exponentWidth := 2

/-- **The text of a binary64 number** — the shortest digits that read back, in `Double.layout`. -/
def Double.text : Double → String
  | .nan => "nan"
  | .infinity s => if s then "-inf" else "inf"
  | .finite s m e _ =>
    let body :=
      if m = 0 then "0.0"
      else
        let (count, place) := Shortest.digits m e
        Double.layout.write count place
    if s then "-" ++ body else body

end TableQuery
