/-
# TableQuery.Number.Double — binary64 numbers as exact values.

A `Double` is NaN, a signed infinity, or a signed significand times a power of two in the one
normal form that binary64 gives it.  Every operation is exact rational arithmetic followed by ONE
rounding step, `Double.ofRatio`, which takes the nearest representable number and lets a tie go to
the even significand.  So a statement about an operation is a statement about rationals and about
that one step; nothing here depends on the machine's own floating-point unit.

## §A — normal form and rounding.
## §B — arithmetic.
-/
namespace TableQuery

/-! ## §A — normal form and rounding -/

/-- The least significand of 53 bits. -/
abbrev Double.full : Nat := 0x10000000000000

/-- **Normal form** — at most 53 significand bits, a binary64 exponent, and a full significand
unless the exponent is already the least one.  Each finite magnitude has exactly one such pair. -/
def Double.Canonical (significand : Nat) (exponent : Int) : Prop :=
  significand < 2 * full ∧ -1074 ≤ exponent ∧ exponent ≤ 971 ∧
    (full ≤ significand ∨ exponent = -1074)

instance (m : Nat) (e : Int) : Decidable (Double.Canonical m e) := by
  unfold Double.Canonical; infer_instance

/-- A binary64 number: `finite` stands for `±significand · 2 ^ exponent`. -/
inductive Double where
  | nan
  | infinity (negative : Bool)
  | finite (negative : Bool) (significand : Nat) (exponent : Int)
      (canonical : Double.Canonical significand exponent)
  deriving DecidableEq, Repr

namespace Double

/-- The zero of the given sign. -/
def zero (negative : Bool) : Double := .finite negative 0 (-1074) (by decide)

instance : Inhabited Double := ⟨zero false⟩

/-- A significand and exponent as a number; what is out of range is infinite. -/
def pack (negative : Bool) (significand : Nat) (exponent : Int) : Double :=
  if h : Canonical significand exponent then .finite negative significand exponent h
  else .infinity negative

/-- **Rounding a quotient** — the nearest natural number, a tie going to the even one. -/
def roundHalfEven (num den : Nat) : Nat :=
  let q := num / den
  let r := num % den
  if 2 * r < den then q
  else if den < 2 * r then q + 1
  else if q % 2 = 0 then q else q + 1

/-- `num / den / 2 ^ exponent`, as a numerator and a denominator. -/
def scaleBy (num den : Nat) (exponent : Int) : Nat × Nat :=
  if 0 ≤ exponent then (num, den * Nat.pow 2 exponent.toNat)
  else (num * Nat.pow 2 (-exponent).toNat, den)

/-- The exponent at which `num / den` has a 53-bit integer part, or the least exponent when the
quotient is too small for that. -/
def exponentOf (num den : Nat) : Int :=
  let guess := max ((num.log2 : Int) - den.log2 - 52) (-1074)
  let (n, d) := scaleBy num den guess
  if n < d * full ∧ -1074 < guess then guess - 1 else guess

/-- **The rounding step** — `±num / den` to the nearest binary64 number, ties to even; a quotient
beyond the largest finite number is infinite. -/
def ofRatio (negative : Bool) (num den : Nat) : Double :=
  if num = 0 then zero negative
  else
    let exponent := exponentOf num den
    let (n, d) := scaleBy num den exponent
    let significand := roundHalfEven n d
    if significand = 2 * full then pack negative full (exponent + 1)
    else pack negative significand exponent

/-- A rational number, rounded; `zeroSign` is the sign that an exact zero takes. -/
def ofRat (zeroSign : Bool) (q : Rat) : Double :=
  if q.num = 0 then zero zeroSign else ofRatio (decide (q.num < 0)) q.num.natAbs q.den

/-- The nearest binary64 number to an integer. -/
def ofInt (i : Int) : Double := ofRatio (decide (i < 0)) i.natAbs 1

/-- `±significand · 2 ^ exponent` as a rational number. -/
def exact (negative : Bool) (significand : Nat) (exponent : Int) : Rat :=
  let s : Int := if negative then -(significand : Int) else significand
  if 0 ≤ exponent then ((s * (Nat.pow 2 exponent.toNat : Nat) : Int) : Rat)
  else mkRat s (Nat.pow 2 (-exponent).toNat)

/-- The exact value of a finite number. -/
def toRat? : Double → Option Rat
  | .finite s m e _ => some (exact s m e)
  | _ => none

/-- NaN, and nothing else. -/
def isNaN : Double → Bool
  | .nan => true
  | _ => false

/-- Neither NaN nor an infinity. -/
def isFinite : Double → Bool
  | .finite .. => true
  | _ => false

/-- A zero of either sign. -/
def isZero : Double → Bool
  | .finite _ m _ _ => m == 0
  | _ => false

/-- The sign bit; NaN counts as positive. -/
def isNegative : Double → Bool
  | .nan => false
  | .infinity s => s
  | .finite s .. => s

/-- The integer part of a finite number, cut toward zero. -/
def truncate? (x : Double) : Option Int :=
  x.toRat?.map fun q => q.num.tdiv q.den

/-- **Decimal reading** — `±digits · 10 ^ exponent`, rounded.  `width` bounds the count of decimal
digits of `digits`; far outside the binary64 range the answer is zero or infinity without the power
of ten being formed. -/
def ofDecimal (negative : Bool) (digits : Nat) (width : Nat) (exponent : Int) : Double :=
  if digits = 0 then zero negative
  else if (width : Int) + exponent < -330 then zero negative
  else if 310 + (width : Int) < (width : Int) + exponent then .infinity negative
  else if 0 ≤ exponent then ofRatio negative (digits * Nat.pow 10 exponent.toNat) 1
  else ofRatio negative digits (Nat.pow 10 (-exponent).toNat)

/-! ## §B — arithmetic -/

/-- The number with its sign turned. -/
protected def neg : Double → Double
  | .nan => .nan
  | .infinity s => .infinity (!s)
  | .finite s m e h => .finite (!s) m e h

/-- The sum; an exact zero is negative only when both terms are. -/
protected def add : Double → Double → Double
  | .nan, _ => .nan
  | _, .nan => .nan
  | .infinity s, .infinity t => if s = t then .infinity s else .nan
  | .infinity s, .finite .. => .infinity s
  | .finite .., .infinity t => .infinity t
  | .finite s m e _, .finite t n f _ => ofRat (s && t) (exact s m e + exact t n f)

/-- The difference, as the sum with the opposite number. -/
protected def sub (x y : Double) : Double := x.add y.neg

/-- The product; its sign is that of the factors also at zero. -/
protected def mul : Double → Double → Double
  | .nan, _ => .nan
  | _, .nan => .nan
  | .infinity s, y => if y.isZero then .nan else .infinity (s != y.isNegative)
  | x, .infinity t => if x.isZero then .nan else .infinity (x.isNegative != t)
  | .finite s m e _, .finite t n f _ => ofRat (s != t) (exact s m e * exact t n f)

/-- The quotient; a zero divisor gives an infinity or NaN. -/
protected def div : Double → Double → Double
  | .nan, _ => .nan
  | _, .nan => .nan
  | .infinity _, .infinity _ => .nan
  | .infinity s, .finite t .. => .infinity (s != t)
  | .finite s .., .infinity t => zero (s != t)
  | .finite s m e _, .finite t n f _ =>
    if n = 0 then (if m = 0 then .nan else .infinity (s != t))
    else ofRat (s != t) (exact s m e / exact t n f)

/-- **Remainder** — of the quotient cut toward zero, with the sign of the dividend.  None where it
is undefined: an infinite dividend, or a zero divisor. -/
def remainder? : Double → Double → Option Double
  | .nan, _ => some .nan
  | _, .nan => some .nan
  | .infinity _, _ => none
  | .finite s m e h, .infinity _ => some (.finite s m e h)
  | .finite s m e _, .finite t n f _ =>
    if n = 0 then none
    else
      let x := exact s m e
      let y := exact t n f
      let q := x / y
      some (ofRat s (x - y * (q.num.tdiv q.den : Int)))

end Double
end TableQuery
