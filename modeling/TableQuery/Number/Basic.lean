/-
# TableQuery.Number.Basic — integers and binary64 numbers as one kind.

An integer has any size and is exact; a `Double` is a binary64 number.  Two numbers are compared by
exact value whatever their kinds, through `Number.key`: NaN below everything, then the negative
infinity, the finite numbers in order, the positive infinity.  Arithmetic on two integers stays
exact where the result is an integer; with a `Double` among the operands the integer is first
rounded, and an integer beyond the binary64 range is refused, not made infinite.

## §A — numbers and their faults.
## §B — comparison.
## §C — arithmetic.
## §D — decimal text.
-/
import TableQuery.Number.Shortest

namespace TableQuery

/-! ## §A — numbers and their faults -/

/-- A number: an exact integer or a binary64 number. -/
inductive Number where
  | int (value : Int)
  | float (value : Double)
  deriving DecidableEq, Repr

/-- Why an operation on numbers has no result. -/
inductive NumberError where
  /-- The integer rounds to no finite binary64 number. -/
  | integerTooLarge
  /-- The quotient of two integers rounds to no finite binary64 number. -/
  | quotientTooLarge
  /-- The remainder of an infinite dividend. -/
  | remainderUndefined
  /-- The integer has more decimal digits than text may have. -/
  | tooManyDigits
  deriving DecidableEq, Repr

/-- The most decimal digits that the text of an integer may have. -/
def digitLimit : Nat := 4300

/-- What a fault of arithmetic or of number text says. -/
def NumberError.message : NumberError → String
  | .integerTooLarge => "int too large to convert to float"
  | .quotientTooLarge => "integer division result too large for a float"
  | .remainderUndefined => "math domain error"
  | .tooManyDigits =>
    "Exceeds the limit (4300 digits) for integer string conversion; " ++
      "use sys.set_int_max_str_digits() to increase the limit"

namespace Number

/-- A truth value as a number. -/
def ofBool (b : Bool) : Number := .int (if b then 1 else 0)

/-- Whether the number is an integer by kind. -/
def isInt : Number → Bool
  | .int _ => true
  | .float _ => false

/-- NaN is the one number that is no place on the line. -/
def isNaN : Number → Bool
  | .int _ => false
  | .float x => x.isNaN

/-! ## §B — comparison -/

/-- **The place of a number in the order** — a band and, inside the band of the finite numbers, the
exact value. -/
structure Key where
  band : Nat
  value : Rat
  deriving DecidableEq, Repr

/-- NaN first, then the line from the negative to the positive infinity. -/
def key : Number → Key
  | .int i => ⟨2, i⟩
  | .float .nan => ⟨0, 0⟩
  | .float (.infinity true) => ⟨1, 0⟩
  | .float (.infinity false) => ⟨3, 0⟩
  | .float (.finite s m e _) => ⟨2, Double.exact s m e⟩

/-- Bands first, then values. -/
def Key.compare (a b : Key) : Ordering :=
  if a.band < b.band then .lt
  else if b.band < a.band then .gt
  else if a.value < b.value then .lt
  else if b.value < a.value then .gt
  else .eq

/-- The order of two numbers by exact value; NaN is equal to itself and below all else. -/
def compare (a b : Number) : Ordering := a.key.compare b.key

/-- Equality of value, which NaN has with nothing. -/
def equal (a b : Number) : Bool := !a.isNaN && !b.isNaN && a.compare b == .eq

/-- Zero of either kind and sign. -/
def isZero : Number → Bool
  | .int i => i == 0
  | .float x => x.isZero

/-! ## §C — arithmetic -/

/-- The number rounded to binary64; an integer out of range is refused. -/
def toDouble : Number → Except NumberError Double
  | .int i =>
    match Double.ofInt i with
    | .infinity _ => .error .integerTooLarge
    | x => .ok x
  | .float x => .ok x

/-- The number with its sign turned. -/
protected def neg : Number → Number
  | .int i => .int (-i)
  | .float x => .float x.neg

/-- Two integers by `exact`, anything else by `rounded` after both operands are rounded. -/
def combine (exact : Int → Int → Int) (rounded : Double → Double → Double) :
    Number → Number → Except NumberError Number
  | .int a, .int b => .ok (.int (exact a b))
  | a, b => do
    let x ← a.toDouble
    let y ← b.toDouble
    return .float (rounded x y)

/-- The sum. -/
def add : Number → Number → Except NumberError Number := combine (· + ·) Double.add

/-- The difference. -/
def sub : Number → Number → Except NumberError Number := combine (· - ·) Double.sub

/-- The product. -/
def mul : Number → Number → Except NumberError Number := combine (· * ·) Double.mul

/-- **The quotient of two integers** — exact when the divisor divides, otherwise the one rounding of
the true quotient. -/
def divInt (a b : Int) : Except NumberError Number :=
  if a % b = 0 then .ok (.int (a.fdiv b))
  else
    match Double.ofRatio (decide (a < 0) != decide (b < 0)) a.natAbs b.natAbs with
    | .infinity _ => .error .quotientTooLarge
    | x => .ok (.float x)

/-- The quotient; none by zero. -/
def div? (a b : Number) : Except NumberError (Option Number) :=
  if b.isZero then .ok none
  else
    match a, b with
    | .int m, .int n => do return some (← divInt m n)
    | a, b => do
      let x ← a.toDouble
      let y ← b.toDouble
      return some (.float (x.div y))

/-- **The remainder** — both operands rounded to binary64, the remainder of the quotient cut toward
zero taken there, and an integer again when both operands were integers; none by zero. -/
def mod? (a b : Number) : Except NumberError (Option Number) :=
  if b.isZero then .ok none
  else do
    let x ← a.toDouble
    let y ← b.toDouble
    match x.remainder? y with
    | none => .error .remainderUndefined
    | some r =>
      if a.isInt && b.isInt then
        match r.truncate? with
        | some i => return some (.int i)
        | none => return some (.float r)
      else return some (.float r)

/-- **The whole number of that value** — none for a fraction, an infinity or NaN.  An integer beyond
the binary64 range is refused, as the test for finiteness is made on binary64 numbers. -/
def whole? : Number → Except NumberError (Option Int)
  | .int i => do
    let _ ← (Number.int i).toDouble
    return some i
  | .float x =>
    match x.toRat? with
    | some q => .ok (if q.den = 1 then some q.num else none)
    | none => .ok none

/-! ## §D — decimal text -/

/-- The decimal text of an integer, refused beyond the digit limit. -/
def intText (i : Int) : Except NumberError String :=
  if i.natAbs < Nat.pow 10 digitLimit then .ok (toString i) else .error .tooManyDigits

/-- The text of a number. -/
def text : Number → Except NumberError String
  | .int i => intText i
  | .float x => .ok x.text

end Number
end TableQuery
