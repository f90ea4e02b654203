/-
# TableQuery.Evaluation.Basic — conditions and values of expressions.

An expression is read in two ways: as a condition, which is true or false, or as a value, which may
be NULL.  The readings share one meaning for each connective (§B); what they differ in is which
expressions they admit.  A subquery is answered by the caller, who learns the place of the subquery
in the statement.  A positional marker without an ordinal takes the next number of a cursor that
starts at zero for every reading.

## §A — the surroundings of an evaluation.
## §B — connectives on computations.
## §C — the two readings.
## §D — tests.
-/
import TableQuery.Evaluation.Like
import TableQuery.Statement.Parameters
import TableQuery.Value.Members

namespace TableQuery

/-! ## §A — the surroundings of an evaluation -/

/-- The way from the root of a statement to one of its nodes, last step first. -/
abbrev Place := List Nat

/-- A computation with a cursor over the positional markers. -/
abbrev Evaluation (σ : Type) := StateT Nat (Run σ)

/-- What an evaluation takes from outside: parameters, the collation, and the values of
subqueries. -/
structure Evaluator (σ : Type) where
  params : Parameters := Parameters.none
  collation : Collation := .binary
  members : Place → Select → Run σ (List Value) :=
    fun _ _ => throw (.unsupported .subqueryEvaluation)

namespace Evaluation
variable {σ : Type}

/-- Fails with a fault of evaluation. -/
def fail {α : Type} (fault : EvaluationFault) : Evaluation σ α := throw (.evaluation fault)

/-- A computation on numbers. -/
def ofNumber {α : Type} (x : Except NumberError α) : Evaluation σ α :=
  StateT.lift (Run.ofNumber x)

/-! ## §B — connectives on computations -/

/-- Both conditions, the second only when the first holds. -/
def both (a b : Evaluation σ Bool) : Evaluation σ Bool := do
  if ← a then b else return false

/-- One of two conditions, the second only when the first fails. -/
def either (a b : Evaluation σ Bool) : Evaluation σ Bool := do
  if ← a then return true else b

/-- The opposite. -/
def opposite (a : Evaluation σ Bool) : Evaluation σ Bool := return !(← a)

/-- The verdict of a comparison operator on an order. -/
def verdict : BinaryOp → Ordering → Bool
  | .eq, o => o == .eq
  | .ne, o => o != .eq
  | .lt, o => o == .lt
  | .le, o => o != .gt
  | .gt, o => o == .gt
  | .ge, o => o != .lt
  | _, _ => false

/-- Two values under a comparison operator. -/
def compared (c : Collation) (op : BinaryOp) (a b : Evaluation σ Value) : Evaluation σ Bool := do
  let x ← a
  let y ← b
  return verdict op (c.compare x y)

/-- Whether a value is NULL. -/
def nullTest (negated : Bool) (a : Evaluation σ Value) : Evaluation σ Bool :=
  return (← a).isNull != negated

/-- The pattern test, false when a side is NULL whether or not it is negated. -/
def likeTest (negated : Bool) (a pattern : Evaluation σ Value) : Evaluation σ Bool := do
  let v ← a
  let p ← pattern
  if v.isNull || p.isNull then return false
  return (← ofNumber (Like.test v p)) != negated

/-- Membership; NULL is never a member nor a non-member, and nothing is asked of the set then. -/
def memberTest (negated : Bool) (a : Evaluation σ Value) (set : Evaluation σ (List Value)) :
    Evaluation σ Bool := do
  let v ← a
  if v.isNull then return false
  let vs ← set
  return (← ofNumber (v.memberOf vs)) != negated

/-- A function is known by name and not carried out. -/
def noFunction {α : Type} (name : String) : Evaluation σ α := throw (.unsupported (.function name))

/-- Two numbers under an arithmetic operator; none where there is no result. -/
def calculate (op : BinaryOp) (m n : Number) : Except NumberError (Option Number) :=
  match op with
  | .add => some <$> m.add n
  | .sub => some <$> m.sub n
  | .mul => some <$> m.mul n
  | .div => m.div? n
  | .mod => m.mod? n
  | _ => .ok none

/-- Two values under an arithmetic operator: NULL with a NULL, with what is no number, and by
zero. -/
def arithmetic (op : BinaryOp) (v w : Value) : Except NumberError Value :=
  if v.isNull || w.isNull then .ok .null
  else if op = .concat then do
    let s ← v.operand
    let t ← w.operand
    return .text (String.ofList (s ++ t))
  else
    match v.number?, w.number? with
    | some m, some n => do
      match ← calculate op m n with
      | some r => return Value.ofNumber r
      | none => return .null
    | _, _ => .ok .null

/-- Two computed values under an arithmetic operator. -/
def computed (op : BinaryOp) (a b : Evaluation σ Value) : Evaluation σ Value := do
  let x ← a
  let y ← b
  ofNumber (arithmetic op x y)

/-- The opposite number; NULL of what is no number. -/
def negative (v : Value) : Value :=
  match v.number? with
  | some n => Value.ofNumber n.neg
  | none => .null

/-- The value of a marker. -/
def parameter (params : Parameters) (m : Marker) : Evaluation σ Value := do
  if Parameters.needsPosition m then
    let position ← get
    set (position + 1)
    return params.lookup m (some (position : Int))
  else return params.lookup m none

end Evaluation

/-! ## §C — the two readings -/

namespace Evaluator
variable {σ : Type}
open Evaluation

/-- The values of a subquery. -/
def valuesOf (ev : Evaluator σ) (place : Place) (s : Select) : Evaluation σ (List Value) :=
  StateT.lift (ev.members place s)

mutual

/-- **The condition** that an expression states about a row. -/
def condition (ev : Evaluator σ) (row : Record) : Place → Expr → Evaluation σ Bool
  | at_, .binary op l r =>
    match op with
    | .and => both (ev.condition row (0 :: at_) l) (ev.condition row (1 :: at_) r)
    | .or => either (ev.condition row (0 :: at_) l) (ev.condition row (1 :: at_) r)
    | op =>
      if op.family = .comparison then
        compared ev.collation op (ev.value row (0 :: at_) l) (ev.value row (1 :: at_) r)
      else fail (.arithmeticCondition op.sign)
  | at_, .unary op e =>
    match op with
    | .not => opposite (ev.condition row (0 :: at_) e)
    | .neg => fail .minusCondition
  | at_, .member l vs q negated =>
    match q with
    | some s => memberTest negated (ev.value row (0 :: at_) l) (ev.valuesOf (1 :: at_) s)
    | none => memberTest negated (ev.value row (0 :: at_) l) (ev.values row 1 at_ vs)
  | at_, .isNull e negated => nullTest negated (ev.value row (0 :: at_) e)
  | at_, .like l p negated =>
    likeTest negated (ev.value row (0 :: at_) l) (ev.value row (1 :: at_) p)
  | _, .literal (.bool b) => return b
  | _, .call name _ => noFunction name
  | _, e => fail (.notCondition e.kindName)

/-- **The value** of an expression on a row. -/
def value (ev : Evaluator σ) (row : Record) : Place → Expr → Evaluation σ Value
  | _, .literal v => return v
  | _, .column name => return row.column (Expr.lastPart name)
  | _, .marker m => parameter ev.params m
  | at_, .unary op e =>
    match op with
    | .not => Value.bool <$> opposite (ev.condition row (0 :: at_) e)
    | .neg => negative <$> ev.value row (0 :: at_) e
  | at_, .binary op l r =>
    match op with
    | .and =>
      Value.bool <$> both (ev.condition row (0 :: at_) l) (ev.condition row (1 :: at_) r)
    | .or =>
      Value.bool <$> either (ev.condition row (0 :: at_) l) (ev.condition row (1 :: at_) r)
    | op =>
      if op.family = .comparison then
        Value.bool <$>
          compared ev.collation op (ev.value row (0 :: at_) l) (ev.value row (1 :: at_) r)
      else computed op (ev.value row (0 :: at_) l) (ev.value row (1 :: at_) r)
  | at_, .member l vs q negated =>
    match q with
    | some s =>
      Value.bool <$> memberTest negated (ev.value row (0 :: at_) l) (ev.valuesOf (1 :: at_) s)
    | none =>
      Value.bool <$> memberTest negated (ev.value row (0 :: at_) l) (ev.values row 1 at_ vs)
  | at_, .isNull e negated => Value.bool <$> nullTest negated (ev.value row (0 :: at_) e)
  | at_, .like l p negated =>
    Value.bool <$> likeTest negated (ev.value row (0 :: at_) l) (ev.value row (1 :: at_) p)
  | at_, .subquery s => do
    let vs ← ev.valuesOf at_ s
    StateT.lift (liftExcept (Value.single vs))
  | _, .call name _ => noFunction name
  | _, e => fail (.notValue e.kindName)

/-- The values of expressions from left to right, the first of them the `n`-th child of its
parent. -/
def values (ev : Evaluator σ) (row : Record) (n : Nat) (at_ : Place) :
    List Expr → Evaluation σ (List Value)
  | [] => return []
  | e :: es => do
    let v ← ev.value row (n :: at_) e
    return v :: (← ev.values row (n + 1) at_ es)

end

/-- Whether a row satisfies a condition, which every row does when there is none. -/
def holds (ev : Evaluator σ) (row : Record) (place : Place) : Option Expr → Run σ Bool
  | none => return true
  | some e => return ((← (ev.condition row place e).run 0)).1

/-- The value of an expression on a row. -/
def evaluate (ev : Evaluator σ) (row : Record) (place : Place) (e : Expr) : Run σ Value :=
  return ((← (ev.value row place e).run 0)).1

end Evaluator

/-! ## §D — tests -/

/-- Whether the expression is a test: what it states as a condition is also its value. -/
def Expr.isTest : Expr → Bool
  | .binary op _ _ => op.family != .arithmetic
  | .unary op _ => op == .not
  | .member .. | .isNull .. | .like .. => true
  | _ => false

/-- **The value of a test** is the truth of the condition that it states. -/
theorem Evaluator.value_of_isTest {σ : Type} (ev : Evaluator σ) (row : Record) (at_ : Place)
    {e : Expr} (h : e.isTest = true) :
    ev.value row at_ e = Value.bool <$> ev.condition row at_ e := by
  cases e with
  | binary op l r =>
    cases op with
    | and | or => rw [value, condition]
    | eq | ne | lt | le | gt | ge => simp only [value, condition, BinaryOp.family, if_true]
    | add | sub | mul | div | mod | concat => cases h
  | unary op e =>
    cases op with
    | not => rw [value, condition]
    | neg => cases h
  | member l vs q negated => cases q <;> rw [value, condition]
  | isNull e negated => rw [value, condition]
  | like l p negated => rw [value, condition]
  | _ => cases h

end TableQuery
