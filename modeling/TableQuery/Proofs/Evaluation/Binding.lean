/-
# TableQuery.Proofs.Evaluation.Binding — binding ahead of evaluation.

Parameters reach an evaluation in two ways: the evaluator looks a marker up when it comes to it, or
the tree is bound first and holds literals where its markers stood.  Looking up is lazy and binding is
not, but neither a failure nor a number hangs on it where every positional marker carries an ordinal:
what a marker stands for is then decided by the marker alone.  A marker that stands as a condition is
the exception, for the truth values among the literals are conditions and no marker is; and a subquery
is bound inside, while the evaluator hands it out as it is.

## §A — expressions that can be bound ahead.
## §B — what binding builds.
## §C — the two readings.
-/
import TableQuery.Evaluation.Basic

namespace TableQuery

/-! ## §A — expressions that can be bound ahead -/

/-- Whether the expression is a marker. -/
def Expr.isMarker : Expr → Bool
  | .marker _ => true
  | _ => false

mutual

/-- **Whether an expression can be bound ahead**: no subquery stands in it, its positional markers
carry an ordinal, and no marker is an operand of AND, OR or NOT. -/
def Expr.bindable : Expr → Bool
  | .marker m => !Parameters.needsPosition m
  | .binary op l r =>
    l.bindable && r.bindable && (op.family != .logical || !(l.isMarker || r.isMarker))
  | .unary op e => e.bindable && (op != .not || !e.isMarker)
  | .member l vs q _ => l.bindable && Expr.listBindable vs && q.isNone
  | .isNull e _ => e.bindable
  | .like l p _ => l.bindable && p.bindable
  | .call _ args => Expr.listBindable args
  | .subquery _ => false
  | .literal _ | .column _ | .star | .misplaced _ => true

/-- Whether every one of some expressions can be bound ahead. -/
def Expr.listBindable : List Expr → Bool
  | [] => true
  | e :: es => e.bindable && Expr.listBindable es

end

namespace Expr

theorem bindable_binary {op : BinaryOp} {l r : Expr} (h : (binary op l r).bindable = true) :
    l.bindable = true ∧ r.bindable = true ∧
      (op.family = .logical → l.isMarker = false ∧ r.isMarker = false) := by
  unfold bindable at h
  obtain ⟨hboth, hop⟩ := Bool.and_eq_true_iff.mp h
  obtain ⟨hl, hr⟩ := Bool.and_eq_true_iff.mp hboth
  refine ⟨hl, hr, fun hlogical => ?_⟩
  simpa [hlogical] using hop

theorem bindable_unary {op : UnaryOp} {e : Expr} (h : (unary op e).bindable = true) :
    e.bindable = true ∧ (op = .not → e.isMarker = false) := by
  unfold bindable at h
  obtain ⟨he, hop⟩ := Bool.and_eq_true_iff.mp h
  refine ⟨he, fun hnot => ?_⟩
  simpa [hnot] using hop

theorem bindable_member {l : Expr} {vs : List Expr} {q : Option Select} {negated : Bool}
    (h : (member l vs q negated).bindable = true) :
    l.bindable = true ∧ listBindable vs = true ∧ q = none := by
  unfold bindable at h
  obtain ⟨hlist, hq⟩ := Bool.and_eq_true_iff.mp h
  obtain ⟨hl, hvs⟩ := Bool.and_eq_true_iff.mp hlist
  exact ⟨hl, hvs, Option.isNone_iff_eq_none.mp hq⟩

end Expr

/-! ## §B — what binding builds -/

section Bound
variable (params : Parameters) (n : Nat)

@[simp]
theorem Expr.bindFrom_binary (op : BinaryOp) (l r : Expr) :
    ((Expr.binary op l r).bindFrom params n).1 =
      .binary op (l.bindFrom params n).1 (r.bindFrom params (l.bindFrom params n).2).1 := rfl

@[simp]
theorem Expr.bindFrom_unary (op : UnaryOp) (e : Expr) :
    ((Expr.unary op e).bindFrom params n).1 = .unary op (e.bindFrom params n).1 := rfl

@[simp]
theorem Expr.bindFrom_member (l : Expr) (vs : List Expr) (negated : Bool) :
    ((Expr.member l vs none negated).bindFrom params n).1 =
      .member (l.bindFrom params n).1
        (Expr.bindListFrom params vs (l.bindFrom params n).2).1 none negated := rfl

@[simp]
theorem Expr.bindFrom_isNull (e : Expr) (negated : Bool) :
    ((Expr.isNull e negated).bindFrom params n).1 = .isNull (e.bindFrom params n).1 negated := rfl

@[simp]
theorem Expr.bindFrom_like (l p : Expr) (negated : Bool) :
    ((Expr.like l p negated).bindFrom params n).1 =
      .like (l.bindFrom params n).1 (p.bindFrom params (l.bindFrom params n).2).1 negated := rfl

@[simp]
theorem Expr.bindFrom_call (name : String) (args : List Expr) :
    ((Expr.call name args).bindFrom params n).1 =
      .call name (Expr.bindListFrom params args n).1 := rfl

/-- A marker that carries what it is found by becomes the literal that it stands for, wherever it
stands. -/
theorem Expr.bindFrom_marker {m : Marker} (h : Parameters.needsPosition m = false) :
    ((Expr.marker m).bindFrom params n).1 = .literal (params.lookup m none) := by
  unfold Expr.bindFrom Parameters.literalFor
  rw [if_neg (by simp [h])]

@[simp]
theorem Expr.bindListFrom_cons (e : Expr) (es : List Expr) :
    (Expr.bindListFrom params (e :: es) n).1 =
      (e.bindFrom params n).1 :: (Expr.bindListFrom params es (e.bindFrom params n).2).1 := rfl

end Bound

/-! ## §C — the two readings -/

namespace Evaluator
open Evaluation

variable {σ : Type} (ev : Evaluator σ) (params : Parameters)

/-- The evaluator with other parameters. -/
def withParams : Evaluator σ := { ev with params := params }

/-- Two tests that state the same have the same value. -/
theorem readings_of_condition {row : Record} {at_ : Place} {e e' : Expr} (h : e.isTest = true)
    (h' : e'.isTest = true)
    (hcondition : (ev.withParams params).condition row at_ e = ev.condition row at_ e') :
    (ev.withParams params).value row at_ e = ev.value row at_ e' ∧
      (e.isMarker = false → (ev.withParams params).condition row at_ e =
        ev.condition row at_ e') := by
  refine ⟨?_, fun _ => hcondition⟩
  rw [value_of_isTest _ row at_ h, value_of_isTest _ row at_ h', hcondition]

mutual

/-- An expression has the same value on a row whether its markers are looked up or were bound, and
as a condition it states the same if it is no marker. -/
theorem readings_bindFrom (row : Record) : ∀ (at_ : Place) (e : Expr) (n : Nat),
    e.bindable = true →
      (ev.withParams params).value row at_ e = ev.value row at_ (e.bindFrom params n).1 ∧
        (e.isMarker = false → (ev.withParams params).condition row at_ e =
          ev.condition row at_ (e.bindFrom params n).1)
  | at_, .binary op l r, n, h => by
      obtain ⟨hl, hr, hoperands⟩ := Expr.bindable_binary h
      obtain ⟨vl, cl⟩ := readings_bindFrom row (0 :: at_) l n hl
      obtain ⟨vr, cr⟩ := readings_bindFrom row (1 :: at_) r (l.bindFrom params n).2 hr
      rw [Expr.bindFrom_binary]
      -- The operands are read as conditions by a connective, as values by a comparison, and an
      -- arithmetic operation is a value that no condition looks into.
      cases op with
      | and | or =>
        obtain ⟨hml, hmr⟩ := hoperands rfl
        refine readings_of_condition ev params rfl rfl ?_
        rw [condition, condition, cl hml, cr hmr]
      | eq | ne | lt | le | gt | ge =>
        refine readings_of_condition ev params rfl rfl ?_
        simp only [condition, BinaryOp.family, if_true]
        rw [vl, vr]
        rfl
      | add | sub | mul | div | mod | concat =>
        constructor
        · simp only [value, BinaryOp.family, reduceCtorEq, if_false]
          rw [vl, vr]
        · intro _
          simp only [condition, BinaryOp.family, reduceCtorEq, if_false]
  | at_, .unary op e, n, h => by
      obtain ⟨he, hoperand⟩ := Expr.bindable_unary h
      obtain ⟨ve, ce⟩ := readings_bindFrom row (0 :: at_) e n he
      rw [Expr.bindFrom_unary]
      cases op with
      | not =>
        refine readings_of_condition ev params rfl rfl ?_
        rw [condition, condition, ce (hoperand rfl)]
      | neg =>
        constructor
        · rw [value, value, ve]
        · intro _
          rw [condition, condition]
  | at_, .member l vs q negated, n, h => by
      obtain ⟨hl, hvs, rfl⟩ := Expr.bindable_member h
      obtain ⟨vl, -⟩ := readings_bindFrom row (0 :: at_) l n hl
      have hlist := values_bindFrom row at_ 1 vs (l.bindFrom params n).2 hvs
      rw [Expr.bindFrom_member]
      refine readings_of_condition ev params rfl rfl ?_
      rw [condition, condition, vl, hlist]
  | at_, .isNull e negated, n, h => by
      obtain ⟨ve, -⟩ := readings_bindFrom row (0 :: at_) e n h
      rw [Expr.bindFrom_isNull]
      refine readings_of_condition ev params rfl rfl ?_
      rw [condition, condition, ve]
  | at_, .like l p negated, n, h => by
      obtain ⟨hl, hp⟩ := Bool.and_eq_true_iff.mp h
      obtain ⟨vl, -⟩ := readings_bindFrom row (0 :: at_) l n hl
      obtain ⟨vp, -⟩ := readings_bindFrom row (1 :: at_) p (l.bindFrom params n).2 hp
      rw [Expr.bindFrom_like]
      refine readings_of_condition ev params rfl rfl ?_
      rw [condition, condition, vl, vp]
  | at_, .marker m, n, h => by
      have hm : Parameters.needsPosition m = false := by simpa [Expr.bindable] using h
      rw [Expr.bindFrom_marker params n hm]
      -- A marker is no condition of its own, so there is only its value to compare.
      refine ⟨?_, fun hmarker => nomatch hmarker⟩
      rw [value, value, parameter, if_neg (by simp [hm])]
      rfl
  | at_, .call name args, n, _ => by
      rw [Expr.bindFrom_call]
      -- A call is refused by its name, before an argument is looked at.
      constructor
      · rw [value, value]
      · intro _
        rw [condition, condition]
  | _, .literal v, _, _ => ⟨rfl, fun _ => by cases v <;> rfl⟩
  | _, .column _, _, _ | _, .star, _, _ | _, .misplaced _, _, _ => ⟨rfl, fun _ => rfl⟩

/-- The values of expressions are the same whether their markers are looked up or were bound. -/
theorem values_bindFrom (row : Record) (at_ : Place) : ∀ (k : Nat) (es : List Expr) (n : Nat),
    Expr.listBindable es = true →
      (ev.withParams params).values row k at_ es =
        ev.values row k at_ (Expr.bindListFrom params es n).1
  | _, [], _, _ => rfl
  | k, e :: es, n, h => by
      obtain ⟨he, hes⟩ := Bool.and_eq_true_iff.mp h
      rw [Expr.bindListFrom_cons, values, values, (readings_bindFrom row (k :: at_) e n he).1,
        values_bindFrom row at_ (k + 1) es _ hes]

end

/-- **Binding preserves meaning**: an evaluator that looks parameters up answers as one with any
other parameters does on the bound expression, the same value or the same failure from every state;
and so for a condition that is no marker. -/
theorem evaluate_bind {e : Expr} (h : e.bindable = true) :
    (∀ row place, (ev.withParams params).evaluate row place e =
      ev.evaluate row place (e.bind params)) ∧
    (e.isMarker = false → ∀ row place, (ev.withParams params).holds row place (some e) =
      ev.holds row place (some (e.bind params))) := by
  constructor
  · intro row place
    unfold evaluate
    rw [(readings_bindFrom ev params row place e 0 h).1]
    rfl
  · intro hmarker row place
    simp only [holds]
    rw [(readings_bindFrom ev params row place e 0 h).2 hmarker]
    rfl

/-- `a >= :low AND b NOT IN (?, ?)`, where the place of the second question mark is taken from the
end of a list. -/
def apartFromLow : Expr :=
  .binary .and (.binary .ge (.column "a") (.marker { name := some "low" }))
    (.member (.column "b") [.marker { index := some 0 }, .marker { index := some (-1) }] none true)

/-- A parameter under its name after a colon and one under a position. -/
def lowAndFirst : Parameters := .keyed [(.name ":low", .int 3), (.position 0, .int 8)]

theorem evaluate_bind_apartFromLow :
    apartFromLow.bindable = true ∧ apartFromLow.isMarker = false ∧
      (Evaluator.withParams {} lowAndFirst).evaluate [(.name "a", .int 5)] [] apartFromLow =
        ({} : Evaluator Unit).evaluate [(.name "a", .int 5)] [] (apartFromLow.bind lowAndFirst) ∧
      (Evaluator.withParams {} lowAndFirst).holds [(.name "a", .int 5)] [] (some apartFromLow) =
        ({} : Evaluator Unit).holds [(.name "a", .int 5)] [] (some (apartFromLow.bind lowAndFirst)) :=
  ⟨rfl, rfl, (evaluate_bind {} lowAndFirst rfl).1 _ _, (evaluate_bind {} lowAndFirst rfl).2 rfl _ _⟩

end Evaluator
end TableQuery
