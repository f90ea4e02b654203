/-
# TableQuery.Proofs.Evaluation.Apart — computations on a part of the state.

A computation can be carried out on a state of which it knows only a part: it answers what it
answers, and leaves the rest alone.  This is a way of carrying out that keeps to how computations are
put together (`Run.apart_bind`), and so an evaluation whose subqueries are carried out in this way is
itself carried out in this way (`Evaluator.apart_readings`).

## §A — computations.
## §B — connectives.
## §C — the two readings.
-/
import TableQuery.Evaluation.Basic
import TableQuery.Proofs.Run

namespace TableQuery

/-! ## §A — computations -/

namespace Run
variable {σ τ α β : Type}

theorem ext_outcome {x y : Run σ α} (h : ∀ st, x.outcome st = y.outcome st) : x = y := funext h

/-- A computation on the first part of a state. -/
def apart (x : Run σ α) : Run (σ × τ) α :=
  fun st => ((x.outcome st.1).1, ((x.outcome st.1).2, st.2))

/-- A step on the first part of a state. -/
def stepApart (x : StateM σ α) : StateM (σ × τ) α :=
  fun st => ((x.run st.1).1, ((x.run st.1).2, st.2))

theorem outcome_apart (x : Run σ α) (st : σ × τ) :
    x.apart.outcome st = ((x.outcome st.1).1, ((x.outcome st.1).2, st.2)) := rfl

theorem apart_pure (a : α) : (pure a : Run σ α).apart = (pure a : Run (σ × τ) α) := rfl

theorem apart_lift (x : StateM σ α) :
    (liftM x : Run σ α).apart = (liftM (stepApart x : StateM (σ × τ) α) : Run (σ × τ) α) := rfl

/-- One computation behind another. -/
theorem apart_bind (x : Run σ α) (f : α → Run σ β) :
    (x >>= f).apart = (x.apart >>= fun a => (f a).apart : Run (σ × τ) β) := by
  refine ext_outcome fun st => ?_
  rw [outcome_apart, outcome_bind, outcome_bind, outcome_apart]
  rcases x.outcome st.1 with ⟨e | a, st'⟩ <;> rfl

theorem apart_map (f : α → β) (x : Run σ α) :
    (f <$> x).apart = (f <$> x.apart : Run (σ × τ) β) := by
  rw [← bind_pure_comp, ← bind_pure_comp, apart_bind]
  rfl

theorem apart_liftExcept (a : Except Error α) :
    (liftExcept a : Run σ α).apart = (liftExcept a : Run (σ × τ) α) := by
  cases a <;> rfl

theorem apart_ofNumber (a : Except NumberError α) :
    (ofNumber a : Run σ α).apart = (ofNumber a : Run (σ × τ) α) := by
  cases a <;> rfl

theorem apart_ofLocale (a : Except Collation.LocaleError α) :
    (ofLocale a : Run σ α).apart = (ofLocale a : Run (σ × τ) α) := by
  cases a <;> rfl

theorem apart_mapM (f : α → Run σ β) (as : List α) :
    (as.mapM f).apart = (as.mapM fun a => (f a).apart : Run (σ × τ) (List β)) := by
  induction as with
  | nil => rfl
  | cons a as ih =>
    rw [List.mapM_cons, List.mapM_cons, apart_bind]
    congr 1
    funext b
    rw [apart_bind, ih]
    rfl

/-- Where a computation leads it leads on a part of the state. -/
theorem leads_apart {before after : σ → Prop} {x : Run σ α} {a : Except Error α}
    (hx : Leads before x a after) (rest : τ → Prop) :
    Leads (fun st => before st.1 ∧ rest st.2) x.apart a fun st => after st.1 ∧ rest st.2 :=
  fun st hst => ⟨(hx st.1 hst.1).1, (hx st.1 hst.1).2, hst.2⟩

end Run

/-! ## §B — connectives -/

namespace Evaluation
variable {σ τ α β : Type}

/-- An evaluation on the first part of a state. -/
def apart (x : Evaluation σ α) : Evaluation (σ × τ) α := fun cursor => (x.run cursor).apart

theorem apart_pure (a : α) : (pure a : Evaluation σ α).apart = (pure a : Evaluation (σ × τ) α) :=
  rfl

theorem apart_bind (x : Evaluation σ α) (f : α → Evaluation σ β) :
    (x >>= f).apart = (x.apart >>= fun a => (f a).apart : Evaluation (σ × τ) β) := by
  funext cursor
  exact Run.apart_bind (x.run cursor) fun p => (f p.1).run p.2

theorem apart_map (f : α → β) (x : Evaluation σ α) :
    (f <$> x).apart = (f <$> x.apart : Evaluation (σ × τ) β) := by
  rw [← bind_pure_comp, ← bind_pure_comp, apart_bind]
  rfl

theorem apart_lift (x : Run σ α) :
    Evaluation.apart (StateT.lift x) = (StateT.lift x.apart : Evaluation (σ × τ) α) := by
  funext cursor
  exact Run.apart_bind x fun a => pure (a, cursor)

theorem apart_ofNumber (a : Except NumberError α) :
    (ofNumber a : Evaluation σ α).apart = (ofNumber a : Evaluation (σ × τ) α) := by
  rw [ofNumber, apart_lift, Run.apart_ofNumber]
  rfl

theorem apart_fail (fault : EvaluationFault) :
    (fail fault : Evaluation σ α).apart = (fail fault : Evaluation (σ × τ) α) := rfl

theorem apart_noFunction (name : String) :
    (noFunction name : Evaluation σ α).apart = (noFunction name : Evaluation (σ × τ) α) := rfl

theorem apart_parameter (params : Parameters) (m : Marker) :
    (parameter params m : Evaluation σ Value).apart =
      (parameter params m : Evaluation (σ × τ) Value) := by
  unfold parameter
  split <;> rfl

/-- A choice between two evaluations. -/
theorem apart_ite (c : Prop) [Decidable c] (x y : Evaluation σ α) :
    (if c then x else y).apart = (if c then x.apart else y.apart : Evaluation (σ × τ) α) :=
  apply_ite _ c x y

section
variable (a b : Evaluation σ Bool) (v w : Evaluation σ Value)

theorem apart_both : (both a b).apart = (both a.apart b.apart : Evaluation (σ × τ) Bool) := by
  simp only [both, apart_bind, apart_ite, apart_pure]

theorem apart_either : (either a b).apart = (either a.apart b.apart : Evaluation (σ × τ) Bool) := by
  simp only [either, apart_bind, apart_ite, apart_pure]

theorem apart_opposite : (opposite a).apart = (opposite a.apart : Evaluation (σ × τ) Bool) := by
  simp only [opposite, apart_bind, apart_pure]

theorem apart_compared (c : Collation) (op : BinaryOp) :
    (compared c op v w).apart = (compared c op v.apart w.apart : Evaluation (σ × τ) Bool) := by
  simp only [compared, apart_bind, apart_pure]

theorem apart_nullTest (negated : Bool) :
    (nullTest negated v).apart = (nullTest negated v.apart : Evaluation (σ × τ) Bool) := by
  simp only [nullTest, apart_bind, apart_pure]

theorem apart_likeTest (negated : Bool) :
    (likeTest negated v w).apart = (likeTest negated v.apart w.apart : Evaluation (σ × τ) Bool) := by
  simp only [likeTest, apart_bind, apart_ite, apart_pure, apart_ofNumber]

theorem apart_memberTest (negated : Bool) (set : Evaluation σ (List Value)) :
    (memberTest negated v set).apart =
      (memberTest negated v.apart set.apart : Evaluation (σ × τ) Bool) := by
  simp only [memberTest, apart_bind, apart_ite, apart_pure, apart_ofNumber]

theorem apart_computed (op : BinaryOp) :
    (computed op v w).apart = (computed op v.apart w.apart : Evaluation (σ × τ) Value) := by
  simp only [computed, apart_bind, apart_ofNumber]

end
end Evaluation

/-! ## §C — the two readings -/

namespace Evaluator
open Evaluation

variable {σ τ : Type}

/-- The evaluator whose subqueries are carried out on the first part of a state. -/
def apart (ev : Evaluator σ) : Evaluator (σ × τ) where
  params := ev.params
  collation := ev.collation
  members place s := (ev.members place s).apart

variable (ev : Evaluator σ) (row : Record)

theorem apart_valuesOf (place : Place) (s : Select) :
    (ev.valuesOf place s).apart = (ev.apart.valuesOf place s : Evaluation (σ × τ) _) :=
  apart_lift (ev.members place s)

/-- A test whose condition is carried out on a part of the state has its value there. -/
theorem apart_of_isTest {at_ : Place} {e : Expr} (h : e.isTest = true)
    (hcondition : (ev.condition row at_ e).apart =
      (ev.apart.condition row at_ e : Evaluation (σ × τ) Bool)) :
    (ev.condition row at_ e).apart = (ev.apart.condition row at_ e : Evaluation (σ × τ) Bool) ∧
      (ev.value row at_ e).apart = (ev.apart.value row at_ e : Evaluation (σ × τ) Value) := by
  refine ⟨hcondition, ?_⟩
  rw [value_of_isTest _ row at_ h, value_of_isTest _ row at_ h, apart_map, hcondition]

mutual

/-- **Both readings of an expression** whose subqueries are carried out on a part of the state. -/
theorem apart_readings : ∀ (at_ : Place) (e : Expr),
    (ev.condition row at_ e).apart = (ev.apart.condition row at_ e : Evaluation (σ × τ) Bool) ∧
      (ev.value row at_ e).apart = (ev.apart.value row at_ e : Evaluation (σ × τ) Value)
  | at_, .binary op l r => by
    obtain ⟨cl, vl⟩ := apart_readings (0 :: at_) l
    obtain ⟨cr, vr⟩ := apart_readings (1 :: at_) r
    cases op with
    | and =>
      refine apart_of_isTest ev row rfl ?_
      simp only [condition, apart_both, cl, cr]
    | or =>
      refine apart_of_isTest ev row rfl ?_
      simp only [condition, apart_either, cl, cr]
    | eq | ne | lt | le | gt | ge =>
      refine apart_of_isTest ev row rfl ?_
      simp only [condition, BinaryOp.family, if_true, apart_compared, vl, vr]
      rfl
    | add | sub | mul | div | mod | concat =>
      simp only [condition, value, BinaryOp.family, reduceCtorEq, if_false, apart_fail,
        apart_computed, vl, vr, and_self]
  | at_, .unary op e => by
    obtain ⟨ce, ve⟩ := apart_readings (0 :: at_) e
    cases op with
    | not =>
      refine apart_of_isTest ev row rfl ?_
      simp only [condition, apart_opposite, ce]
    | neg => simp only [condition, value, apart_fail, apart_map, ve, and_self]
  | at_, .member l vs (some s) negated => by
    refine apart_of_isTest ev row rfl ?_
    simp only [condition, apart_memberTest, (apart_readings (0 :: at_) l).2, apart_valuesOf]
  | at_, .member l vs none negated => by
    refine apart_of_isTest ev row rfl ?_
    simp only [condition, apart_memberTest, (apart_readings (0 :: at_) l).2, apart_values 1 at_ vs]
  | at_, .isNull e negated => by
    refine apart_of_isTest ev row rfl ?_
    simp only [condition, apart_nullTest, (apart_readings (0 :: at_) e).2]
  | at_, .like l p negated => by
    refine apart_of_isTest ev row rfl ?_
    simp only [condition, apart_likeTest, (apart_readings (0 :: at_) l).2,
      (apart_readings (1 :: at_) p).2]
  | at_, .subquery s => by
    simp only [condition, value, apart_fail, apart_bind, apart_valuesOf, apart_lift,
      Run.apart_liftExcept, and_self]
  | at_, .marker m => by
    refine ⟨apart_fail _, ?_⟩
    simp only [value, apart_parameter]
    rfl
  | at_, .literal v => by
    refine ⟨?_, apart_pure v⟩
    cases v <;> simp only [condition, apart_pure, apart_fail]
  | at_, .column _ => ⟨apart_fail _, apart_pure _⟩
  | at_, .call name _ => ⟨apart_noFunction name, apart_noFunction name⟩
  | at_, .star | at_, .misplaced _ => ⟨apart_fail _, apart_fail _⟩

/-- The values of a list whose subqueries are carried out on a part of the state. -/
theorem apart_values (n : Nat) (at_ : Place) : ∀ es : List Expr,
    (ev.values row n at_ es).apart = (ev.apart.values row n at_ es : Evaluation (σ × τ) _)
  | [] => by simp only [values, apart_pure]
  | e :: es => by
    simp only [values, apart_bind, (apart_readings (n :: at_) e).2, apart_values (n + 1) at_ es,
      apart_pure]

end

theorem apart_holds (place : Place) (condition : Option Expr) :
    (ev.holds row place condition).apart = (ev.apart.holds row place condition : Run (σ × τ) _) := by
  cases condition with
  | none => rfl
  | some e =>
    simp only [holds, Run.apart_bind, Run.apart_pure, ← (apart_readings ev row place e).1]
    rfl

theorem apart_evaluate (place : Place) (e : Expr) :
    (ev.evaluate row place e).apart = (ev.apart.evaluate row place e : Run (σ × τ) _) := by
  simp only [evaluate, Run.apart_bind, Run.apart_pure, ← (apart_readings ev row place e).2]
  rfl

end Evaluator
end TableQuery
