/-
# TableQuery.Proofs.Evaluation.Selects — the SELECTs of a tree.

A SELECT and everything that stands as a subquery in it, at any depth, make up its SELECTs.  Binding
keeps them one for one (`Select.forall₂_bind`).  The subqueries that a SELECT asks for itself have
SELECTs of their own, and no two of them share one (`Select.sublist_subqueries`): a tree has each of
its nodes in one place.

## §A — the list of SELECTs.
## §B — binding.
## §C — the subqueries of a SELECT.
-/
import TableQuery.Proofs.Evaluation.Places
import Mathlib.Data.List.Forall2

namespace TableQuery

/-! ## §A — the list of SELECTs -/

mutual

/-- The SELECTs in an expression. -/
def Expr.selects : Expr → List Select
  | .binary _ l r | .like l r _ => l.selects ++ r.selects
  | .unary _ e | .isNull e _ => e.selects
  | .member l vs q _ => l.selects ++ (Expr.listSelects vs ++ Select.optionSelects q)
  | .call _ args => Expr.listSelects args
  | .subquery s => s.selects
  | .literal _ | .column _ | .marker _ | .star | .misplaced _ => []

/-- The SELECTs in expressions, from left to right. -/
def Expr.listSelects : List Expr → List Select
  | [] => []
  | e :: es => e.selects ++ Expr.listSelects es

/-- The SELECTs in an expression that may be absent. -/
def Expr.optionSelects : Option Expr → List Select
  | none => []
  | some e => e.selects

/-- The SELECTs of a subquery that may be absent. -/
def Select.optionSelects : Option Select → List Select
  | none => []
  | some s => s.selects

/-- The SELECTs in an item of a select list. -/
def ResultColumn.selects : ResultColumn → List Select
  | .mk e _ _ => e.selects

/-- The SELECTs in a select list. -/
def ResultColumn.listSelects : List ResultColumn → List Select
  | [] => []
  | c :: cs => c.selects ++ ResultColumn.listSelects cs

/-- The SELECTs in an item of an ORDER BY list. -/
def OrderTerm.selects : OrderTerm → List Select
  | .mk e _ => e.selects

/-- The SELECTs in an ORDER BY list. -/
def OrderTerm.listSelects : List OrderTerm → List Select
  | [] => []
  | t :: ts => t.selects ++ OrderTerm.listSelects ts

/-- **The SELECTs of a SELECT**: itself, and what stands in it as a subquery at any depth. -/
def Select.selects : Select → List Select
  | .mk t cs w os l o =>
    .mk t cs w os l o ::
      (ResultColumn.listSelects cs ++ (Expr.optionSelects w ++ (OrderTerm.listSelects os ++
        (Expr.optionSelects l ++ Expr.optionSelects o))))

end

theorem Expr.listSelects_append (es ds : List Expr) :
    Expr.listSelects (es ++ ds) = Expr.listSelects es ++ Expr.listSelects ds := by
  induction es with
  | nil => rfl
  | cons e es ih => rw [List.cons_append, listSelects, listSelects, ih, List.append_assoc]

/-! ## §B — binding -/

/-- **A bound SELECT**: the SELECT with its markers bound, from some number of them on. -/
def Select.BoundAs (params : Parameters) (s b : Select) : Prop := ∃ n, b = (s.bindFrom params n).1

section
variable (params : Parameters)

mutual

theorem Expr.forall₂_bindFrom : ∀ (e : Expr) (n : Nat),
    List.Forall₂ (Select.BoundAs params) e.selects (e.bindFrom params n).1.selects
  | .binary _ l r, n | .like l r _, n =>
      List.rel_append (l.forall₂_bindFrom n) (r.forall₂_bindFrom _)
  | .unary _ e, n | .isNull e _, n => e.forall₂_bindFrom n
  | .member l vs q _, n =>
      List.rel_append (l.forall₂_bindFrom n)
        (List.rel_append (Expr.forall₂_bindListFrom vs _) (Select.forall₂_bindOptionFrom q _))
  | .call _ args, n => Expr.forall₂_bindListFrom args n
  | .subquery s, n => s.forall₂_bindFrom n
  | .marker m, n => by
      unfold Expr.bindFrom Parameters.literalFor
      split <;> exact .nil
  | .literal _, _ | .column _, _ | .star, _ | .misplaced _, _ => .nil

theorem Expr.forall₂_bindListFrom : ∀ (es : List Expr) (n : Nat),
    List.Forall₂ (Select.BoundAs params) (Expr.listSelects es)
      (Expr.listSelects (Expr.bindListFrom params es n).1)
  | [], _ => .nil
  | e :: es, n => List.rel_append (e.forall₂_bindFrom n) (Expr.forall₂_bindListFrom es _)

theorem Expr.forall₂_bindOptionFrom : ∀ (e : Option Expr) (n : Nat),
    List.Forall₂ (Select.BoundAs params) (Expr.optionSelects e)
      (Expr.optionSelects (Expr.bindOptionFrom params e n).1)
  | none, _ => .nil
  | some e, n => e.forall₂_bindFrom n

theorem Select.forall₂_bindOptionFrom : ∀ (s : Option Select) (n : Nat),
    List.Forall₂ (Select.BoundAs params) (Select.optionSelects s)
      (Select.optionSelects (Select.bindOptionFrom params s n).1)
  | none, _ => .nil
  | some s, n => s.forall₂_bindFrom n

theorem ResultColumn.forall₂_bindListFrom : ∀ (cs : List ResultColumn) (n : Nat),
    List.Forall₂ (Select.BoundAs params) (ResultColumn.listSelects cs)
      (ResultColumn.listSelects (ResultColumn.bindListFrom params cs n).1)
  | [], _ => .nil
  | .mk e _ _ :: cs, n =>
      List.rel_append (e.forall₂_bindFrom n) (ResultColumn.forall₂_bindListFrom cs _)

theorem OrderTerm.forall₂_bindListFrom : ∀ (ts : List OrderTerm) (n : Nat),
    List.Forall₂ (Select.BoundAs params) (OrderTerm.listSelects ts)
      (OrderTerm.listSelects (OrderTerm.bindListFrom params ts n).1)
  | [], _ => .nil
  | .mk e _ :: ts, n =>
      List.rel_append (e.forall₂_bindFrom n) (OrderTerm.forall₂_bindListFrom ts _)

theorem Select.forall₂_bindFrom : ∀ (s : Select) (n : Nat),
    List.Forall₂ (Select.BoundAs params) s.selects (s.bindFrom params n).1.selects
  | .mk _ cs w os l o, n =>
      .cons ⟨n, rfl⟩ <| List.rel_append (ResultColumn.forall₂_bindListFrom cs n) <|
        List.rel_append (Expr.forall₂_bindOptionFrom w _) <|
        List.rel_append (OrderTerm.forall₂_bindListFrom os _) <|
        List.rel_append (Expr.forall₂_bindOptionFrom l _) (Expr.forall₂_bindOptionFrom o _)

end

/-- **Binding keeps the SELECTs** of a SELECT one for one. -/
theorem Select.forall₂_bind (s : Select) :
    List.Forall₂ (Select.BoundAs params) s.selects (s.bind params).selects :=
  s.forall₂_bindFrom params 0

end

/-! ## §C — the subqueries of a SELECT -/

namespace Expr

mutual

theorem sublist_subqueriesAt : ∀ (at_ : Place) (e : Expr),
    ((e.subqueriesAt at_).flatMap (·.2.selects)).Sublist e.selects
  | at_, .binary _ l r | at_, .like l r _ => by
      rw [subqueriesAt, List.flatMap_append]
      exact (sublist_subqueriesAt _ l).append (sublist_subqueriesAt _ r)
  | at_, .unary _ e | at_, .isNull e _ => by
      rw [subqueriesAt]
      exact sublist_subqueriesAt _ e
  | at_, .member l vs none _ => by
      rw [subqueriesAt, List.flatMap_append]
      exact (sublist_subqueriesAt _ l).append
        ((sublist_listSubqueriesAt 1 at_ vs).trans (List.sublist_append_left _ _))
  | at_, .member l vs (some s) _ => by
      rw [subqueriesAt, List.flatMap_append, List.flatMap_singleton]
      exact (sublist_subqueriesAt _ l).append (List.sublist_append_right _ _)
  | at_, .subquery s => by
      rw [subqueriesAt, List.flatMap_singleton]
      exact List.Sublist.refl _
  | _, .call .. => List.nil_sublist _
  | _, .literal _ | _, .column _ | _, .marker _ | _, .star | _, .misplaced _ => List.Sublist.refl _

theorem sublist_listSubqueriesAt (n : Nat) (at_ : Place) : ∀ es : List Expr,
    ((listSubqueriesAt n at_ es).flatMap (·.2.selects)).Sublist (listSelects es)
  | [] => List.Sublist.refl _
  | e :: es => by
      rw [listSubqueriesAt, List.flatMap_append]
      exact (sublist_subqueriesAt _ e).append (sublist_listSubqueriesAt (n + 1) at_ es)

end

theorem sublist_optionSubqueriesAt (at_ : Place) (e : Option Expr) :
    ((optionSubqueriesAt at_ e).flatMap (·.2.selects)).Sublist (optionSelects e) := by
  cases e with
  | none => exact List.Sublist.refl _
  | some e => exact sublist_subqueriesAt at_ e

theorem listSelects_columns (cs : List ResultColumn) :
    listSelects (cs.map ResultColumn.expression) = ResultColumn.listSelects cs := by
  induction cs with
  | nil => rfl
  | cons c cs ih =>
      obtain ⟨e, a, l⟩ := c
      exact congrArg (e.selects ++ ·) ih

theorem listSelects_terms (ts : List OrderTerm) :
    listSelects (ts.map OrderTerm.expression) = OrderTerm.listSelects ts := by
  induction ts with
  | nil => rfl
  | cons t ts ih =>
      obtain ⟨e, d⟩ := t
      exact congrArg (e.selects ++ ·) ih

end Expr

/-- **A SELECT and the SELECTs of its subqueries** are among its SELECTs, each once. -/
theorem Select.sublist_subqueries (s : Select) :
    (s :: s.subqueries.flatMap (·.2.selects)).Sublist s.selects := by
  obtain ⟨t, cs, w, os, l, o⟩ := s
  simp only [subqueries, List.flatMap_append]
  refine List.Sublist.cons_cons _ (List.Sublist.append ?_ (List.Sublist.append ?_
    (List.Sublist.append ?_ (List.Sublist.append ?_ ?_))))
  · exact Expr.listSelects_columns cs ▸ Expr.sublist_listSubqueriesAt 0 [0] _
  · exact Expr.sublist_optionSubqueriesAt [1] w
  · exact Expr.listSelects_terms os ▸ Expr.sublist_listSubqueriesAt 0 [2] _
  · exact Expr.sublist_optionSubqueriesAt [3] l
  · exact Expr.sublist_optionSubqueriesAt [4] o

end TableQuery
