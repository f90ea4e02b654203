/-
# TableQuery.Proofs.Evaluation.Proper — trees with everything in its place.

Two kinds of expression are none of the language: `star`, which stands for all columns, and
`misplaced`, for what a tree built by hand has where an expression should be.  A tree is proper when
it has neither, except for `star` as an item of a select list.  What is in a proper tree has a value
wherever one is asked for, as far as its kind is concerned (`Expr.Proper.misfits`); and what a
proper SELECT evaluates, its own subqueries among it, is proper (`Select.Evaluates`).

## §A — proper trees.
## §B — misfits of proper expressions.
## §C — what a SELECT evaluates.
-/
import TableQuery.Proofs.Evaluation.Misfits
import TableQuery.Proofs.Evaluation.Places

namespace TableQuery

/-! ## §A — proper trees -/

mutual

/-- **A proper expression** — one of the language, and so is everything in it. -/
def Expr.Proper : Expr → Prop
  | .binary _ l r | .like l r _ => l.Proper ∧ r.Proper
  | .unary _ e | .isNull e _ => e.Proper
  | .member l vs q _ => l.Proper ∧ Expr.ListProper vs ∧ Select.OptionProper q
  | .call _ args => Expr.ListProper args
  | .subquery s => s.Proper
  | .literal _ | .column _ | .marker _ => True
  | .star | .misplaced _ => False

/-- Proper expressions beside each other. -/
def Expr.ListProper : List Expr → Prop
  | [] => True
  | e :: es => e.Proper ∧ Expr.ListProper es

/-- A proper expression, or none. -/
def Expr.OptionProper : Option Expr → Prop
  | none => True
  | some e => e.Proper

/-- A proper subquery, or none. -/
def Select.OptionProper : Option Select → Prop
  | none => True
  | some s => s.Proper

/-- A proper item of a select list, which may stand for all columns. -/
def ResultColumn.Proper : ResultColumn → Prop
  | .mk e _ _ => e = .star ∨ e.Proper

/-- A proper select list. -/
def ResultColumn.ListProper : List ResultColumn → Prop
  | [] => True
  | c :: cs => c.Proper ∧ ResultColumn.ListProper cs

/-- A proper item of an ORDER BY list. -/
def OrderTerm.Proper : OrderTerm → Prop
  | .mk e _ => e.Proper

/-- A proper ORDER BY list. -/
def OrderTerm.ListProper : List OrderTerm → Prop
  | [] => True
  | t :: ts => t.Proper ∧ OrderTerm.ListProper ts

/-- **A proper SELECT.** -/
def Select.Proper : Select → Prop
  | .mk _ cs w os l o =>
    ResultColumn.ListProper cs ∧ Expr.OptionProper w ∧ OrderTerm.ListProper os ∧
      Expr.OptionProper l ∧ Expr.OptionProper o

end

theorem Expr.listProper_append {es ds : List Expr} (hes : ListProper es) (hds : ListProper ds) :
    ListProper (es ++ ds) := by
  induction es with
  | nil => exact hds
  | cons e es ih => exact ⟨hes.1, ih hes.2⟩

theorem ResultColumn.ListProper.of_mem {cs : List ResultColumn} (h : ListProper cs)
    {c : ResultColumn} (hc : c ∈ cs) : c.Proper := by
  induction cs with
  | nil => cases hc
  | cons d cs ih =>
      rcases List.mem_cons.mp hc with rfl | hc
      · exact h.1
      · exact ih h.2 hc

theorem OrderTerm.ListProper.of_mem {ts : List OrderTerm} (h : ListProper ts) {t : OrderTerm}
    (ht : t ∈ ts) : t.Proper := by
  induction ts with
  | nil => cases ht
  | cons u ts ih =>
      rcases List.mem_cons.mp ht with rfl | ht
      · exact h.1
      · exact ih h.2 ht

/-! ## §B — misfits of proper expressions -/

/-- Misfits none of which is something that has no value. -/
def HaveValues (ms : List Misfit) : Prop := ∀ m ∈ ms, m.error.isValueless = false

theorem HaveValues.append {ms ms' : List Misfit} (h : HaveValues ms) (h' : HaveValues ms') :
    HaveValues (ms ++ ms') :=
  List.forall_mem_append.mpr ⟨h, h'⟩

theorem haveValues_nil : HaveValues [] := fun _ hm => absurd hm List.not_mem_nil

theorem haveValues_singleton {m : Misfit} (h : m.error.isValueless = false) : HaveValues [m] :=
  List.forall_mem_singleton.mpr h

namespace Expr

/-- A test has values where they are asked for in both readings when it has them as a condition. -/
theorem haveValues_of_isTest {e : Expr} (h : e.isTest = true)
    (hcondition : HaveValues e.conditionMisfits) :
    HaveValues e.conditionMisfits ∧ HaveValues e.valueMisfits := by
  rw [valueMisfits_of_isTest h]
  exact ⟨hcondition, hcondition⟩

mutual

/-- **In a proper expression** everything has a value where one is asked for, read as a condition
and as a value. -/
theorem Proper.misfits : ∀ {e : Expr}, e.Proper →
    HaveValues e.conditionMisfits ∧ HaveValues e.valueMisfits
  | .binary op _ _, h => by
      obtain ⟨cl, vl⟩ := h.1.misfits
      obtain ⟨cr, vr⟩ := h.2.misfits
      cases op with
      | and | or =>
        refine haveValues_of_isTest rfl ?_
        rw [Expr.conditionMisfits]
        exact cl.append cr
      | eq | ne | lt | le | gt | ge =>
        refine haveValues_of_isTest rfl ?_
        rw [Expr.conditionMisfits]
        exact vl.append vr
      | add | sub | mul | div | mod | concat =>
        rw [Expr.conditionMisfits, Expr.valueMisfits]
        exact ⟨haveValues_singleton rfl, vl.append vr⟩
  | .unary op e, h => by
      obtain ⟨ce, ve⟩ := Proper.misfits (e := e) h
      cases op with
      | not =>
        refine haveValues_of_isTest rfl ?_
        rw [Expr.conditionMisfits]
        exact ce
      | neg =>
        rw [Expr.conditionMisfits, Expr.valueMisfits]
        exact ⟨haveValues_singleton rfl, ve⟩
  | .member _ _ q _, h => by
      refine haveValues_of_isTest rfl ?_
      cases q <;> rw [Expr.conditionMisfits]
      · exact h.1.misfits.2.append h.2.1.listMisfits
      · exact h.1.misfits.2.append haveValues_nil
  | .isNull e _, h => by
      refine haveValues_of_isTest rfl ?_
      rw [Expr.conditionMisfits]
      exact (Proper.misfits (e := e) h).2
  | .like _ _ _, h => by
      refine haveValues_of_isTest rfl ?_
      rw [Expr.conditionMisfits]
      exact h.1.misfits.2.append h.2.misfits.2
  | .literal v, _ => by
      refine ⟨?_, haveValues_nil⟩
      cases v with
      | bool b => exact haveValues_nil
      | _ => exact haveValues_singleton rfl
  | .call _ _, _ => ⟨haveValues_singleton rfl, haveValues_singleton rfl⟩
  | .column _, _ | .marker _, _ | .subquery _, _ => ⟨haveValues_singleton rfl, haveValues_nil⟩

theorem ListProper.listMisfits : ∀ {es : List Expr}, ListProper es →
    HaveValues (Expr.listMisfits es)
  | [], _ => haveValues_nil
  | _ :: _, h => h.1.misfits.2.append h.2.listMisfits

end

/-! ## §C — what a SELECT evaluates -/

mutual

/-- The subqueries of a proper expression are proper. -/
theorem Proper.subqueriesAt : ∀ (at_ : Place) {e : Expr}, e.Proper →
    ∀ p ∈ e.subqueriesAt at_, p.2.Proper
  | _, .binary _ _ _, h | _, .like _ _ _, h =>
      List.forall_mem_append.mpr ⟨h.1.subqueriesAt _, h.2.subqueriesAt _⟩
  | at_, .unary _ _, h | at_, .isNull _ _, h => Proper.subqueriesAt (0 :: at_) h
  | at_, .member _ _ none _, h =>
      List.forall_mem_append.mpr ⟨h.1.subqueriesAt _, h.2.1.subqueriesAt 1 at_⟩
  | _, .member _ _ (some _) _, h =>
      List.forall_mem_append.mpr ⟨h.1.subqueriesAt _, List.forall_mem_singleton.mpr h.2.2⟩
  | _, .subquery _, h => List.forall_mem_singleton.mpr h
  | _, .call _ _, _ | _, .literal _, _ | _, .column _, _ | _, .marker _, _ =>
      fun _ hp => absurd hp List.not_mem_nil

theorem ListProper.subqueriesAt (n : Nat) (at_ : Place) : ∀ {es : List Expr}, ListProper es →
    ∀ p ∈ listSubqueriesAt n at_ es, p.2.Proper
  | [], _ => fun _ hp => absurd hp List.not_mem_nil
  | _ :: _, h => List.forall_mem_append.mpr ⟨h.1.subqueriesAt _, h.2.subqueriesAt (n + 1) at_⟩

end

theorem OptionProper.subqueriesAt (at_ : Place) {e : Option Expr} (h : OptionProper e) :
    ∀ p ∈ optionSubqueriesAt at_ e, p.2.Proper := by
  cases e with
  | none => exact fun _ hp => absurd hp List.not_mem_nil
  | some e => exact Proper.subqueriesAt at_ h

end Expr

/-- An item of a proper select list has a proper expression, unless it stands for all columns. -/
theorem ResultColumn.Proper.expression {c : ResultColumn} (h : c.Proper) (hstar : c.isStar = false) :
    c.expression.Proper := by
  obtain ⟨e, aliasName, label⟩ := c
  rcases h with rfl | h
  · cases hstar
  · exact h

theorem ResultColumn.ListProper.subqueriesAt (n : Nat) {cs : List ResultColumn}
    (h : ListProper cs) :
    ∀ p ∈ Expr.listSubqueriesAt n [0] (cs.map ResultColumn.expression), p.2.Proper := by
  induction cs generalizing n with
  | nil => exact fun _ hp => absurd hp List.not_mem_nil
  | cons c cs ih =>
      obtain ⟨e, aliasName, label⟩ := c
      refine List.forall_mem_append.mpr ⟨?_, ih (n + 1) h.2⟩
      rcases h.1 with rfl | he
      · exact fun _ hp => absurd hp List.not_mem_nil
      · exact Expr.Proper.subqueriesAt [n, 0] he

theorem OrderTerm.Proper.expression {t : OrderTerm} (h : t.Proper) : t.expression.Proper := by
  obtain ⟨e, desc⟩ := t
  exact h

theorem OrderTerm.ListProper.expressions {ts : List OrderTerm} (h : ListProper ts) :
    Expr.ListProper (ts.map OrderTerm.expression) := by
  induction ts with
  | nil => trivial
  | cons t ts ih => exact ⟨h.1.expression, ih h.2⟩

namespace Select
variable {s : Select}

/-- **The subqueries of a proper SELECT** are proper. -/
theorem Proper.subqueries (h : s.Proper) : ∀ p ∈ s.subqueries, p.2.Proper := by
  obtain ⟨table, cs, w, os, l, o⟩ := s
  obtain ⟨hcolumns, hcondition, horder, hlimit, hoffset⟩ := h
  exact List.forall_mem_append.mpr ⟨hcolumns.subqueriesAt 0, List.forall_mem_append.mpr
    ⟨hcondition.subqueriesAt [1], List.forall_mem_append.mpr
      ⟨horder.expressions.subqueriesAt 0 [2], List.forall_mem_append.mpr
        ⟨hlimit.subqueriesAt [3], hoffset.subqueriesAt [4]⟩⟩⟩⟩

/-- **What a SELECT evaluates** at a place: an expression with subqueries of the SELECT, and proper if
the SELECT is. -/
structure Evaluates (s : Select) (place : Place) (e : Expr) : Prop where
  subqueries : e.subqueriesAt place ⊆ s.subqueries
  proper : s.Proper → e.Proper

variable {e : Expr}

theorem evaluates_column {n : Nat} {c : ResultColumn} (h : s.columns[n]? = some c)
    (hstar : c.isStar = false) : s.Evaluates [n, 0] c.expression where
  subqueries := s.column_subset h
  proper hs := by
    obtain ⟨table, cs, w, os, l, o⟩ := s
    exact (hs.1.of_mem (List.mem_of_getElem? h)).expression hstar

theorem evaluates_condition (h : s.condition = some e) : s.Evaluates [1] e := by
  obtain ⟨table, cs, w, os, l, o⟩ := s
  obtain rfl : w = some e := h
  exact ⟨(mk table cs (some e) os l o).condition_subset, fun hs => hs.2.1⟩

theorem evaluates_order {n : Nat} {t : OrderTerm} (h : s.orderBy[n]? = some t) :
    s.Evaluates [n, 2] t.expression where
  subqueries := s.order_subset h
  proper hs := by
    obtain ⟨table, cs, w, os, l, o⟩ := s
    exact (hs.2.2.1.of_mem (List.mem_of_getElem? h)).expression

theorem evaluates_limit (h : s.limit = some e) : s.Evaluates [3] e := by
  obtain ⟨table, cs, w, os, l, o⟩ := s
  obtain rfl : l = some e := h
  exact ⟨(mk table cs w os (some e) o).limit_subset, fun hs => hs.2.2.2.1⟩

theorem evaluates_offset (h : s.offset = some e) : s.Evaluates [4] e := by
  obtain ⟨table, cs, w, os, l, o⟩ := s
  obtain rfl : o = some e := h
  exact ⟨(mk table cs w os l (some e)).offset_subset, fun hs => hs.2.2.2.2⟩

/-- The terms of the order are evaluated where they come from. -/
theorem evaluates_term {terms : List SortTerm}
    (h : SortTerm.resolveAll s.columns s.orderBy = .ok terms) {t : SortTerm} (ht : t ∈ terms) :
    s.Evaluates t.place t.expression := by
  obtain ⟨⟨written, i⟩, hmem, hresolve⟩ := SortTerm.exists_of_mapM h t ht
  rcases SortTerm.resolve_cases hresolve with rfl | ⟨c, ⟨hc, hstar⟩, rfl⟩
  · exact evaluates_order (List.mem_zipIdx_iff_getElem?.mp hmem)
  · exact evaluates_column hc hstar

end Select
end TableQuery
