/-
# TableQuery.Proofs.Evaluation.Columns — evaluation sees only the columns that it names.

Two rows are the same to an expression when they agree on the columns that stand in it, a column that
a row does not have being NULL (`Record.AgreeOn`).  The columns inside a subquery do not count: they
belong to the rows of its own table.  So the two readings of an expression are one computation on both
rows (`Evaluator.evaluate_agreeOn`), and an expression without columns may be evaluated once, on no
row, for every row there is.

## §A — rows that agree.
## §B — the two readings.
## §C — assignments.
-/
import TableQuery.Database.Change

namespace TableQuery

/-! ## §A — rows that agree -/

namespace Record

/-- **Rows that agree on the columns among some nodes**; one that a row does not have is NULL. -/
def AgreeOn (row row' : Record) (nodes : List Node) : Prop :=
  ∀ name, .expr (.column name) ∈ nodes →
    row.column (Expr.lastPart name) = row'.column (Expr.lastPart name)

variable {row row' : Record} {n : Node} {nodes nodes' : List Node}

theorem AgreeOn.mono (h : row.AgreeOn row' nodes) (hsub : nodes' ⊆ nodes) :
    row.AgreeOn row' nodes' :=
  fun name hname => h name (hsub hname)

/-- The nodes of the first of two operands. -/
theorem AgreeOn.left (h : row.AgreeOn row' (n :: (nodes ++ nodes'))) : row.AgreeOn row' nodes :=
  h.mono (List.subset_cons_of_subset n (List.subset_append_left nodes nodes'))

/-- The nodes of the second of two operands. -/
theorem AgreeOn.right (h : row.AgreeOn row' (n :: (nodes ++ nodes'))) : row.AgreeOn row' nodes' :=
  h.mono (List.subset_cons_of_subset n (List.subset_append_right nodes nodes'))

/-- The nodes of the only operand. -/
theorem AgreeOn.operand (h : row.AgreeOn row' (n :: nodes)) : row.AgreeOn row' nodes :=
  h.mono (List.subset_cons_self n nodes)

end Record

/-! ## §B — the two readings -/

namespace Evaluator

variable {σ : Type} (ev : Evaluator σ) {row row' : Record}

/-- Where a test states the same on both rows, it has the same value on both. -/
theorem agreeOn_of_isTest {at_ : Place} {e : Expr} (h : e.isTest = true)
    (hcondition : ev.condition row at_ e = ev.condition row' at_ e) :
    ev.condition row at_ e = ev.condition row' at_ e ∧ ev.value row at_ e = ev.value row' at_ e := by
  refine ⟨hcondition, ?_⟩
  rw [ev.value_of_isTest row at_ h, ev.value_of_isTest row' at_ h, hcondition]

mutual

/-- Both readings of an expression are the same on rows that agree on its columns. -/
theorem readings_agreeOn : ∀ (at_ : Place) (e : Expr), row.AgreeOn row' (e.nodes false) →
    ev.condition row at_ e = ev.condition row' at_ e ∧ ev.value row at_ e = ev.value row' at_ e
  | at_, .binary op l r, h => by
      rw [Expr.nodes] at h
      obtain ⟨cl, vl⟩ := readings_agreeOn (0 :: at_) l h.left
      obtain ⟨cr, vr⟩ := readings_agreeOn (1 :: at_) r h.right
      cases op with
      | and | or | eq | ne | lt | le | gt | ge =>
        refine agreeOn_of_isTest ev rfl ?_
        simp only [condition, cl, cr, vl, vr]
      | add | sub | mul | div | mod | concat =>
        refine ⟨rfl, ?_⟩
        simp only [value, vl, vr]
  | at_, .unary op e, h => by
      rw [Expr.nodes] at h
      obtain ⟨ce, ve⟩ := readings_agreeOn (0 :: at_) e h.operand
      cases op with
      | not =>
        refine agreeOn_of_isTest ev rfl ?_
        simp only [condition, ce]
      | neg =>
        refine ⟨rfl, ?_⟩
        simp only [value, ve]
  | at_, .member l vs (some s) negated, h => by
      rw [Expr.nodes] at h
      refine agreeOn_of_isTest ev rfl ?_
      simp only [condition, (readings_agreeOn (0 :: at_) l h.left).2]
  | at_, .member l vs none negated, h => by
      rw [Expr.nodes, Select.optionNodes, List.append_nil] at h
      refine agreeOn_of_isTest ev rfl ?_
      simp only [condition, (readings_agreeOn (0 :: at_) l h.left).2, values_agreeOn 1 at_ vs h.right]
  | at_, .isNull e negated, h => by
      rw [Expr.nodes] at h
      refine agreeOn_of_isTest ev rfl ?_
      simp only [condition, (readings_agreeOn (0 :: at_) e h.operand).2]
  | at_, .like l p negated, h => by
      rw [Expr.nodes] at h
      refine agreeOn_of_isTest ev rfl ?_
      simp only [condition, (readings_agreeOn (0 :: at_) l h.left).2,
        (readings_agreeOn (1 :: at_) p h.right).2]
  -- A column is no condition of its own, and a literal does not look at the row.
  | _, .column name, h => by
      have hcolumn := h name (by simp [Expr.nodes])
      refine ⟨rfl, ?_⟩
      simp only [value, hcolumn]
  | _, .literal v, _ => ⟨by cases v <;> rfl, rfl⟩
  | _, .marker _, _ | _, .call .., _ | _, .subquery _, _ | _, .star, _ | _, .misplaced _, _ =>
      ⟨rfl, rfl⟩

theorem values_agreeOn (n : Nat) (at_ : Place) : ∀ es : List Expr,
    row.AgreeOn row' (Expr.listNodes false es) → ev.values row n at_ es = ev.values row' n at_ es
  | [], _ => rfl
  | e :: es, h => by
      rw [Expr.listNodes] at h
      have he := (readings_agreeOn (n :: at_) e (h.mono (List.subset_append_left _ _))).2
      have hes := values_agreeOn (n + 1) at_ es (h.mono (List.subset_append_right _ _))
      simp only [values, he, hes]

end

/-! ## §C — assignments -/

/-- What the check of an UPDATE lets pass names no column. -/
theorem readsColumn_of_checkConstant {assignments : List (String × Expr)} {db db' : Database}
    (h : (Database.checkConstant assignments).outcome db = (.ok (), db')) :
    ∀ a ∈ assignments, a.2.readsColumn = false := by
  unfold Database.checkConstant at h
  split at h
  · cases h
  · rename_i hnone
    intro a ha
    simpa using List.find?_eq_none.mp hnone a ha

/-- To an expression that names no column all rows are the same. -/
theorem agreeOn_of_readsColumn {e : Expr} (h : e.readsColumn = false) (row row' : Record) :
    row.AgreeOn row' (e.nodes false) := by
  intro name hname
  have hcolumn : e.readsColumn = true := List.any_eq_true.mpr ⟨_, hname, rfl⟩
  rw [h] at hcolumn
  cases hcolumn

/-- **Evaluation sees only the columns that it names.**  On two rows that agree on the columns of an
expression, those inside its subqueries aside, the expression has the same value and states the same
condition, from every state and with whatever failure; and an expression that an UPDATE assigns has on
every row the value that it has on no row. -/
theorem evaluate_agreeOn :
    (∀ (e : Expr) (row row' : Record), row.AgreeOn row' (e.nodes false) → ∀ at_,
      ev.evaluate row at_ e = ev.evaluate row' at_ e ∧
        ev.holds row at_ (some e) = ev.holds row' at_ (some e)) ∧
    ∀ (assignments : List (String × Expr)) (db db' : Database),
      (Database.checkConstant assignments).outcome db = (.ok (), db') →
        ∀ a ∈ assignments, ∀ row at_, ev.evaluate row at_ a.2 = ev.evaluate [] at_ a.2 := by
  have hsame : ∀ (e : Expr) (row row' : Record), row.AgreeOn row' (e.nodes false) → ∀ at_,
      ev.evaluate row at_ e = ev.evaluate row' at_ e ∧
        ev.holds row at_ (some e) = ev.holds row' at_ (some e) := by
    intro e row row' h at_
    constructor
    · rw [evaluate, evaluate, (ev.readings_agreeOn at_ e h).2]
    · rw [holds, holds, (ev.readings_agreeOn at_ e h).1]
  refine ⟨hsame, fun assignments db db' hcheck a ha row at_ => ?_⟩
  have hconstant := readsColumn_of_checkConstant hcheck a ha
  exact (hsame a.2 row [] (agreeOn_of_readsColumn hconstant row []) at_).1

/-- `t.b NOT IN (SELECT * FROM u WHERE a) OR b IS NULL`, where `a` is a column of the subquery. -/
def innerColumn : Expr :=
  .binary .or (.member (.column "t.b") [] (some (Select.scan "u" (some (.column "a")))) true)
    (.isNull (.column "b") false)

/-- A row with the column of the subquery and a NULL, and a row with neither column. -/
theorem evaluate_innerColumn :
    (Record.AgreeOn [(.name "a", .int 1), (.name "b", .null)] [(.name "c", .int 2)]
        (innerColumn.nodes false) ∧
      ({} : Evaluator Unit).evaluate [(.name "a", .int 1), (.name "b", .null)] [] innerColumn =
        ({} : Evaluator Unit).evaluate [(.name "c", .int 2)] [] innerColumn) ∧
    ((Database.checkConstant [("b", .marker {})]).outcome {} = (.ok (), {}) ∧
      ({} : Evaluator Unit).evaluate [(.name "b", .int 1)] [0, 0] (.marker {}) =
        ({} : Evaluator Unit).evaluate [] [0, 0] (.marker {})) := by
  have hagree : Record.AgreeOn [(.name "a", .int 1), (.name "b", .null)] [(.name "c", .int 2)]
      (innerColumn.nodes false) := by
    intro name hname
    simp [innerColumn, Expr.nodes, Expr.listNodes, Select.optionNodes] at hname
    rcases hname with rfl | rfl <;> rfl
  exact ⟨⟨hagree, ((evaluate_agreeOn {}).1 innerColumn _ _ hagree []).1⟩,
    rfl, (evaluate_agreeOn {}).2 [("b", .marker {})] {} {} rfl ("b", .marker {}) List.mem_cons_self
      [(.name "b", .int 1)] [0, 0]⟩

end Evaluator
end TableQuery
