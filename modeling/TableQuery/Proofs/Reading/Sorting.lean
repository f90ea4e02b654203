/-
# TableQuery.Proofs.Reading.Sorting — the order that ORDER BY asks for.

The terms of an ORDER BY compare rows lexicographically, a term that is turned around comparing the
other way.  This is a total preorder of rows because every collation is one of values, so the rows
that are gathered come out sorted, and rows that are equal under all terms keep the order in which
the table gave them.  Rows that come in the order already are left alone.

## §A — the order of rows.
## §B — stable sorting.
-/
import TableQuery.Proofs.ValueOrder
import TableQuery.Reading.Cursor

namespace TableQuery

/-! ## §A — the order of rows -/

/-- An order, turned around for DESC. -/
def directed (desc : Bool) (o : Ordering) : Ordering := if desc then o.swap else o

@[simp]
theorem directed_eq (desc : Bool) : directed desc .eq = .eq := by cases desc <;> rfl

/-- Two values under a collation in a direction. -/
def Collation.compareDirected (c : Collation) (desc : Bool) (a b : Value) : Ordering :=
  directed desc (c.compare a b)

instance (c : Collation) (desc : Bool) : Std.TransCmp (c.compareDirected desc) := by
  cases desc with
  | false => exact inferInstanceAs (Std.TransCmp c.compare)
  | true =>
      have hswap : c.compareDirected true = fun a b => c.compare b a := by
        funext a b
        exact (@Std.OrientedCmp.eq_swap _ c.compare _ _ _).symm
      rw [hswap]
      infer_instance

/-- Two rows under one term, whose value on each row `key` gives. -/
def termOrder (c : Collation) (key : SortTerm → Row → Value) (t : SortTerm) (a b : Row) : Ordering :=
  c.compareDirected t.desc (key t a) (key t b)

/-- **The order of two rows** under some terms: the first difference decides. -/
def rowOrder (c : Collation) (key : SortTerm → Row → Value) : List SortTerm → Row → Row → Ordering
  | [] => fun _ _ => .eq
  | t :: ts => compareLex (termOrder c key t) (rowOrder c key ts)

section
variable (c : Collation) (key : SortTerm → Row → Value)

instance (t : SortTerm) : Std.TransCmp (termOrder c key t) where
  eq_swap {a b} := @Std.OrientedCmp.eq_swap _ (c.compareDirected t.desc) _ (key t a) (key t b)
  isLE_trans {a b d} :=
    @Std.TransCmp.isLE_trans _ (c.compareDirected t.desc) _ (key t a) (key t b) (key t d)

instance rowOrder_transCmp (terms : List SortTerm) : Std.TransCmp (rowOrder c key terms) := by
  induction terms with
  | nil => exact { eq_swap := rfl, isLE_trans := fun _ _ => rfl }
  | cons t ts ih =>
      rw [rowOrder]
      infer_instance

/-- Whether a row may come before another one. -/
def rowLE (terms : List SortTerm) (a b : Row) : Bool := rowOrder c key terms a b != .gt

theorem rowLE_iff {terms : List SortTerm} {a b : Row} :
    rowLE c key terms a b = true ↔ (rowOrder c key terms a b).isLE = true := by
  rw [rowLE, Ordering.isLE_iff_ne_gt, bne_iff_ne]

theorem rowLE_trans (terms : List SortTerm) (a b d : Row) (hab : rowLE c key terms a b = true)
    (hbd : rowLE c key terms b d = true) : rowLE c key terms a d = true := by
  rw [rowLE_iff] at *
  exact Std.TransCmp.isLE_trans hab hbd

theorem rowLE_total (terms : List SortTerm) (a b : Row) :
    (rowLE c key terms a b || rowLE c key terms b a) = true := by
  have hswap : rowOrder c key terms b a = (rowOrder c key terms a b).swap :=
    Std.OrientedCmp.eq_swap
  rw [rowLE, rowLE, hswap]
  cases rowOrder c key terms a b <;> rfl

/-- The keys of two rows compare as the rows do. -/
theorem compareKeys_eq_rowOrder (terms : List SortTerm) (a b : Row) :
    Host.compareKeys c terms (terms.map (key · a)) (terms.map (key · b)) =
      rowOrder c key terms a b := by
  induction terms with
  | nil => rfl
  | cons t ts ih =>
      simp only [List.map_cons, Host.compareKeys, rowOrder, compareLex, termOrder,
        Collation.compareDirected, directed]
      rw [ih]
      cases c.compare (key t a) (key t b) <;> cases t.desc <;> rfl

/-! ## §B — stable sorting -/

/-- **A stable sorting** of a list: the same elements, in order, and whatever part of the list was
in order already stays as it was. -/
structure IsStableSort {α : Type} (le : α → α → Bool) (xs ys : List α) : Prop where
  perm : ys.Perm xs
  sorted : ys.Pairwise (le · ·)
  stable : ∀ part : List α, part.Sublist xs → part.Pairwise (le · ·) → part.Sublist ys

section
variable {α : Type} {le : α → α → Bool} {xs ys zs : List α}

/-- Elements either of which may come before the other. -/
def tied (le : α → α → Bool) (a b : α) : Bool := le a b && le b a

theorem tied_iff {a b : α} : tied le a b = true ↔ le a b = true ∧ le b a = true := by
  rw [tied, Bool.and_eq_true]

/-- Two sorted lists of the same elements are one when elements that are tied stand in the same order
in both. -/
theorem eq_of_sorted_of_tied (total : ∀ a b, (le a b || le b a) = true) (hperm : ys.Perm zs)
    (hys : ys.Pairwise (le · ·)) (hzs : zs.Pairwise (le · ·))
    (htied : ∀ a, ys.filter (tied le a) = zs.filter (tied le a)) : ys = zs := by
  have hself : ∀ a, le a a = true := fun a => by simpa using total a a
  induction ys generalizing zs with
  | nil => exact hperm.nil_eq
  | cons y ys ih =>
      cases zs with
      | nil => exact absurd hperm.symm.nil_eq nofun
      | cons z zs =>
          -- Each head comes before all of the other list, so the heads are tied, and they are the
          -- first of their ties.
          have hyz : le y z = true := by
            rcases List.mem_cons.mp (hperm.mem_iff.mpr List.mem_cons_self) with rfl | hz
            · exact hself z
            · exact List.rel_of_pairwise_cons hys hz
          have hzy : le z y = true := by
            rcases List.mem_cons.mp (hperm.mem_iff.mp List.mem_cons_self) with rfl | hy
            · exact hself y
            · exact List.rel_of_pairwise_cons hzs hy
          have hheads := htied y
          rw [List.filter_cons_of_pos (tied_iff.mpr ⟨hself y, hself y⟩),
            List.filter_cons_of_pos (tied_iff.mpr ⟨hyz, hzy⟩)] at hheads
          obtain ⟨rfl, -⟩ := List.cons_eq_cons.mp hheads
          refine congrArg _ (ih (List.perm_cons y |>.mp hperm) hys.tail hzs.tail fun a => ?_)
          have ha := htied a
          by_cases hay : tied le a y = true
          · rw [List.filter_cons_of_pos hay, List.filter_cons_of_pos hay] at ha
            exact (List.cons_eq_cons.mp ha).2
          · rwa [List.filter_cons_of_neg hay, List.filter_cons_of_neg hay] at ha

/-- Elements that are tied keep their order. -/
theorem IsStableSort.filter_tied (h : IsStableSort le xs ys)
    (trans : ∀ a b d, le a b = true → le b d = true → le a d = true) (a : α) :
    ys.filter (tied le a) = xs.filter (tied le a) := by
  have hpart : (xs.filter (tied le a)).Sublist ys := by
    refine h.stable _ List.filter_sublist (List.pairwise_of_forall_mem_list fun b hb d hd => ?_)
    have hba := (tied_iff.mp (List.mem_filter.mp hb).2).2
    have had := (tied_iff.mp (List.mem_filter.mp hd).2).1
    exact trans b a d hba had
  have hkept := hpart.filter (tied le a)
  rw [List.filter_filter, List.filter_congr fun b _ => Bool.and_self _] at hkept
  exact (hkept.eq_of_length (h.perm.filter _).length_eq.symm).symm

/-- Merging sorts stably. -/
theorem isStableSort_mergeSort (trans : ∀ a b d, le a b = true → le b d = true → le a d = true)
    (total : ∀ a b, (le a b || le b a) = true) (xs : List α) :
    IsStableSort le xs (xs.mergeSort le) where
  perm := List.mergeSort_perm xs le
  sorted := List.pairwise_mergeSort trans total xs
  stable _ hpart hsorted := List.sublist_mergeSort trans total hsorted hpart

/-- **A list has one stable sorting.** -/
theorem IsStableSort.unique (trans : ∀ a b d, le a b = true → le b d = true → le a d = true)
    (total : ∀ a b, (le a b || le b a) = true) (hy : IsStableSort le xs ys)
    (hz : IsStableSort le xs zs) : ys = zs :=
  eq_of_sorted_of_tied total (hy.perm.trans hz.perm.symm) hy.sorted hz.sorted fun a =>
    (hy.filter_tied trans a).trans (hz.filter_tied trans a).symm

/-- The elements that are kept of a stable sorting are a stable sorting of those that are kept. -/
theorem IsStableSort.filter (h : IsStableSort le xs ys) (keep : α → Bool) :
    IsStableSort le (xs.filter keep) (ys.filter keep) where
  perm := h.perm.filter keep
  sorted := h.sorted.filter keep
  stable part hpart hsorted := by
    have hkept := (h.stable part (hpart.trans List.filter_sublist) hsorted).filter keep
    have hall : part.filter keep = part :=
      List.filter_eq_self.mpr fun a ha => (List.mem_filter.mp (hpart.mem ha)).2
    rwa [hall] at hkept

end

/-- The rows in the order of the terms. -/
def sortedRows (terms : List SortTerm) (rows : List Row) : List Row :=
  rows.mergeSort (rowLE c key terms)

theorem isStableSort_sortedRows (terms : List SortTerm) (rows : List Row) :
    IsStableSort (rowLE c key terms) rows (sortedRows c key terms rows) :=
  isStableSort_mergeSort (rowLE_trans c key terms) (rowLE_total c key terms) rows

/-- Rows that come in the order are left as they are. -/
theorem sortedRows_of_pairwise {terms : List SortTerm} {rows : List Row}
    (h : rows.Pairwise (rowLE c key terms · ·)) : sortedRows c key terms rows = rows :=
  List.mergeSort_of_pairwise h

/-- Without an order asked for rows are left as they are. -/
theorem sortedRows_nil (rows : List Row) : sortedRows c key [] rows = rows :=
  sortedRows_of_pairwise c key (List.pairwise_of_forall fun _ _ => rfl)

/-- Sorting rows along with their keys is sorting the rows. -/
theorem sortByKeys_eq (terms : List SortTerm) (rows : List Row) :
    Host.sortByKeys c terms (rows.map fun r => (terms.map (key · r), r)) =
      sortedRows c key terms rows := by
  have hle : ∀ a ∈ rows, ∀ b ∈ rows, rowLE c key terms a b =
      (Host.compareKeys c terms (terms.map (key · a)) (terms.map (key · b)) != .gt) := by
    intro a _ b _
    rw [compareKeys_eq_rowOrder, rowLE]
  rw [Host.sortByKeys, sortedRows,
    ← List.map_mergeSort (f := fun r => (terms.map (key · r), r)) hle, List.map_map]
  exact List.map_id _

end
end TableQuery
