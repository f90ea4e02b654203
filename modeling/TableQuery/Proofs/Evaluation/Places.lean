/-
# TableQuery.Proofs.Evaluation.Places — a place in a statement holds one subquery.

The values of a subquery are remembered under its place, so a place has to tell subqueries apart.
Every place below an expression ends in the place of the expression, and the places of two
siblings end in different steps; so no two subqueries of a statement share a place.  A term of
ORDER BY that stands for a result column is evaluated in the place of the column, and its subqueries
are those of the column.

## §A — places below a place.
## §B — the subqueries of an expression.
## §C — the subqueries of a SELECT.
## §D — the terms of the order.
-/
import TableQuery.Proofs.Evaluation.Steady
import TableQuery.Reading.Plan

namespace TableQuery

/-! ## §A — places below a place -/

/-- Subqueries that are told apart by their places. -/
def ToldApart (subs : List (Place × Select)) : Prop :=
  ∀ p s t, (p, s) ∈ subs → (p, t) ∈ subs → s = t

/-- Subqueries whose places all lie below one place. -/
def Below (at_ : Place) (subs : List (Place × Select)) : Prop := ∀ q ∈ subs, at_ <:+ q.1

theorem toldApart_nil : ToldApart [] := fun _ _ _ h => absurd h List.not_mem_nil

theorem toldApart_singleton (p : Place × Select) : ToldApart [p] := by
  intro q s t hs ht
  rw [List.mem_singleton] at hs ht
  exact congrArg Prod.snd (hs.trans ht.symm)

/-- Parts with no place in common. -/
theorem ToldApart.append {ps qs : List (Place × Select)} (hp : ToldApart ps) (hq : ToldApart qs)
    (h : ∀ p ∈ ps, ∀ q ∈ qs, p.1 ≠ q.1) : ToldApart (ps ++ qs) := by
  intro p s t hs ht
  rcases List.mem_append.mp hs with hs | hs <;> rcases List.mem_append.mp ht with ht | ht
  · exact hp p s t hs ht
  · exact absurd rfl (h (p, s) hs (p, t) ht)
  · exact absurd rfl (h (p, t) ht (p, s) hs)
  · exact hq p s t hs ht

/-- Two places end differently when none is the end of the other. -/
theorem ne_of_suffix {a b p q : Place} (hp : a <:+ p) (hq : b <:+ q) (hab : ¬ a <:+ b)
    (hba : ¬ b <:+ a) : p ≠ q := by
  rintro rfl
  rcases List.suffix_or_suffix_of_suffix hp hq with h | h
  · exact hab h
  · exact hba h

theorem not_suffix_sibling {m n : Nat} (h : m ≠ n) (at_ : Place) : ¬ m :: at_ <:+ n :: at_ := by
  intro hs
  have heq := hs.eq_of_length rfl
  exact h (List.cons.inj heq).1

/-- The places below two siblings are different. -/
theorem ne_of_siblings {m n : Nat} (h : m ≠ n) {at_ p q : Place} (hp : m :: at_ <:+ p)
    (hq : n :: at_ <:+ q) : p ≠ q :=
  ne_of_suffix hp hq (not_suffix_sibling h at_) (not_suffix_sibling h.symm at_)

theorem suffix_of_child {n : Nat} {at_ p : Place} (h : n :: at_ <:+ p) : at_ <:+ p :=
  (List.suffix_cons n at_).trans h

/-! ## §B — the subqueries of an expression -/

namespace Expr

mutual

theorem below_subqueriesAt : ∀ (at_ : Place) (e : Expr), Below at_ (e.subqueriesAt at_)
  | at_, .binary _ l r => by
      intro q hq
      rw [subqueriesAt] at hq
      rcases List.mem_append.mp hq with hq | hq
      · exact suffix_of_child (below_subqueriesAt (0 :: at_) l q hq)
      · exact suffix_of_child (below_subqueriesAt (1 :: at_) r q hq)
  | at_, .unary _ e => by
      intro q hq
      rw [subqueriesAt] at hq
      exact suffix_of_child (below_subqueriesAt (0 :: at_) e q hq)
  | at_, .member l vs (some s) _ => by
      intro q hq
      rw [subqueriesAt] at hq
      rcases List.mem_append.mp hq with hq | hq
      · exact suffix_of_child (below_subqueriesAt (0 :: at_) l q hq)
      · obtain rfl := List.mem_singleton.mp hq
        exact List.suffix_cons 1 at_
  | at_, .member l vs none _ => by
      intro q hq
      rw [subqueriesAt] at hq
      rcases List.mem_append.mp hq with hq | hq
      · exact suffix_of_child (below_subqueriesAt (0 :: at_) l q hq)
      · obtain ⟨m, -, hm⟩ := below_listSubqueriesAt 1 at_ vs q hq
        exact suffix_of_child hm
  | at_, .isNull e _ => by
      intro q hq
      rw [subqueriesAt] at hq
      exact suffix_of_child (below_subqueriesAt (0 :: at_) e q hq)
  | at_, .like l p _ => by
      intro q hq
      rw [subqueriesAt] at hq
      rcases List.mem_append.mp hq with hq | hq
      · exact suffix_of_child (below_subqueriesAt (0 :: at_) l q hq)
      · exact suffix_of_child (below_subqueriesAt (1 :: at_) p q hq)
  | at_, .subquery s => by
      intro q hq
      rw [subqueriesAt] at hq
      obtain rfl := List.mem_singleton.mp hq
      exact List.suffix_refl at_
  | at_, .literal _ | at_, .column _ | at_, .marker _ | at_, .call .. | at_, .star
  | at_, .misplaced _ => by
      intro q hq
      simp [subqueriesAt] at hq

theorem below_listSubqueriesAt (n : Nat) (at_ : Place) :
    ∀ es : List Expr, ∀ q ∈ listSubqueriesAt n at_ es, ∃ m, n ≤ m ∧ m :: at_ <:+ q.1
  | [] => by
      intro q hq
      simp [listSubqueriesAt] at hq
  | e :: es => by
      intro q hq
      rw [listSubqueriesAt] at hq
      rcases List.mem_append.mp hq with hq | hq
      · exact ⟨n, Nat.le_refl n, below_subqueriesAt (n :: at_) e q hq⟩
      · obtain ⟨m, hm, hsuffix⟩ := below_listSubqueriesAt (n + 1) at_ es q hq
        exact ⟨m, Nat.le_of_succ_le hm, hsuffix⟩

end

/-- The subqueries of two operands. -/
theorem toldApart_operands {at_ : Place} {l r : Expr}
    (hl : ToldApart (l.subqueriesAt (0 :: at_))) (hr : ToldApart (r.subqueriesAt (1 :: at_))) :
    ToldApart (l.subqueriesAt (0 :: at_) ++ r.subqueriesAt (1 :: at_)) :=
  hl.append hr fun p hp q hq =>
    ne_of_siblings Nat.zero_ne_one (below_subqueriesAt _ l p hp) (below_subqueriesAt _ r q hq)

mutual

/-- **The subqueries of an expression are told apart by their places.** -/
theorem toldApart_subqueriesAt : ∀ (at_ : Place) (e : Expr), ToldApart (e.subqueriesAt at_)
  | at_, .binary _ l r => by
      rw [subqueriesAt]
      exact toldApart_operands (toldApart_subqueriesAt _ l) (toldApart_subqueriesAt _ r)
  | at_, .unary _ e => by
      rw [subqueriesAt]
      exact toldApart_subqueriesAt _ e
  | at_, .member l vs (some s) _ => by
      rw [subqueriesAt]
      refine (toldApart_subqueriesAt _ l).append (toldApart_singleton _) fun p hp q hq => ?_
      obtain rfl := List.mem_singleton.mp hq
      exact ne_of_siblings Nat.zero_ne_one (below_subqueriesAt _ l p hp) (List.suffix_refl _)
  | at_, .member l vs none _ => by
      rw [subqueriesAt]
      refine (toldApart_subqueriesAt _ l).append (toldApart_listSubqueriesAt 1 at_ vs)
        fun p hp q hq => ?_
      obtain ⟨m, hm, hsuffix⟩ := below_listSubqueriesAt 1 at_ vs q hq
      exact ne_of_siblings (Nat.ne_of_lt hm) (below_subqueriesAt _ l p hp) hsuffix
  | at_, .isNull e _ => by
      rw [subqueriesAt]
      exact toldApart_subqueriesAt _ e
  | at_, .like l p _ => by
      rw [subqueriesAt]
      exact toldApart_operands (toldApart_subqueriesAt _ l) (toldApart_subqueriesAt _ p)
  | at_, .subquery s => by
      rw [subqueriesAt]
      exact toldApart_singleton _
  | at_, .literal _ | at_, .column _ | at_, .marker _ | at_, .call .. | at_, .star
  | at_, .misplaced _ => by
      simp only [subqueriesAt]
      exact toldApart_nil

theorem toldApart_listSubqueriesAt (n : Nat) (at_ : Place) :
    ∀ es : List Expr, ToldApart (listSubqueriesAt n at_ es)
  | [] => by
      rw [listSubqueriesAt]
      exact toldApart_nil
  | e :: es => by
      rw [listSubqueriesAt]
      refine (toldApart_subqueriesAt _ e).append (toldApart_listSubqueriesAt (n + 1) at_ es)
        fun p hp q hq => ?_
      obtain ⟨m, hm, hsuffix⟩ := below_listSubqueriesAt (n + 1) at_ es q hq
      exact ne_of_siblings (Nat.ne_of_lt hm) (below_subqueriesAt _ e p hp) hsuffix

end

/-- The subqueries of one of some expressions. -/
theorem subset_listSubqueriesAt {es : List Expr} {i : Nat} {e : Expr} (h : es[i]? = some e)
    (n : Nat) (at_ : Place) :
    e.subqueriesAt ((n + i) :: at_) ⊆ listSubqueriesAt n at_ es := by
  induction es generalizing i n with
  | nil => cases h
  | cons d es ih =>
      rw [listSubqueriesAt]
      cases i with
      | zero =>
          obtain rfl := Option.some.inj h
          exact List.subset_append_left _ _
      | succ i =>
          have hstep : n + (i + 1) = n + 1 + i := by omega
          rw [hstep]
          exact List.subset_append_of_subset_right _ (ih h (n + 1))

/-- The subqueries of an expression that may be absent. -/
def optionSubqueriesAt (at_ : Place) : Option Expr → List (Place × Select)
  | none => []
  | some e => e.subqueriesAt at_

theorem toldApart_optionSubqueriesAt (at_ : Place) (e : Option Expr) :
    ToldApart (optionSubqueriesAt at_ e) := by
  cases e with
  | none => exact toldApart_nil
  | some e => exact toldApart_subqueriesAt at_ e

theorem below_optionSubqueriesAt (at_ : Place) (e : Option Expr) :
    Below at_ (optionSubqueriesAt at_ e) := by
  cases e with
  | none => exact fun _ h => absurd h List.not_mem_nil
  | some e => exact below_subqueriesAt at_ e

/-- The items of a list all lie below the place of the list. -/
theorem below_list (n : Nat) (at_ : Place) (es : List Expr) :
    Below at_ (listSubqueriesAt n at_ es) := by
  intro q hq
  obtain ⟨m, -, hm⟩ := below_listSubqueriesAt n at_ es q hq
  exact suffix_of_child hm

end Expr

/-! ## §C — the subqueries of a SELECT -/

namespace Select

/-- **The subqueries of a SELECT** with their places, those inside of subqueries aside. -/
def subqueries (s : Select) : List (Place × Select) :=
  Expr.listSubqueriesAt 0 [0] (s.columns.map ResultColumn.expression) ++
    (Expr.optionSubqueriesAt [1] s.condition ++
      (Expr.listSubqueriesAt 0 [2] (s.orderBy.map OrderTerm.expression) ++
        (Expr.optionSubqueriesAt [3] s.limit ++ Expr.optionSubqueriesAt [4] s.offset)))

/-- Clauses under different steps have no place in common. -/
theorem ToldApart.clauses {m : Nat} {ps qs : List (Place × Select)} (hp : ToldApart ps)
    (hq : ToldApart qs) (hm : Below [m] ps) (h : ∀ q ∈ qs, ∃ n, m < n ∧ [n] <:+ q.1) :
    ToldApart (ps ++ qs) :=
  hp.append hq fun p hp' q hq' => by
    obtain ⟨n, hn, hsuffix⟩ := h q hq'
    exact ne_of_siblings (Nat.ne_of_lt hn) (hm p hp') hsuffix

/-- The places below one of two parts. -/
theorem steps_append {m n : Nat} {ps qs : List (Place × Select)} (hmn : m < n) (hp : Below [n] ps)
    (hq : ∀ q ∈ qs, ∃ k, n < k ∧ [k] <:+ q.1) : ∀ q ∈ ps ++ qs, ∃ k, m < k ∧ [k] <:+ q.1 := by
  intro q hmem
  rcases List.mem_append.mp hmem with hmem | hmem
  · exact ⟨n, hmn, hp q hmem⟩
  · obtain ⟨k, hk, hsuffix⟩ := hq q hmem
    exact ⟨k, Nat.lt_trans hmn hk, hsuffix⟩

/-- **The subqueries of a SELECT are told apart by their places.** -/
theorem toldApart_subqueries (s : Select) : ToldApart s.subqueries := by
  -- From the last clause to the first: the places behind a clause lie below later steps than its own.
  have hoffset : ∀ q ∈ Expr.optionSubqueriesAt [4] s.offset, ∃ k, 3 < k ∧ [k] <:+ q.1 :=
    fun q hq => ⟨4, by decide, Expr.below_optionSubqueriesAt _ _ q hq⟩
  have hlimit := steps_append (by decide : 2 < 3) (Expr.below_optionSubqueriesAt [3] s.limit) hoffset
  have horder := steps_append (by decide : 1 < 2)
    (Expr.below_list 0 [2] (s.orderBy.map OrderTerm.expression)) hlimit
  have hwhere := steps_append (by decide : 0 < 1)
    (Expr.below_optionSubqueriesAt [1] s.condition) horder
  refine ToldApart.clauses (Expr.toldApart_listSubqueriesAt 0 [0] _) ?_ (Expr.below_list 0 [0] _)
    hwhere
  refine ToldApart.clauses (Expr.toldApart_optionSubqueriesAt [1] _) ?_
    (Expr.below_optionSubqueriesAt _ _) horder
  refine ToldApart.clauses (Expr.toldApart_listSubqueriesAt 0 [2] _) ?_ (Expr.below_list 0 [2] _)
    hlimit
  exact ToldApart.clauses (Expr.toldApart_optionSubqueriesAt [3] _)
    (Expr.toldApart_optionSubqueriesAt [4] _) (Expr.below_optionSubqueriesAt _ _) hoffset

section
variable (s : Select)

theorem column_subset {n : Nat} {c : ResultColumn} (h : s.columns[n]? = some c) :
    c.expression.subqueriesAt [n, 0] ⊆ s.subqueries := by
  have hmap : (s.columns.map ResultColumn.expression)[n]? = some c.expression := by
    rw [List.getElem?_map, h]
    rfl
  have hsub := Expr.subset_listSubqueriesAt hmap 0 [0]
  rw [Nat.zero_add] at hsub
  exact fun q hq => List.mem_append_left _ (hsub hq)

theorem condition_subset : Expr.optionSubqueriesAt [1] s.condition ⊆ s.subqueries :=
  fun _ hq => List.mem_append_right _ (List.mem_append_left _ hq)

theorem order_subset {n : Nat} {t : OrderTerm} (h : s.orderBy[n]? = some t) :
    t.expression.subqueriesAt [n, 2] ⊆ s.subqueries := by
  have hmap : (s.orderBy.map OrderTerm.expression)[n]? = some t.expression := by
    rw [List.getElem?_map, h]
    rfl
  have hsub := Expr.subset_listSubqueriesAt hmap 0 [2]
  rw [Nat.zero_add] at hsub
  exact fun q hq =>
    List.mem_append_right _ (List.mem_append_right _ (List.mem_append_left _ (hsub hq)))

theorem limit_subset : Expr.optionSubqueriesAt [3] s.limit ⊆ s.subqueries :=
  fun _ hq => List.mem_append_right _ (List.mem_append_right _ (List.mem_append_right _
    (List.mem_append_left _ hq)))

theorem offset_subset : Expr.optionSubqueriesAt [4] s.offset ⊆ s.subqueries :=
  fun _ hq => List.mem_append_right _ (List.mem_append_right _ (List.mem_append_right _
    (List.mem_append_right _ hq)))

end
end Select

/-! ## §D — the terms of the order -/

namespace SortTerm

theorem getElem?_of_atPosition? {columns : List ResultColumn} {position : Int}
    {c : ResultColumn × Nat} (h : atPosition? columns position = some c) :
    columns[c.2]? = some c.1 ∧ c.1.isStar = false := by
  unfold atPosition? at h
  split at h
  · split at h
    · rename_i d hd
      split at h
      · cases h
      · rename_i hstar
        obtain rfl := Option.some.inj h
        exact ⟨hd, Bool.eq_false_iff.mpr hstar⟩
    · cases h
  · cases h

theorem getElem?_of_named? {columns : List ResultColumn} {name : String} {c : ResultColumn × Nat}
    (h : named? columns name = some c) : columns[c.2]? = some c.1 ∧ c.1.isStar = false := by
  have hfound := List.find?_some h
  rw [Bool.and_eq_true, Bool.not_eq_true'] at hfound
  exact ⟨List.mem_zipIdx_iff_getElem?.mp (List.mem_of_find?_eq_some h), hfound.2⟩

/-- A term keeps its own expression and place, or has those of a result column that does not stand
for all columns. -/
theorem resolve_cases {columns : List ResultColumn} {index : Nat} {t : OrderTerm} {u : SortTerm}
    (h : resolve columns index t = .ok u) :
    u = ⟨t.expression, t.desc, [index, 2]⟩ ∨
      ∃ c, (columns[c.2]? = some c.1 ∧ c.1.isStar = false) ∧ u = ofColumn t.desc c := by
  unfold resolve at h
  split at h
  · split at h
    · rename_i c hc
      exact .inr ⟨c, getElem?_of_atPosition? hc, (Except.ok.inj h).symm⟩
    · cases h
  · split at h
    · exact .inl (Except.ok.inj h).symm
    · split at h
      · rename_i c hc
        exact .inr ⟨c, getElem?_of_named? hc, (Except.ok.inj h).symm⟩
      · exact .inl (Except.ok.inj h).symm
  · exact .inl (Except.ok.inj h).symm

/-- A term of a list that is resolved comes from a term that is written. -/
theorem exists_of_mapM {α β ε : Type} {f : α → Except ε β} {as : List α} {bs : List β}
    (h : as.mapM f = .ok bs) : ∀ b ∈ bs, ∃ a ∈ as, f a = .ok b := by
  induction as generalizing bs with
  | nil =>
      rw [List.mapM_nil] at h
      obtain rfl := Except.ok.inj h
      exact fun _ hb => absurd hb List.not_mem_nil
  | cons a as ih =>
      rw [List.mapM_cons] at h
      rcases ha : f a with e | b
      · rw [ha] at h
        cases h
      · rcases has : as.mapM f with e | cs
        · rw [ha, has] at h
          cases h
        · rw [ha, has] at h
          obtain rfl := Except.ok.inj h
          intro d hd
          rcases List.mem_cons.mp hd with rfl | hd
          · exact ⟨a, List.mem_cons_self, ha⟩
          · obtain ⟨x, hx, hfx⟩ := ih has d hd
            exact ⟨x, List.mem_cons_of_mem a hx, hfx⟩

/-- A list fails to be resolved for one of its elements. -/
theorem exists_of_mapM_error {α β ε : Type} {f : α → Except ε β} {as : List α} {e : ε}
    (h : as.mapM f = .error e) : ∃ a ∈ as, f a = .error e := by
  induction as with
  | nil => cases h
  | cons a as ih =>
      rw [List.mapM_cons] at h
      rcases ha : f a with e' | b
      · rw [ha] at h
        obtain rfl := Except.error.inj h
        exact ⟨a, List.mem_cons_self, ha⟩
      · rcases has : as.mapM f with e' | cs
        · rw [ha, has] at h
          obtain rfl := Except.error.inj h
          obtain ⟨x, hx, hfx⟩ := ih has
          exact ⟨x, List.mem_cons_of_mem a hx, hfx⟩
        · rw [ha, has] at h
          cases h

/-- **The subqueries of the terms** are among those of the statement. -/
theorem subset_of_resolveAll {s : Select} {terms : List SortTerm}
    (h : resolveAll s.columns s.orderBy = .ok terms) {t : SortTerm} (ht : t ∈ terms) :
    t.expression.subqueriesAt t.place ⊆ s.subqueries := by
  obtain ⟨⟨written, i⟩, hmem, hresolve⟩ := exists_of_mapM h t ht
  rcases resolve_cases hresolve with rfl | ⟨c, hc, rfl⟩
  · exact s.order_subset (List.mem_zipIdx_iff_getElem?.mp hmem)
  · exact s.column_subset hc.1

/-- Terms are refused for a position that is none. -/
theorem fault_of_resolveAll {columns : List ResultColumn} {ts : List OrderTerm}
    {fault : EvaluationFault} (h : resolveAll columns ts = .error fault) :
    ∃ shown, fault = .orderPosition shown := by
  obtain ⟨⟨t, i⟩, -, hresolve⟩ := exists_of_mapM_error h
  replace hresolve : resolve columns i t = .error fault := hresolve
  unfold resolve at hresolve
  split at hresolve
  · split at hresolve
    · cases hresolve
    · exact ⟨_, (Except.error.inj hresolve).symm⟩
  · split at hresolve
    · cases hresolve
    · split at hresolve <;> cases hresolve
  · cases hresolve

end SortTerm
end TableQuery
