/-
# TableQuery.Proofs.ValueOrder — the order of values is total, under every collation.

Comparing two values is comparing two keys: `Collation.sortKey` sends a value to its band and its
place in the band, and `Collation.compare` decides a pair exactly as the keys do.  So the mixed
triples (an integer, a float, a text that writes a number, a byte string that writes none) need no
cases of their own; it is enough that keys are ordered.

## §A — the order of numbers.
## §B — the order of keys.
## §C — the order of values.
-/
import Mathlib.Algebra.Order.Ring.Rat
import TableQuery.Collation.Order

namespace TableQuery

/-! ## §A — the order of numbers -/

namespace Number

/-- A key is not above another one when its band is below, or the bands agree and its value is not
above. -/
theorem Key.compare_isLE {a b : Key} :
    (a.compare b).isLE ↔ a.band < b.band ∨ a.band = b.band ∧ a.value ≤ b.value := by
  unfold Key.compare
  split
  · simp [*]
  · split
    · simp; omega
    · have hband : a.band = b.band := by omega
      split
      · simp [*, le_of_lt]
      · split <;> simp [*, not_lt.mp]

instance : Std.TransCmp Key.compare where
  eq_swap {a b} := by
    unfold Key.compare
    rcases lt_trichotomy a.band b.band with h | h | h
    · simp [h, Nat.not_lt.mpr h.le]
    · rcases lt_trichotomy a.value b.value with hv | hv | hv
      · simp [h, hv, not_lt.mpr hv.le]
      · simp [h, hv]
      · simp [h, hv, not_lt.mpr hv.le]
    · simp [h, Nat.not_lt.mpr h.le]
  isLE_trans {a b c} hab hbc := by
    rw [Key.compare_isLE] at *
    rcases hab with hab | ⟨hab, vab⟩ <;> rcases hbc with hbc | ⟨hbc, vbc⟩
    · exact .inl (by omega)
    · exact .inl (by omega)
    · exact .inl (by omega)
    · exact .inr ⟨by omega, vab.trans vbc⟩

instance : Std.TransCmp Number.compare where
  eq_swap {a b} := @Std.OrientedCmp.eq_swap _ Key.compare _ a.key b.key
  isLE_trans {a b c} := @Std.TransCmp.isLE_trans _ Key.compare _ a.key b.key c.key

/-- NaN alone stands in the lowest band. -/
theorem band_eq_zero_iff (n : Number) : n.key.band = 0 ↔ n.isNaN = true := by
  rcases n with i | x
  · simp [key, isNaN]
  · rcases x with _ | s | ⟨s, m, e, h⟩
    · simp [key, isNaN, Double.isNaN]
    · cases s <;> simp [key, isNaN, Double.isNaN]
    · simp [key, isNaN, Double.isNaN]

/-- NaN is below every other number. -/
theorem compare_nan {m n : Number} (hm : m.isNaN = true) (hn : n.isNaN = false) :
    m.compare n = .lt := by
  have hm0 : m.key.band = 0 := (band_eq_zero_iff m).mpr hm
  have hn0 : n.key.band ≠ 0 := by
    intro h
    simp [(band_eq_zero_iff n).mp h] at hn
  unfold compare Key.compare
  rw [if_pos (by omega)]

/-- NaN has one place. -/
theorem compare_nan_nan {m n : Number} (hm : m.isNaN = true) (hn : n.isNaN = true) :
    m.compare n = .eq := by
  have hkeys : ∀ k : Number, k.isNaN = true → k.key = ⟨0, 0⟩ := by
    rintro (i | x) hk
    · cases hk
    · cases x <;> first | rfl | cases hk
  rw [compare, hkeys m hm, hkeys n hn]
  rfl

theorem compare_swap (m n : Number) : m.compare n = (n.compare m).swap := Std.OrientedCmp.eq_swap

theorem equal_comm (m n : Number) : m.equal n = n.equal m := by
  unfold equal
  rw [m.compare_swap n, Bool.and_comm (!m.isNaN)]
  cases n.compare m <;> rfl

/-- Two numbers are equal just where they have one place in the order, unless both are NaN. -/
theorem equal_eq_compare {m n : Number} (h : (m.isNaN && n.isNaN) = false) :
    m.equal n = (m.compare n == .eq) := by
  unfold equal
  cases hm : m.isNaN <;> cases hn : n.isNaN
  · simp
  · have hgt : m.compare n = .gt := by
      rw [compare_swap, compare_nan hn hm]
      rfl
    rw [hgt]
    rfl
  · rw [compare_nan hm hn]
    rfl
  · rw [hm, hn] at h
    cases h

end Number

/-! ## §B — the order of keys -/

namespace Collation

instance : Std.TransCmp SortKey.compare where
  eq_swap {a b} := by
    cases a <;> cases b <;> simp only [SortKey.compare, Ordering.swap]
    · exact @Std.OrientedCmp.eq_swap _ Number.Key.compare _ _ _
    · exact Std.OrientedOrd.eq_swap
  isLE_trans {a b c} hab hbc := by
    cases a <;> cases b <;> cases c <;> simp only [SortKey.compare] at * <;>
      first
        | exact @Std.TransCmp.isLE_trans _ Number.Key.compare _ _ _ _ hab hbc
        | exact Std.TransOrd.isLE_trans hab hbc
        | simp_all

/-! ## §C — the order of values -/

theorem isNull_eq_false {v : Value} (h : v ≠ .null) : v.isNull = false := by
  cases v <;> first | rfl | exact absurd rfl h

theorem isNull_eq_false_of_number {v : Value} (h : v.number?.isSome = true) :
    v.isNull = false := by
  cases v <;> first | rfl | simp [Value.number?] at h

/-- The key of a value that is there. -/
theorem sortKey_of_ne_null (c : Collation) {v : Value} (hv : v ≠ .null) :
    c.sortKey v =
      match v.number? with
      | some n => .number n.key
      | none => .text (c.textKey v.orderPoints) := by
  cases v <;> first | rfl | exact absurd rfl hv

/-- NULL is below a value that is there. -/
theorem compare_null (c : Collation) {v : Value} (hv : v ≠ .null) : c.compare .null v = .lt := by
  simp only [compare, isNull_eq_false hv]
  rfl

theorem compare_null_right (c : Collation) {v : Value} (hv : v ≠ .null) :
    c.compare v .null = .gt := by
  simp only [compare, isNull_eq_false hv]
  rfl

/-- **Comparing values is comparing keys.** -/
theorem compare_eq_sortKey (c : Collation) (a b : Value) :
    c.compare a b = (c.sortKey a).compare (c.sortKey b) := by
  by_cases ha : a = .null
  · subst ha
    by_cases hb : b = .null
    · subst hb
      rfl
    · rw [compare_null c hb, sortKey_of_ne_null c hb]
      cases b.number? <;> rfl
  · by_cases hb : b = .null
    · subst hb
      rw [compare_null_right c ha, sortKey_of_ne_null c ha]
      cases a.number? <;> rfl
    · rw [sortKey_of_ne_null c ha, sortKey_of_ne_null c hb]
      simp only [compare, isNull_eq_false ha, isNull_eq_false hb]
      cases a.number? <;> cases b.number? <;> rfl

instance (c : Collation) : Std.TransCmp c.compare where
  eq_swap {a b} := by
    rw [compare_eq_sortKey, compare_eq_sortKey]
    exact @Std.OrientedCmp.eq_swap _ SortKey.compare _ _ _
  isLE_trans {a b d} hab hbd := by
    rw [compare_eq_sortKey] at *
    exact @Std.TransCmp.isLE_trans _ SortKey.compare _ _ _ _ hab hbd

/-- **An order of values** — a total preorder with NULL at its foot, then NaN, then the other
numbers in whatever kind they are written, and above them the texts and byte strings that write no
number. -/
structure IsValueOrder (cmp : Value → Value → Ordering) : Prop where
  refl (a : Value) : cmp a a = .eq
  swap (a b : Value) : cmp a b = (cmp b a).swap
  trans (a b d : Value) : cmp a b ≠ .gt → cmp b d ≠ .gt → cmp a d ≠ .gt
  null_lt (a : Value) : a ≠ .null → cmp .null a = .lt
  nan_lt (a b : Value) (m n : Number) :
    a.number? = some m → m.isNaN = true → b.number? = some n → n.isNaN = false → cmp a b = .lt
  number_lt (a b : Value) :
    a.number?.isSome = true → b.number? = none → b ≠ .null → cmp a b = .lt

/-- **Every collation orders all values.** -/
theorem compare_isValueOrder (c : Collation) : IsValueOrder c.compare where
  refl a := Std.ReflCmp.compare_self
  swap a b := Std.OrientedCmp.eq_swap
  trans a b d hab hbd := by
    simp only [← Ordering.isLE_iff_ne_gt] at *
    exact Std.TransCmp.isLE_trans hab hbd
  null_lt a ha := compare_null c ha
  nan_lt a b m n ha hm hb hn := by
    have ha0 : a.isNull = false := isNull_eq_false_of_number (by simp [ha])
    have hb0 : b.isNull = false := isNull_eq_false_of_number (by simp [hb])
    simp only [compare, ha0, hb0, ha, hb, Bool.false_eq_true, if_false]
    exact Number.compare_nan hm hn
  number_lt a b ha hb hb0 := by
    obtain ⟨m, hm⟩ := Option.isSome_iff_exists.mp ha
    simp only [compare, isNull_eq_false_of_number ha, isNull_eq_false hb0, hm, hb,
      Bool.false_eq_true, if_false]

end Collation
end TableQuery
