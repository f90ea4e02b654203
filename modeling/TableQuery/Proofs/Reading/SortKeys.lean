/-
# TableQuery.Proofs.Reading.SortKeys — sorting by keys is sorting by comparison.

A table that keeps its rows sorted gives each value a key once and compares keys; ORDER BY compares
the values themselves.  A key is written as nested pairs: the band of the value, and inside the band a
number, a text or a list of weights.  Reading two such keys from the left never comes to parts that
cannot be compared, and decides the pair as comparison does.  A list has one stable sorting under an
order, so both ways of sorting give the same list, ties included.

## §A — keys as nested pairs.
## §B — keys and comparison agree.
## §C — sorting by keys.
-/
import TableQuery.Proofs.Reading.Sorting
import TableQuery.Table.Kept

namespace TableQuery

/-! ## §A — keys as nested pairs -/

/-- A part of a key. -/
inductive KeyPart where
  | number (value : Number)
  | text (points : List Nat)
  | weights (elements : List Nat)
  | pair (first second : KeyPart)

namespace KeyPart

/-- The order of two parts, the first difference deciding; none when it comes to parts of different
kinds, or to NaN, which has no order. -/
def compare? : KeyPart → KeyPart → Option Ordering
  | number m, number n => if m.isNaN || n.isNaN then none else some (m.compare n)
  | text s, text t => some (Ord.compare s t)
  | weights s, weights t => some (Ord.compare s t)
  | pair a b, pair c d =>
    match a.compare? c with
    | some .eq => b.compare? d
    | o => o
  | _, _ => none

/-- A whole number as a part. -/
def whole (i : Int) : KeyPart := number (.int i)

end KeyPart

namespace Collation

/-- What a collation compares of a text, as a part of a key. -/
def textPart (c : Collation) (s : List Nat) : KeyPart :=
  match c with
  | .locale _ => .weights (c.textKey s)
  | c => .text (c.textKey s)

/-- The place of a number among the numbers, as a part of a key; NaN has a place of its own before all
others. -/
def numberPart (n : Number) : KeyPart :=
  if n.isNaN then .pair (.whole 0) (.whole 0) else .pair (.whole 1) (.number n)

/-- **The sort key of a value, written out** — the rank of its band, then its place in the band. -/
def keyPart (c : Collation) (v : Value) : KeyPart :=
  match v with
  | .null => .pair (.whole 0) (.whole 0)
  | v =>
    match v.number? with
    | some n => .pair (.whole 1) (numberPart n)
    | none => .pair (.whole 2) (c.textPart v.orderPoints)

end Collation

/-! ## §B — keys and comparison agree -/

namespace KeyPart

theorem compare?_whole (i j : Int) :
    (whole i).compare? (whole j) = some ((Number.int i).compare (.int j)) := rfl

theorem compare?_pair_of_eq {a c : KeyPart} (h : a.compare? c = some .eq) (b d : KeyPart) :
    (pair a b).compare? (pair c d) = b.compare? d := by
  rw [compare?, h]

end KeyPart

namespace Collation
open KeyPart

theorem compare?_textPart (c : Collation) (s t : List Nat) :
    (c.textPart s).compare? (c.textPart t) = some (Ord.compare (c.textKey s) (c.textKey t)) := by
  cases c <;> rfl

/-- The parts of two numbers compare as the numbers do: NaN never meets another number. -/
theorem compare?_numberPart (m n : Number) :
    (numberPart m).compare? (numberPart n) = some (m.compare n) := by
  unfold numberPart
  cases hm : m.isNaN <;> cases hn : n.isNaN
  case false.false =>
    have hnan : (m.isNaN || n.isNaN) = false := by rw [hm, hn]; rfl
    simp only [Bool.false_eq_true, if_false]
    rw [compare?_pair_of_eq (compare?_whole 1 1), compare?, hnan]
    rfl
  case false.true =>
    have hswap : m.compare n = (n.compare m).swap := Std.OrientedCmp.eq_swap
    rw [hswap, Number.compare_nan hn hm]
    rfl
  case true.false =>
    rw [Number.compare_nan hm hn]
    rfl
  case true.true =>
    rw [Number.compare_nan_nan hm hn]
    rfl

/-- The key of a value that is there, written out. -/
theorem keyPart_of_ne_null (c : Collation) {v : Value} (hv : v ≠ .null) :
    c.keyPart v =
      match v.number? with
      | some n => .pair (.whole 1) (numberPart n)
      | none => .pair (.whole 2) (c.textPart v.orderPoints) := by
  cases v <;> first | rfl | exact absurd rfl hv

/-- **Keys compare as values do**: no two of them come to parts that cannot be compared. -/
theorem compare?_keyPart (c : Collation) (a b : Value) :
    (c.keyPart a).compare? (c.keyPart b) = some (c.compare a b) := by
  by_cases ha : a = .null
  · subst ha
    by_cases hb : b = .null
    · subst hb
      rfl
    · rw [compare_null c hb, keyPart_of_ne_null c hb]
      cases b.number? <;> rfl
  · by_cases hb : b = .null
    · subst hb
      rw [compare_null_right c ha, keyPart_of_ne_null c ha]
      cases a.number? <;> rfl
    · rw [keyPart_of_ne_null c ha, keyPart_of_ne_null c hb]
      simp only [compare, isNull_eq_false ha, isNull_eq_false hb, Bool.false_eq_true, if_false]
      -- The ranks of the bands decide unless they agree.
      rcases a.number? with _ | m <;> rcases b.number? with _ | n
      case none.none =>
        rw [compare?_pair_of_eq (compare?_whole 2 2)]
        exact compare?_textPart c _ _
      case none.some => rfl
      case some.none => rfl
      case some.some =>
        rw [compare?_pair_of_eq (compare?_whole 1 1)]
        exact compare?_numberPart m n

end Collation

/-! ## §C — sorting by keys -/

section
variable (c : Collation) (desc : Bool)

/-- Whether a value may come before another one in a direction, by their keys. -/
def keyLE (a b : Value) : Bool := directed desc ((c.sortKey a).compare (c.sortKey b)) != .gt

/-- Whether a value may come before another one in a direction. -/
def valueLE (a b : Value) : Bool := c.compareDirected desc a b != .gt

theorem keyLE_eq_valueLE : keyLE c desc = valueLE c desc := by
  funext a b
  rw [keyLE, valueLE, Collation.compareDirected, Collation.compare_eq_sortKey]

theorem valueLE_iff {a b : Value} :
    valueLE c desc a b = true ↔ (c.compareDirected desc a b).isLE = true := by
  rw [valueLE, Ordering.isLE_iff_ne_gt, bne_iff_ne]

theorem valueLE_trans (a b d : Value) (hab : valueLE c desc a b = true)
    (hbd : valueLE c desc b d = true) : valueLE c desc a d = true := by
  rw [valueLE_iff] at *
  exact Std.TransCmp.isLE_trans hab hbd

theorem valueLE_total (a b : Value) : (valueLE c desc a b || valueLE c desc b a) = true := by
  have hswap : c.compareDirected desc b a = (c.compareDirected desc a b).swap :=
    Std.OrientedCmp.eq_swap
  rw [valueLE, valueLE, hswap]
  cases c.compareDirected desc a b <;> rfl

/-- The rows under one term are ordered as its values are. -/
theorem rowLE_singleton (key : SortTerm → Row → Value) (t : SortTerm) (a b : Row) :
    rowLE c key [t] a b = valueLE c t.desc (key t a) (key t b) := by
  rw [rowLE, valueLE, rowOrder, rowOrder, compareLex, termOrder]
  cases c.compareDirected t.desc (key t a) (key t b) <;> rfl

variable {c desc} in
/-- Exactly one list is a stable sorting, the one that merging gives. -/
theorem isStableSort_value_iff {α : Type} (value : α → Value) (items sorted : List α) :
    IsStableSort (fun a b => valueLE c desc (value a) (value b)) items sorted ↔
      sorted = items.mergeSort fun a b => valueLE c desc (value a) (value b) := by
  have trans := fun a b d : α => valueLE_trans c desc (value a) (value b) (value d)
  have total := fun a b : α => valueLE_total c desc (value a) (value b)
  constructor
  · exact fun hsorted => hsorted.unique trans total (isStableSort_mergeSort trans total items)
  · rintro rfl
    exact isStableSort_mergeSort trans total items

variable {desc} in
/-- A kept table sorts its rows by a column as ORDER BY does. -/
theorem Kept.sortRows_eq (column : String) {t : SortTerm} (ht : t.desc = desc) (rows : List Row) :
    Kept.sortRows c column desc rows =
      sortedRows c (fun _ r => r.columns.column column) [t] rows := by
  let keyed (r : Row) : Collation.SortKey × Row := (c.sortKey (r.columns.column column), r)
  have hle : ∀ a ∈ rows, ∀ b ∈ rows,
      rowLE c (fun _ r => r.columns.column column) [t] a b =
        if desc then (keyed b).1.compare (keyed a).1 != .gt
        else (keyed a).1.compare (keyed b).1 != .gt := by
    intro a _ b _
    rw [rowLE_singleton, ← keyLE_eq_valueLE, keyLE, ht]
    cases desc with
    | false => rfl
    | true =>
        have hswap : (keyed b).1.compare (keyed a).1 =
            ((keyed a).1.compare (keyed b).1).swap := Std.OrientedCmp.eq_swap
        rw [if_pos rfl, hswap]
        rfl
  rw [Kept.sortRows, sortedRows, ← List.map_mergeSort (f := keyed) hle, List.map_map]
  exact List.map_id _

/-- **Sort keys agree with comparison.**  Keys, read from the left, never come to parts that cannot be
compared, and they compare as their values do.  So in both directions a list of items, by whatever
values, has one stable sorting, the same by keys as by comparison; and a table that sorts its rows by
keys comes to the rows that ORDER BY comes to. -/
theorem sortKeys_agree :
    (∀ a b : Value, (c.keyPart a).compare? (c.keyPart b) = some (c.compare a b) ∧
      (c.sortKey a).compare (c.sortKey b) = c.compare a b) ∧
    (∀ {α : Type} (value : α → Value) (items : List α), ∃ sorted : List α, ∀ ys : List α,
      (IsStableSort (fun a b => keyLE c desc (value a) (value b)) items ys ↔ ys = sorted) ∧
      (IsStableSort (fun a b => valueLE c desc (value a) (value b)) items ys ↔ ys = sorted)) ∧
    ∀ (column : String) (place : Place) (rows : List Row),
      Kept.sortRows c column desc rows =
        Host.sortByKeys c [⟨.column column, desc, place⟩]
          (rows.map fun r => ([r.columns.column column], r)) := by
  refine ⟨fun a b => ⟨c.compare?_keyPart a b, (c.compare_eq_sortKey a b).symm⟩, ?_, ?_⟩
  · intro α value items
    refine ⟨_, fun ys => ⟨?_, isStableSort_value_iff value items ys⟩⟩
    rw [keyLE_eq_valueLE]
    exact isStableSort_value_iff value items ys
  · intro column place rows
    rw [Kept.sortRows_eq c column (t := ⟨.column column, desc, place⟩) rfl]
    exact (sortByKeys_eq c (fun _ r => r.columns.column column) [⟨.column column, desc, place⟩]
      rows).symm

end
end TableQuery
