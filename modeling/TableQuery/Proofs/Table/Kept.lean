/-
# TableQuery.Proofs.Table.Kept — changes of a kept table touch the rows they are about.

A kept table is addressed by the identity of rows.  As long as no two rows share an identity
(`Kept.Valid`), changing or deleting the rows of some of them is a single pass over the table: each
row that is meant is changed or goes, every other row stays as it is, and the order of the rows is
kept.  The changes themselves write some columns of a row and leave the others.

## §A — identity.
## §B — columns that are written.
## §C — valid tables.
## §D — changes by identity.
## §E — readings.
## §F — new rows.
## §G — tables of some rows.
-/
import Mathlib.Data.List.FinRange
import Mathlib.Data.List.Pairwise
import Mathlib.Data.List.Perm.Subperm
import TableQuery.Proofs.Table.Yield
import TableQuery.Proofs.ValueOrder

namespace TableQuery

/-! ## §A — identity -/

theorem Value.same_comm (v w : Value) : v.same w = w.same v := by
  cases v <;> cases w <;> first
    | exact Bool.beq_comm
    | rfl
    | exact Number.equal_comm _ _

/-- Numbers that compare as one whole number are that number. -/
theorem Number.eq_of_compare_int {i j : Int} (h : (Number.int i).compare (.int j) = .eq) : i = j := by
  rcases lt_trichotomy i j with hlt | heq | hgt
  · simp [Number.compare, Number.key, Number.Key.compare, Rat.intCast_lt_intCast.mpr hlt] at h
  · exact heq
  · have hnot := lt_asymm (Rat.intCast_lt_intCast.mpr hgt)
    simp [Number.compare, Number.key, Number.Key.compare, Rat.intCast_lt_intCast.mpr hgt, hnot] at h

/-- A value that is the identity of a whole number counts as that number. -/
theorem Value.number_of_same_int {v : Value} {i : Int} (h : v.same (.int i) = true) :
    ∃ n, v.plainNumber? = some n ∧ n.compare (.int i) = .eq := by
  have hequal (n : Number) (hn : n.equal (.int i) = true) : n.compare (.int i) = .eq := by
    simp only [Number.equal, Bool.and_eq_true, beq_iff_eq] at hn
    exact hn.2
  cases v with
  | int j =>
    obtain rfl : j = i := by simpa [Value.same] using h
    exact ⟨.int j, rfl, Std.ReflCmp.compare_self⟩
  | bool b => exact ⟨.ofBool b, rfl, hequal _ h⟩
  | float x => exact ⟨.float x, rfl, hequal _ h⟩
  | null => cases h
  | text s => cases h
  | blob s => cases h
  | list l => cases h
  | record l => cases h

theorem Value.int_unique {v : Value} {i j : Int} (hi : v.same (.int i) = true)
    (hj : v.same (.int j) = true) : i = j := by
  obtain ⟨m, hm, hmi⟩ := number_of_same_int hi
  obtain ⟨n, hn, hnj⟩ := number_of_same_int hj
  obtain rfl := Option.some.inj (hm.symm.trans hn)
  exact Number.eq_of_compare_int (Std.TransCmp.eq_trans (Std.OrientedCmp.eq_symm hmi) hnj)

/-! ## §B — columns that are written -/

namespace Record

/-- The value that some pairs give a key: the last one under it. -/
def last? (pairs : List (Key × Value)) (key : Key) : Option Value := get? pairs.reverse key

theorem get?_append (r s : Record) (key : Key) : get? (r ++ s) key = (get? r key).or (get? s key) := by
  unfold get?
  rw [List.find?_append]
  cases r.find? (·.1 == key) <;> rfl

theorem last?_cons (key k : Key) (v : Value) (pairs : List (Key × Value)) :
    last? ((k, v) :: pairs) key = (last? pairs key).or (if k = key then some v else none) := by
  rw [last?, List.reverse_cons, get?_append]
  by_cases h : k = key <;> simp [last?, get?, h]

/-- **Writing pairs into a row** gives each key the last value under it and leaves the others. -/
theorem get?_update (r : Record) (pairs : List (Key × Value)) (key : Key) :
    (r.update pairs).get? key = (last? pairs key).or (r.get? key) := by
  induction pairs generalizing r with
  | nil => rfl
  | cons pair pairs ih =>
      obtain ⟨k, v⟩ := pair
      have hstep : r.update ((k, v) :: pairs) = (r.set k v).update pairs := rfl
      rw [hstep, ih, get?_set, last?_cons, Option.or_assoc]
      by_cases h : k = key <;> simp [h]

/-- The record of some pairs has the last value under each key. -/
theorem get?_ofPairs (pairs : List (Key × Value)) (key : Key) :
    (ofPairs pairs).get? key = last? pairs key := by
  rw [ofPairs, get?_update]
  cases last? pairs key <;> rfl

/-- Writing a row twice under no key keeps it that way. -/
theorem nodup_update {r : Record} (h : (r.map (·.1)).Nodup) (pairs : List (Key × Value)) :
    ((r.update pairs).map (·.1)).Nodup := by
  induction pairs generalizing r with
  | nil => exact h
  | cons pair pairs ih =>
      refine ih ?_
      rw [keys_set]
      split
      · exact h
      · rename_i hhas
        refine List.nodup_append.mpr ⟨h, by simp, ?_⟩
        rintro k hk _ hmem rfl
        obtain rfl := List.mem_singleton.mp hmem
        obtain ⟨entry, hentry, hkey⟩ := List.mem_map.mp hk
        exact hhas (List.any_eq_true.mpr ⟨entry, hentry, beq_iff_eq.mpr hkey⟩)

theorem last?_of_nodup {pairs : Record} (h : (pairs.map (·.1)).Nodup) (key : Key) :
    last? pairs key = get? pairs key := by
  induction pairs with
  | nil => rfl
  | cons pair pairs ih =>
      obtain ⟨k, v⟩ := pair
      rw [List.map_cons, List.nodup_cons] at h
      rw [last?_cons, ih h.2]
      by_cases hk : k = key
      · subst hk
        rw [show get? ((k, v) :: pairs) k = some v by simp [get?]]
        have hnone : get? pairs k = none := by
          rw [get?, Option.map_eq_none_iff, List.find?_eq_none]
          intro entry hentry hkey
          exact h.1 (List.mem_map.mpr ⟨entry, hentry, beq_iff_eq.mp hkey⟩)
        rw [hnone, if_pos rfl]
        rfl
      · simp [get?, hk]

/-- **Assignments** — a row into which the record of some assignments is written has the last value
of each column that is assigned, and its own value of every other one. -/
theorem get?_update_ofPairs (r : Record) (pairs : List (Key × Value)) (key : Key) :
    (r.update (ofPairs pairs)).get? key = (last? pairs key).or (r.get? key) := by
  have hnodup : ((ofPairs pairs).map (·.1)).Nodup := nodup_update (r := []) List.nodup_nil pairs
  rw [get?_update, last?_of_nodup hnodup, get?_ofPairs]

end Record

/-! ## §C — valid tables -/

namespace Kept

/-- **A valid table** — every row has an identity, and no two rows share one. -/
structure Valid (k : Kept) : Prop where
  identity : ∀ r ∈ k.rows, r.id.isIdentity = true
  itself : ∀ r ∈ k.rows, r.id.same r.id = true
  distinct : k.rows.Pairwise fun a b => a.id.same b.id = false

section
variable {k : Kept}

/-- In a valid table identity tells rows apart. -/
theorem Valid.same_iff (h : k.Valid) {r q : Row} (hr : r ∈ k.rows) (hq : q ∈ k.rows) :
    r.id.same q.id = true ↔ r = q := by
  constructor
  · intro hsame
    by_contra hne
    have hsymm : Std.Symm fun a b : Row => a.id.same b.id = false :=
      ⟨fun a b hab => (Value.same_comm b.id a.id).trans hab⟩
    have hforall := h.distinct.forall hr hq hne
    rw [hsame] at hforall
    cases hforall
  · rintro rfl
    exact h.itself r hr

theorem Valid.nodup (h : k.Valid) : k.rows.Nodup := by
  refine h.distinct.imp_of_mem fun {a b} ha _ hab => ?_
  rintro rfl
  rw [h.itself a ha] at hab
  cases hab

/-- Whether an identity is that of one of some rows. -/
def among (rows : List Row) (r : Row) : Bool := rows.any fun q => r.id.same q.id

theorem Valid.among_iff (h : k.Valid) {rows : List Row} (hsub : rows ⊆ k.rows) {r : Row}
    (hr : r ∈ k.rows) : among rows r = true ↔ r ∈ rows := by
  rw [among, List.any_eq_true]
  constructor
  · rintro ⟨q, hq, hsame⟩
    rwa [(h.same_iff hr (hsub hq)).mp hsame]
  · intro hmem
    exact ⟨r, hmem, h.itself r hr⟩

/-! ## §D — changes by identity -/

theorem has_of_mem (h : k.Valid) {q : Row} (hq : q ∈ k.rows) : k.has q.id = true :=
  List.any_eq_true.mpr ⟨q, hq, h.itself q hq⟩

/-- A row with some changes. -/
def changed (changes : Record) (r : Row) : Row := { r with columns := r.columns.update changes }

/-- Changing columns leaves the identities alone. -/
theorem Valid.change (h : k.Valid) (changes : Record) (id : Value) : (k.change changes id).Valid := by
  have hid : ∀ r : Row, (if r.id.same id then changed changes r else r).id = r.id := by
    intro r
    split <;> rfl
  refine ⟨?_, ?_, ?_⟩
  · intro r hr
    obtain ⟨q, hq, rfl⟩ := List.mem_map.mp hr
    exact (congrArg Value.isIdentity (hid q)).trans (h.identity q hq)
  · intro r hr
    obtain ⟨q, hq, rfl⟩ := List.mem_map.mp hr
    have hitself := h.itself q hq
    rw [← hid q] at hitself
    exact hitself
  · refine List.pairwise_map.mpr (h.distinct.imp fun {a b} hab => ?_)
    rw [← hid a, ← hid b] at hab
    exact hab

/-- A change of some rows keeps the table valid, and its declared order. -/
theorem Valid.updated (h : k.Valid) (ids : List Value) (changes : Record) :
    (k.update ids changes).1.Valid ∧ (k.update ids changes).1.sortedBy = k.sortedBy := by
  suffices hfold : ∀ n, (ids.foldl (fun p id =>
      (p.1.change changes id, if p.1.has id then p.2 + 1 else p.2)) (k, n)).1.Valid ∧
        (ids.foldl (fun p id =>
          (p.1.change changes id, if p.1.has id then p.2 + 1 else p.2)) (k, n)).1.sortedBy =
            k.sortedBy from hfold 0
  intro n
  induction ids generalizing k n with
  | nil => exact ⟨h, rfl⟩
  | cons id ids ih => exact ih (h.change changes id) _

theorem Valid.remove (h : k.Valid) (id : Value) : (k.remove id).Valid where
  identity r hr := h.identity r (List.mem_filter.mp hr).1
  itself r hr := h.itself r (List.mem_filter.mp hr).1
  distinct := h.distinct.filter _

/-- The rest of some rows are other rows than the first. -/
theorem Valid.same_head (h : k.Valid) {q : Row} {rows : List Row} (hsub : q :: rows ⊆ k.rows)
    (hnodup : (q :: rows).Nodup) {r : Row} (hr : r ∈ rows) : r.id.same q.id = false := by
  rw [← Bool.not_eq_true, h.same_iff (hsub (List.mem_cons_of_mem q hr)) (hsub List.mem_cons_self)]
  rintro rfl
  exact (List.nodup_cons.mp hnodup).1 hr

/-- **Changing some rows** of a valid table is one pass over it, and counts the rows. -/
theorem Valid.update (h : k.Valid) {rows : List Row} (hsub : rows ⊆ k.rows) (hnodup : rows.Nodup)
    (changes : Record) :
    (k.update (rows.map (·.id)) changes).1.rows =
        k.rows.map (fun r => if among rows r then changed changes r else r) ∧
      (k.update (rows.map (·.id)) changes).2 = rows.length := by
  -- The count is an accumulator, so it is general in the induction.
  suffices hfold : ∀ n, (rows.map (·.id)).foldl (fun p id =>
      (p.1.change changes id, if p.1.has id then p.2 + 1 else p.2)) (k, n) =
        ({ k with rows := k.rows.map fun r => if among rows r then changed changes r else r },
          n + rows.length) by
    have hupdate : k.update (rows.map (·.id)) changes = _ := hfold 0
    rw [hupdate]
    exact ⟨rfl, Nat.zero_add _⟩
  intro n
  induction rows generalizing k n with
  | nil =>
      have hid : k.rows.map (fun r => if among [] r then changed changes r else r) = k.rows :=
        (List.map_congr_left fun _ _ => rfl).trans (List.map_id _)
      rw [hid]
      rfl
  | cons q rows ih =>
      have hq : q ∈ k.rows := hsub List.mem_cons_self
      have hrest : rows ⊆ (k.change changes q.id).rows := by
        intro r hr
        refine List.mem_map.mpr ⟨r, hsub (List.mem_cons_of_mem q hr), ?_⟩
        rw [h.same_head hsub hnodup hr]
        rfl
      rw [List.map_cons, List.foldl_cons]
      dsimp only
      rw [if_pos (has_of_mem h hq), ih (h.change changes q.id) hrest (List.nodup_cons.mp hnodup).2]
      -- One pass over the changed table is one pass over the old one: `q` is changed by the first
      -- change alone, for it is not among the rest, and every other row by the rest alone.
      have hpass : (k.change changes q.id).rows.map
            (fun r => if among rows r then changed changes r else r) =
          k.rows.map (fun r => if among (q :: rows) r then changed changes r else r) := by
        rw [Kept.change, List.map_map]
        refine List.map_congr_left fun r hr => ?_
        have hcons : among (q :: rows) r = (r.id.same q.id || among rows r) := rfl
        rcases hsame : r.id.same q.id with _ | _
        · rw [hcons, hsame, Bool.false_or, Function.comp_apply, hsame]
          rfl
        · obtain rfl : r = q := (h.same_iff hr hq).mp hsame
          have hnot : among rows r = false := by
            rw [← Bool.not_eq_true, h.among_iff (fun d hd => hsub (List.mem_cons_of_mem r hd)) hr]
            exact (List.nodup_cons.mp hnodup).1
          have hchanged : among rows (changed changes r) = false := hnot
          rw [hcons, hsame, Function.comp_apply, hsame, if_pos rfl]
          show (if among rows (changed changes r) then _ else changed changes r) = _
          rw [hchanged]
          rfl
      rw [hpass, List.length_cons, Nat.add_right_comm, Nat.add_assoc]
      rfl

/-- **Deleting some rows** of a valid table leaves the others in their order, and counts the
rows. -/
theorem Valid.delete (h : k.Valid) {rows : List Row} (hsub : rows ⊆ k.rows) (hnodup : rows.Nodup) :
    (k.delete (rows.map (·.id))).1.rows = k.rows.filter (fun r => !among rows r) ∧
      (k.delete (rows.map (·.id))).2 = rows.length := by
  suffices hfold : ∀ n, ((rows.map (·.id)).foldl (fun p id =>
        (p.1.remove id, if p.1.has id then p.2 + 1 else p.2)) (k, n)).1.rows =
          k.rows.filter (fun r => !among rows r) ∧
      ((rows.map (·.id)).foldl (fun p id =>
        (p.1.remove id, if p.1.has id then p.2 + 1 else p.2)) (k, n)).2 = n + rows.length by
    obtain ⟨hrows, hcount⟩ := hfold 0
    exact ⟨hrows, hcount.trans (Nat.zero_add _)⟩
  -- The rows go one by one, and the count grows with each; removing one leaves the others where they
  -- are.
  intro n
  induction rows generalizing k n with
  | nil =>
      have hall : k.rows.filter (fun r => !among [] r) = k.rows :=
        List.filter_eq_self.mpr fun _ _ => rfl
      exact ⟨hall.symm, rfl⟩
  | cons q rows ih =>
      have hq : q ∈ k.rows := hsub List.mem_cons_self
      have hrest : rows ⊆ (k.remove q.id).rows := by
        intro r hr
        refine List.mem_filter.mpr ⟨hsub (List.mem_cons_of_mem q hr), ?_⟩
        rw [h.same_head hsub hnodup hr]
        rfl
      obtain ⟨hrows, hcount⟩ :=
        ih (h.remove q.id) hrest (List.nodup_cons.mp hnodup).2 (n + 1)
      rw [List.map_cons, List.foldl_cons]
      dsimp only
      rw [if_pos (has_of_mem h hq), hrows, hcount, Kept.remove, List.filter_filter,
        List.length_cons]
      refine ⟨List.filter_congr fun r _ => ?_, by omega⟩
      show (!among rows r && !r.id.same q.id) = !(r.id.same q.id || among rows r)
      rw [Bool.not_or, Bool.and_comm]

/-! ## §E — readings -/

/-- A row that is still there is read as it is. -/
theorem Valid.current (h : k.Valid) {r : Row} (hr : r ∈ k.rows) : k.current r = r := by
  have hfind : find? k.rows r.id = some r := by
    rcases hq : find? k.rows r.id with _ | q
    · exact absurd (h.itself r hr) (List.find?_eq_none.mp hq r hr)
    · have hsame : q.id.same r.id = true := List.find?_some (p := fun d : Row => d.id.same r.id) hq
      rw [(h.same_iff (List.mem_of_find?_eq_some hq) hr).mp hsame]
  rw [Kept.current, hfind]
  rfl

/-- The order in which rows are read is an order of all rows. -/
theorem ordered_perm (k : Kept) (c : Collation) : (k.ordered c).Perm k.rows := by
  unfold ordered
  split
  · rename_i column _
    have hperm : ∀ le, (((k.rows.map fun r =>
        (c.sortKey (r.columns.column column), r)).mergeSort le).map Prod.snd).Perm k.rows := by
      intro le
      have hid : (k.rows.map fun r =>
          (c.sortKey (r.columns.column column), r)).map Prod.snd = k.rows := by
        rw [List.map_map]
        exact List.map_id _
      exact ((List.mergeSort_perm _ le).map Prod.snd).trans (.of_eq hid)
    exact hperm _
  · exact .refl _

/-- A reading whose rows are still there comes to its claim, if it makes one, and to all its rows. -/
theorem yields_of_current (hcurrent : ∀ r ∈ k.rows, k.current r = r) {t : Table}
    (ht : t.content = .kept k) (c : Collation) :
    t.Yields (.unread c) (((k.claim? c).map Item.claim).toList ++ (k.ordered c).map .row) := by
  have hrows : ∀ rows : List Row, rows ⊆ k.rows → t.Yields (.rows rows) (rows.map .row) := by
    intro rows hsub
    induction rows with
    | nil => exact .done rfl
    | cons r rows ih =>
        have hpull : t.pull (.rows (r :: rows)) = ⟨.ok (some (.row r)), .rows rows, t, none⟩ := by
          simp only [Table.pull, Table.pullRow, ht, hcurrent r (hsub List.mem_cons_self)]
        refine .item (i := .row r) ?_ ?_
        · rw [hpull]
        · rw [hpull]
          exact ih fun q hq => hsub (List.mem_cons_of_mem r hq)
  -- Without a claim the first pull gives the first row; with one it gives the claim, and the rows
  -- come after it.
  have hsub : k.ordered c ⊆ k.rows := (ordered_perm k c).subset
  rcases hclaim : k.claim? c with _ | claim
  · refine (hrows _ hsub).of_pull_eq ?_
    simp only [Table.pull, ht, hclaim]
  · have hpull : t.pull (.unread c) = ⟨.ok (some (.claim claim)), .rows (k.ordered c), t, none⟩ := by
      simp only [Table.pull, ht, hclaim]
    refine .item (i := .claim claim) ?_ ?_
    · rw [hpull]
    · rw [hpull]
      exact hrows _ hsub

theorem items_of_current (hcurrent : ∀ r ∈ k.rows, k.current r = r) {t : Table}
    (ht : t.content = .kept k) (c : Collation) (s : Select) :
    (t.items c s).1 =
      .ok (((k.claim? c).map Item.claim).toList ++ (k.ordered c).map .row) := by
  have hread : (t.read c s).1 = .ok (.unread c) := by
    rw [Table.read, ht]
  have hpatience : t.patience = k.rows.length + k.removed.length + 1 + 0x10000000000000000 := by
    rw [Table.patience, Table.size, ht]
  have hclaim : (((k.claim? c).map Item.claim).toList).length ≤ 1 := by
    cases k.claim? c <;> simp
  refine Table.items_eq_ok_iff.mpr ⟨_, hread, yields_of_current hcurrent ht c, ?_⟩
  rw [hpatience, List.length_append, List.length_map, (ordered_perm k c).length_eq]
  omega

/-- **A reading of a valid table** comes to its claim, if it makes one, and to all its rows. -/
theorem Valid.items (h : k.Valid) {t : Table} (ht : t.content = .kept k) (c : Collation)
    (s : Select) : (t.items c s).1 =
      .ok (((k.claim? c).map Item.claim).toList ++ (k.ordered c).map .row) :=
  items_of_current (fun _ hr => h.current hr) ht c s

/-- The rows are distinct in whichever order they are read. -/
theorem Valid.distinct_ordered (h : k.Valid) (c : Collation) :
    (k.ordered c).Pairwise fun a b => a.id.same b.id = false :=
  (ordered_perm k c).symm.pairwise h.distinct fun {a b} hab => (Value.same_comm b.id a.id).trans hab

end

/-! ## §F — new rows -/

/-- The number that is tried is free, unless all that were tried are taken. -/
theorem freshId_spec (k : Kept) (count : Nat) (n : Int) :
    k.has (.int (k.freshId count n)) = false ∨
      k.freshId count n = n + count ∧ ∀ i : Nat, i < count → k.has (.int (n + i)) = true := by
  induction count generalizing n with
  | zero => exact .inr ⟨(Int.add_zero n).symm, nofun⟩
  | succ count ih =>
    rw [freshId]
    split
    · rename_i htaken
      rcases ih (n + 1) with hfree | ⟨hlast, hall⟩
      · exact .inl hfree
      · refine .inr ⟨by rw [hlast]; push_cast; omega, fun i hi => ?_⟩
        cases i with
        | zero => simpa using htaken
        | succ i =>
          have hnext := hall i (by omega)
          rwa [show n + ((i + 1 : Nat) : Int) = n + 1 + i by push_cast; omega]
    · rename_i hfree
      exact .inl (Bool.eq_false_iff.mpr hfree)

/-- **A new row gets a number that no row has.** -/
theorem has_freshId (k : Kept) (n : Int) : k.has (.int (k.freshId k.rows.length n)) = false := by
  rcases freshId_spec k k.rows.length n with hfree | ⟨hlast, hall⟩
  · exact hfree
  · by_contra htaken
    rw [Bool.not_eq_false, hlast] at htaken
    -- Then each of more numbers than there are rows is the identity of a row, and no two of one row.
    have hrow (i : Fin (k.rows.length + 1)) :
        ∃ r ∈ k.rows, r.id.same (.int (n + (i : Nat))) = true := by
      rcases Nat.lt_succ_iff_lt_or_eq.mp i.isLt with hi | hi
      · exact List.any_eq_true.mp (hall i hi)
      · rw [hi]
        exact List.any_eq_true.mp htaken
    choose row hmem hsame using hrow
    have hinjective : Function.Injective row := by
      intro i j hij
      have hnumber := Value.int_unique (hsame i) (hij ▸ hsame j)
      exact Fin.ext (by omega)
    have hsub : (List.finRange (k.rows.length + 1)).map row ⊆ k.rows := by
      intro r hr
      obtain ⟨i, -, rfl⟩ := List.mem_map.mp hr
      exact hmem i
    have hlength := (List.subperm_of_subset ((List.nodup_finRange _).map hinjective) hsub).length_le
    simp only [List.length_map, List.length_finRange] at hlength
    omega

theorem Valid.insert {k : Kept} (h : k.Valid) (columns : Record) : (k.insert columns).1.Valid := by
  have hfree : ∀ r ∈ k.rows, r.id.same (.int (k.insert columns).2) = false := by
    intro r hr
    exact Bool.eq_false_iff.mpr (List.any_eq_false.mp (has_freshId k k.nextId) r hr)
  refine ⟨?_, ?_, ?_⟩
  · rw [rows_insert]
    intro r hr
    rcases List.mem_append.mp hr with hr | hr
    · exact h.identity r hr
    · obtain rfl := List.mem_singleton.mp hr
      rfl
  · rw [rows_insert]
    intro r hr
    rcases List.mem_append.mp hr with hr | hr
    · exact h.itself r hr
    · obtain rfl := List.mem_singleton.mp hr
      simp [Value.same]
  · rw [rows_insert]
    refine List.pairwise_append.mpr ⟨h.distinct, List.pairwise_singleton .., fun r hr q hq => ?_⟩
    obtain rfl := List.mem_singleton.mp hq
    exact hfree r hr

/-! ## §G — tables of some rows -/

theorem distinct_put {rows : List Row} (h : rows.Pairwise fun a b => a.id.same b.id = false)
    (id : Value) (columns : Record) :
    (put rows id columns).Pairwise fun a b => a.id.same b.id = false := by
  unfold put
  split
  · have hid : ∀ r : Row, (if r.id.same id then { r with columns } else r).id = r.id := by
      intro r
      split <;> rfl
    refine List.pairwise_map.mpr (h.imp fun {a b} hab => ?_)
    rw [← hid a, ← hid b] at hab
    exact hab
  · rename_i hany
    refine List.pairwise_append.mpr ⟨h, List.pairwise_singleton .., fun r hr q hq => ?_⟩
    obtain rfl := List.mem_singleton.mp hq
    exact Bool.eq_false_iff.mpr fun hsame => hany (List.any_eq_true.mpr ⟨r, hr, hsame⟩)

theorem identity_put {rows : List Row} (h : ∀ r ∈ rows, r.id.isIdentity = true) {id : Value}
    (hid : id.isIdentity = true) (columns : Record) :
    ∀ r ∈ put rows id columns, r.id.isIdentity = true := by
  unfold put
  split
  · intro r hr
    obtain ⟨q, hq, rfl⟩ := List.mem_map.mp hr
    have hkept : (if q.id.same id then { q with columns } else q).id = q.id := by
      split <;> rfl
    rw [hkept]
    exact h q hq
  · intro r hr
    rcases List.mem_append.mp hr with hr | hr
    · exact h r hr
    · obtain rfl := List.mem_singleton.mp hr
      exact hid

section
variable (rows : List Row) (sortedBy : Option String) (desc : Bool)

/-- **The rows of a table** are told apart by their ids, whichever rows it is made of. -/
theorem distinct_ofRows :
    (ofRows rows sortedBy desc).rows.Pairwise fun a b => a.id.same b.id = false := by
  have hfold : ∀ start : List Row, (start.Pairwise fun a b => a.id.same b.id = false) →
      (rows.foldl (fun rows r => put rows r.id r.columns) start).Pairwise
        fun a b => a.id.same b.id = false := by
    induction rows with
    | nil => exact fun _ h => h
    | cons r rows ih => exact fun start h => ih _ (distinct_put h r.id r.columns)
  exact hfold [] .nil

theorem identity_ofRows (h : ∀ r ∈ rows, r.id.isIdentity = true) :
    ∀ r ∈ (ofRows rows sortedBy desc).rows, r.id.isIdentity = true := by
  have hfold : ∀ start : List Row, (∀ r ∈ start, r.id.isIdentity = true) →
      ∀ r ∈ rows.foldl (fun rows r => put rows r.id r.columns) start, r.id.isIdentity = true := by
    induction rows with
    | nil => exact fun _ h => h
    | cons r rows ih =>
        exact fun start hstart => ih (fun q hq => h q (List.mem_cons_of_mem r hq)) _
          (identity_put hstart (h r List.mem_cons_self) r.columns)
  exact hfold [] fun _ hr => absurd hr List.not_mem_nil

theorem current_ofRows : ∀ r ∈ (ofRows rows sortedBy desc).rows,
    (ofRows rows sortedBy desc).current r = r := by
  intro r hr
  rcases hq : find? (ofRows rows sortedBy desc).rows r.id with _ | q
  · rw [Kept.current, hq]
    rfl
  · have hsame : q.id.same r.id = true := List.find?_some (p := fun d : Row => d.id.same r.id) hq
    have hsymm : Std.Symm fun a b : Row => a.id.same b.id = false :=
      ⟨fun a b hab => (Value.same_comm b.id a.id).trans hab⟩
    have heq : q = r := by
      by_contra hne
      have hother := (distinct_ofRows rows sortedBy desc).forall (List.mem_of_find?_eq_some hq) hr hne
      rw [hsame] at hother
      cases hother
    rw [Kept.current, hq, heq]
    rfl

end
end Kept
end TableQuery
