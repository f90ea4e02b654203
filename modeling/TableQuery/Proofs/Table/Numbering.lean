/-
# TableQuery.Proofs.Table.Numbering — the numbers of new rows are never used again.

A kept table counts on from the greatest whole number among its ids, and steps over numbers that are
taken.  Its counter is what the whole history of the table leaves behind: an edit never lowers it,
and every id that an edit brings in is a number below it.  So the counter stands above every whole
number that a row has or ever had, and a new row is told apart from all rows before it.

## §A — whole numbers as ids.
## §B — where the search for a number ends.
## §C — one edit.
## §D — any number of edits.
-/
import TableQuery.Proofs.Table.Kept

namespace TableQuery

/-! ## §A — whole numbers as ids -/

/-- A value that is the identity of a whole number is that number by kind, or a float. -/
theorem Kept.wholeId?_of_same_int {v : Value} {i : Int} (h : v.same (.int i) = true)
    (hfloat : ∀ x, v ≠ .float x) : Kept.wholeId? v = some i := by
  obtain ⟨n, hn, hcompare⟩ := Value.number_of_same_int h
  cases v with
  | int j =>
    obtain rfl := Option.some.inj hn
    exact congrArg some (Number.eq_of_compare_int hcompare)
  | bool b =>
    obtain rfl := Option.some.inj hn
    exact congrArg some (Number.eq_of_compare_int hcompare)
  | float x => exact absurd rfl (hfloat x)
  | null | text _ | blob _ | list _ | record _ => cases hn

namespace Kept

/-- Every whole number among the ids of some rows is below a number. -/
def Below (rows : List Row) (n : Int) : Prop := ∀ r ∈ rows, ∀ i, wholeId? r.id = some i → i < n

/-- The number after the greatest whole number is above all of them. -/
theorem below_numberAfter (rows : List Row) : Below rows (numberAfter rows) := by
  intro r hr i hi
  have hmem : i ∈ rows.filterMap (wholeId? ·.id) := List.mem_filterMap.mpr ⟨r, hr, hi⟩
  unfold numberAfter
  split
  · rename_i n hmax
    exact Int.lt_add_one_of_le ((List.max?_eq_some_iff.mp hmax).2 i hmem)
  · rename_i hmax
    rw [List.max?_eq_none_iff.mp hmax] at hmem
    cases hmem

/-- No row whose id is a text or a whole number has a number that all whole numbers are below. -/
theorem Below.unused {rows : List Row} {n id : Int} (h : Below rows n) (hle : n ≤ id) :
    ∀ r ∈ rows, (∀ x, r.id ≠ .float x) → r.id.same (.int id) = false := by
  intro r hr hfloat
  by_contra hsame
  have hlt := h r hr id (wholeId?_of_same_int (Bool.not_eq_false _ ▸ hsame) hfloat)
  exact absurd hle (not_le.mpr hlt)

/-! ## §B — where the search for a number ends -/

/-- The search goes from `n` on through numbers that are taken, over at most `count` of them. -/
theorem freshId_range (k : Kept) (count : Nat) (n : Int) :
    n ≤ k.freshId count n ∧ k.freshId count n ≤ n + count ∧
      ∀ i, n ≤ i → i < k.freshId count n → k.has (.int i) = true := by
  induction count generalizing n with
  | zero =>
    refine ⟨le_refl n, by simp [freshId], fun i hle hlt => ?_⟩
    exact absurd hlt (not_lt.mpr hle)
  | succ count ih =>
    rw [freshId]
    split
    · rename_i htaken
      obtain ⟨hfrom, hto, hbetween⟩ := ih (n + 1)
      refine ⟨by omega, by push_cast; omega, fun i hle hlt => ?_⟩
      rcases hle.eq_or_lt with rfl | hgt
      · exact htaken
      · exact hbetween i hgt hlt
    · exact ⟨le_refl n, by omega, fun i hle hlt => absurd hlt (not_lt.mpr hle)⟩

/-- **The number of a new row** — the first one from the counter on that no row has. -/
structure IsNext (k : Kept) (id : Int) : Prop where
  fromCounter : k.nextId ≤ id
  /-- At most as many numbers are tried before it as there are rows. -/
  within : id ≤ k.nextId + k.rows.length
  free : k.has (.int id) = false
  taken : ∀ i, k.nextId ≤ i → i < id → k.has (.int i) = true

theorem isNext_insert (k : Kept) (columns : Record) : k.IsNext (k.insert columns).2 := by
  obtain ⟨hfrom, hto, hbetween⟩ := freshId_range k k.rows.length k.nextId
  exact ⟨hfrom, hto, has_freshId k k.nextId, hbetween⟩

/-! ## §C — one edit -/

/-- **Going on** — the counter is not lowered, and every id is an old one or a number below the
counter. -/
structure GoesOn (k k' : Kept) : Prop where
  counter : k.nextId ≤ k'.nextId
  ids : ∀ r ∈ k'.rows, (∃ q ∈ k.rows, q.id = r.id) ∨ ∃ i, r.id = .int i ∧ i < k'.nextId

theorem GoesOn.refl (k : Kept) : k.GoesOn k := ⟨le_refl _, fun r hr => .inl ⟨r, hr, rfl⟩⟩

theorem GoesOn.trans {k k' k'' : Kept} (h : k.GoesOn k') (h' : k'.GoesOn k'') : k.GoesOn k'' := by
  refine ⟨h.counter.trans h'.counter, fun r hr => ?_⟩
  rcases h'.ids r hr with ⟨q, hq, hid⟩ | hnew
  · rcases h.ids q hq with ⟨p, hp, hpid⟩ | ⟨i, hi, hlt⟩
    · exact .inl ⟨p, hp, hpid.trans hid⟩
    · exact .inr ⟨i, hid ▸ hi, hlt.trans_le h'.counter⟩
  · exact .inr hnew

/-- What the counter stands above it stands above afterwards. -/
theorem GoesOn.below {k k' : Kept} (h : k.GoesOn k') (hbelow : Below k.rows k.nextId) :
    Below k'.rows k'.nextId := by
  intro r hr i hi
  rcases h.ids r hr with ⟨q, hq, hid⟩ | ⟨j, hj, hlt⟩
  · exact (hbelow q hq i (hid ▸ hi)).trans_le h.counter
  · rw [hj] at hi
    obtain rfl := Option.some.inj hi
    exact hlt

theorem goesOn_insert (k : Kept) (columns : Record) : k.GoesOn (k.insert columns).1 := by
  have hnext : (k.insert columns).1.nextId = (k.insert columns).2 + 1 := rfl
  refine ⟨?_, fun r hr => ?_⟩
  · exact (isNext_insert k columns).fromCounter.trans (by rw [hnext]; omega)
  · rw [rows_insert] at hr
    rcases List.mem_append.mp hr with hr | hr
    · exact .inl ⟨r, hr, rfl⟩
    · obtain rfl := List.mem_singleton.mp hr
      exact .inr ⟨_, rfl, by rw [hnext]; omega⟩

theorem goesOn_change (k : Kept) (changes : Record) (id : Value) : k.GoesOn (k.change changes id) := by
  refine ⟨le_refl _, fun r hr => ?_⟩
  obtain ⟨q, hq, hqr⟩ := List.mem_map.mp hr
  refine .inl ⟨q, hq, ?_⟩
  rw [← hqr]
  split <;> exact rfl

theorem goesOn_remove (k : Kept) (id : Value) : k.GoesOn (k.remove id) :=
  ⟨le_refl _, fun r hr => .inl ⟨r, List.mem_of_mem_filter hr, rfl⟩⟩

/-- Changing or removing rows one by one goes on when each of the changes does. -/
theorem goesOn_each {change : Kept → Value → Kept} (h : ∀ k id, GoesOn k (change k id))
    (count : Kept → Value → Nat → Nat) (ids : List Value) (k : Kept) (n : Nat) :
    k.GoesOn (ids.foldl (fun p id => (change p.1 id, count p.1 id p.2)) (k, n)).1 := by
  induction ids generalizing k n with
  | nil => exact .refl k
  | cons id ids ih => exact (h k id).trans (ih _ _)

theorem goesOn_update (k : Kept) (ids : List Value) (changes : Record) :
    k.GoesOn (k.update ids changes).1 :=
  goesOn_each (fun k id => goesOn_change k changes id)
    (fun k id n => if k.has id then n + 1 else n) ids k 0

theorem goesOn_delete (k : Kept) (ids : List Value) : k.GoesOn (k.delete ids).1 :=
  goesOn_each goesOn_remove (fun k id n => if k.has id then n + 1 else n) ids k 0

end Kept

/-! ## §D — any number of edits -/

/-- Something that is done to the rows of a table. -/
inductive Edit where
  | insert (columns : Record)
  | update (ids : List Value) (changes : Record)
  | delete (ids : List Value)

namespace Table

/-- The table after an edit, whatever it answers. -/
def edited (t : Table) : Edit → Table
  | .insert columns => (t.insert columns).2
  | .update ids changes => (t.update ids changes).2
  | .delete ids => (t.delete ids).2

/-- The table after edits, one after the other. -/
def after (t : Table) (edits : List Edit) : Table := edits.foldl edited t

theorem after_append (t : Table) (edits more : List Edit) :
    t.after (edits ++ more) = (t.after edits).after more := List.foldl_append

section
variable {t : Table} {k : Kept}

theorem insert_kept (h : t.content = .kept k) (columns : Record) :
    t.insert columns =
      (.ok (.int (k.insert columns).2), { t with content := .kept (k.insert columns).1 }) := by
  rw [Table.insert, h]

/-- A change of kept rows leaves the kept rows as the identities before the first value that is none
change them. -/
theorem content_keptChange (t : Table) (ids : List Value) (change : List Value → Kept × Nat) :
    (t.keptChange ids change).2.content = .kept (change (ids.takeWhile Value.isIdentity)).1 := by
  unfold keptChange
  cases ids.find? (!Value.isIdentity ·) <;> rfl

/-- **One edit** of a kept table leaves a kept table that goes on from it. -/
theorem goesOn_edited (h : t.content = .kept k) (edit : Edit) :
    ∃ k', (t.edited edit).content = .kept k' ∧ k.GoesOn k' := by
  cases edit with
  | insert columns =>
    refine ⟨_, ?_, Kept.goesOn_insert k columns⟩
    rw [edited, insert_kept h]
  | update ids changes =>
    refine ⟨_, ?_, Kept.goesOn_update k (ids.takeWhile Value.isIdentity) changes⟩
    rw [edited, Table.update, h]
    exact content_keptChange t ids _
  | delete ids =>
    refine ⟨_, ?_, Kept.goesOn_delete k (ids.takeWhile Value.isIdentity)⟩
    rw [edited, Table.delete, h]
    exact content_keptChange t ids _

/-- **Any number of edits** of a kept table leave a kept table that goes on from it. -/
theorem goesOn_after (h : t.content = .kept k) (edits : List Edit) :
    ∃ k', (t.after edits).content = .kept k' ∧ k.GoesOn k' := by
  induction edits generalizing t k with
  | nil => exact ⟨k, h, .refl k⟩
  | cons edit edits ih =>
    obtain ⟨k₁, h₁, hstep⟩ := goesOn_edited h edit
    obtain ⟨k₂, h₂, hrest⟩ := ih h₁
    exact ⟨k₂, h₂, hstep.trans hrest⟩

end

/-- **A new row of a table that has been edited** — what inserting a row answers and leaves, as
against everything that was there and that was answered from the first table on. -/
structure NewRow (first : Table) (edits : List Edit) (columns : Record) (k : Kept) (id : Int) :
    Prop where
  kept : (first.after edits).content = .kept k
  /-- The counter stands above every whole number that is there. -/
  counter : Kept.Below k.rows k.nextId
  next : k.IsNext id
  answer : ((first.after edits).insert columns).1 = .ok (.int id)
  /-- The row comes last, and all other rows stay as they are. -/
  rows : ((first.after edits).insert columns).2.keptRows? = some (k.rows ++ [⟨.int id, columns⟩])
  /-- No row that was ever there has the id; only a float that has gone may have been its equal. -/
  unused : ∀ earlier, earlier <+: edits → ∃ past, (first.after earlier).keptRows? = some past ∧
    ∀ r ∈ past, (∀ x, r.id ≠ .float x) → r.id.same (.int id) = false
  /-- Every insertion before it was answered with a smaller number. -/
  greater : ∀ earlier before, earlier ++ [.insert before] <+: edits →
    ∃ j, ((first.after earlier).insert before).1 = .ok (.int j) ∧ j < id

end Table
end TableQuery
