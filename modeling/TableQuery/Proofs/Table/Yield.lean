/-
# TableQuery.Proofs.Table.Yield — what a reading of a table comes to.

Reading changes a table only in the record of what was asked of it.  `Table.lasting` keeps of that
record the insertions and changes alone, so a table and its lasting form give the same items, and a
reading that is interrupted by other readings of the same table goes on as if it had been alone.
`Table.Yields` says which items are still to come from a source.

## §A — the record of readings.
## §B — readings leave the table as it is.
## §C — the items that are to come.
## §D — scripts.
-/
import TableQuery.Table.Basic

namespace TableQuery

/-! ## §A — the record of readings -/

/-- Whether a call belongs to a reading. -/
def Call.isReading : Call → Bool
  | .select .. | .pull _ | .finish => true
  | .insert _ | .update .. | .delete _ => false

theorem Call.isReading_ofSelect {c : Collation} {s : Select} {call : Call}
    (h : Call.ofSelect c s = .ok call) : call.isReading = true := by
  simp only [Call.ofSelect, bind, Except.bind] at h
  repeat' split at h
  all_goals cases h
  rfl

/-- The script without the record of readings. -/
def Script.lasting (s : Script) : Script :=
  { s with events := s.events.filter (!·.call.isReading) }

/-- The table without the record of readings. -/
def Table.lasting (t : Table) : Table :=
  match t.content with
  | .script s => { t with content := .script s.lasting }
  | _ => t

/-- The insertions and changes that were asked of a scripted table. -/
def Table.changesAsked (t : Table) : List Event := t.events.filter (!·.call.isReading)

/-! ## §B — readings leave the table as it is -/

/-- What a pull gives, apart from the table afterwards. -/
def Pulled.given (p : Pulled) : Except Error (Option Item) × Source × Option String :=
  (p.answer, p.source, p.remark)

namespace Table

@[simp]
theorem lasting_note (t : Table) {call : Call} (hcall : call.isReading = true) :
    (t.note call).lasting = t.lasting := by
  rcases t with ⟨name, collation, _ | _ | _ | _ | s⟩ <;> try rfl
  simp only [note, lasting, Script.lasting, Script.note, List.filter_cons, hcall]
  rfl

/-- What was asked of a table apart from readings is told by its lasting form. -/
theorem events_lasting (t : Table) : t.lasting.events = t.changesAsked := by
  rcases t with ⟨name, collation, _ | _ | _ | _ | s⟩ <;> try rfl
  exact (List.filter_reverse ..).symm

theorem patience_lasting (t : Table) : t.lasting.patience = t.patience := by
  rcases t with ⟨name, collation, _ | _ | _ | _ | _⟩ <;> rfl

theorem collation_lasting (t : Table) : t.lasting.collation = t.collation := by
  rcases t with ⟨name, collation, _ | _ | _ | _ | _⟩ <;> rfl

/-- A kept table has no record of what was asked. -/
theorem lasting_eq_kept {t : Table} {k : Kept} (h : t.lasting.content = .kept k) :
    t.content = .kept k := by
  rcases t with ⟨name, collation, _ | _ | _ | _ | _⟩ <;> first | exact h | cases h

/-- A kept table is told by its lasting form. -/
theorem eq_of_lasting {t u : Table} {k : Kept} (h : t.lasting = u.lasting)
    (hu : u.content = .kept k) : t = u := by
  have hu' : u.lasting = u := by rw [lasting, hu]
  have ht : t.content = .kept k := lasting_eq_kept (by rw [h, hu', hu])
  have ht' : t.lasting = t := by rw [lasting, ht]
  rw [← ht', h, hu']

/-- Beginning a reading leaves the table as it is. -/
@[simp]
theorem lasting_read (t : Table) (c : Collation) (s : Select) :
    (t.read c s).2.lasting = t.lasting := by
  unfold read
  split
  · rfl
  · split
    · split
      · rename_i call hcall
        exact lasting_note t (Call.isReading_ofSelect hcall)
      · rfl
    · rfl
  · rfl

/-- The record of what was asked has no part in how a reading begins. -/
theorem read_lasting (t : Table) (c : Collation) (s : Select) :
    (t.lasting.read c s).1 = (t.read c s).1 := by
  rcases t with ⟨name, collation, _ | k | rows | f | sc⟩ <;> try rfl
  simp only [lasting, Script.lasting, read, Script.offers, Script.listedItems]
  split
  · split <;> rfl
  · rfl

theorem given_pullEntry (t u : Table) (s s' : Script) (index : Nat)
    (hentry : s.entry? index = s'.entry? index) (hnumber : s.number index = s'.number index) :
    (t.pullEntry s index).given = (u.pullEntry s' index).given := by
  simp only [pullEntry, hentry, hnumber]
  rcases s'.entry? index with _ | (i | message) <;> rfl

/-- **The record of what was asked has no part in what a pull gives.** -/
theorem given_pull_lasting (t : Table) (source : Source) :
    (t.lasting.pull source).given = (t.pull source).given := by
  rcases t with ⟨name, collation, _ | k | rows | f | sc⟩ <;> try rfl
  cases source with
  | script index => exact given_pullEntry _ _ _ _ index rfl rfl
  | rows left => cases left <;> rfl
  | records left fault => rcases left with _ | ⟨r, left⟩ <;> rcases fault with _ | e <;> rfl
  | listed left => rcases left with _ | ⟨i, left⟩ <;> rfl
  | unread c => rfl
  | closed => rfl

/-- What pulls and ends of readings on record have no part in is the same after a pull. -/
theorem pull_keeps {α : Type} {f : Table → α} (hpull : ∀ t n, f (t.note (.pull n)) = f t)
    (hfinish : ∀ t, f (t.note .finish) = f t) (t : Table) (source : Source) :
    f (t.pull source).table = f t := by
  have hrow : ∀ rows, (t.pullRow rows).table = t := by
    intro rows
    cases rows <;> rfl
  have hrecord : ∀ fault records, (t.pullRecord fault records).table = t := by
    intro fault records
    cases records <;> cases fault <;> rfl
  cases source with
  | unread c =>
      simp only [pull]
      split
      · split
        · rfl
        · rw [hrow]
      · rw [hrow]
      · rw [hrecord]
      · rfl
  | rows left => rw [pull, hrow]
  | records left fault => rw [pull, hrecord]
  | script index =>
      simp only [pull]
      split
      · simp only [pullEntry]
        split
        · exact hfinish t
        · split
          · exact hpull t _
          · exact (hfinish _).trans (hpull t _)
      · rfl
  | listed left => cases left <;> rfl
  | closed => rfl

theorem close_keeps {α : Type} {f : Table → α} (hfinish : ∀ t, f (t.note .finish) = f t)
    (t : Table) (source : Source) : f (t.close source) = f t := by
  rcases source with _ | _ | _ | (_ | n) | _ | _ <;> first | rfl | exact hfinish t

/-- A pull leaves the table as it is. -/
@[simp]
theorem lasting_pull (t : Table) (source : Source) :
    (t.pull source).table.lasting = t.lasting :=
  pull_keeps (fun t _ => lasting_note t rfl) (fun t => lasting_note t rfl) t source

/-- Giving a reading up leaves the table as it is. -/
@[simp]
theorem lasting_close (t : Table) (source : Source) : (t.close source).lasting = t.lasting :=
  close_keeps (fun t => lasting_note t rfl) t source

/-- Two tables that differ only in what was asked of them give the same. -/
theorem given_pull_congr {t u : Table} (h : t.lasting = u.lasting) (source : Source) :
    (t.pull source).given = (u.pull source).given := by
  rw [← given_pull_lasting t, h, given_pull_lasting u]

/-! ## §C — the items that are to come -/

/-- **The items that are to come** from a source of a table. -/
inductive Yields (t : Table) : Source → List Item → Prop where
  | done {source : Source} : (t.pull source).answer = .ok none → Yields t source []
  | item {source : Source} {i : Item} {items : List Item} :
      (t.pull source).answer = .ok (some i) → Yields t (t.pull source).source items →
      Yields t source (i :: items)

/-- **The first items** of those that are to come from a source of a table, of which there may be more,
or an end, or a failure. -/
inductive Starts (t : Table) : Source → List Item → Prop where
  | nil (source : Source) : Starts t source []
  | item {source : Source} {i : Item} {items : List Item} :
      (t.pull source).answer = .ok (some i) → Starts t (t.pull source).source items →
      Starts t source (i :: items)

/-- A reading that is over stays so. -/
theorem pull_source_of_done {t : Table} {source : Source}
    (h : (t.pull source).answer = .ok none) : (t.pull source).source = .closed := by
  have hrow : ∀ rows, (t.pullRow rows).answer = .ok none → (t.pullRow rows).source = .closed := by
    rintro (_ | ⟨r, left⟩) h
    · rfl
    · cases h
  have hrecord : ∀ fault records, (t.pullRecord fault records).answer = .ok none →
      (t.pullRecord fault records).source = .closed := by
    rintro fault (_ | ⟨r, left⟩) h
    · cases fault
      · rfl
      · cases h
    · cases h
  -- Each kind of source ends in `closed`; an unread one is first begun, as the table's content has it.
  cases source with
  | unread c =>
      revert h
      simp only [pull]
      split
      · split
        · nofun
        · exact hrow _
      · exact hrow _
      · exact hrecord _ _
      · exact fun _ => rfl
  | rows left => exact hrow left h
  | records left fault => exact hrecord fault left h
  | script index =>
      revert h
      simp only [pull]
      split
      · simp only [pullEntry]
        split
        · exact fun _ => rfl
        · split <;> nofun
      · exact fun _ => rfl
  | listed left =>
      cases left with
      | nil => rfl
      | cons i left => cases h
  | closed => rfl

/-- Nothing is to come of a reading that is over. -/
theorem Yields.of_done {t : Table} {source : Source} (h : (t.pull source).answer = .ok none) :
    t.Yields (t.pull source).source [] := by
  rw [pull_source_of_done h]
  exact .done rfl

/-- What is to come does not hang on what was asked. -/
theorem Yields.congr {t u : Table} (h : t.lasting = u.lasting) {source : Source}
    {items : List Item} (hy : t.Yields source items) : u.Yields source items := by
  induction hy with
  | @done source hend =>
      have hgiven := given_pull_congr h source
      simp only [Pulled.given, Prod.mk.injEq] at hgiven
      exact .done (hgiven.1 ▸ hend)
  | @item source i items hitem _ ih =>
      have hgiven := given_pull_congr h source
      simp only [Pulled.given, Prod.mk.injEq] at hgiven
      exact .item (hgiven.1 ▸ hitem) (hgiven.2.1 ▸ ih)

/-- Two sources that are pulled alike have the same to come. -/
theorem Yields.of_pull_eq {t : Table} {source source' : Source} {items : List Item}
    (hy : t.Yields source items) (h : t.pull source' = t.pull source) :
    t.Yields source' items := by
  cases hy with
  | done hend => exact .done (h ▸ hend)
  | item hitem hrest => exact .item (h ▸ hitem) (h ▸ hrest)

/-- A reading that comes to its end comes to the items that were to come. -/
theorem yields_of_itemsFrom {t : Table} {source : Source} {items : List Item} {patience : Nat}
    (h : (t.itemsFrom source patience).1 = .ok items) :
    t.Yields source items ∧ items.length < patience := by
  induction patience generalizing t source items with
  | zero => cases h
  | succ patience ih =>
      rw [itemsFrom] at h
      rcases hanswer : (t.pull source).answer with e | _ | i
      · simp only [hanswer] at h
        cases h
      · simp only [hanswer, Except.ok.injEq] at h
        subst h
        exact ⟨.done hanswer, Nat.succ_pos _⟩
      · simp only [hanswer] at h
        rcases hrest : ((t.pull source).table.itemsFrom (t.pull source).source patience).1
          with e | rest
        · rw [hrest] at h
          cases h
        · rw [hrest] at h
          cases h
          -- The rest was read from the table that the pull left, which is alike the one before it.
          obtain ⟨hyields, hlength⟩ := ih hrest
          exact ⟨.item hanswer (hyields.congr (lasting_pull t source)),
            Nat.succ_lt_succ hlength⟩

/-- A reading that is patient enough comes to the items that are to come. -/
theorem itemsFrom_of_yields {t : Table} {source : Source} {items : List Item}
    (h : t.Yields source items) {patience : Nat} (hlength : items.length < patience) :
    (t.itemsFrom source patience).1 = .ok items := by
  induction items generalizing t source patience with
  | nil =>
      obtain ⟨patience, rfl⟩ := Nat.exists_eq_succ_of_ne_zero (Nat.ne_of_gt hlength)
      cases h with
      | done hanswer => simp only [itemsFrom, hanswer]
  | cons i items ih =>
      obtain ⟨patience, rfl⟩ := Nat.exists_eq_succ_of_ne_zero (Nat.ne_zero_of_lt hlength)
      cases h with
      | item hanswer hrest =>
          have hrest := ih (hrest.congr (lasting_pull t source).symm)
            (Nat.lt_of_succ_lt_succ hlength)
          simp only [itemsFrom, hanswer, hrest]
          rfl

/-- **All items of a table** are what is to come when a reading has begun. -/
theorem items_eq_ok_iff {t : Table} {c : Collation} {s : Select} {items : List Item} :
    (t.items c s).1 = .ok items ↔
      ∃ source, (t.read c s).1 = .ok source ∧ t.Yields source items ∧
        items.length < t.patience := by
  unfold Table.items
  rcases hread : t.read c s with ⟨e | source, u⟩
  · constructor
    · intro h
      cases h
    · rintro ⟨source, hsource, -⟩
      cases hsource
  · have hu : u.lasting = t.lasting := by
      have := lasting_read t c s
      rwa [hread] at this
    -- Opening the reading changes nothing that lasts, and the patience hangs on that alone.
    have hpatience : u.patience = t.patience := by
      rw [← patience_lasting u, hu, patience_lasting t]
    constructor
    · intro h
      obtain ⟨hyields, hlength⟩ := yields_of_itemsFrom h
      exact ⟨source, rfl, hyields.congr hu, hpatience ▸ hlength⟩
    · rintro ⟨source', hsource, hyields, hlength⟩
      obtain rfl := Except.ok.inj hsource
      exact itemsFrom_of_yields (hyields.congr hu.symm) (hpatience.symm ▸ hlength)

/-! ## §D — scripts -/

section
variable {t : Table} {sc : Script} {items : List Item}

theorem pull_script (ht : t.content = .script sc) (hitems : sc.items = some (items.map .item))
    (hend : sc.endless = none) (n : Nat) :
    (t.pull (.script n)).answer = .ok items[n]? ∧
      (n < items.length → (t.pull (.script n)).source = .script (n + 1)) := by
  have hpull : t.pull (.script n) = t.pullEntry sc n := by
    simp only [pull, ht]
  have hentry : sc.entry? n = items[n]?.map .item := by
    simp only [Script.entry?, hitems, hend, Option.getD_some, List.getElem?_map, Option.map_none]
    cases items[n]? <;> rfl
  rw [hpull, pullEntry, hentry]
  rcases hitem : items[n]? with _ | i
  · exact ⟨rfl, fun hn => absurd (List.getElem?_eq_none_iff.mp hitem) (Nat.not_le.mpr hn)⟩
  · exact ⟨rfl, fun _ => rfl⟩

/-- **A script without failures** yields its items, and ends. -/
theorem yields_script (ht : t.content = .script sc) (hitems : sc.items = some (items.map .item))
    (hend : sc.endless = none) (n : Nat) : t.Yields (.script n) (items.drop n) := by
  obtain ⟨hanswer, hsource⟩ := pull_script ht hitems hend n
  induction hleft : items.length - n generalizing n with
  | zero =>
      rw [List.getElem?_eq_none (by omega)] at hanswer
      rw [List.drop_eq_nil_of_le (by omega)]
      exact .done hanswer
  | succ left ih =>
      have hn : n < items.length := by omega
      rw [List.getElem?_eq_getElem hn] at hanswer
      rw [List.drop_eq_getElem_cons hn]
      refine .item hanswer ?_
      rw [hsource hn]
      obtain ⟨hanswer', hsource'⟩ := pull_script ht hitems hend (n + 1)
      exact ih (n + 1) hanswer' hsource' (by omega)

/-- A script that offers readings begins with its first entry. -/
theorem read_script (ht : t.content = .script sc) (hitems : sc.items.isSome = true)
    (hlisted : sc.listed = false) {c : Collation} {s : Select}
    (hcall : (Call.ofSelect c s).toBool = true) : (t.read c s).1 = .ok (.script 0) := by
  rcases hasked : Call.ofSelect c s with e | call
  · rw [hasked] at hcall
    cases hcall
  · simp only [read, ht, Script.offers, hitems, if_true, hasked, hlisted, Bool.false_eq_true, if_false]

theorem items_script (ht : t.content = .script sc) (hitems : sc.items = some (items.map .item))
    (hend : sc.endless = none) (hlisted : sc.listed = false) {c : Collation} {s : Select}
    (hcall : (Call.ofSelect c s).toBool = true) : (t.items c s).1 = .ok items := by
  have hread : (t.read c s).1 = .ok (.script 0) :=
    read_script ht (by rw [hitems, Option.isSome_some]) hlisted hcall
  have hsize : items.length < t.patience := by
    have hlength : t.size = items.length := by
      simp only [size, ht, hitems, Option.getD_some, List.length_map]
    rw [patience, hlength]
    omega
  exact items_eq_ok_iff.mpr ⟨.script 0, hread, yields_script ht hitems hend 0, hsize⟩

end

end Table
end TableQuery
