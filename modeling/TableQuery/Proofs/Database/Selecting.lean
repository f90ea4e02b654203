/-
# TableQuery.Proofs.Database.Selecting — what a SELECT over a table of a database gives.

The rows of a SELECT are the window of the admitted rows in the order asked for
(`rows_eq_window`), whichever plan is made and however the subqueries of the statement read the same
table in the meantime.  This is for any evaluator that can be depended on for the subqueries; the two
evaluators that there are, one without subqueries and one that remembers their values, can be.

## §A — dependable evaluators.
## §B — the rows of a SELECT.
## §C — a table that is sorted.
-/
import TableQuery.Proofs.Database.Unmoved
import TableQuery.Proofs.Reading.Independence

namespace TableQuery
namespace Running

open Run Database Host

/-! ## §A — dependable evaluators -/

/-- **Dependable** — the subqueries of a SELECT over the table at a place are answered alike
throughout the reading, as long as what is remembered of them is good. -/
def Dependable (ev : Evaluator Running) (db : Database) (place : Nat) (s : Select) : Prop :=
  ∃ good : List (Place × Deferred) → Prop, good [] ∧ ev.Answers (Amid db place good) s.subqueries

/-- An evaluator that carries no subqueries out can be depended on. -/
theorem dependable_alone (params : Parameters) (c : Collation) (db : Database) (place : Nat)
    (s : Select) : Dependable { params, collation := c } db place s :=
  ⟨fun _ => True, trivial, fun _ _ => steady_throw _⟩

/-- **The evaluator of a statement on a database** can be depended on. -/
theorem dependable_evaluator (n : Node) (c : Collation) (db : Database) (place : Nat) (s : Select) :
    Dependable (evaluator (subqueries n) c) db place s :=
  ⟨_, answered_nil db (subqueries n) s.subqueries,
    evaluator_answers place (steady_resultsTo db _) s.toldApart_subqueries c⟩

/-! ## §B — the rows of a SELECT -/

section
variable {db : Database} {place : Nat} {name : String} {ev : Evaluator Running} {s : Select}

/-- Beginning a SELECT comes to the source that a reading of its table begins with. -/
theorem leads_read_source {good : List (Place × Deferred) → Prop} {source : Source}
    (hread : ((db.table place).read ev.collation s).1 = .ok source) :
    Leads (Amid db place good .closed) (read ev.collation s) (.ok ())
      (Amid db place good source) := by
  intro r hr
  obtain ⟨hanswer, hafter⟩ := hr.read ev.collation s
  rw [hread] at hanswer hafter
  exact ⟨hanswer, hafter⟩

/-- Beginning a SELECT comes to the items that a reading of its table yields. -/
theorem leads_read_of_yields {good : List (Place × Deferred) → Prop} {source : Source}
    {items : List Item} (hread : ((db.table place).read ev.collation s).1 = .ok source)
    (hyields : (db.table place).Yields source items) :
    Leads (Amid db place good .closed) (read ev.collation s) (.ok ())
      (Coming db place good items) :=
  (leads_read_source hread).weaken fun _ hr => ⟨source, hr, hyields⟩

/-- Beginning a SELECT comes to the items of its table. -/
theorem leads_read {good : List (Place × Deferred) → Prop} {items : List Item}
    (hitems : ((db.table place).items ev.collation s).1 = .ok items) :
    Leads (Amid db place good .closed) (read ev.collation s) (.ok ()) (Coming db place good items) ∧
      items.length < (db.table place).patience := by
  obtain ⟨source, hread, hyields, hlength⟩ := Table.items_eq_ok_iff.mp hitems
  exact ⟨leads_read_of_yields hread hyields, hlength⟩

/-- A table that keeps its contract comes to its end before the patience does. -/
theorem length_lt_patience {c : Collation} {claim : Option Claim} {rows : List Row}
    (hitems : ((db.table place).items c s).1 = .ok (contracted claim rows)) :
    rows.length < (db.table place).patience := by
  obtain ⟨-, -, -, hlength⟩ := Table.items_eq_ok_iff.mp hitems
  refine Nat.lt_of_le_of_lt ?_ hlength
  simp [contracted]

/-- **Plan independence** — over a table that keeps its contract and whose claim, if it makes one, is
honest, a SELECT gives the rows that satisfy the condition, stably sorted by the terms, the first
OFFSET of them dropped and at most LIMIT of them kept. -/
theorem rows_eq_window (hev : Dependable ev db place s) {active : Collation}
    (hactive : Collation.ofName ev.collation.name = .ok active) {claim : Option Claim}
    {rows : List Row}
    (hitems : ((db.table place).items ev.collation s).1 = .ok (contracted claim rows))
    (hsound : ∀ c ∈ claim, c.Sound) (honest : ∀ c ∈ claim, c.Honest ev.collation rows)
    (hids : ∀ r ∈ rows, r.id.isIdentity = true)
    (hdistinct : rows.Pairwise fun a b => a.id.same b.id = false) {keep : Row → Bool}
    (hkeep : ∀ r ∈ rows,
      ((ev.holds r.columns [1] s.condition).outcome { db, place }).1 = .ok (keep r))
    {terms : List SortTerm} (hterms : SortTerm.resolveAll s.columns s.orderBy = .ok terms)
    {key : SortTerm → Row → Value}
    (hkey : ∀ r ∈ rows, ∀ t ∈ terms,
      ((ev.evaluate r.columns t.place t.expression).outcome { db, place }).1 = .ok (key t r))
    {limit offset : Option Int}
    (hlimit : (((host name ev).clause "LIMIT" [3] s.limit).outcome { db, place }).1 = .ok limit)
    (hoffset : (((host name ev).clause "OFFSET" [4] s.offset).outcome { db, place }).1 =
      .ok offset) :
    IsStableSort (rowLE ev.collation key terms) (rows.filter keep)
        (sortedRows ev.collation key terms (rows.filter keep)) ∧
      (((host name ev).rows s).run { db, place }).1 =
        (window offset limit (sortedRows ev.collation key terms (rows.filter keep)), none) := by
  refine ⟨isStableSort_sortedRows ev.collation key terms _, ?_⟩
  obtain ⟨good, hgood, hanswers⟩ := hev
  have hg := host_guided name hanswers
  have hf : (host name ev).Feeds (Coming db place good) (db.table place).patience :=
    host_feeds name ev
  have hstart : Amid db place good .closed { db, place } := ⟨rfl, rfl, rfl, hgood⟩
  obtain ⟨hread, hlength⟩ := leads_read hitems
  have hrows : rows.length < (db.table place).patience := by
    refine Nat.lt_of_le_of_lt ?_ hlength
    simp [contracted]
  -- What the host answers at the start is what it answers as long as the reading lasts.
  have ha : (host name ev).Admits (Coming db place good) s rows keep := by
    intro r hr
    have hsettles := (hg.steady_holds r.columns).settles hstart
    exact settles_coming (hkeep r hr ▸ hsettles)
  have hk : (host name ev).Keyed (Coming db place good) terms rows key := by
    intro r hr t ht
    have hsettles := (hg.steady_evaluate r.columns (SortTerm.subset_of_resolveAll hterms ht)).settles
      hstart
    exact settles_coming (hkey r hr t ht ▸ hsettles)
  have hlimits := (hg.steady_clause "LIMIT" s.limit_subset).settles hstart .closed
  have hoffsets := (hg.steady_clause "OFFSET" s.offset_subset).settles hstart .closed
  rw [hlimit] at hlimits
  rw [hoffset] at hoffsets
  have hdelivers := hf.delivers_fresh hactive hsound honest (fresh_of_distinct hids hdistinct) hrows
    ha hk hterms hlimits hoffsets hread hstart
  refine hf.rows_eq hdelivers ?_ rfl hstart
  -- The result is no longer than the rows are, so that the patience of the host lasts to its end.
  calc (window offset limit (sortedRows ev.collation key terms (rows.filter keep))).length
      ≤ (sortedRows ev.collation key terms (rows.filter keep)).length := length_window_le ..
    _ = (rows.filter keep).length := List.length_mergeSort ..
    _ ≤ rows.length := List.length_filter_le ..
    _ < (db.table place).patience := hrows

end

/-! ## §C — a table that is sorted -/

/-- Two rows in the order of their column. -/
def sortedPair : List Row :=
  [⟨.int 1, [(.name "a", .int 4)]⟩, ⟨.int 2, [(.name "a", .int 7)]⟩]

/-- A table that claims to yield the two rows in order. -/
def sortedTable : Table where
  content := .kept { rows := sortedPair, sortedBy := some "a" }

/-- What the table claims. -/
def sortedClaim : Claim := { column := .text "a", collation := .text "BINARY" }

/-- The second of the rows that have the column. -/
def secondRow : Select :=
  .mk "t" [.all] (some (.isNull (.column "a") true)) [.mk (.column "a") false]
    (some (.literal (.int 1))) (some (.literal (.int 1)))

theorem sortRows_sortedPair : Kept.sortRows .binary "a" false sortedPair = sortedPair := by
  have hsorted : (sortedPair.map fun r =>
      (Collation.binary.sortKey (r.columns.column "a"), r)).Pairwise
        fun a b => (a.1.compare b.1 != .gt) = true := by
    simp only [sortedPair, List.map_cons, List.map_nil, List.pairwise_cons]
    refine ⟨?_, by simp⟩
    intro q hq
    obtain rfl := List.mem_singleton.mp hq
    decide +kernel
  rw [Kept.sortRows]
  simp only [Bool.false_eq_true, if_false]
  rw [List.mergeSort_of_pairwise hsorted]
  rfl

theorem items_sortedTable : (sortedTable.items .binary secondRow).1 =
    .ok (contracted (some sortedClaim) sortedPair) := by
  refine Table.items_eq_ok_iff.mpr ⟨.unread .binary, rfl, .item rfl ?_, by decide +kernel⟩
  show sortedTable.Yields (.rows (Kept.sortRows .binary "a" false sortedPair)) _
  rw [sortRows_sortedPair]
  exact .item rfl (.item rfl (.done rfl))

theorem rows_sortedTable :
    let key (_ : SortTerm) (r : Row) := r.columns.column "a"
    let terms : List SortTerm := [⟨.column "a", false, [0, 2]⟩]
    IsStableSort (rowLE .binary key terms) (sortedPair.filter fun _ => true)
        (sortedRows .binary key terms (sortedPair.filter fun _ => true)) ∧
      (((host "t" {}).rows secondRow).run { db := { tables := [sortedTable] }, place := 0 }).1 =
        (window (some 1) (some 1)
          (sortedRows .binary key terms (sortedPair.filter fun _ => true)), none) := by
  intro key terms
  have hbinary : Collation.ofName Collation.binary.name = .ok .binary := rfl
  refine rows_eq_window (dependable_alone .none .binary { tables := [sortedTable] } 0 secondRow)
    hbinary items_sortedTable ?_ ?_ ?_ ?_ ?_ rfl ?_ rfl rfl
  · rintro _ ⟨⟩
    exact ⟨rfl, rfl, .inr ⟨_, _, rfl, rfl⟩⟩
  · rintro _ ⟨⟩ desc hdesc
    cases desc
    · decide +kernel
    · exact absurd hdesc (by decide +kernel)
  · decide +kernel
  · decide +kernel
  · intro r hr
    simp only [sortedPair, List.mem_cons, List.not_mem_nil, or_false] at hr
    rcases hr with rfl | rfl <;> rfl
  · intro r _ t ht
    obtain rfl := List.mem_singleton.mp ht
    rfl

end Running
end TableQuery
