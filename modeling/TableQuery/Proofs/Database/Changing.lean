/-
# TableQuery.Proofs.Database.Changing — UPDATE and DELETE are exact and all or nothing.

A statement that changes a kept table evaluates everything it needs before it changes anything: the
values of its assignments, then its condition on every row.  Both are steady, so they are what they
would be on the database before the statement, subqueries included.  The change itself is one pass
over the table and cannot fail; so either the rows that satisfy the condition are changed and no
other ones, or nothing is (`execute_exact`).

## §A — what a statement is about.
## §B — the rows that satisfy the condition.
## §C — the values of the assignments.
## §D — the change.
## §E — before the scan.
## §F — statements.
-/
import Mathlib.Data.List.Forall2
import Mathlib.Data.List.TakeWhile
import TableQuery.Database.Change
import TableQuery.Proofs.Database.Selecting
import TableQuery.Proofs.Reading.Matching
import TableQuery.Proofs.Table.Kept

namespace TableQuery

open Run Running Host

/-! ## §A — what a statement is about -/

/-- The condition of a statement. -/
def Statement.condition : Statement → Option Expr
  | .select s => s.condition
  | .insert _ => none
  | .update s => s.condition
  | .delete s => s.condition

namespace Database

/-- **A database in memory** — every registered table keeps its rows, each under an identity of its
own. -/
def InMemory (db : Database) : Prop :=
  ∀ entry ∈ db.names, ∃ k, (db.table entry.2).content = .kept k ∧ k.Valid

/-- **The verdict of a condition** on a row of the table at a place, in the database as it is. -/
def verdict (db : Database) (s : Statement) (place : Nat) (condition : Option Expr) (r : Row) :
    Except Error Bool :=
  (((evaluatorFor s place db).holds r.columns [1] condition).outcome { db, place }).1

/-- The value of the assignment at an index, in the database as it is. -/
def assignedValue (db : Database) (s : Statement) (place index : Nat) (e : Expr) :
    Except Error Value :=
  (((evaluatorFor s place db).evaluate [] [index, 0] e).outcome { db }).1

section
variable {db db' : Database} {s : Statement} {place : Nat} {condition : Option Expr} {k : Kept}

theorem Alike.evaluatorFor (h : db.Alike () db') (s : Statement) (place : Nat) :
    Database.evaluatorFor s place db' = Database.evaluatorFor s place db := by
  rw [Database.evaluatorFor, Database.evaluatorFor, h.collationOf]

/-- Alike databases have the same kept tables. -/
theorem Alike.table (h : db.Alike () db') (hkept : (db.table place).content = .kept k) :
    db'.table place = db.table place :=
  Table.eq_of_lasting (lasting_table h place) hkept

/-! ## §B — the rows that satisfy the condition -/

theorem outcome_matchingIds {answer : Except Error (List Value)} {r : Running}
    (h : ((host s.table (evaluatorFor s place db)).matchingIds
      (Select.scan s.table condition)).outcome { db, place } = (answer, r)) :
    ((matchingIds s place condition).outcome db).1 = answer ∧
      ((matchingIds s place condition).outcome db).2.forget = r.db.forget := by
  rw [matchingIds, outcome_bind, outcome_get, resume_ok]
  dsimp only
  rw [h, outcome_bind, outcome_set, resume_ok, outcome_bind, outcome_liftExcept]
  rcases answer with e | ids <;> exact ⟨rfl, rfl⟩

/-- Rows of a valid table pass the check. -/
theorem fresh_ordered (hvalid : k.Valid) (c : Collation) : Fresh {} (k.ordered c) :=
  fresh_of_distinct (fun r hr => hvalid.identity r ((k.ordered_perm c).mem_iff.mp hr))
    (hvalid.distinct_ordered c)

/-- The answers that are good for the scan of a statement. -/
def ScanAnswered (db : Database) (s : Statement) (condition : Option Expr) :
    List (Place × Deferred) → Prop :=
  Answered db (subqueries (.statement s)) (Select.scan s.table condition).subqueries

/-- The evaluator of a statement is dependable for its scan. -/
theorem scan_guided (db : Database) (s : Statement) (place : Nat) (condition : Option Expr) :
    (host s.table (evaluatorFor s place db)).Guided
      (Amid db place (ScanAnswered db s condition)) (Select.scan s.table condition) :=
  host_guided s.table
    (evaluator_answers place (steady_resultsTo db _) (Select.toldApart_subqueries _) _)

theorem scan_start (h : db.Alike () db') (s : Statement) (place : Nat) (condition : Option Expr) :
    Amid db place (ScanAnswered db s condition) .closed { db := db', place } :=
  ⟨h, rfl, rfl, answered_nil _ _ _⟩

/-- The host of a scan is a feed of the items of its table. -/
theorem scan_feeds (db : Database) (s : Statement) (place : Nat) (condition : Option Expr) :
    (host s.table (evaluatorFor s place db)).Feeds
      (Coming db place (ScanAnswered db s condition)) (db.table place).patience :=
  host_feeds _ _

/-- The verdicts on rows are those of the scan. -/
theorem scan_judges (db : Database) (s : Statement) (place : Nat) (condition : Option Expr)
    (rows : List Row) :
    (host s.table (evaluatorFor s place db)).Judges
      (Coming db place (ScanAnswered db s condition)) (Select.scan s.table condition) rows
      (db.verdict s place condition) :=
  fun r _ => settles_coming (((scan_guided db s place condition).steady_holds r.columns).settles
    (scan_start (alike_self db) s place condition))

/-- **The ids that a scan answers** are those of the rows that the table yields and on which the
condition holds, whatever the table claims of them. -/
theorem scan_ids {claim : Option Claim} {rows : List Row}
    (hitems : ((db.table place).items (collationOf db place) (Select.scan s.table condition)).1 =
      .ok (contracted claim rows))
    (hfresh : Fresh {} rows) {st : Running}
    (hst : Amid db place (ScanAnswered db s condition) .closed st) {ids : List Value}
    (hids : (((host s.table (evaluatorFor s place db)).matchingIds
      (Select.scan s.table condition)).outcome st).1 = .ok ids) :
    ∃ keep : Row → Bool, (∀ r ∈ rows, db.verdict s place condition r = .ok (keep r)) ∧
      ids = (rows.filter keep).map (·.id) := by
  obtain ⟨hread, -⟩ : Leads (Amid db place (ScanAnswered db s condition) .closed)
      ((host s.table (evaluatorFor s place db)).read (Select.scan s.table condition)) (.ok ())
      (Coming db place (ScanAnswered db s condition) (contracted claim rows)) ∧ _ :=
    leads_read hitems
  have hrows := length_lt_patience hitems
  exact (scan_feeds db s place condition).matchingIds_eq_ok hread
    (scan_judges db s place condition rows) hfresh hrows hst hids

/-- Matching in an alike database answers what the reading for ids does, and leaves what it does but
for records. -/
theorem matchingIds_alike (h : db.Alike () db') (s : Statement) (place : Nat)
    (condition : Option Expr) :
    let reading := ((host s.table (evaluatorFor s place db)).matchingIds
      (Select.scan s.table condition)).outcome { db := db', place }
    ((matchingIds s place condition).outcome db').1 = reading.1 ∧
      ((matchingIds s place condition).outcome db').2.forget = reading.2.db.forget := by
  intro reading
  refine outcome_matchingIds ?_
  rw [h.evaluatorFor]

/-- **Matching leaves the database as it is**, whatever it answers. -/
theorem alike_matchingIds (h : db.Alike () db') (s : Statement) (place : Nat)
    (condition : Option Expr) : db.Alike () ((matchingIds s place condition).outcome db').2 := by
  obtain ⟨answer, source, hleads⟩ := (scan_guided db s place condition).matchingIds .closed
  obtain ⟨-, hafter⟩ := hleads _ (scan_start h s place condition)
  exact (matchingIds_alike h s place condition).2.trans hafter.database

/-- An answer of matching is a verdict on every row of a kept table. -/
theorem matchingIds_spec (hk : (db.table place).content = .kept k) (hvalid : k.Valid)
    (h : db.Alike () db') {ids : List Value}
    (hids : ((matchingIds s place condition).outcome db').1 = .ok ids) :
    ∃ keep : Row → Bool, (∀ r ∈ k.rows, db.verdict s place condition r = .ok (keep r)) ∧
      ids = ((k.ordered (collationOf db place)).filter keep).map (·.id) := by
  obtain ⟨keep, hkeep, rfl⟩ := scan_ids (hvalid.items hk _ _) (fresh_ordered hvalid _)
    (scan_start h s place condition) ((matchingIds_alike h s place condition).1.symm.trans hids)
  exact ⟨keep, fun r hr => hkeep r ((k.ordered_perm _).mem_iff.mpr hr), rfl⟩

/-! ## §C — the values of the assignments -/

theorem outcome_evaluating {α : Type} (x : Run Running α) (db : Database) :
    (evaluating x).outcome db = ((x.outcome { db }).1, (x.outcome { db }).2.db) := rfl

/-- Values of expressions are steady when their subqueries are answered alike. -/
theorem steady_valuesFrom {ι : Type} {kind : ι → Running → Prop} {ev : Evaluator Running}
    {row n : Nat} {es : List Expr} (hev : ev.Answers kind (Expr.listSubqueriesAt n [row] es)) :
    Steady kind (valuesFrom ev row n es) := by
  induction es generalizing n with
  | nil => exact steady_pure []
  | cons e es ih =>
      rw [Expr.listSubqueriesAt] at hev
      exact (ev.steady_evaluate [] [n, row] e hev.left).bind fun v =>
        (ih hev.right).bind fun vs => steady_pure _

/-- **The values of expressions** are what each of them has by itself. -/
theorem of_valuesFrom_eq_ok {ι : Type} {kind : ι → Running → Prop} {ev : Evaluator Running}
    {row n : Nat} {es : List Expr} (hev : ev.Answers kind (Expr.listSubqueriesAt n [row] es))
    {i : ι} {start st : Running} (hstart : kind i start) (hst : kind i st) {values : List Value}
    (h : ((valuesFrom ev row n es).outcome st).1 = .ok values) :
    values.length = es.length ∧ ∀ j e v, es[j]? = some e → values[j]? = some v →
      ((ev.evaluate [] [n + j, row] e).outcome start).1 = .ok v := by
  induction es generalizing n st values with
  | nil =>
      obtain rfl : [] = values := Except.ok.inj h
      exact ⟨rfl, fun j e v he => nomatch he⟩
  | cons e es ih =>
      rw [Expr.listSubqueriesAt] at hev
      have hsettles := (ev.steady_evaluate [] [n, row] e hev.left).settles hstart i
      have hvalues : valuesFrom ev row n (e :: es) = do
        let v ← ev.evaluate [] [n, row] e
        return v :: (← valuesFrom ev row (n + 1) es) := rfl
      rcases hvalue : ((ev.evaluate [] [n, row] e).outcome start).1 with fault | v
      · rw [hvalue] at hsettles
        rw [hvalues, ((hsettles.bind_error) st hst).1] at h
        cases h
      · rw [hvalue] at hsettles
        obtain ⟨rest, hrest⟩ := steady_valuesFrom hev.right
        rcases rest with fault | rest
        · rw [hvalues, ((hsettles.bind (hrest i).bind_error) st hst).1] at h
          cases h
        · rw [hvalues, ((hsettles.bind ((hrest i).bind (leads_pure (v :: rest)))) st hst).1] at h
          obtain rfl := Except.ok.inj h
          -- The evaluator is steady, so that what follows is asked as if it stood first.
          obtain ⟨hlength, hrests⟩ := ih hev.right hst ((hrest i) st hst).1
          refine ⟨congrArg Nat.succ hlength, fun j d w hd hw => ?_⟩
          cases j with
          | zero =>
              obtain rfl := Option.some.inj hd
              obtain rfl := Option.some.inj hw
              exact hvalue
          | succ j =>
              rw [show n + (j + 1) = n + 1 + j by omega]
              exact hrests j d w hd hw

/-- The answers that are good for the assignments of a statement. -/
def AssignmentsAnswered (db : Database) (s : Statement) (es : List Expr) :
    List (Place × Deferred) → Prop :=
  Answered db (subqueries (.statement s)) (Expr.listSubqueriesAt 0 [0] es)

/-- **Evaluating the assignments leaves the database as it is**, and gives each its value. -/
theorem assignments_spec (db : Database) (s : Statement) (place : Nat) (es : List Expr) :
    let out := (evaluating (valuesFrom (evaluatorFor s place db) 0 0 es)).outcome db
    db.Alike () out.2 ∧ ∀ values, out.1 = .ok values →
      values.length = es.length ∧ ∀ j e v, es[j]? = some e → values[j]? = some v →
        db.assignedValue s place j e = .ok v := by
  have hev : (evaluatorFor s place db).Answers (Amid db 0 (AssignmentsAnswered db s es))
      (Expr.listSubqueriesAt 0 [0] es) :=
    evaluator_answers 0 (steady_resultsTo db _) (Expr.toldApart_listSubqueriesAt 0 [0] es) _
  have hstart : Amid db 0 (AssignmentsAnswered db s es) .closed { db } :=
    ⟨rfl, rfl, rfl, answered_nil _ _ _⟩
  obtain ⟨answer, hleads⟩ := steady_valuesFrom hev
  obtain ⟨-, hafter⟩ := hleads .closed _ hstart
  rw [outcome_evaluating]
  refine ⟨hafter.database, fun values hvalues => ?_⟩
  obtain ⟨hlength, hall⟩ := of_valuesFrom_eq_ok hev hstart hstart hvalues
  refine ⟨hlength, fun j e v he hv => ?_⟩
  rw [← hall j e v he hv, Nat.zero_add]
  rfl

/-! ## §D — the change -/

/-- **A pass** — a change of a kept table by ids that counts them and rewrites the rows as `pass`
does, given which of them are meant. -/
structure IsPass (change : List Value → Table → Except Error Int × Table)
    (pass : (Row → Bool) → List Row → List Row) : Prop where
  counts (t : Table) (k : Kept) : t.content = .kept k → k.Valid →
    ∀ rows : List Row, rows ⊆ k.rows → rows.Nodup →
      (change (rows.map (·.id)) t).1 = .ok rows.length ∧
        (change (rows.map (·.id)) t).2.keptRows? = some (pass (Kept.among rows) k.rows)
  congr (keep keep' : Row → Bool) (rows : List Row) :
    (∀ r ∈ rows, keep r = keep' r) → pass keep rows = pass keep' rows
  none (rows : List Row) : pass (fun _ => false) rows = rows

theorem keptChange_identities {t : Table} {ids : List Value}
    (h : ∀ id ∈ ids, id.isIdentity = true) (change : List Value → Kept × Nat) :
    t.keptChange ids change =
      (.ok ((change ids).2 : Int), { t with content := .kept (change ids).1 }) := by
  have hfind : ids.find? (!Value.isIdentity ·) = none := by
    rw [List.find?_eq_none]
    intro id hid
    rw [h id hid]
    decide
  rw [Table.keptChange, List.takeWhile_eq_self_iff.mpr h, hfind]

/-- The rows with some changes where they are meant. -/
def updatePass (changes : Record) (keep : Row → Bool) (rows : List Row) : List Row :=
  rows.map fun r => if keep r then Kept.changed changes r else r

/-- What becomes of each row: nothing unless it is meant, and then the columns that are assigned have
their last values. -/
theorem forall₂_updatePass (pairs : List (Key × Value)) (keep : Row → Bool) (rows : List Row) :
    List.Forall₂ (fun r r' : Row =>
      r'.id = r.id ∧ (keep r = false → r' = r) ∧
        (keep r = true → ∀ key, r'.columns.get? key =
          (Record.last? pairs key).or (r.columns.get? key)))
      rows (updatePass (Record.ofPairs pairs) keep rows) := by
  refine List.forall₂_map_right_iff.mpr (List.forall₂_same.mpr fun r _ => ?_)
  rcases keep r with _ | _
  · exact ⟨rfl, fun _ => rfl, nofun⟩
  · exact ⟨rfl, nofun, fun _ key => Record.get?_update_ofPairs r.columns pairs key⟩

/-- The rows that are not meant. -/
def deletePass (keep : Row → Bool) (rows : List Row) : List Row := rows.filter fun r => !keep r

theorem identity_of_mem {rows : List Row} (hvalid : k.Valid) (hsub : rows ⊆ k.rows) :
    ∀ id ∈ rows.map (·.id), id.isIdentity = true := by
  intro id hid
  obtain ⟨r, hr, rfl⟩ := List.mem_map.mp hid
  exact hvalid.identity r (hsub hr)

theorem isPass_update (changes : Record) :
    IsPass (fun ids t => t.update ids changes) (updatePass changes) where
  counts t k ht hvalid rows hsub hnodup := by
    obtain ⟨hrows, hcount⟩ := hvalid.update hsub hnodup changes
    simp only [Table.update, ht]
    rw [keptChange_identities (identity_of_mem hvalid hsub)]
    refine ⟨by rw [hcount], ?_⟩
    simp only [Table.keptRows?, hrows, updatePass]
  congr keep keep' rows h := List.map_congr_left fun r hr => by rw [h r hr]
  none rows := List.map_id rows

theorem isPass_delete : IsPass (fun ids t => t.delete ids) deletePass where
  counts t k ht hvalid rows hsub hnodup := by
    obtain ⟨hrows, hcount⟩ := hvalid.delete hsub hnodup
    simp only [Table.delete, ht]
    rw [keptChange_identities (identity_of_mem hvalid hsub)]
    refine ⟨by rw [hcount], ?_⟩
    simp only [Table.keptRows?, hrows, deletePass]
  congr keep keep' rows h := List.filter_congr fun r hr => by rw [h r hr]
  none rows := List.filter_eq_self.mpr fun _ _ => rfl

/-- A pass over the rows that are kept, in whichever order they were found. -/
theorem IsPass.matching {change : List Value → Table → Except Error Int × Table}
    {pass : (Row → Bool) → List Row → List Row} (hpass : IsPass change pass) {t : Table}
    (ht : t.content = .kept k) (hvalid : k.Valid) {rows : List Row} (hperm : rows.Perm k.rows)
    (keep : Row → Bool) :
    (change ((rows.filter keep).map (·.id)) t).1 = .ok (k.rows.filter keep).length ∧
      (change ((rows.filter keep).map (·.id)) t).2.keptRows? = some (pass keep k.rows) := by
  have hsub : rows.filter keep ⊆ k.rows :=
    fun q hq => hperm.mem_iff.mp (List.mem_filter.mp hq).1
  have hnodup : (rows.filter keep).Nodup := (hperm.nodup_iff.mpr hvalid.nodup).filter keep
  have hamong : ∀ q ∈ k.rows, Kept.among (rows.filter keep) q = keep q := by
    intro q hq
    rw [Bool.eq_iff_iff, hvalid.among_iff hsub hq, List.mem_filter, hperm.mem_iff]
    exact and_iff_right hq
  obtain ⟨hcount, hrows⟩ := hpass.counts t k ht hvalid _ hsub hnodup
  rw [hcount, hrows, hpass.congr _ keep k.rows hamong, (hperm.filter keep).length_eq]
  exact ⟨rfl, rfl⟩

/-- A pass that means no row. -/
theorem IsPass.idle {change : List Value → Table → Except Error Int × Table}
    {pass : (Row → Bool) → List Row → List Row} (hpass : IsPass change pass) {keep : Row → Bool}
    {rows : List Row} (h : rows.filter keep = []) : pass keep rows = rows := by
  refine (hpass.congr keep (fun _ => false) rows fun r hr => ?_).trans (hpass.none rows)
  exact Bool.not_eq_true _ ▸ List.filter_eq_nil_iff.mp h r hr

/-- **Exact or nothing** — what a change of the table at a place comes to: after a failure the
database is as it was; after an answer the condition had a verdict on every row, the answer counts
the rows on which it holds, the table holds what `pass` makes of the rows, and every other table is as
it was. -/
def Comes (db : Database) (s : Statement) (place : Nat) (condition : Option Expr) (k : Kept)
    (pass : (Row → Bool) → List Row → List Row) : Except Error Int × Database → Prop
  | (.error _, db') => db.Alike () db'
  | (.ok n, db') =>
    ∃ keep : Row → Bool, (∀ r ∈ k.rows, db.verdict s place condition r = .ok (keep r)) ∧
      n = (k.rows.filter keep).length ∧
      (db'.table place).keptRows? = some (pass keep k.rows) ∧
      db'.names = db.names ∧
      ∀ other, other ≠ place → (db'.table other).lasting = (db.table other).lasting

theorem outcome_onTable {α : Type} (place : Nat) (step : Table → Except Error α × Table)
    (db : Database) :
    (onTable place step).outcome db =
      ((step (db.table place)).1, db.setTable place (step (db.table place)).2) := by
  rw [onTable, outcome_bind, outcome_get, resume_ok]
  dsimp only
  rw [outcome_bind, outcome_modify, resume_ok, outcome_liftExcept]

/-- A table that holds something is there. -/
theorem lt_of_kept (hk : (db.table place).content = .kept k) : place < db.tables.length := by
  by_contra hplace
  rw [table, List.getD_eq_getElem?_getD, List.getElem?_eq_none (Nat.not_lt.mp hplace)] at hk
  cases hk

theorem table_setTable_self (hplace : place < db.tables.length) (t : Table) :
    (db.setTable place t).table place = t := by
  simp [table, setTable, hplace]

theorem table_setTable_other {other : Nat} (h : other ≠ place) (t : Table) :
    (db.setTable place t).table other = db.table other := by
  simp [table, setTable, Ne.symm h]

/-- **Changing the matching rows** is exact or does nothing. -/
theorem changeMatching_comes (hk : (db.table place).content = .kept k) (hvalid : k.Valid)
    (h : db.Alike () db') {change : List Value → Table → Except Error Int × Table}
    {pass : (Row → Bool) → List Row → List Row} (hpass : IsPass change pass) :
    db.Comes s place condition k pass
      ((changeMatching s place condition change).outcome db') := by
  have halike := alike_matchingIds h s place condition
  rw [changeMatching, outcome_bind]
  rcases hout : (matchingIds s place condition).outcome db' with ⟨e | ids, db₁⟩
  · rw [hout] at halike
    exact halike
  · rw [hout] at halike
    obtain ⟨keep, hkeep, rfl⟩ := matchingIds_spec hk hvalid h (congrArg Prod.fst hout)
    have hperm := k.ordered_perm (collationOf db place)
    have htable : db₁.table place = db.table place := halike.table hk
    rw [resume_ok]
    split
    · -- No row is meant, and the table is not asked at all.
      rename_i hempty
      have hfilter : k.rows.filter keep = [] := by
        have hnone := List.map_eq_nil_iff.mp (List.isEmpty_iff.mp hempty)
        exact (hnone ▸ hperm.filter keep).nil_eq.symm
      have hkept : (db.table place).keptRows? = some k.rows := by rw [Table.keptRows?, hk]
      refine ⟨keep, hkeep, by rw [hfilter]; rfl, ?_, congrArg (·.names) halike, fun other _ => ?_⟩
      · rw [hpass.idle hfilter, ← hkept, ← htable]
      · exact lasting_table halike other
    -- The pass over the ids that were found is the pass over the rows that they identify.
    · obtain ⟨hcount, hrows⟩ := hpass.matching hk hvalid hperm keep
      have hplace : place < db₁.tables.length := by
        refine lt_of_kept (k := k) ?_
        rw [htable, hk]
      rw [outcome_onTable, htable, hcount]
      refine ⟨keep, hkeep, rfl, ?_, congrArg (·.names) halike, fun other hother => ?_⟩
      · rw [table_setTable_self hplace, hrows]
      · rw [table_setTable_other hother]
        exact lasting_table halike other

/-! ## §E — before the scan -/

/-- The guard refuses a missing condition where one is required, and nothing else. -/
theorem outcome_guard (s : Statement) (condition : Option Expr) (db : Database) :
    ((db.guarded && condition.isNone) = false ∧ (guard s condition).outcome db = (.ok (), db)) ∨
      (db.guarded && condition.isNone) = true ∧
        ∃ e, (guard s condition).outcome db = (.error e, db) := by
  rw [guard, outcome_bind, outcome_get, resume_ok]
  rcases hmissing : db.guarded && condition.isNone with _ | _
  · exact .inl ⟨rfl, rfl⟩
  · exact .inr ⟨rfl, _, rfl⟩

/-- Assignments that read a column are refused, and no others. -/
theorem outcome_checkConstant (assignments : List (String × Expr)) (db : Database) :
    ((∀ a ∈ assignments, a.2.readsColumn = false) ∧
        (checkConstant assignments).outcome db = (.ok (), db)) ∨
      (∃ a ∈ assignments, a.2.readsColumn = true) ∧
        ∃ e, (checkConstant assignments).outcome db = (.error e, db) := by
  rcases hfound : assignments.find? (·.2.readsColumn) with _ | a
  · refine .inl ⟨fun a ha => ?_, by rw [checkConstant, hfound]; rfl⟩
    exact Bool.eq_false_iff.mpr (List.find?_eq_none.mp hfound a ha)
  · have hreads := List.find?_some hfound
    exact .inr ⟨⟨a, List.mem_of_find?_eq_some hfound, hreads⟩, _, by rw [checkConstant, hfound]; rfl⟩

/-- What the assignments of an UPDATE come to before its table is read. -/
def assignedValues (db : Database) (u : Update) (place : Nat) : Except Error (List Value) :=
  ((evaluating
    (valuesFrom (evaluatorFor (.update u) place db) 0 0 (u.assignments.map (·.2)))).outcome db).1

/-- **Nothing else is wrong** with a statement: it has a condition if one is required, and its
assignments read no column and have values. -/
def Proceeds (db : Database) (place : Nat) : Statement → Prop
  | .update u => (db.guarded && u.condition.isNone) = false ∧
      (∀ a ∈ u.assignments, a.2.readsColumn = false) ∧
      ∃ values, db.assignedValues u place = .ok values
  | s => (db.guarded && s.condition.isNone) = false

/-- What the assignments of an UPDATE write. -/
def assigned (u : Update) (values : List Value) : List (Key × Value) :=
  (u.assignments.map fun a => Key.name a.1).zip values

/-- **DELETE before its scan**: nothing is wrong, and the rest is the change of the rows that are found,
or it has failed. -/
theorem delete_cases (db : Database) (d : Delete) (place : Nat) :
    (db.Proceeds place (.delete d) ∧ ∃ db₀, db.Alike () db₀ ∧ (delete d place).outcome db =
        (changeMatching (.delete d) place d.condition fun ids t => t.delete ids).outcome db₀) ∨
      ¬ db.Proceeds place (.delete d) ∧
        ∃ e db', (delete d place).outcome db = (.error e, db') ∧ db.Alike () db' := by
  rw [delete, outcome_bind]
  rcases outcome_guard (.delete d) d.condition db with ⟨hpresent, hguard⟩ | ⟨hmissing, e, hguard⟩
  · rw [hguard]
    exact .inl ⟨hpresent, db, alike_self db, rfl⟩
  · rw [hguard]
    exact .inr ⟨fun hproceeds => (nomatch hmissing.symm.trans hproceeds), e, db, rfl, alike_self db⟩

/-- **UPDATE before its scan**: nothing is wrong, the values of its assignments are found, and the rest
is the change of the rows that are found, or it has failed. -/
theorem update_cases (db : Database) (u : Update) (place : Nat) :
    (∃ values, db.Proceeds place (.update u) ∧ db.assignedValues u place = .ok values ∧
        ∃ db₀, db.Alike () db₀ ∧ (update u place).outcome db =
          (changeMatching (.update u) place u.condition fun ids t =>
            t.update ids (Record.ofPairs (assigned u values))).outcome db₀) ∨
      ¬ db.Proceeds place (.update u) ∧
        ∃ e db', (update u place).outcome db = (.error e, db') ∧ db.Alike () db' := by
  rw [update, outcome_bind]
  -- Three things may fail before the scan: a condition is missing where one must be given, an
  -- assignment reads a column, or an expression has no value.
  rcases outcome_guard (.update u) u.condition db with ⟨hpresent, hguard⟩ | ⟨hmissing, e, hguard⟩
  · rw [hguard, resume_ok, outcome_bind]
    rcases outcome_checkConstant u.assignments db with
      ⟨hconstant, hcheck⟩ | ⟨⟨a, ha, hreads⟩, e, hcheck⟩
    · rw [hcheck, resume_ok, outcome_bind, outcome_get, resume_ok, outcome_bind]
      obtain ⟨halike, -⟩ := assignments_spec db (.update u) place (u.assignments.map (·.2))
      have hassigned : db.assignedValues u place = ((evaluating (valuesFrom
        (evaluatorFor (.update u) place db) 0 0 (u.assignments.map (·.2)))).outcome db).1 := rfl
      rcases hout : (evaluating (valuesFrom (evaluatorFor (.update u) place db) 0 0
        (u.assignments.map (·.2)))).outcome db with ⟨e | values, db₀⟩
      · rw [hout] at halike hassigned
        rw [hout]
        refine .inr ⟨?_, e, db₀, rfl, halike⟩
        rintro ⟨-, -, values, hvalues⟩
        cases hassigned.symm.trans hvalues
      · rw [hout] at halike hassigned
        rw [hout]
        exact .inl ⟨values, ⟨hpresent, hconstant, values, hassigned⟩, hassigned, db₀, halike, rfl⟩
    · rw [hcheck]
      refine .inr ⟨fun hproceeds => ?_, e, db, rfl, alike_self db⟩
      cases hreads.symm.trans (hproceeds.2.1 a ha)
  · rw [hguard]
    refine .inr ⟨fun hproceeds => ?_, e, db, rfl, alike_self db⟩
    cases hmissing.symm.trans hproceeds.1

/-! ## §F — statements -/

/-- **DELETE** is exact or does nothing. -/
theorem delete_comes (hk : (db.table place).content = .kept k) (hvalid : k.Valid) (d : Delete) :
    db.Comes (.delete d) place d.condition k deletePass ((delete d place).outcome db) := by
  rcases delete_cases db d place with ⟨-, db₀, halike, hrest⟩ | ⟨-, e, db₀, hfailed, halike⟩
  · rw [hrest]
    exact changeMatching_comes hk hvalid halike isPass_delete
  · rw [hfailed]
    exact halike

/-- **The values of the assignments** of an UPDATE, one for each, on the database as it is. -/
structure Assigns (db : Database) (u : Update) (place : Nat) (values : List Value) : Prop where
  length : values.length = u.assignments.length
  value (j : Nat) (a : String × Expr) (v : Value) : u.assignments[j]? = some a →
    values[j]? = some v → db.assignedValue (.update u) place j a.2 = .ok v

/-- **UPDATE** is exact or does nothing. -/
theorem update_comes (hk : (db.table place).content = .kept k) (hvalid : k.Valid) (u : Update) :
    (∃ e db', (update u place).outcome db = (.error e, db') ∧ db.Alike () db') ∨
      ∃ values, db.Assigns u place values ∧
        db.Comes (.update u) place u.condition k
          (updatePass (Record.ofPairs (assigned u values))) ((update u place).outcome db) := by
  rcases update_cases db u place with ⟨values, -, hassigned, db₀, halike, hrest⟩ | ⟨-, hfailed⟩
  · obtain ⟨-, hvalues⟩ := assignments_spec db (.update u) place (u.assignments.map (·.2))
    obtain ⟨hlength, hall⟩ := hvalues values hassigned
    rw [List.length_map] at hlength
    refine .inr ⟨values, ⟨hlength, fun j a v ha hv => hall j a.2 v ?_ hv⟩, ?_⟩
    · rw [List.getElem?_map, ha]
      rfl
    · rw [hrest]
      exact changeMatching_comes hk hvalid halike (isPass_update _)
  · exact .inl hfailed

/-- Databases that differ in telemetry only. -/
def SameButTelemetry (db db' : Database) : Prop := ∃ telemetry, db' = { db with telemetry }

theorem SameButTelemetry.names (h : SameButTelemetry db db') : db'.names = db.names := by
  obtain ⟨telemetry, rfl⟩ := h
  rfl

theorem SameButTelemetry.lastId (h : SameButTelemetry db db') : db'.lastId = db.lastId := by
  obtain ⟨telemetry, rfl⟩ := h
  rfl

theorem SameButTelemetry.table (h : SameButTelemetry db db') (place : Nat) :
    db'.table place = db.table place := by
  obtain ⟨telemetry, rfl⟩ := h
  rfl

theorem SameButTelemetry.trans {db'' : Database} (h : SameButTelemetry db db')
    (h' : SameButTelemetry db' db'') : SameButTelemetry db db'' := by
  obtain ⟨telemetry, rfl⟩ := h
  obtain ⟨telemetry', rfl⟩ := h'
  exact ⟨telemetry', rfl⟩

theorem SameButTelemetry.alike (h : SameButTelemetry db db') : db.Alike () db' := by
  obtain ⟨telemetry, rfl⟩ := h
  rfl

/-- The span and the count of a statement are telemetry. -/
theorem outcome_traced {params : Parameters} {answer : Except Error Int}
    (h : (perform s params).outcome db = (answer, db')) :
    ∃ db'', (traced s params).outcome db = (answer, db'') ∧ SameButTelemetry db' db'' := by
  have hrun : (perform s params).run.run db = (answer, db') := h
  unfold outcome
  rw [traced, ExceptT.run_mk, StateT.run_bind, hrun]
  refine ⟨_, rfl, ?_⟩
  cases answer <;> exact ⟨_, rfl⟩

theorem outcome_countAffected (verb : String) {n : Int} (hn : 0 ≤ n) (db : Database) :
    ∃ db', (countAffected verb n).outcome db = (.ok (), db') ∧ SameButTelemetry db db' := by
  rw [countAffected, outcome_bind, outcome_get, resume_ok]
  split
  · rw [outcome_bind, outcome_modify, resume_ok, if_neg (Int.not_lt.mpr hn)]
    exact ⟨_, rfl, _, rfl⟩
  · exact ⟨db, rfl, _, rfl⟩

/-- Counting leaves telemetry only, also where it fails. -/
theorem sameButTelemetry_countAffected (verb : String) (n : Int) (db : Database) :
    SameButTelemetry db ((countAffected verb n).outcome db).2 := by
  rw [countAffected, outcome_bind, outcome_get, resume_ok]
  split
  · rw [outcome_bind, outcome_modify, resume_ok]
    split <;> exact ⟨_, rfl⟩
  · exact ⟨_, rfl⟩

theorem execute_eq {params : Parameters} (hselect : ∀ q, s ≠ .select q) :
    execute s params = do
      let n ← traced s params
      countAffected s.verb n
      return n := by
  cases s with
  | select q => exact absurd rfl (hselect q)
  | insert _ => rfl
  | update _ => rfl
  | delete _ => rfl

/-- Carrying a statement out answers what performing it does. -/
theorem outcome_execute {params : Parameters} {answer : Except Error Int}
    (hselect : ∀ q, s ≠ .select q) (h : (perform s params).outcome db = (answer, db'))
    (hanswer : ∀ n, answer = .ok n → 0 ≤ n) :
    ∃ db'', (execute s params).outcome db = (answer, db'') ∧ SameButTelemetry db' db'' := by
  obtain ⟨db₁, htraced, hsame⟩ := outcome_traced h
  rw [execute_eq hselect, outcome_bind, htraced]
  rcases answer with e | n
  · exact ⟨db₁, rfl, hsame⟩
  · obtain ⟨db₂, hcount, hsame'⟩ := outcome_countAffected s.verb (hanswer n rfl) db₁
    rw [resume_ok, outcome_bind, hcount]
    exact ⟨db₂, rfl, hsame.trans hsame'⟩

/-- Carrying a statement out leaves what performing it does, whatever it answers. -/
theorem sameButTelemetry_execute {params : Parameters} (hselect : ∀ q, s ≠ .select q) :
    SameButTelemetry ((perform s params).outcome db).2 ((execute s params).outcome db).2 := by
  rcases hperform : (perform s params).outcome db with ⟨answer, db'⟩
  obtain ⟨db₁, htraced, hsame⟩ := outcome_traced hperform
  rw [execute_eq hselect, outcome_bind, htraced]
  rcases answer with e | n
  · exact hsame
  · have hcount := sameButTelemetry_countAffected s.verb n db₁
    rw [resume_ok, outcome_bind]
    rcases hout : (countAffected s.verb n).outcome db₁ with ⟨e | _, db₂⟩
    · rw [hout] at hcount
      exact hsame.trans hcount
    · rw [hout] at hcount
      exact hsame.trans hcount

/-- The outcome of a statement that changes a table, exact or nothing: `effect` relates the rows of
the table before and after, given which of them satisfy the condition. -/
def Exact (db : Database) (s : Statement) (params : Parameters)
    (effect : Nat → (Row → Bool) → List Row → List Row → Prop) : Prop :=
  match (execute s params).outcome db with
  | (.error _, db') => db'.names = db.names ∧
      ∀ entry ∈ db.names, db'.table entry.2 = db.table entry.2
  | (.ok n, db') =>
    ∃ place keep rows rows', db.find s.table = .ok place ∧
      (db.table place).keptRows? = some rows ∧
      (∀ r ∈ rows, db.verdict (s.bind params) place (s.bind params).condition r = .ok (keep r)) ∧
      n = ((rows.filter keep).length : Int) ∧
      (db'.table place).keptRows? = some rows' ∧ effect place keep rows rows' ∧
      db'.names = db.names ∧
      ∀ entry ∈ db.names, entry.2 ≠ place → db'.table entry.2 = db.table entry.2

theorem mem_of_find {name : String} (h : db.find name = .ok place) : (name, place) ∈ db.names := by
  rw [find, find?] at h
  rcases hentry : db.names.find? (·.1 == name) with _ | ⟨n, p⟩
  · rw [hentry] at h
    cases h
  · rw [hentry] at h
    obtain rfl := Except.ok.inj h
    have hname : n = name := by simpa using List.find?_some hentry
    exact hname ▸ List.mem_of_find?_eq_some hentry

/-- **All or nothing** — a statement that fails has changed no table. -/
theorem exact_of_error (hdb : db.InMemory) {params : Parameters}
    {effect : Nat → (Row → Bool) → List Row → List Row → Prop} (hselect : ∀ q, s ≠ .select q)
    {e : Error} (h : (perform s params).outcome db = (.error e, db')) (halike : db.Alike () db') :
    db.Exact s params effect := by
  obtain ⟨db'', hexecute, hsame⟩ := outcome_execute hselect h nofun
  rw [Exact, hexecute]
  refine ⟨hsame.names.trans (congrArg (·.names) halike), fun entry hentry => ?_⟩
  obtain ⟨k, hk, -⟩ := hdb entry hentry
  rw [hsame.table, halike.table hk]

/-- **Exact** — a statement that answers has done to its table what its pass does. -/
theorem exact_of_comes (hdb : db.InMemory) {params : Parameters}
    {effect : Nat → (Row → Bool) → List Row → List Row → Prop} (hselect : ∀ q, s ≠ .select q)
    (hfind : db.find s.table = .ok place) (hk : (db.table place).content = .kept k)
    {pass : (Row → Bool) → List Row → List Row}
    (hcomes : db.Comes (s.bind params) place (s.bind params).condition k pass
      ((perform s params).outcome db))
    (heffect : ∀ keep, effect place keep k.rows (pass keep k.rows)) :
    db.Exact s params effect := by
  rcases hout : (perform s params).outcome db with ⟨e | n, db'⟩
  · rw [hout] at hcomes
    exact exact_of_error hdb hselect hout hcomes
  · rw [hout] at hcomes
    obtain ⟨keep, hkeep, rfl, hrows, hnames, hothers⟩ := hcomes
    obtain ⟨db'', hexecute, hsame⟩ := outcome_execute hselect hout fun m hm => by
      obtain rfl := Except.ok.inj hm
      exact Int.natCast_nonneg _
    have hkept : (db.table place).keptRows? = some k.rows := by rw [Table.keptRows?, hk]
    rw [Exact, hexecute]
    -- What the execution records is no part of the tables, and the other tables are what lasted.
    refine ⟨place, keep, k.rows, _, hfind, hkept, hkeep, rfl, ?_, heffect keep,
      hsame.names.trans hnames, fun entry hentry hother => ?_⟩
    · rw [hsame.table, hrows]
    · obtain ⟨k', hk', -⟩ := hdb entry hentry
      rw [hsame.table, Table.eq_of_lasting (hothers entry.2 hother) hk']

theorem outcome_perform {params : Parameters} (hfind : db.find s.table = .ok place) :
    (perform s params).outcome db =
      (match s.bind params with
        | .insert s => insert s place
        | .update s => update s place
        | .delete s => delete s place
        | .select _ => throw (.unsupported .executeSelect) : Run Database Int).outcome db := by
  rw [perform, outcome_bind, outcome_get, resume_ok, outcome_bind, outcome_liftExcept, hfind]
  rfl

theorem outcome_perform_missing {params : Parameters} {e : Error}
    (hfind : db.find s.table = .error e) : (perform s params).outcome db = (.error e, db) := by
  rw [perform, outcome_bind, outcome_get, resume_ok, outcome_bind, outcome_liftExcept, hfind]
  rfl

end

/-- **UPDATE and DELETE are exact and all or nothing** on a database in memory.  The number that is
answered is that of the rows on which the condition held before the statement; DELETE leaves the
other rows in their order; UPDATE leaves every row under its identity and in its place, the columns
that are assigned with their last value on the rows on which the condition held, and everything else
as it was. -/
theorem execute_exact {db : Database} (hdb : db.InMemory) (params : Parameters) :
    (∀ d : Delete, db.Exact (.delete d) params fun _ keep rows rows' =>
      rows' = rows.filter fun r => !keep r) ∧
    (∀ u : Update, db.Exact (.update u) params fun place keep rows rows' =>
      ∃ values, db.Assigns (u.bind params) place values ∧
        List.Forall₂ (fun r r' =>
          r'.id = r.id ∧ (keep r = false → r' = r) ∧
            (keep r = true → ∀ key, r'.columns.get? key =
              (Record.last? (assigned (u.bind params) values) key).or (r.columns.get? key)))
          rows rows') := by
  refine ⟨fun d => ?_, fun u => ?_⟩
  · rcases hfind : db.find d.table with e | place
    · exact exact_of_error hdb nofun (outcome_perform_missing hfind) (alike_self db)
    -- The table is in memory, and either the change of its rows comes through or nothing has
    -- happened.
    · obtain ⟨k, hk, hvalid⟩ := hdb _ (mem_of_find hfind)
      have hperform : (perform (.delete d) params).outcome db =
          (delete (d.bind params) place).outcome db := outcome_perform hfind
      have hcomes := delete_comes hk hvalid (d.bind params)
      rw [← hperform] at hcomes
      exact exact_of_comes hdb nofun hfind hk hcomes fun keep => rfl
  · rcases hfind : db.find u.table with e | place
    · exact exact_of_error hdb nofun (outcome_perform_missing hfind) (alike_self db)
    · obtain ⟨k, hk, hvalid⟩ := hdb _ (mem_of_find hfind)
      have hperform : (perform (.update u) params).outcome db =
          (update (u.bind params) place).outcome db := outcome_perform hfind
      rcases update_comes hk hvalid (u.bind params) with
        ⟨e, db', hout, halike⟩ | ⟨values, hvalues, hcomes⟩
      · exact exact_of_error hdb nofun (hperform.trans hout) halike
      · rw [← hperform] at hcomes
        exact exact_of_comes hdb nofun hfind hk hcomes fun keep =>
          ⟨values, hvalues, forall₂_updatePass _ keep k.rows⟩

/-- A database of one table with two rows. -/
def pairDatabase : Database where
  tables := [{ content := .kept {
    rows := [⟨.int 0, [(.name "a", .int 1)]⟩, ⟨.int 1, [(.name "a", .int 2)]⟩]
    nextId := 2 } }]
  names := [("t", 0)]

theorem inMemory_pairDatabase : pairDatabase.InMemory := by
  intro entry hentry
  obtain rfl := List.mem_singleton.mp hentry
  exact ⟨_, rfl, by decide, by decide, by decide⟩

theorem execute_pairDatabase :
    pairDatabase.InMemory ∧
      pairDatabase.Exact (.delete ⟨"t", some (.isNull (.column "a") true)⟩) .none
        fun _ keep rows rows' => rows' = rows.filter fun r => !keep r :=
  ⟨inMemory_pairDatabase, (execute_exact inMemory_pairDatabase .none).1 _⟩

end Database
end TableQuery
