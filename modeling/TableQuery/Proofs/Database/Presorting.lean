/-
# TableQuery.Proofs.Database.Presorting — a declared order does not change the results.

A table may keep its rows and be declared to yield them sorted by a column.  A SELECT in that order
then streams them, where over the same table without the declaration it gathers and sorts them.  The
table sorts by keys before the condition is applied, the SELECT by comparison after it; there is but
one stable sorting, and it has the same rows under the condition.  So a SELECT that comes to its end
without the declaration comes to the same result rows with it, ties included.

## §A — an order by one column.
## §B — the table without the declaration.
## §C — the table with the declaration.
## §D — a query whose subquery reads the same table.
-/
import Mathlib
import TableQuery.Proofs.Database.Across
import TableQuery.Proofs.Names
import TableQuery.Proofs.Reading.SortKeys
import TableQuery.Proofs.Table.Kept

namespace TableQuery

/-! ## §A — an order by one column -/

/-- Whether a name is that of a column: no other expression of the select list has it. -/
def Select.NamesColumn (columns : List ResultColumn) (column : String) : Prop :=
  ∀ c ∈ columns, c.aliasName = some column → c.isStar = false →
    ∃ name, c.expression = .column name ∧ Expr.lastPart name = column

/-- **An order by one column** is one term, whose value on a row is that of the column. -/
theorem SortTerm.resolveAll_column {columns : List ResultColumn} {column : String} {desc : Bool}
    (hdot : '.' ∉ column.toList) (hnames : Select.NamesColumn columns column) :
    ∃ t name, SortTerm.resolveAll columns [.mk (.column column) desc] = .ok [t] ∧
      t.expression = .column name ∧ Expr.lastPart name = column ∧ t.desc = desc := by
  have hresolve : ∃ t name, SortTerm.resolve columns 0 (.mk (.column column) desc) = .ok t ∧
      t.expression = .column name ∧ Expr.lastPart name = column ∧ t.desc = desc := by
    have hcontains : column.toList.contains '.' = false := by
      rw [← Bool.not_eq_true, List.contains_iff_mem]
      exact hdot
    simp only [SortTerm.resolve, OrderTerm.expression, hcontains, Bool.false_eq_true, if_false]
    rcases hnamed : SortTerm.named? columns column with _ | ⟨c, i⟩
    · exact ⟨_, column, rfl, rfl, Expr.lastPart_eq hdot, rfl⟩
    · have hfound := List.find?_some hnamed
      simp only [Bool.and_eq_true, beq_iff_eq, Bool.not_eq_true'] at hfound
      have hmem : c ∈ columns := List.fst_mem_of_mem_zipIdx (List.mem_of_find?_eq_some hnamed)
      obtain ⟨name, hexpr, hlast⟩ := hnames c hmem hfound.1 hfound.2
      exact ⟨_, name, rfl, hexpr, hlast, rfl⟩
  obtain ⟨t, name, ht, hterm⟩ := hresolve
  refine ⟨t, name, ?_, hterm⟩
  simp only [SortTerm.resolveAll, List.zipIdx_cons, List.zipIdx_nil, List.mapM_cons, List.mapM_nil]
  rw [ht]
  rfl

namespace Running

open Run Database Host

section
variable {settings : List Setting} {good : List (Place × Deferred) → Prop} {w w' : Setting}
  {ev : Evaluator Running} {s : Select} {rows : List Row} {t : SortTerm} {column : String}

/-- The values of a column, as keys of rows. -/
def columnKey (column : String) (_ : SortTerm) (r : Row) : Value := r.columns.column column

/-- Sorting by a column comes to the rows in its order. -/
theorem settles_sortRows {ι : Type} {kind : ι → Running → Prop} (name : String) {written : String}
    (ht : t.expression = .column written) (hlast : Expr.lastPart written = column)
    (rows : List Row) :
    Settles kind ((host name ev).sortRows [t] rows)
      (.ok (sortedRows ev.collation (columnKey column) [t] rows)) := by
  intro i
  have hkeyed : (host name ev).Keyed (fun _ => kind i) [t] rows (columnKey column) := by
    rw [← hlast]
    exact keyed_column ht rows
  exact hkeyed.settles_sortRows []

/-! ## §B — the table without the declaration -/

/-- The plan for a table that claims nothing. -/
def plainPlan (offset : Nat) (limit : Option Nat) : Plan :=
  { strategy := .gather, reason := "table declared no order", offset, limit }

/-- What is left of gathered rows was admitted by a verdict on every row. -/
theorem of_gathered_eq_ok {p : Plan} {verdict : Row → Except Error Bool}
    {sorting : List Row → List Row} {left : List Row}
    (h : gathered p verdict (fun l => .ok (sorting l)) rows = .ok left) :
    ∃ keep : Row → Bool, (∀ r ∈ rows, verdict r = .ok (keep r)) ∧
      left = cutOut p.offset p.limit (sorting (rows.filter keep)) := by
  rw [gathered] at h
  rcases hsift : sift verdict rows with e | admitted
  · rw [hsift] at h
    cases h
  · rw [hsift] at h
    obtain ⟨keep, hkeep, rfl⟩ := of_sift_eq_ok hsift
    exact ⟨keep, hkeep, (Except.ok.inj h).symm⟩

/-- **Over a table that claims nothing** a SELECT with an order asks for the verdict on every row, and
sorts the rows that are admitted. -/
theorem results_unclaimed (name : String) (hgood : good [])
    (hev : ev.Answers (AmidOne settings good) s.subqueries) (hw : w ∈ settings)
    (hitems : ((w.db.table w.place).items ev.collation s).1 = .ok (contracted none rows))
    (hfresh : Fresh {} rows) (hterms : SortTerm.resolveAll s.columns s.orderBy = .ok [t])
    {written : String} (ht : t.expression = .column written)
    (hlast : Expr.lastPart written = column) :
    (((host name ev).results s).run (startOf w)).1 =
      answered (fun r => said w ((host name ev).project s r))
        (begun (said w ((host name ev).clause "LIMIT" [3] s.limit))
          (said w ((host name ev).clause "OFFSET" [4] s.offset))
          (SortTerm.resolveAll s.columns s.orderBy) fun _ offset limit =>
            gathered (plainPlan offset limit)
              (fun r => said w (ev.holds r.columns [1] s.condition))
              (fun admitted => .ok (sortedRows ev.collation (columnKey column) [t] admitted))
              rows) := by
  have hf : (host name ev).Feeds (Coming w.db w.place good) (w.db.table w.place).patience :=
    host_feeds name ev
  have hrows := length_lt_patience hitems
  refine (answered_in hgood hev hw hw (?_ : GivesIn good w name ev s (fun _ => true) _ _ _) ?_
    (Nat.zero_lt_of_lt hrows)).2
  · refine gives_in hgood hev hw hw hitems fun terms offset limit hresolved => ?_
    obtain rfl := Except.ok.inj (hterms.symm.trans hresolved)
    change GivesIn good w name ev s _ _ _
      ((host name ev).planned [t] none offset limit >>= fun p =>
        gathered p (fun r => said w (ev.holds r.columns [1] s.condition))
          (fun admitted => .ok (sortedRows ev.collation (columnKey column) [t] admitted)) rows)
    refine hf.gives_begin ?_ ?_
    · -- Without a claim the plan is to gather, and never to stream.
      rintro p hp hstrategy
      rw [← Except.ok.inj hp] at hstrategy
      cases hstrategy
    · rintro p hp - first items hheld
      obtain rfl : plainPlan offset limit = p := Except.ok.inj hp
      have hjudged : (host name ev).Judges (Coming w.db w.place good) s rows
          fun r => said w (ev.holds r.columns [1] s.condition) := fun r _ =>
        settles_coming (settles_said hgood hw hw ((host_guidedIn name hev).steady_holds r.columns))
      exact hf.gives_gather hjudged.verdicts
        (fun admitted _ => settles_sortRows name ht hlast admitted) hfresh hrows hheld
  · intro left hleft
    obtain ⟨_, _, _, -, -, -, hgiven⟩ := of_begun_eq_ok hleft
    obtain ⟨keep, -, rfl⟩ := of_gathered_eq_ok hgiven
    -- What is left is fewer rows than the host has patience for.
    calc (cutOut _ _ (sortedRows ev.collation (columnKey column) [t] (rows.filter keep))).length
        ≤ (sortedRows ev.collation (columnKey column) [t] (rows.filter keep)).length :=
          length_cutOut_le ..
      _ = (rows.filter keep).length := List.length_mergeSort ..
      _ ≤ rows.length := List.length_filter_le ..
      _ < (w.db.table w.place).patience := hrows

/-! ## §C — the table with the declaration -/

/-- Rows that were sorted before the condition was applied are those that are sorted after it. -/
theorem filter_sortRows {c : Collation} {desc : Bool} (ht : t.desc = desc) (keep : Row → Bool)
    (rows : List Row) :
    (Kept.sortRows c column desc rows).filter keep =
      sortedRows c (columnKey column) [t] (rows.filter keep) := by
  rw [Kept.sortRows_eq c column ht]
  have hbefore := (isStableSort_sortedRows c (columnKey column) [t] rows).filter keep
  have hafter := isStableSort_sortedRows c (columnKey column) [t] (rows.filter keep)
  exact hbefore.unique (rowLE_trans c (columnKey column) [t]) (rowLE_total c (columnKey column) [t])
    hafter

/-- What a table claims that is declared to be sorted. -/
def declaredClaim (c : Collation) (column : String) (desc : Bool) : Claim :=
  { column := .text column, desc := .bool desc, collation := .text c.name }

theorem sound_declaredClaim {c named : Collation} (hactive : Collation.ofName c.name = .ok named)
    (hcolumn : column ≠ "") (desc : Bool) : (declaredClaim c column desc).Sound where
  faultless := by
    have hempty : column.isEmpty = false := by
      rw [← Bool.not_eq_true, String.isEmpty_iff]
      exact hcolumn
    simp only [declaredClaim, Claim.fault?, hempty, Bool.false_eq_true, if_false]
  unskipped := rfl
  collation := .inr ⟨_, _, rfl, hactive⟩

/-- The plan for the table leaves the whole of OFFSET and LIMIT to do, and trusts it with nothing. -/
theorem planned_declared {h : Host Running} {named : Collation}
    (hactive : Collation.ofName h.evaluator.collation.name = .ok named) (hcolumn : column ≠ "")
    (desc : Bool) (terms : List SortTerm) (offset : Nat) (limit : Option Nat) :
    ∃ p, h.planned terms (some (declaredClaim h.evaluator.collation column desc)) offset limit =
      .ok p ∧ p.trusted = false ∧ p.offset = offset ∧ p.limit = limit := by
  have hsound : ∀ c ∈ some (declaredClaim h.evaluator.collation column desc), c.Sound := by
    rintro c ⟨⟩
    exact sound_declaredClaim hactive hcolumn desc
  obtain ⟨p, hp, htrusted, hoffset, hlimit, -⟩ :=
    planned_of_sound hactive terms hsound offset limit
  exact ⟨p, hp, htrusted, hoffset, hlimit⟩

/-- Sorting rows that are sorted changes nothing. -/
theorem said_sortRows_sorted (name : String) {written : String} (ht : t.expression = .column written)
    (hlast : Expr.lastPart written = column) (rows : List Row) :
    said w ((host name ev).sortRows [t] (sortedRows ev.collation (columnKey column) [t] rows)) =
      .ok (sortedRows ev.collation (columnKey column) [t] rows) := by
  have hsorted := (isStableSort_sortedRows ev.collation (columnKey column) [t] rows).sorted
  subst hlast
  exact said_sortRows ht hsorted

/-- **Over the table that is declared to be sorted** either strategy leaves the rows that are left when
the admitted ones are sorted. -/
theorem results_declared (name : String) (hgood : good [])
    (hev : ev.Answers (AmidOne settings good) s.subqueries) (hw : w ∈ settings)
    (hw' : w' ∈ settings) {desc : Bool}
    (hitems : ((w'.db.table w'.place).items ev.collation s).1 =
      .ok (contracted (some (declaredClaim ev.collation column desc))
        (Kept.sortRows ev.collation column desc rows)))
    (hfresh : Fresh {} (Kept.sortRows ev.collation column desc rows)) {named : Collation}
    (hactive : Collation.ofName ev.collation.name = .ok named) (hcolumn : column ≠ "")
    (hterms : SortTerm.resolveAll s.columns s.orderBy = .ok [t]) {written : String}
    (ht : t.expression = .column written) (hlast : Expr.lastPart written = column)
    (hdesc : t.desc = desc) {keep : Row → Bool}
    (hkeep : ∀ r ∈ rows, said w (ev.holds r.columns [1] s.condition) = .ok (keep r)) :
    (((host name ev).results s).run (startOf w')).1 =
      answered (fun r => said w ((host name ev).project s r))
        (begun (said w ((host name ev).clause "LIMIT" [3] s.limit))
          (said w ((host name ev).clause "OFFSET" [4] s.offset))
          (SortTerm.resolveAll s.columns s.orderBy) fun _ offset limit =>
            .ok (cutOut offset limit
              (sortedRows ev.collation (columnKey column) [t] (rows.filter keep)))) := by
  have hmem : ∀ r ∈ Kept.sortRows ev.collation column desc rows, r ∈ rows := by
    rw [Kept.sortRows_eq ev.collation column hdesc]
    exact fun r hr => (isStableSort_sortedRows _ _ _ rows).perm.mem_iff.mp hr
  -- The plan trusts no condition, so that the verdict on a row is what its condition says.
  have hv : ∀ terms o l p,
      (host name ev).planned terms (some (declaredClaim ev.collation column desc)) o l = .ok p →
        (host name ev).Verdicts (Coming w'.db w'.place good) p.trusted s
          (Kept.sortRows ev.collation column desc rows) fun r => .ok (keep r) := by
    intro terms o l p hp r hr
    obtain ⟨q, hq, htrusted, -⟩ :=
      planned_declared (h := host name ev) hactive hcolumn desc terms o l
    obtain rfl := Except.ok.inj (hq.symm.trans hp)
    have hsettles : Settles (Amid w'.db w'.place good) (ev.holds r.columns [1] s.condition)
        (said w (ev.holds r.columns [1] s.condition)) :=
      settles_said hgood hw hw' ((host_guidedIn name hev).steady_holds r.columns)
    rw [hkeep r (hmem r hr)] at hsettles
    rw [htrusted]
    exact settles_coming hsettles
  refine (answered_carriedOut name hgood hev hw hw' hitems hfresh hv).2.trans
    (congrArg _ (begun_congr fun l o terms _ _ hresolved => ?_))
  obtain rfl := Except.ok.inj (hterms.symm.trans hresolved)
  obtain ⟨p, hp, -, hoffset, hlimit⟩ :=
    planned_declared (h := host name ev) hactive hcolumn desc [t] (toSkip o) (atMost l)
  have hsorted : said w ((host name ev).sortRows [t]
      (sortedRows ev.collation (columnKey column) [t] (rows.filter keep))) = .ok _ :=
    said_sortRows_sorted name ht hlast (rows.filter keep)
  rw [show (host name ev).planned [t] (some (declaredClaim ev.collation column desc)) (toSkip o)
    (atMost l) = .ok p from hp, filter_sortRows hdesc, ← hoffset, ← hlimit]
  show carriedOut p (said w ((host name ev).sortRows [t] _)) _ = _
  -- Streamed rows come in order already; gathered ones are sorted again, which changes nothing.
  rw [hsorted, carriedOut]
  cases p.strategy <;> rfl

/-- **A declared order never changes a result.** -/
theorem results_presorted (name : String) (hev : DependableIn ev [w, w'] s)
    (hids : ∀ r ∈ rows, r.id.isIdentity = true) {desc : Bool}
    (hplain : (w.db.table w.place).content = .kept (Kept.ofRows rows))
    (hdeclared : (w'.db.table w'.place).content = .kept (Kept.ofRows rows (some column) desc))
    (hcolumn : column ≠ "") (hdot : '.' ∉ column.toList) {named : Collation}
    (hactive : Collation.ofName ev.collation.name = .ok named)
    (horder : s.orderBy = [.mk (.column column) desc])
    (hnames : Select.NamesColumn s.columns column) {results : List Record}
    (hresults : (((host name ev).results s).run (startOf w)).1 = (results, none)) :
    (((host name ev).results s).run (startOf w')).1 = (results, none) := by
  obtain ⟨good, hgood, hanswers⟩ := hev
  have hw : w ∈ [w, w'] := List.mem_cons_self
  have hw' : w' ∈ [w, w'] := List.mem_cons_of_mem w List.mem_cons_self
  obtain ⟨t, written, hterms, ht, hlast, hdesc⟩ :
      ∃ t written, SortTerm.resolveAll s.columns s.orderBy = .ok [t] ∧
        t.expression = .column written ∧ Expr.lastPart written = column ∧ t.desc = desc := by
    rw [horder]
    exact SortTerm.resolveAll_column hdot hnames
  have hitems := Kept.items_of_current (Kept.current_ofRows rows none false) hplain ev.collation s
  have hitems' := Kept.items_of_current (Kept.current_ofRows rows (some column) desc) hdeclared
    ev.collation s
  have hidentity := Kept.identity_ofRows rows none false hids
  have hdistinct := Kept.distinct_ofRows rows none false
  have hperm : (Kept.sortRows ev.collation column desc (Kept.ofRows rows).rows).Perm
      (Kept.ofRows rows).rows :=
    Kept.ordered_perm (Kept.ofRows rows (some column) desc) ev.collation
  have hfresh' : Fresh {} (Kept.sortRows ev.collation column desc (Kept.ofRows rows).rows) :=
    fresh_of_distinct (fun r hr => hidentity r (hperm.mem_iff.mp hr))
      (hperm.symm.pairwise hdistinct fun {a b} hab => (Value.same_comm b.id a.id).trans hab)
  rw [results_unclaimed name hgood hanswers hw hitems (fresh_of_distinct hidentity hdistinct) hterms
    ht hlast] at hresults
  -- An answer without a failure means that there was a verdict on every row.
  rcases hbegun : begun (said w ((host name ev).clause "LIMIT" [3] s.limit))
    (said w ((host name ev).clause "OFFSET" [4] s.offset))
    (SortTerm.resolveAll s.columns s.orderBy) _ with e | left
  · rw [hbegun] at hresults
    cases hresults
  · obtain ⟨l, o, _, hl, ho, -, hgathered⟩ := of_begun_eq_ok hbegun
    obtain ⟨keep, hkeep, hleft⟩ := of_gathered_eq_ok hgathered
    rw [results_declared name hgood hanswers hw hw' hitems' hfresh' hactive hcolumn hterms ht hlast
      hdesc hkeep, hl, ho, hterms]
    rw [hbegun, hleft] at hresults
    exact hresults

end

/-! ## §D — a query whose subquery reads the same table -/

/-- Two rows, the greater value first. -/
def fallingRows : List Row := [⟨.int 0, [(.name "a", .int 2)]⟩, ⟨.int 1, [(.name "a", .int 1)]⟩]

/-- A table of the two rows, which may be declared to be sorted. -/
def fallingSetting (sortedBy : Option String) : Setting where
  db := { tables := [{ content := .kept (Kept.ofRows fallingRows sortedBy) }], names := [("t", 0)] }

/-- `SELECT a FROM t ORDER BY a`. -/
def risingValues : Select :=
  .mk "t" [.mk (.column "a") none "a"] none [.mk (.column "a") false] none none

theorem results_risingValues :
    (((host "t" {}).results risingValues).run (startOf (fallingSetting none))).1 =
        ([[(.name "a", .int 1)], [(.name "a", .int 2)]], none) ∧
      (((host "t" {}).results risingValues).run (startOf (fallingSetting (some "a")))).1 =
        ([[(.name "a", .int 1)], [(.name "a", .int 2)]], none) := by
  have hplain : (((host "t" {}).results risingValues).run (startOf (fallingSetting none))).1 =
      ([[(.name "a", .int 1)], [(.name "a", .int 2)]], none) := by cbv
  have hnames : Select.NamesColumn risingValues.columns "a" := by
    rintro c hc - -
    obtain rfl := List.mem_singleton.mp hc
    exact ⟨"a", rfl, by decide +kernel⟩
  have hbinary : Collation.ofName Collation.binary.name = .ok .binary := rfl
  exact ⟨hplain, results_presorted "t" (dependableIn_alone .none .binary _ _) (by decide +kernel) rfl
    rfl (by decide) (by decide +kernel) hbinary rfl hnames hplain⟩

/-- `SELECT a FROM t LIMIT 1`. -/
def firstValue : Select :=
  .mk "t" [.mk (.column "a") none "a"] none [] (some (.literal (.int 1))) none

/-- `SELECT a FROM t WHERE a IN (SELECT a FROM t LIMIT 1) ORDER BY a`. -/
def inFirst : Select :=
  .mk "t" [.mk (.column "a") none "a"] (some (.member (.column "a") [] (some firstValue) false))
    [.mk (.column "a") false] none none

/-- The evaluator of the query. -/
def inFirstEvaluator : Evaluator Running :=
  evaluator (subqueries (.statement (.select inFirst))) .binary

theorem dependableIn_inFirst (sortedBy : Option String) :
    DependableIn inFirstEvaluator [fallingSetting sortedBy] inFirst :=
  dependableIn_database (.statement (.select inFirst)) .binary (fallingSetting sortedBy).db [0] inFirst

theorem sortRows_fallingRows :
    Kept.sortRows .binary "a" false (Kept.ofRows fallingRows).rows = fallingRows.reverse := by
  cbv

theorem items_falling (s : Select) : (((fallingSetting (some "a")).db.table 0).items .binary s).1 =
    .ok (contracted (some (declaredClaim .binary "a" false)) fallingRows.reverse) := by
  have hcurrent := Kept.current_ofRows fallingRows (some "a") false
  have hitems := Kept.items_of_current hcurrent
    (rfl : ((fallingSetting (some "a")).db.table 0).content = _) .binary s
  rw [hitems]
  show Except.ok (contracted (some (declaredClaim .binary "a" false))
    (Kept.sortRows .binary "a" false (Kept.ofRows fallingRows).rows)) = _
  rw [sortRows_fallingRows]

theorem items_plain (s : Select) : (((fallingSetting none).db.table 0).items .binary s).1 =
    .ok (contracted none fallingRows) :=
  Kept.items_of_current (Kept.current_ofRows fallingRows none false) rfl .binary s

/-- Membership in what a subquery answers. -/
theorem said_member {ev : Evaluator Running} {w : Setting} {row : Record} {column : String}
    {q : Select} {values : List Value} {b : Bool}
    (hvalues : said w (ev.members [1, 1] q) = .ok values)
    (hrow : (row.column (Expr.lastPart column)).isNull = false)
    (hb : (row.column (Expr.lastPart column)).memberOf values = .ok b) :
    said w (ev.holds row [1] (some (.member (.column column) [] (some q) false))) = .ok b := by
  unfold said at *
  rcases hmembers : (ev.members [1, 1] q).outcome (startOf w) with ⟨answer, r⟩
  rw [hmembers] at hvalues
  obtain rfl : answer = .ok values := hvalues
  rw [Evaluator.holds, Evaluator.condition, Evaluation.memberTest, Evaluator.value,
    StateT.run_bind]
  simp only [StateT.run_pure, pure_bind, hrow, Bool.false_eq_true, if_false, StateT.run_bind,
    Evaluator.valuesOf, StateT.run_lift, bind_assoc, outcome_bind, hmembers, resume_ok, hb]
  cases b <;> rfl

/-- Over the rows in their order the subquery answers the smaller value. -/
theorem outcome_firstValue (depth : Nat) :
    ((resultsTo (depth + 1) firstValue).outcome (fallingSetting (some "a")).db).1 =
      .ok [[(.name "a", .int 1)]] := by
  have hev : (evaluator (resultsTo depth) .binary).Answers
      (AmidOne [fallingSetting (some "a")] fun _ => True) firstValue.subqueries :=
    fun _ h => absurd h List.not_mem_nil
  have hfresh : Fresh {} fallingRows.reverse :=
    fresh_of_distinct (by decide +kernel) (by decide +kernel)
  have hanswered := (answered_carriedOut "t" trivial hev List.mem_cons_self List.mem_cons_self
    (items_falling firstValue) hfresh fun _ _ _ p _ r _ items =>
      (by rcases p.trusted <;> exact leads_pure true)).2
  rcases hrun : ((host "t" (evaluator (resultsTo depth) .binary)).results firstValue).run
    (startOf (fallingSetting (some "a"))) with ⟨result, r⟩
  rw [hrun] at hanswered
  have hfind : (fallingSetting (some "a")).db.find firstValue.table = .ok 0 := rfl
  have hby := outcome_resultsBy hfind hrun
  rw [resultsTo, hby, show result = _ from hanswered]
  rfl

/-- That value is remembered of it. -/
theorem said_firstValue (depth : Nat) :
    said (fallingSetting (some "a"))
      ((evaluator (resultsTo (depth + 1)) .binary).members [1, 1] firstValue) = .ok [.int 1] := by
  have hunknown : (startOf (fallingSetting (some "a"))).deferred [1, 1] firstValue =
      { column := contributing firstValue } := rfl
  have hfirst := outcome_firstValue depth
  rcases hrun : (resultsTo (depth + 1) firstValue).outcome (fallingSetting (some "a")).db
    with ⟨answer, db⟩
  rw [hrun] at hfirst
  obtain rfl : answer = _ := hfirst
  have hdb : (startOf (fallingSetting (some "a"))).db = (fallingSetting (some "a")).db := rfl
  show ((members (resultsTo (depth + 1)) [1, 1] firstValue).outcome _).1 = _
  rw [outcome_members_unknown hunknown, hdb, hrun]
  rfl

/-- Over the rows in their order the smaller of the values is the first. -/
theorem said_inFirst (r : Row) (hr : r ∈ fallingRows) :
    said (fallingSetting (some "a")) (inFirstEvaluator.holds r.columns [1] inFirst.condition) =
      .ok (r.id.same (.int 1)) := by
  simp only [fallingRows, List.mem_cons, List.not_mem_nil, or_false] at hr
  rcases hr with rfl | rfl
  · exact said_member (said_firstValue _) rfl rfl
  · exact said_member (said_firstValue _) rfl rfl

/-- **Each order of the table has its own first value**, and with it other rows satisfy the
condition. -/
theorem results_inFirst :
    (((host "t" inFirstEvaluator).results inFirst).run (startOf (fallingSetting none))).1 =
        ([[(.name "a", .int 2)]], none) ∧
      (((host "t" inFirstEvaluator).results inFirst).run (startOf (fallingSetting (some "a")))).1 =
        ([[(.name "a", .int 1)]], none) := by
  have hterms : SortTerm.resolveAll inFirst.columns inFirst.orderBy =
      .ok [⟨.column "a", false, [0, 2]⟩] := rfl
  have hlast : Expr.lastPart "a" = "a" := by decide +kernel
  have hsorted (r : Row) :
      sortedRows .binary (columnKey "a") [⟨.column "a", false, [0, 2]⟩] [r] = [r] :=
    sortedRows_of_pairwise _ _ (List.pairwise_singleton ..)
  constructor
  -- In the order of its rows the table has the value two first.
  · obtain ⟨good, hgood, hev⟩ := dependableIn_inFirst none
    have hresults := results_unclaimed "t" hgood hev List.mem_cons_self (items_plain inFirst)
      (fresh_of_distinct (by decide +kernel) (by decide +kernel)) hterms rfl hlast
    have hsift : sift (fun r => said (fallingSetting none)
        (inFirstEvaluator.holds r.columns [1] inFirst.condition)) fallingRows =
          .ok [⟨.int 0, [(.name "a", .int 2)]⟩] := rfl
    simp only [gathered, hsift] at hresults
    refine hresults.trans
      ((?_ : answered _ (.ok (cutOut 0 none (sortedRows _ _ _ _))) = _).trans rfl)
    exact congrArg (fun left => answered _ (.ok (cutOut 0 none left))) (hsorted _)
  -- Sorted by its column it has the value one first.
  · obtain ⟨good, hgood, hev⟩ := dependableIn_inFirst (some "a")
    have hitems := items_falling inFirst
    rw [← sortRows_fallingRows] at hitems
    have hfresh : Fresh {} (Kept.sortRows .binary "a" false (Kept.ofRows fallingRows).rows) := by
      rw [sortRows_fallingRows]
      exact fresh_of_distinct (by decide +kernel) (by decide +kernel)
    have hbinary : Collation.ofName Collation.binary.name = .ok .binary := rfl
    have hresults := results_declared "t" hgood hev List.mem_cons_self List.mem_cons_self hitems
      hfresh hbinary (by decide) hterms rfl hlast rfl said_inFirst
    have hkept : (Kept.ofRows fallingRows).rows.filter (fun r => r.id.same (.int 1)) =
      [⟨.int 1, [(.name "a", .int 1)]⟩] := rfl
    rw [hkept] at hresults
    refine hresults.trans
      ((?_ : answered _ (.ok (cutOut 0 none (sortedRows _ _ _ _))) = _).trans rfl)
    exact congrArg (fun left => answered _ (.ok (cutOut 0 none left))) (hsorted _)

end Running
end TableQuery
