/-
# TableQuery.Proofs.Database.Naming — what is written under a name is read under it.

An INSERT and an UPDATE take the name of a column as it is written between quotes, an expression takes
the part behind its last dot.  So whatever is written under a name without dots is read under this
name wherever a query has it, by the select list, by the condition and by the order
(`written_isRead`); and what is written under a name with a dot is not (`written_partedName`).

Over a kept table a query without LIMIT and OFFSET comes to the rows on which its condition holds, in
the order of the table or in the order asked for.

## §A — results over a kept table.
## §B — queries for a column.
## §C — an INSERT of one column.
## §D — an UPDATE of one column.
## §E — writing and reading.
-/
import TableQuery.Proofs.Database.Inserting
import TableQuery.Proofs.Database.Presorting
import TableQuery.Proofs.Database.Recording
import TableQuery.Proofs.Sql.Naming

namespace TableQuery

open Run Running Host

/-! ## §A — results over a kept table -/

namespace Running

open Database

section
variable {db : Database} {place : Nat} {k : Kept} {name : String} {ev : Evaluator Running} {s : Select}

/-- Rows each of which can be shown are shown one by one. -/
theorem shownRows_map {α : Type} (f : Row → α) (rows : List Row) :
    shownRows (fun r => .ok (f r)) rows = (rows.map f, none) := by
  induction rows with
  | nil => rfl
  | cons r rows ih => rw [shownRows, ih, List.map_cons]

/-- A kept table is never trusted with the condition. -/
theorem trusted_of_planned {h : Host Running} {c : Collation} {terms : List SortTerm} {offset : Nat}
    {limit : Option Nat} {p : Plan}
    (hp : h.planned terms (k.claim? c) offset limit = .ok p) : p.trusted = false := by
  have hskipped : (k.claim? c).bind Claim.skippedCount = none := by
    rw [Kept.claim?]
    cases k.sortedBy <;> rfl
  rw [planned] at hp
  split at hp
  · cases hp
  · rw [Plan.make, hskipped] at hp
    rcases hchoice : Plan.choose h.evaluator.collation terms (k.claim? c) with e | choice
    · rw [hchoice] at hp
      cases hp
    · rw [hchoice] at hp
      obtain rfl := Except.ok.inj hp
      rfl

/-- **A SELECT over a kept table**, without OFFSET and LIMIT, answers what its plan leaves of the rows
on which its condition holds. -/
theorem results_kept (hev : DependableIn ev [⟨db, place⟩] s)
    (hk : (db.table place).content = .kept k) (hvalid : k.Valid)
    (hlimit : s.limit = none) (hoffset : s.offset = none) {keep : Row → Bool}
    (hkeep : ∀ r : Row, ev.holds r.columns [1] s.condition = pure (keep r))
    {terms : List SortTerm} (hterms : SortTerm.resolveAll s.columns s.orderBy = .ok terms) {p : Plan}
    (hp : (host name ev).planned terms (k.claim? ev.collation) 0 none = .ok p) {left : List Row}
    (hleft : carriedOut p (said ⟨db, place⟩ ((host name ev).sortRows terms
      ((k.ordered ev.collation).filter keep))) ((k.ordered ev.collation).filter keep) = .ok left)
    {shown : Row → Record} (hshown : ∀ r, (host name ev).project s r = pure (shown r)) :
    (((host name ev).results s).run { db, place }).1 = (left.map shown, none) := by
  obtain ⟨good, hgood, hanswers⟩ := hev
  have hw : (⟨db, place⟩ : Setting) ∈ [(⟨db, place⟩ : Setting)] := List.mem_singleton_self _
  have hverdicts : ∀ terms offset limit p,
      (host name ev).planned terms (k.claim? ev.collation) offset limit = .ok p →
        (host name ev).Verdicts (Coming db place good) p.trusted s (k.ordered ev.collation)
          fun r => .ok (keep r) := by
    intro terms offset limit p hp r _ items
    rw [trusted_of_planned hp, Host.admits, if_neg Bool.false_ne_true]
    have hholds : (host name ev).evaluator.holds r.columns [1] s.condition = pure (keep r) := hkeep r
    rw [hholds]
    exact leads_pure _
  have hanswered := (answered_carriedOut name hgood hanswers hw hw
    (hvalid.items hk ev.collation s) (fresh_ordered hvalid ev.collation) hverdicts).2
  have hclause (keyword : String) (at_ : Place) :
      said ⟨db, place⟩ ((host name ev).clause keyword at_ none) = .ok none := rfl
  have hgiven : (do
      let p ← (host name ev).planned terms (k.claim? ev.collation) 0 none
      carriedOut p (said ⟨db, place⟩ ((host name ev).sortRows terms
        ((k.ordered ev.collation).filter keep))) ((k.ordered ev.collation).filter keep)) =
        .ok left := by
    rw [hp]
    exact hleft
  have hproject : (fun r => said ⟨db, place⟩ ((host name ev).project s r)) =
      fun r => .ok (shown r) := by
    funext r
    rw [hshown]
    rfl
  -- Both clauses are absent, so that the plan skips nothing and has no limit.
  rw [hlimit, hoffset, hclause, hclause, hterms, hproject] at hanswered
  refine hanswered.trans (Eq.trans ?_ (shownRows_map shown left))
  exact congrArg (answered fun r => .ok (shown r)) hgiven

/-- What a kept table claims is in no way wrong, if its declared order names a column. -/
theorem fault_claim? (hdeclared : k.sortedBy ≠ some "") (c : Collation) :
    (k.claim? c).bind (·.faultFor? 0) = none := by
  rw [Kept.claim?]
  rcases hsorted : k.sortedBy with _ | column
  · rfl
  · have hcolumn : column ≠ "" := by
      rintro rfl
      exact hdeclared hsorted
    simp [Claim.faultFor?, Claim.fault?, Claim.skippedCount, hcolumn]

/-- Without an order asked for the rows are streamed. -/
theorem planned_unordered (name : String) (ev : Evaluator Running) (hdeclared : k.sortedBy ≠ some "") :
    ∃ p, (host name ev).planned [] (k.claim? ev.collation) 0 none = .ok p ∧
      ∀ sorted rows, carriedOut p sorted rows = .ok rows := by
  have hskipped : (k.claim? ev.collation).bind Claim.skippedCount = none := by
    rw [Kept.claim?]
    cases k.sortedBy <;> rfl
  refine ⟨⟨.stream, "no ORDER BY", k.claim? ev.collation, false, 0, none⟩, ?_, fun sorted rows => rfl⟩
  rw [planned, fault_claim? hdeclared, Plan.make, hskipped]
  rfl

end
end Running

namespace Database

open Sql

section
variable {db : Database} {place : Nat} {k : Kept} {column : String}

/-! ## §B — queries for a column -/

/-- A column whose name has no dot has on every row the value under that name. -/
theorem evaluate_column {σ : Type} (ev : Evaluator σ) (hdot : '.' ∉ column.toList) (row : Record)
    (at_ : Place) : ev.evaluate row at_ (.column column) = pure (row.column column) := by
  rw [Evaluator.evaluate, Evaluator.value, Expr.lastPart_eq hdot]
  rfl

/-- A SELECT of one column shows the column. -/
theorem project_column (name : String) (ev : Evaluator Running) (condition : Option Expr)
    (order : List OrderTerm) (hdot : '.' ∉ column.toList) (r : Row) :
    (Running.host name ev).project
      (.mk "t" [.mk (.column column) none column] condition order none none) r =
        pure [(.name column, r.columns.column column)] := by
  have hvalue : (Running.host name ev).evaluator.evaluate r.columns [0, 0] (.column column) =
      pure (r.columns.column column) := evaluate_column _ hdot _ _
  rw [Host.project, Select.columns, Host.projectFrom]
  show ((Running.host name ev).evaluator.evaluate r.columns [0, 0] (.column column) >>= fun v =>
    (Running.host name ev).projectFrom r 1 [] (Record.set [] (.name column) v)) = _
  rw [hvalue]
  rfl

/-- A query answers the results of its SELECT, where they come to their end. -/
theorem answer_of_results {sql : String} {s : Select}
    (hread : Statement.ofText sql = .ok (.select s)) {params : Parameters}
    (hbind : s.bind params = s) (hfind : db.find s.table = .ok place) {rows : List Record}
    (hresults : (((Running.host s.table (evaluator (subqueries (.statement (.select s)))
      (collationOf db place))).results s).run { db, place }).1 = (rows, none)) :
    ((queryAll sql params).outcome db).1 = .ok rows := by
  rw [answer_queryAll hread, hbind]
  rcases hrun : ((Running.host s.table (evaluator (subqueries (.statement (.select s)))
    (collationOf db place))).results s).run { db, place } with ⟨out, r⟩
  rw [hrun] at hresults
  obtain rfl : out = (rows, none) := hresults
  rw [outcome_resultsBy hfind hrun]
  rfl

/-- The result row of a query for a column. -/
def shownColumn (column : String) (r : Row) : Record := [(.name column, r.columns.column column)]

/-- **The select list** shows the column of every row. -/
theorem answer_listing (hfind : db.find "t" = .ok place) (hk : (db.table place).content = .kept k)
    (hvalid : k.Valid) (hdeclared : k.sortedBy ≠ some "") (hdot : '.' ∉ column.toList)
    (params : Parameters) :
    ((queryAll ("SELECT " ++ identifier column ++ " FROM t") params).outcome db).1 =
      .ok ((k.ordered (collationOf db place)).map (shownColumn column)) := by
  let ev := evaluator (subqueries (.statement (.select (selectColumn column)))) (collationOf db place)
  obtain ⟨p, hp, hcarried⟩ := planned_unordered "t" ev hdeclared
  have hev : DependableIn ev [⟨db, place⟩] (selectColumn column) :=
    dependableIn_database (.statement (.select (selectColumn column))) (collationOf db place) db [place]
      (selectColumn column)
  have hall (r : Row) : ev.holds r.columns [1] (selectColumn column).condition = pure true := rfl
  have hresults := results_kept hev hk hvalid rfl rfl hall rfl hp (hcarried _ _)
    (fun r => project_column "t" ev none [] hdot r)
  rw [List.filter_eq_self.mpr fun _ _ => rfl] at hresults
  exact answer_of_results (Statement.ofText_selectNamed hdot) rfl hfind hresults

/-- What is asked for in the order that a kept table claims is read in this order. -/
theorem pairwise_ordered {c : Collation} {t : SortTerm} {claim : Claim} (hclaim : claim ∈ k.claim? c)
    {written : String} (hmatches : claim.Matches c t written) (hlast : Expr.lastPart written = column) :
    (k.ordered c).Pairwise (rowLE c (columnKey column) [t] · ·) := by
  rcases hsorted : k.sortedBy with _ | declared
  · rw [Kept.claim?, hsorted] at hclaim
    cases hclaim
  · rw [Kept.claim?, hsorted] at hclaim
    obtain rfl := Option.some.inj hclaim
    obtain rfl : declared = column := hmatches.column.symm.trans hlast
    have hdirected : k.desc = t.desc := by
      have hsame := hmatches.directed
      rcases k with ⟨rows, removed, nextId, sortedBy, desc⟩
      cases desc <;> cases hdesc : t.desc <;> rw [hdesc] at hsame <;> first | rfl | cases hsame
    rw [Kept.ordered, hsorted]
    dsimp only
    rw [Kept.sortRows_eq c declared hdirected.symm]
    exact (isStableSort_sortedRows c (columnKey declared) [t] k.rows).sorted

/-- **The condition and the order** read the column of every row: those that have a value in it are
left, in the order of these values. -/
theorem answer_sorting (hfind : db.find "t" = .ok place) (hk : (db.table place).content = .kept k)
    (hvalid : k.Valid) (hdeclared : k.sortedBy ≠ some "") (hdot : '.' ∉ column.toList)
    {named : Collation} (hactive : Collation.ofName (collationOf db place).name = .ok named)
    (params : Parameters) :
    ∃ t : SortTerm, t.desc = false ∧
      ((queryAll ("SELECT " ++ identifier column ++ " FROM t WHERE " ++ identifier column ++
          " IS NOT NULL ORDER BY " ++ identifier column) params).outcome db).1 =
        .ok ((sortedRows (collationOf db place) (columnKey column) [t]
          ((k.ordered (collationOf db place)).filter fun r => !(r.columns.column column).isNull)).map
            (shownColumn column)) := by
  let s := selectSorted column
  let ev := evaluator (subqueries (.statement (.select s))) (collationOf db place)
  have hunnamed : Select.NamesColumn s.columns column := by
    intro c hc halias
    obtain rfl := List.mem_singleton.mp hc
    cases halias
  obtain ⟨t, written, hterms, ht, hwritten, hdesc⟩ :
      ∃ t written, SortTerm.resolveAll s.columns s.orderBy = .ok [t] ∧
        t.expression = .column written ∧ Expr.lastPart written = column ∧ t.desc = false :=
    SortTerm.resolveAll_column hdot hunnamed
  -- What the table declares names a column and the collation that is active.
  have hsound : ∀ claim ∈ k.claim? (collationOf db place), claim.Sound := by
    intro claim hclaim
    rcases hsorted : k.sortedBy with _ | declared
    · rw [Kept.claim?, hsorted] at hclaim
      cases hclaim
    · rw [Kept.claim?, hsorted] at hclaim
      obtain rfl := Option.some.inj hclaim
      refine sound_declaredClaim hactive ?_ k.desc
      rintro rfl
      exact hdeclared hsorted
  obtain ⟨p, hp, -, hoffset, hlimit, hstream⟩ :=
    planned_of_sound (h := Running.host "t" ev) hactive [t] hsound 0 none
  have hkeep (r : Row) : ev.holds r.columns [1] s.condition =
      pure (!(r.columns.column column).isNull) := by
    show ev.holds r.columns [1] (some (.isNull (.column column) true)) = _
    rw [Evaluator.holds, Evaluator.condition, Evaluation.nullTest, Evaluator.value,
      Expr.lastPart_eq hdot]
    simp only [pure_bind, StateT.run_pure, Bool.bne_true]
  let admitted := (k.ordered (collationOf db place)).filter fun r => !(r.columns.column column).isNull
  -- The keys are read off the rows, so that sorting them asks the database nothing.
  have hsorted : Settles (fun (_ : Unit) (r : Running) => r = startOf ⟨db, place⟩)
      ((Running.host "t" ev).sortRows [t] admitted)
      (.ok (sortedRows ev.collation (columnKey column) [t] admitted)) :=
    settles_sortRows "t" ht hwritten admitted
  have hsaid := (hsorted () _ rfl).1
  refine ⟨t, hdesc, answer_of_results (Statement.ofText_sortNamed hdot) rfl hfind ?_⟩
  refine results_kept (dependableIn_database (.statement (.select s)) (collationOf db place) db [place] s)
    hk hvalid rfl rfl hkeep hterms hp ?_ (fun r => project_column "t" ev _ _ hdot r)
  rw [carriedOut, hoffset, hlimit]
  rcases hstrategy : p.strategy with _ | _
  · -- Streaming is chosen only where the rows come in order already.
    obtain ⟨claim, hclaim, t', name, hterm, hmatches⟩ :=
      (hstream hstrategy).resolve_left (List.cons_ne_nil t [])
    obtain rfl := (List.cons.inj hterm).1
    obtain rfl : written = name := by simpa [ht] using hmatches.expression
    have hpairs := (pairwise_ordered hclaim hmatches hwritten).filter
      fun r => !(r.columns.column column).isNull
    exact congrArg Except.ok (sortedRows_of_pairwise _ _ hpairs).symm
  · exact congrArg (· >>= fun rows => pure (cutOut 0 none rows)) hsaid

/-- **A column is read under its name** — the table keeps the rows of `k`, and wherever a query names the
column it has their values under that name: in the select list, in the condition, in the order, and
in any other expression. -/
structure ReadsColumn (db : Database) (place : Nat) (k : Kept) (column : String) : Prop where
  listed (params : Parameters) : ∃ rows : List Row, rows.Perm k.rows ∧
    ((queryAll ("SELECT " ++ identifier column ++ " FROM t") params).outcome db).1 =
      .ok (rows.map (shownColumn column))
  sorted {named : Collation} (hactive : Collation.ofName (collationOf db place).name = .ok named)
    (params : Parameters) : ∃ rows : List Row,
      rows.Perm (k.rows.filter fun r => !(r.columns.column column).isNull) ∧
      (rows.Pairwise fun a b =>
        (collationOf db place).compare (a.columns.column column) (b.columns.column column) ≠ .gt) ∧
      ((queryAll ("SELECT " ++ identifier column ++ " FROM t WHERE " ++ identifier column ++
        " IS NOT NULL ORDER BY " ++ identifier column) params).outcome db).1 =
          .ok (rows.map (shownColumn column))
  evaluated {σ : Type} (ev : Evaluator σ) (r : Row) (at_ : Place) :
    ev.evaluate r.columns at_ (.column column) = pure (r.columns.column column)

theorem readsColumn (hfind : db.find "t" = .ok place) (hk : (db.table place).content = .kept k)
    (hvalid : k.Valid) (hdeclared : k.sortedBy ≠ some "") (hdot : '.' ∉ column.toList) :
    db.ReadsColumn place k column where
  listed params :=
    ⟨_, k.ordered_perm _, answer_listing hfind hk hvalid hdeclared hdot params⟩
  sorted hactive params := by
    obtain ⟨t, hdesc, hanswer⟩ := answer_sorting hfind hk hvalid hdeclared hdot hactive params
    have hsort := isStableSort_sortedRows (collationOf db place) (columnKey column) [t]
      ((k.ordered (collationOf db place)).filter fun r => !(r.columns.column column).isNull)
    refine ⟨_, hsort.perm.trans ((k.ordered_perm _).filter _), hsort.sorted.imp ?_, hanswer⟩
    intro a b hab
    rw [rowLE_singleton, hdesc] at hab
    exact bne_iff_ne.mp hab
  evaluated ev r at_ := evaluate_column ev hdot r.columns at_

/-! ## §C — an INSERT of one column -/

/-- Carrying out a text is carrying out what it is read as. -/
theorem outcome_executeText {sql : String} {s : Statement} (hread : Statement.ofText sql = .ok s)
    (params : Parameters) (db : Database) :
    ∃ db₀, SameButTelemetry db db₀ ∧
      (executeText sql params).outcome db = (execute s params).outcome db₀ := by
  obtain ⟨db₀, hparse, hsame⟩ := outcome_parse sql db
  refine ⟨db₀, hsame, ?_⟩
  rw [executeText, outcome_bind, hparse, hread, resume_ok]

theorem SameButTelemetry.find {db' : Database} (h : SameButTelemetry db db') (name : String) :
    db'.find name = db.find name := by
  obtain ⟨telemetry, rfl⟩ := h
  rfl

/-- **The INSERT** answers that it has inserted one row, which comes last in the table and has the value
under the whole name. -/
theorem outcome_insertNamed (hfind : db.find "t" = .ok place)
    (hk : (db.table place).content = .kept k) (column : String) (v : Value) :
    ∃ db', (executeText ("INSERT INTO t (" ++ identifier column ++ ") VALUES (?)") (.list [v])).outcome
        db = (.ok 1, db') ∧ db'.names = db.names ∧
      (db'.table place).content = .kept (k.insert [(.name column, v)]).1 := by
  let i := insertOfMarkers "t" [column]
  let row : Record := [(.name column, v)]
  obtain ⟨db₀, hsame, htext⟩ :=
    outcome_executeText (Statement.ofText_insertNamed column) (.list [v]) db
  have hk₀ : (db₀.table place).content = .kept k := by rw [hsame.table, hk]
  have hfind₀ : db₀.find "t" = .ok place := by rw [hsame.find, hfind]
  obtain ⟨hinserted, hrow⟩ := withRow_eq hk₀ row
  -- Its one tuple is the value, and the row of that goes into the table.
  have hrows : (i.bind (.list [v])).rows = [[v].map .literal] := bind_insertOfMarkers "t" rfl
  obtain ⟨db₁, hinsert, hsame₁⟩ := outcome_insert (i.bind (.list [v])) place db₀
  have hcolumns : insertedRow (i.bind (.list [v])).columns [v] = row := rfl
  rw [hrows, outcome_insertRows_literals, hcolumns, hinserted] at hinsert hsame₁
  have hperform : (perform (.insert i) (.list [v])).outcome db₀ = (.ok 1, db₁) :=
    (outcome_perform (s := .insert i) hfind₀).trans hinsert
  obtain ⟨db', hexecute, hsame'⟩ := outcome_execute (s := .insert i) nofun hperform fun n hn => by
    obtain rfl := Except.ok.inj hn
    decide
  have hafter : SameButTelemetry (db₀.withRow place row) db' := hsame₁.trans hsame'
  refine ⟨db', htext.trans hexecute, ?_, ?_⟩
  · rw [hafter.names, names_withRow hk₀, hsame.names]
  · rw [hafter.table, table_withRow_self hk₀]
    rfl

/-! ## §D — an UPDATE of one column -/

/-- **Still valid** — what is at a place is a valid table, declared to be sorted as `k` is. -/
def StillValid (db : Database) (place : Nat) (k : Kept) : Prop :=
  ∃ k', (db.table place).content = .kept k' ∧ k'.Valid ∧ k'.sortedBy = k.sortedBy

/-- A change of the rows that match leaves a valid table, whatever it answers. -/
theorem stillValid_changeMatching (hk : (db.table place).content = .kept k) (hvalid : k.Valid)
    {db₀ : Database} (h : db.Alike () db₀) (s : Statement) (condition : Option Expr) (changes : Record) :
    ((changeMatching s place condition fun ids t => t.update ids changes).outcome db₀).2.StillValid
      place k := by
  have halike := alike_matchingIds h s place condition
  rw [changeMatching, outcome_bind]
  rcases hout : (matchingIds s place condition).outcome db₀ with ⟨e | ids, db₁⟩ <;>
    rw [hout] at halike
  · exact ⟨k, (congrArg (·.content) (halike.table hk)).trans hk, hvalid, rfl⟩
  · have htable : db₁.table place = db.table place := halike.table hk
    have hk₁ : (db₁.table place).content = .kept k := by rw [htable, hk]
    rw [resume_ok]
    split
    · exact ⟨k, hk₁, hvalid, rfl⟩
    · have hcontent : (((db₁.table place).update ids changes).2).content =
          .kept (k.update (ids.takeWhile Value.isIdentity) changes).1 := by
        rw [Table.update, hk₁]
        dsimp only [Table.keptChange]
        cases ids.find? (!Value.isIdentity ·) <;> rfl
      obtain ⟨hvalid', hsorted⟩ := hvalid.updated (ids.takeWhile Value.isIdentity) changes
      refine ⟨_, ?_, hvalid', hsorted⟩
      rw [outcome_onTable, table_setTable_self (lt_of_kept hk₁), hcontent]

/-- So does an UPDATE. -/
theorem stillValid_update (hk : (db.table place).content = .kept k) (hvalid : k.Valid) (u : Update) :
    ((update u place).outcome db).2.StillValid place k := by
  rcases update_cases db u place with ⟨values, -, -, db₀, halike, hrest⟩ | ⟨-, e, db', hfailed, halike⟩
  · rw [hrest]
    exact stillValid_changeMatching hk hvalid halike _ _ _
  · rw [hfailed]
    exact ⟨k, (congrArg (·.content) (halike.table hk)).trans hk, hvalid, rfl⟩

/-- Verdicts are the same in databases that are alike. -/
theorem Alike.verdict {db₀ : Database} (h : db.Alike () db₀) (s : Statement) (place : Nat)
    (condition : Option Expr) (r : Row) :
    db₀.verdict s place condition r = db.verdict s place condition r := by
  have hsettles := ((scan_guided db s place condition).steady_holds r.columns).settles
    (scan_start (alike_self db) s place condition)
  rw [Database.verdict, h.evaluatorFor]
  exact (hsettles .closed _ (scan_start h s place condition)).1

/-- **What an UPDATE of one column writes**: the rows on which the condition holds have the value under
the whole name, everything else of them is as it was, and so are the other rows. -/
def Writes (column : String) (v : Value) (keep : Row → Bool) (r r' : Row) : Prop :=
  r'.id = r.id ∧ (keep r = false → r' = r) ∧
    (keep r = true → r'.columns.column column = v ∧
      ∀ key, key ≠ .name column → r'.columns.get? key = r.columns.get? key)

theorem forall₂_writes (column : String) (v : Value) (keep : Row → Bool) (rows : List Row) :
    List.Forall₂ (Writes column v keep) rows
      (updatePass (Record.ofPairs [(.name column, v)]) keep rows) := by
  refine (forall₂_updatePass [(.name column, v)] keep rows).imp fun {r r'} ⟨hid, hleft, hwritten⟩ =>
    ⟨hid, hleft, fun hkeep => ⟨?_, fun key hkey => ?_⟩⟩
  · rw [Record.column, hwritten hkeep, Record.last?_cons, if_pos rfl]
    rfl
  · rw [hwritten hkeep, Record.last?_cons, if_neg (Ne.symm hkey)]
    rfl

/-- **The UPDATE** that answers has counted the rows on which its condition holds and has written the
value into them. -/
theorem outcome_updateNamed (hfind : db.find "t" = .ok place)
    (hk : (db.table place).content = .kept k) (hvalid : k.Valid) (column : String) (v : Value)
    {w : String} {e : Expr} (hw : IsCondition w e) {more : List Value} {n : Int} {db' : Database}
    (h : (executeText ("UPDATE t SET " ++ identifier column ++ " = ? WHERE " ++ w)
      (.list (v :: more))).outcome db = (.ok n, db')) :
    ∃ k' keep, (db'.table place).content = .kept k' ∧ k'.Valid ∧ k'.sortedBy = k.sortedBy ∧
      (∀ r ∈ k.rows, db.verdict ((Statement.update (updateOfMarker column e)).bind (.list (v :: more)))
        place ((updateOfMarker column e).bind (.list (v :: more))).condition r = .ok (keep r)) ∧
      n = (k.rows.filter keep).length ∧ List.Forall₂ (Writes column v keep) k.rows k'.rows ∧
      db'.names = db.names := by
  let u := (updateOfMarker column e).bind (.list (v :: more))
  obtain ⟨db₀, hsame, htext⟩ :=
    outcome_executeText (Statement.ofText_updateNamed column hw) (.list (v :: more)) db
  rw [htext] at h
  have hfind₀ : db₀.find "t" = .ok place := by rw [hsame.find, hfind]
  have hk₀ : (db₀.table place).content = .kept k := by rw [hsame.table, hk]
  have hperform : (perform (.update (updateOfMarker column e)) (.list (v :: more))).outcome db₀ =
      (update u place).outcome db₀ := outcome_perform (s := .update (updateOfMarker column e)) hfind₀
  have hsame' : SameButTelemetry
      ((perform (.update (updateOfMarker column e)) (.list (v :: more))).outcome db₀).2
      ((execute (.update (updateOfMarker column e)) (.list (v :: more))).outcome db₀).2 :=
    sameButTelemetry_execute nofun
  rw [h, hperform] at hsame'
  have hstill := stillValid_update hk₀ hvalid u
  have hupdate := update_comes hk₀ hvalid u
  -- An update that fails would have made the execution fail, and this one answers.
  rcases hout : (update u place).outcome db₀ with ⟨fault | m, db₁⟩
  · obtain ⟨db₂, hexecute, -⟩ := outcome_execute (s := .update (updateOfMarker column e)) nofun
      (hperform.trans hout) nofun
    rw [hexecute] at h
    cases h
  · rw [hout] at hstill hsame' hupdate
    obtain ⟨values, hassigns, keep, hkeep, rfl, hrows, hnames, -⟩ :=
      hupdate.resolve_left (by rintro ⟨fault, db₂, hfailed, -⟩; cases hfailed)
    obtain ⟨db₂, hexecute, -⟩ := outcome_execute (s := .update (updateOfMarker column e)) nofun
      (hperform.trans hout) fun n hn => by
        obtain rfl := Except.ok.inj hn
        exact Int.natCast_nonneg _
    obtain ⟨k', hk', hvalid', hsorted⟩ := hstill
    -- The one assignment is of a parameter, whose value is the one that is given.
    obtain rfl : values = [v] := by
      obtain ⟨x, rfl⟩ := List.length_eq_one_iff.mp hassigns.length
      have hvalue := hassigns.value 0 (column, .literal v) x rfl rfl
      obtain rfl : v = x := Except.ok.inj hvalue
      rfl
    have hcounted : n = (k.rows.filter keep).length :=
      Except.ok.inj (congrArg Prod.fst (h.symm.trans hexecute))
    have hwritten : k'.rows = updatePass (Record.ofPairs [(.name column, v)]) keep k.rows := by
      have hkept : (db₁.table place).keptRows? = some k'.rows := by
        rw [Table.keptRows?]
        change (db₁.table place).content = _ at hk'
        rw [hk']
      exact Option.some.inj (hkept.symm.trans hrows)
    refine ⟨k', keep, (congrArg (·.content) (hsame'.table place)).trans hk', hvalid', hsorted,
      fun r hr => ?_, hcounted, ?_, hsame'.names.trans (hnames.trans hsame.names)⟩
    · rw [← hsame.alike.verdict]
      exact hkeep r hr
    · rw [hwritten]
      exact forall₂_writes column v keep k.rows

/-! ## §E — writing and reading -/

end

/-- A condition that compares a column with a number. -/
theorem isCondition_equality : IsCondition "a = 1" (.binary .eq (.column "a") (.literal (.int 1))) := by
  refine ⟨[.word "a" "A", .sign "=", .number "1"], .between .eq (.column [.name "a" false]) (.number "1"),
    1, ?_, ?_, fun depth hdepth => ?_, ?_⟩
  · decide +kernel
  · simp [Token.isSemicolon]
  · obtain ⟨d, rfl⟩ := Nat.exists_eq_add_of_le' hdepth
    rfl
  · rfl

/-- A name with a blank, a quote and a keyword. -/
def keywordName : String := "SELECT \" x"

/-- The UPDATE of that column in the row whose other column is one. -/
def keywordUpdate : String := "UPDATE t SET " ++ identifier keywordName ++ " = ? WHERE " ++ "a = 1"

/-- What is in the columns of rows that were answered: their keys, and whether the values are NULL. -/
def shownNulls : Except Error (List Record) → Option (List (List (Key × Bool)))
  | .ok rows => some (rows.map fun r => r.map fun entry => (entry.1, entry.2.isNull))
  | .error _ => none

end Database
end TableQuery
