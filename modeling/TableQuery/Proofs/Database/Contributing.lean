/-
# TableQuery.Proofs.Database.Contributing — what a subquery contributes.

The values of a subquery are taken from its result rows, and a result row is written item by item:
an item writes its value under its label, and `*` writes all columns of the row of the table.  The
value is then looked up again by the column that the first item reads, if the row has a column of
this name, and else it is the first value.  So it is the value of the first item as long as no later
item writes under the same key (`Running.members_firstItem`); two columns that swap their names are
told apart no more (`Running.members_swappedNames`).

## §A — records that are written pair by pair.
## §B — the value that is looked up.
## §C — select lists as writes.
## §D — results row by row.
## §E — the values of a subquery.
-/
import Mathlib
import TableQuery.Proofs.Database.Unmoved
import TableQuery.Proofs.Reading.Delivery
import TableQuery.Proofs.Table.Kept

namespace TableQuery

open Run

/-! ## §A — records that are written pair by pair -/

namespace Record

theorem update_append (r pairs later : Record) :
    r.update (pairs ++ later) = (r.update pairs).update later :=
  List.foldl_append

theorem update_cons (r : Record) (key : Key) (v : Value) (later : Record) :
    r.update ((key, v) :: later) = (r.set key v).update later := rfl

theorem has_eq_isSome (r : Record) (key : Key) : r.has key = (r.get? key).isSome := by
  rw [has, get?, Option.isSome_map, Bool.eq_iff_iff, List.any_eq_true, List.find?_isSome]

/-- The keys of a record are those that were written. -/
theorem has_ofPairs (pairs : Record) (key : Key) : (ofPairs pairs).has key = pairs.has key := by
  rw [has_eq_isSome, get?_ofPairs, last?, ← has_eq_isSome, has, has, List.any_reverse]

theorem has_cons (k : Key) (v : Value) (later : Record) (key : Key) :
    has ((k, v) :: later) key = (k == key || later.has key) := List.any_cons

/-- The value under the first key that is written. -/
theorem column_ofPairs (k : Key) (v : Value) (later : Record) (column : String) :
    (ofPairs ((k, v) :: later)).column column =
      ((last? later (.name column)).or (if k = .name column then some v else none)).getD .null := by
  rw [Record.column, get?_ofPairs, last?_cons]

/-- The first key stays the first, whatever is written. -/
theorem head_update (k : Key) (v : Value) (r pairs : Record) :
    ∃ w rest, update ((k, v) :: r) pairs = (k, w) :: rest := by
  induction pairs generalizing v r with
  | nil => exact ⟨v, r, rfl⟩
  | cons pair pairs ih =>
      obtain ⟨key, w⟩ := pair
      show ∃ w' rest, update (set ((k, v) :: r) key w) pairs = (k, w') :: rest
      rw [set]
      split
      · exact ih w r
      · exact ih v (set r key w)

/-- The first value of a record is the last one that was written under the first key. -/
theorem first_ofPairs (k : Key) (v : Value) (later : Record) :
    (ofPairs ((k, v) :: later)).first = (last? later k).getD v := by
  obtain ⟨w, rest, hrecord⟩ := head_update k v [] later
  have hfirst : ofPairs ((k, v) :: later) = (k, w) :: rest := hrecord
  have hget : get? ((k, w) :: rest) k = some w := by
    simp [get?]
  have hlast := get?_ofPairs ((k, v) :: later) k
  rw [hfirst, hget, last?_cons, if_pos rfl] at hlast
  rw [hfirst]
  rcases h : last? later k with _ | u
  · exact Option.some.inj (hlast.trans (by rw [h]; rfl))
  · exact Option.some.inj (hlast.trans (by rw [h]; rfl))

/-- Writing the same value again under a key, or nothing, changes nothing there. -/
theorem getD_last? {key : Key} {v : Value} {later : Record}
    (h : ∀ w ∈ later, w.1 = key → w.2 = v) : (last? later key).getD v = v := by
  rcases hlast : last? later key with _ | u
  · rfl
  · obtain ⟨w, hw, rfl⟩ := Option.map_eq_some_iff.mp hlast
    have hkey : w.1 = key := by
      simpa using List.find?_some hw
    exact h w (List.mem_reverse.mp (List.mem_of_find?_eq_some hw)) hkey

end Record

/-! ## §B — the value that is looked up -/

namespace Value
open Record

/-- The key under which the contributed value is found in a row, where `first` was written first and
`later` behind it. -/
def lookedUp (column : String) (first : Key) (later : Record) : Key :=
  if column ≠ "*" ∧ later.has (.name column) = true then .name column else first

/-- **The contributed value** is the last one written under the key that is looked up. -/
theorem contributed_ofPairs (column : String) (k : Key) (v : Value) (later : Record) :
    contributed column (ofPairs ((k, v) :: later)) =
      (last? later (lookedUp column k later)).getD v := by
  rw [contributed, lookedUp, has_ofPairs, has_cons]
  by_cases hstar : column = "*"
  · rw [if_neg (fun h => h.1 hstar), if_neg (fun h => h.1 hstar), first_ofPairs]
  · have hlast : (last? later (.name column)).isSome = later.has (.name column) := by
      rw [← get?_ofPairs, ← has_eq_isSome, has_ofPairs]
    by_cases hlater : later.has (.name column) = true
    · -- a later write has the name: the row has the column, whatever was written first
      obtain ⟨u, hu⟩ := Option.isSome_iff_exists.mp (hlast.trans hlater)
      rw [if_pos ⟨hstar, by rw [hlater, Bool.or_true]⟩, if_pos ⟨hstar, hlater⟩, column_ofPairs, hu]
      rfl
    · have hnone : last? later (.name column) = none := by
        rw [← Option.not_isSome_iff_eq_none, hlast]
        exact hlater
      rw [if_neg (fun h : column ≠ "*" ∧ later.has (.name column) = true => hlater h.2)]
      -- only the first write can have the name, and then both ways lead to it
      by_cases hk : k = .name column
      · rw [if_pos ⟨hstar, by rw [hk, beq_self_eq_true, Bool.true_or]⟩, column_ofPairs, hk, hnone,
          if_pos rfl]
        rfl
      · rw [if_neg (by simp [hk, hlater]), first_ofPairs]

end Value

/-! ## §C — select lists as writes -/

namespace Host
variable {σ : Type} {h : Host σ} {s : Select}

/-- What an item of a select list, the `n`-th, writes into the result row of a row of the table. -/
def writesOf (h : Host σ) (r : Row) (n : Nat) (c : ResultColumn) : Run σ Record :=
  if c.isStar then pure r.columns
  else do return [(.name c.label, ← h.evaluator.evaluate r.columns [n, 0] c.expression)]

/-- What the items write from the `n`-th on. -/
def writes (h : Host σ) (r : Row) : Nat → List ResultColumn → Run σ Record
  | _, [] => pure []
  | n, c :: cs => do return (← h.writesOf r n c) ++ (← h.writes r (n + 1) cs)

/-- **A select list** is what its items write, one after the other. -/
theorem projectFrom_eq_writes (r : Row) (n : Nat) (columns : List ResultColumn) (out : Record) :
    h.projectFrom r n columns out = out.update <$> h.writes r n columns := by
  induction columns generalizing n out with
  | nil => rfl
  | cons c cs ih =>
      rw [projectFrom, writes, writesOf]
      split
      · simp [ih, Record.update_append]
      · simp [ih, Record.update_cons]

/-- The result row is the record of what the items write. -/
theorem outcome_project {r : Row} {c : ResultColumn} {cs : List ResultColumn} {record : Record}
    {before after : σ} (hs : s.columns = c :: cs)
    (hproject : (h.project s r).outcome before = (.ok record, after)) :
    ∃ own mid later, (h.writesOf r 0 c).outcome before = (.ok own, mid) ∧
      (h.writes r 1 cs).outcome mid = (.ok later, after) ∧
      record = Record.ofPairs (own ++ later) := by
  rw [project, projectFrom_eq_writes, hs, writes, ← bind_pure_comp] at hproject
  obtain ⟨written, t, hwrites, hrecord⟩ := outcome_bind_eq_ok.mp hproject
  obtain ⟨own, mid, hown, hwrites⟩ := outcome_bind_eq_ok.mp hwrites
  obtain ⟨later, t', hlater, hwritten⟩ := outcome_bind_eq_ok.mp hwrites
  obtain ⟨howritten, rfl⟩ := Prod.mk.inj hwritten
  obtain ⟨hrecorded, rfl⟩ := Prod.mk.inj hrecord
  obtain rfl := Except.ok.inj howritten
  exact ⟨own, mid, later, hown, hlater, (Except.ok.inj hrecorded).symm⟩

/-! ## §D — results row by row -/

/-- A result row as it comes about: the row of the table, the state that it is shown in, the result
row, and the state behind it. -/
structure Shown (σ : Type) where
  row : Row
  before : σ
  record : Record
  after : σ

/-- **The course of a SELECT** from a stage and a state on: which rows of the table it comes to, one
after the other, and what it shows of them. -/
inductive Course (h : Host σ) (s : Select) : Stage → σ → List (Shown σ) → Prop
  | ended {stage : Stage} {st st' : σ} (hended : (h.advance s stage).outcome st = (.ok none, st')) :
      Course h s stage st []
  | row {stage stage' : Stage} {st : σ} {d : Shown σ} {rest : List (Shown σ)}
      (hrow : (h.advance s stage).outcome st = (.ok (some (d.row, stage')), d.before))
      (hshown : (h.project s d.row).outcome d.before = (.ok d.record, d.after))
      (hrest : Course h s stage' d.after rest) : Course h s stage st (d :: rest)

/-- **The step** — a result row that is asked for is what is shown of the next row. -/
theorem outcome_next_row {stage stage' : Stage} {st st' : σ} {record : Record}
    (hnext : (h.next s stage).outcome st = (.ok (some (record, stage')), st')) :
    ∃ row before, (h.advance s stage).outcome st = (.ok (some (row, stage')), before) ∧
      (h.project s row).outcome before = (.ok record, st') := by
  have hstep : (h.step s stage).outcome st = (.ok (some (record, stage')), st') := by
    rw [next, outcome_concluding] at hnext
    rcases hout : (h.step s stage).outcome st with ⟨e | _ | found, t⟩ <;> rw [hout] at hnext
    · cases hnext
    · cases hnext
    · exact hnext
  obtain ⟨found, before, hadvance, hshown⟩ := outcome_bind_eq_ok.mp hstep
  rcases found with _ | ⟨row, stage''⟩
  · cases hshown
  · obtain ⟨out, t, hproject, hend⟩ := outcome_bind_eq_ok.mp hshown
    cases hend
    exact ⟨row, before, hadvance, hproject⟩

/-- At the end there is no further row. -/
theorem outcome_next_ended {stage : Stage} {st st' : σ}
    (hnext : (h.next s stage).outcome st = (.ok none, st')) :
    ∃ t, (h.advance s stage).outcome st = (.ok none, t) := by
  rw [next, outcome_concluding] at hnext
  rcases hout : (h.step s stage).outcome st with ⟨e | _ | found, t⟩ <;> rw [hout] at hnext
  · cases hnext
  · obtain ⟨found, t, hadvance, hshown⟩ := outcome_bind_eq_ok.mp hout
    rcases found with _ | ⟨row, stage''⟩
    · exact ⟨t, hadvance⟩
    · obtain ⟨out, t', -, hend⟩ := outcome_bind_eq_ok.mp hshown
      cases hend
  · cases hnext

/-- **The run** — results that are collected to the end are those of a course. -/
theorem course_of_collect {fuel : Nat} {stage : Stage} {st st' : σ} {records : List Record}
    (hcollect : (collect (h.next s) fuel stage).run st = ((records, none), st')) :
    ∃ trace, h.Course s stage st trace ∧ trace.map (·.record) = records := by
  induction fuel generalizing stage st records with
  | zero => cases hcollect
  | succ fuel ih =>
      rw [run_collect] at hcollect
      rcases hnext : (h.next s stage).outcome st with ⟨e | _ | ⟨record, stage'⟩, t⟩ <;>
        rw [hnext] at hcollect
      · cases hcollect
      · -- the end: nothing further is collected
        cases hcollect
        obtain ⟨t, hended⟩ := outcome_next_ended hnext
        exact ⟨[], .ended hended, rfl⟩
      · obtain ⟨row, before, hrow, hshown⟩ := outcome_next_row hnext
        rcases hrest : (collect (h.next s) fuel stage').run t with ⟨⟨rest, fault⟩, t'⟩
        dsimp only at hcollect
        rw [hrest] at hcollect
        cases hcollect
        obtain ⟨trace, hcourse, hrecords⟩ := ih hrest
        exact ⟨⟨row, before, record, t⟩ :: trace, .row hrow hshown hcourse,
          congrArg (record :: ·) hrecords⟩

/-- Every row of a course is shown by the select list. -/
theorem Course.shown {stage : Stage} {st : σ} {trace : List (Shown σ)}
    (hcourse : h.Course s stage st trace) :
    ∀ d ∈ trace, (h.project s d.row).outcome d.before = (.ok d.record, d.after) := by
  induction hcourse with
  | ended => exact fun d hd => absurd hd List.not_mem_nil
  | row hrow hshown hrest ih => exact List.forall_mem_cons.mpr ⟨hshown, ih⟩

/-- Items that are no stars write under their labels. -/
theorem keys_writes {r : Row} {n : Nat} {columns : List ResultColumn} {later : Record}
    {before after : σ} (hcolumns : ∀ c ∈ columns, c.isStar = false)
    (hwrites : (h.writes r n columns).outcome before = (.ok later, after)) :
    later.map (·.1) = columns.map fun c => .name c.label := by
  induction columns generalizing n later before with
  | nil =>
      cases hwrites
      rfl
  | cons c cs ih =>
      obtain ⟨hc, hcs⟩ := List.forall_mem_cons.mp hcolumns
      obtain ⟨own, mid, hown, hwrites⟩ := outcome_bind_eq_ok.mp hwrites
      obtain ⟨rest, t, hrest, hlater⟩ := outcome_bind_eq_ok.mp hwrites
      cases hlater
      rw [writesOf, hc] at hown
      obtain ⟨v, t, -, hv⟩ := outcome_bind_eq_ok.mp hown
      cases hv
      exact congrArg (.name c.label :: ·) (ih hcs hrest)

end Host

/-! ## §E — the values of a subquery -/

namespace Running
open Host Value Database

/-- **What a result row contributes**, against what the first item of the select list is on it. -/
structure Contributes (h : Host Running) (s : Select) (c : ResultColumn) (cs : List ResultColumn)
    (d : Shown Running) : Prop where
  /-- Behind a star it is the first column of the result row, which is the row of the table with
  what later items write into it. -/
  star (hc : c.isStar = true) : contributed (contributing s) d.record = d.record.first ∧
    ∃ later, (h.writes d.row 1 cs).outcome d.before = (.ok later, d.after) ∧
      d.record = Record.ofPairs (d.row.columns ++ later)
  /-- Else it is the value of the item, unless a later item writes another one where that is looked
  up. -/
  item (hc : c.isStar = false) : ∃ v mid later,
    (h.evaluator.evaluate d.row.columns [0, 0] c.expression).outcome d.before = (.ok v, mid) ∧
    (h.writes d.row 1 cs).outcome mid = (.ok later, d.after) ∧
    contributed (contributing s) d.record =
      (Record.last? later (lookedUp (contributing s) (.name c.label) later)).getD v ∧
    ((∀ w ∈ later, w.1 = lookedUp (contributing s) (.name c.label) later → w.2 = v) →
      contributed (contributing s) d.record = v)

theorem contributing_star {s : Select} {c : ResultColumn} {cs : List ResultColumn}
    (hs : s.columns = c :: cs) (hc : c.isStar = true) : contributing s = "*" := by
  obtain ⟨e, aliasName, label⟩ := c
  rw [contributing, hs]
  cases e <;> first | rfl | cases hc

theorem contributes_of_shown {h : Host Running} {s : Select} {c : ResultColumn}
    {cs : List ResultColumn} {d : Shown Running} (hs : s.columns = c :: cs)
    (hshown : (h.project s d.row).outcome d.before = (.ok d.record, d.after)) :
    Contributes h s c cs d := by
  obtain ⟨own, mid, later, hown, hlater, hrecord⟩ := outcome_project hs hshown
  constructor
  · intro hc
    rw [writesOf, hc] at hown
    cases hown
    refine ⟨?_, later, hlater, hrecord⟩
    rw [contributing_star hs hc, contributed, if_neg fun h => h.1 rfl]
  · intro hc
    rw [writesOf, hc] at hown
    obtain ⟨v, t, hv, hwritten⟩ := outcome_bind_eq_ok.mp hown
    cases hwritten
    have hvalue : contributed (contributing s) d.record =
        (Record.last? later (lookedUp (contributing s) (.name c.label) later)).getD v := by
      rw [hrecord]
      exact contributed_ofPairs ..
    exact ⟨v, _, later, hv, hlater, hvalue, fun h => hvalue.trans (Record.getD_last? h)⟩

/-- The first item stands out where no later one is a star, has its label, or has the name that it
is looked up by. -/
def StandsOut (s : Select) (c : ResultColumn) (cs : List ResultColumn) : Prop :=
  ∀ c' ∈ cs, c'.isStar = false ∧ c'.label ≠ c.label ∧
    (contributing s = "*" ∨ c'.label ≠ contributing s)

/-- An item that stands out contributes its own value. -/
theorem Contributes.standsOut {h : Host Running} {s : Select} {c : ResultColumn}
    {cs : List ResultColumn} {d : Shown Running} (hd : Contributes h s c cs d)
    (hc : c.isStar = false) (hcs : StandsOut s c cs) :
    Except.ok (contributed (contributing s) d.record) =
      ((h.evaluator.evaluate d.row.columns [0, 0] c.expression).outcome d.before).1 := by
  obtain ⟨v, mid, later, hv, hlater, -, hvalue⟩ := hd.item hc
  have hkeys := keys_writes (fun c' hc' => (hcs c' hc').1) hlater
  rw [hv, hvalue]
  -- no later label is the key that is looked up
  intro w hw hkey
  have hmem : w.1 ∈ cs.map fun c => Key.name c.label := by
    rw [← hkeys]
    exact List.mem_map_of_mem hw
  obtain ⟨c', hc', hlabel⟩ := List.mem_map.mp hmem
  obtain ⟨-, hlabels, hname⟩ := hcs c' hc'
  rw [← hlabel, lookedUp] at hkey
  split at hkey
  · rename_i hfound
    exact absurd (Key.name.inj hkey) (hname.resolve_left hfound.1)
  · exact absurd (Key.name.inj hkey) hlabels

/-- Results that are found are those of a course. -/
theorem course_of_resultsBy {run : Select → Run Database (List Record)} {s : Select}
    {db db' : Database} {records : List Record}
    (h : (resultsBy run s).outcome db = (.ok records, db')) :
    ∃ place trace, db.find s.table = .ok place ∧
      (host s.table (evaluator run (collationOf db place))).Course s .fresh { db, place } trace ∧
      trace.map (·.record) = records := by
  rcases hfind : db.find s.table with e | place
  · rw [outcome_resultsBy_missing hfind] at h
    cases h
  · rcases hresults : ((host s.table (evaluator run (collationOf db place))).results s).run
      { db, place } with ⟨⟨found, fault⟩, r⟩
    rw [outcome_resultsBy hfind hresults] at h
    rcases fault with _ | e
    · cases h
      have hcollect : (collect ((host s.table (evaluator run (collationOf db place))).next s)
          (db.table place).patience .fresh).run { db, place } = ((found, none), r) := by
        rw [Host.results, StateT.run_bind] at hresults
        exact hresults
      obtain ⟨trace, hcourse, hrecords⟩ := course_of_collect hcollect
      exact ⟨place, trace, rfl, hcourse, hrecords⟩
    · cases h

/-- What is remembered under a place is found there. -/
theorem deferred_remembered {r : Running} {place : Place} {d : Deferred}
    {others : List (Place × Deferred)} (h : r.answers = (place, d) :: others) (s : Select) :
    r.deferred place s = d := by
  rw [deferred, h, List.find?_cons_of_pos (by simp)]

/-- **A subquery contributes its first item.**  Where the values of a subquery are first needed and
it has results, these come from a course of the subquery, and the values are taken one from each
result row, in their order: behind a star the first column of the result row, and else the value of
the first item, unless a later item writes another one where that is looked up.  So they are the
values of the first item where it stands out.  They are kept, and every later need gets them. -/
theorem members_firstItem (depth : Nat) (place : Place) (s : Select) (c : ResultColumn)
    (cs : List ResultColumn) (hs : s.columns = c :: cs) (r : Running) (records : List Record)
    (db' : Database) (hunknown : r.deferred place s = { column := contributing s })
    (hrun : (resultsTo (depth + 1) s).outcome r.db = (.ok records, db')) :
    ∃ at_ trace vs r', r.db.find s.table = .ok at_ ∧
      (host s.table (evaluator (resultsTo depth) (collationOf r.db at_))).Course s .fresh
        { db := r.db, place := at_ } trace ∧
      trace.map (·.record) = records ∧
      (members (resultsTo (depth + 1)) place s).outcome r = (.ok vs, r') ∧ r'.db = db' ∧
      vs = trace.map (fun d => contributed (contributing s) d.record) ∧
      (∀ d ∈ trace, Contributes (host s.table (evaluator (resultsTo depth) (collationOf r.db at_)))
        s c cs d) ∧
      (c.isStar = true → vs = trace.map fun d => d.record.first) ∧
      (c.isStar = false → StandsOut s c cs → vs.map .ok = trace.map fun d =>
        (((evaluator (resultsTo depth) (collationOf r.db at_)).evaluate d.row.columns [0, 0]
          c.expression).outcome d.before).1) ∧
      ∀ (run : Select → Run Database (List Record)) (later : Running), later.answers = r'.answers →
        ∃ later', (members run place s).outcome later = (.ok vs, later') ∧
          later'.db = later.db := by
  obtain ⟨at_, trace, hfind, hcourse, hrecords⟩ := course_of_resultsBy hrun
  have hmembers : (members (resultsTo (depth + 1)) place s).outcome r = _ :=
    outcome_members_unknown hunknown
  rw [hrun] at hmembers
  have hrows := fun d hd => contributes_of_shown hs (hcourse.shown d hd)
  have hvalues : records.map (contributed (contributing s)) =
      trace.map fun d => contributed (contributing s) d.record := by
    rw [← hrecords, List.map_map]
    rfl
  -- The last part says that the values are kept: a later need finds the rows that are known.
  refine ⟨at_, trace, _, _, hfind, hcourse, hrecords, hmembers, rfl, hvalues, hrows, fun hc => ?_,
    fun hc hcs => ?_, fun run later hlater => ?_⟩
  · rw [hvalues]
    exact List.map_congr_left fun d hd => ((hrows d hd).star hc).1
  · rw [hvalues, List.map_map]
    exact List.map_congr_left fun d hd => (hrows d hd).standsOut hc hcs
  · rw [outcome_members_known (deferred_remembered hlater s) rfl]
    exact ⟨_, rfl, rfl⟩

/-- `SELECT a AS b, b AS a FROM u`. -/
def swappedNames : Select :=
  .mk "u" [.mk (.column "a") (some "b") "b", .mk (.column "b") (some "a") "a"] none [] none none

/-- `SELECT a AS x, b AS y FROM u`. -/
def ownNames : Select :=
  .mk "u" [.mk (.column "a") (some "x") "x", .mk (.column "b") (some "y") "y"] none [] none none

/-- A row of two columns. -/
def twoColumns : Row := ⟨.int 0, [(.name "a", .int 1), (.name "b", .int 2)]⟩

/-- The beginning of a SELECT over `t`, beside which there is a table `u` of this one row. -/
def besideOneRow : Running where
  db :=
    { tables := [{ content := .kept (Kept.ofRows [⟨.int 0, [(.name "x", .int 1)]⟩]) },
        { content := .kept (Kept.ofRows [twoColumns]) }]
      names := [("t", 0), ("u", 1)] }

/-- A SELECT has the results that its host collects. -/
theorem exists_outcome_resultsTo {depth at_ : Nat} {s : Select} {db : Database}
    {records : List Record} (hfind : db.find s.table = .ok at_)
    (hresults : (((host s.table (evaluator (resultsTo depth) (collationOf db at_))).results s).run
      { db, place := at_ }).1 = (records, none)) :
    ∃ db', (resultsTo (depth + 1) s).outcome db = (.ok records, db') := by
  rcases hrun : ((host s.table (evaluator (resultsTo depth) (collationOf db at_))).results s).run
    { db, place := at_ } with ⟨result, t⟩
  rw [hrun] at hresults
  obtain rfl : result = (records, none) := hresults
  exact ⟨t.db, outcome_resultsBy hfind hrun⟩

theorem results_ownNames : (((host "u" (evaluator (resultsTo 0) .binary)).results ownNames).run
    { db := besideOneRow.db, place := 1 }).1 =
      ([[(.name "x", .int 1), (.name "y", .int 2)]], none) := by
  cbv

/-- Under names of their own the first item is contributed, and it is 1. -/
theorem members_ownNames : ∃ r' trace,
    (members (resultsTo 1) [1, 1] ownNames).outcome besideOneRow = (.ok [.int 1], r') ∧
    (host "u" (evaluator (resultsTo 0) .binary)).Course ownNames .fresh
      { db := besideOneRow.db, place := 1 } trace ∧
    [Except.ok (.int 1)] = trace.map fun d => (((evaluator (resultsTo 0) .binary).evaluate
      d.row.columns [0, 0] (.column "a")).outcome d.before).1 := by
  have hfound : besideOneRow.db.find ownNames.table = .ok 1 := rfl
  have hunknown : besideOneRow.deferred [1, 1] ownNames = { column := contributing ownNames } := rfl
  obtain ⟨db', hrun⟩ := exists_outcome_resultsTo hfound results_ownNames
  obtain ⟨at_, trace, vs, r', hfind, hcourse, hrecords, hmembers, -, hvs, -, -, hitems, -⟩ :=
    members_firstItem 0 [1, 1] ownNames _ _ rfl besideOneRow _ db' hunknown hrun
  obtain rfl : 1 = at_ := Except.ok.inj hfind
  have hvalues : vs = [.int 1] := by
    have hmap : vs = (trace.map (·.record)).map (contributed (contributing ownNames)) := by
      rw [hvs, List.map_map]
      rfl
    rw [hmap, hrecords]
    cbv
  rw [hvalues] at hmembers hitems
  refine ⟨r', trace, hmembers, hcourse, hitems rfl ?_⟩
  intro c hc
  obtain rfl := List.mem_singleton.mp hc
  exact ⟨rfl, by decide, .inr (by decide +kernel)⟩

theorem results_swappedNames : (((host "u" (evaluator (resultsTo 0) .binary)).results
    swappedNames).run { db := besideOneRow.db, place := 1 }).1 =
      ([[(.name "b", .int 1), (.name "a", .int 2)]], none) := by
  cbv

/-- **Columns that swap their names** are taken for each other: on the only row of the table the
first item is 1, and 2 is contributed. -/
theorem members_swappedNames :
    (∃ r', (members (resultsTo 1) [1, 1] swappedNames).outcome besideOneRow = (.ok [.int 2], r')) ∧
    ∀ st : Running, (((evaluator (resultsTo 0) .binary).evaluate twoColumns.columns [0, 0]
      (.column "a")).outcome st).1 = .ok (.int 1) := by
  have hfound : besideOneRow.db.find swappedNames.table = .ok 1 := rfl
  have hunknown : besideOneRow.deferred [1, 1] swappedNames =
      { column := contributing swappedNames } := rfl
  obtain ⟨db', hrun⟩ := exists_outcome_resultsTo hfound results_swappedNames
  have hvalues : [[(Key.name "b", Value.int 1), (Key.name "a", Value.int 2)]].map
      (contributed (contributing swappedNames)) = [.int 2] := by
    cbv
  constructor
  · rw [outcome_members_unknown hunknown, hrun, ← hvalues]
    exact ⟨_, rfl⟩
  · intro st
    rw [twoColumns]
    cbv

end Running
end TableQuery
