/-
# TableQuery.Proofs.Database.Collecting — UPDATE and DELETE collect before they change.

A statement that changes rows reads its table to the end, with the condition tested on every row,
before it asks the table for a change.  `Database.Collects` says what a statement has collected when
all of that has gone well: the ids of the rows on which the condition holds.  If these are any, the
table is asked once, for the change of exactly these ids; if they are none, or if anything has gone
wrong, no table is asked for a change (`execute_collects`).  This is for every table and every
sequence of items; what a claim says of the order, or of rows that were left out, has no part in it.

## §A — calls for a change.
## §B — scans.
## §C — the change of the rows that were found.
## §D — before the scan.
## §E — statements.
-/
import TableQuery.Proofs.Database.Refusing
import TableQuery.Proofs.Reading.Gathering

namespace TableQuery

open Run Running Host

/-! ## §A — calls for a change -/

/-- The operation that a call belongs to. -/
def Call.operation : Call → String
  | .select .. | .pull _ | .finish => "select"
  | .insert _ => "insert"
  | .update .. => "update"
  | .delete _ => "delete"

/-- What a table writes down of a call: a script that offers the operation does. -/
def Table.written (t : Table) (call : Call) : List Event :=
  if t.supports call.operation then [⟨t.name, call⟩] else []

namespace Statement

/-- The call for a change of the rows of some ids, given the values of the assignments. -/
def call (values ids : List Value) : Statement → Call
  | .update u => .update ids (Record.ofPairs (Database.assigned u values))
  | _ => .delete ids

/-- The change of the rows of some ids, given the values of the assignments. -/
def change (s : Statement) (values ids : List Value) (t : Table) : Except Error Int × Table :=
  match s with
  | .update u => t.update ids (Record.ofPairs (Database.assigned u values))
  | _ => t.delete ids

end Statement

namespace Table

theorem events_keptChange (t : Table) (ids : List Value) (f : List Value → Kept × Nat) :
    (t.keptChange ids f).2.events = [] := by
  unfold keptChange
  dsimp only
  split <;> rfl

theorem events_update (t : Table) (ids : List Value) (changes : Record) :
    (t.update ids changes).2.events = t.events ++ t.written (.update ids changes) := by
  have hname : String.ofList ("update".toList.map Char.toLower) = "update" := by decide +kernel
  rcases t with ⟨name, collation, _ | k | rows | f | sc⟩
  case kept => exact events_keptChange ..
  case script =>
    simp only [update, written, supports, Call.operation, hname, Script.offers]
    cases sc.update <;> simp [note, events, Script.note]
  all_goals rfl

theorem events_delete (t : Table) (ids : List Value) :
    (t.delete ids).2.events = t.events ++ t.written (.delete ids) := by
  have hname : String.ofList ("delete".toList.map Char.toLower) = "delete" := by decide +kernel
  rcases t with ⟨name, collation, _ | k | rows | f | sc⟩
  case kept => exact events_keptChange ..
  case script =>
    simp only [delete, written, supports, Call.operation, hname, Script.offers]
    cases sc.delete <;> simp [note, events, Script.note]
  all_goals rfl

/-- What is written down of a call does not hang on what was written down before. -/
theorem written_lasting (t : Table) (call : Call) : t.lasting.written call = t.written call := by
  rcases t with ⟨name, collation, _ | _ | _ | _ | _⟩ <;> rfl

end Table

/-- **A change is one call**, which a scripted table writes down behind all that it was asked before. -/
theorem Statement.events_change (s : Statement) (values ids : List Value) (t : Table) :
    (s.change values ids t).2.events = t.events ++ t.written (s.call values ids) := by
  cases s with
  | update u => exact t.events_update ids _
  | select _ | insert _ | delete _ => exact t.events_delete ids

/-- What a change adds to the changes that were asked of a table. -/
theorem Statement.changesAsked_change (s : Statement) (values ids : List Value) (t : Table) :
    (s.change values ids t).2.changesAsked = t.changesAsked ++ t.written (s.call values ids) := by
  have hcall : (s.call values ids).isReading = false := by cases s <;> rfl
  have hwritten : (t.written (s.call values ids)).filter (!·.call.isReading) =
      t.written (s.call values ids) := by
    unfold Table.written
    split
    · simp [hcall]
    · rfl
  rw [Table.changesAsked, s.events_change, List.filter_append, hwritten]
  rfl

namespace Database

section
variable {db db' : Database} {s : Statement} {place : Nat} {condition : Option Expr}
  {claim : Option Claim} {rows : List Row} {keep : Row → Bool} {ids : List Value}

/-! ## §B — scans -/

/-- **A scan** — the table at a place yields at most a claim without fault and then rows that pass the
check, and comes to its end; and the condition has a value on every row. -/
structure Scan (db : Database) (s : Statement) (place : Nat) (condition : Option Expr)
    (claim : Option Claim) (rows : List Row) (keep : Row → Bool) : Prop where
  yields : ∃ source,
    ((db.table place).read (collationOf db place) (Select.scan s.table condition)).1 = .ok source ∧
      (db.table place).Yields source (contracted claim rows)
  patient : rows.length < (db.table place).patience
  faultless : claim.bind Claim.fault? = none
  identity : ∀ r ∈ rows, r.id.isIdentity = true
  distinct : rows.Pairwise fun a b => a.id.same b.id = false
  verdict : ∀ r ∈ rows, db.verdict s place condition r = .ok (keep r)

/-- The reading of the table for the ids, on an alike database. -/
def reading (db : Database) (s : Statement) (place : Nat) (condition : Option Expr)
    (db' : Database) : Except Error (List Value) × Running :=
  ((host s.table (evaluatorFor s place db)).matchingIds
    (Select.scan s.table condition)).outcome { db := db', place }

/-- A host draws the items of its table. -/
theorem host_draws {good : List (Place × Deferred) → Prop} (name : String)
    (ev : Evaluator Running) :
    (host name ev).Draws (Amid db place good) (db.table place).Yields (db.table place).patience where
  item {source st st' item} hst hpull := by
    obtain ⟨hanswer, hafter⟩ := hst.pull
    rw [show Running.pull.outcome st = _ from hpull] at hanswer hafter
    exact ⟨_, hafter, fun items hitems => .item hanswer.symm hitems⟩
  done {source st st'} hst hpull := by
    obtain ⟨hanswer, hafter⟩ := hst.pull
    rw [show Running.pull.outcome st = _ from hpull] at hanswer hafter
    refine ⟨_, hafter, .done hanswer.symm, fun items hitems => ?_⟩
    rw [Table.pull_source_of_done hanswer.symm] at hitems
    cases hitems with
    | done => rfl
    | item hitem => cases hitem
  note remark {source st} hst := hst.note name remark
  patience_eq {source st} hst := ⟨hst.patience, hst⟩

/-- **A scan answers the ids** of the rows on which the condition holds. -/
theorem Scan.reading_eq (h : db.Scan s place condition claim rows keep) (halike : db.Alike () db') :
    (db.reading s place condition db').1 = .ok ((rows.filter keep).map (·.id)) := by
  obtain ⟨source, hread, hyields⟩ := h.yields
  have hleads := (scan_feeds db s place condition).leads_matchingIds
    (leads_read_of_yields hread hyields) (scan_judges db s place condition rows)
    (fresh_of_distinct h.identity h.distinct) h.patient h.faultless
  rw [sift_congr h.verdict, sift_ok] at hleads
  exact (hleads _ (scan_start halike s place condition)).1

/-- **An answer is that of a scan**, which is over: the last pull gave nothing more, and the source was
closed. -/
theorem of_reading_eq_ok (halike : db.Alike () db') {scanned : Running}
    (h : db.reading s place condition db' = (.ok ids, scanned)) :
    ∃ claim rows keep, db.Scan s place condition claim rows keep ∧
      ids = (rows.filter keep).map (·.id) ∧
      ∃ last ended, pull.outcome last = (.ok none, ended) ∧ scanned = (close.run ended).2 := by
  have hstart := scan_start halike s place condition
  have hholds : ∀ r : Row, Steady (Amid db place (ScanAnswered db s condition))
      ((host s.table (evaluatorFor s place db)).evaluator.holds r.columns [1]
        (Select.scan s.table condition).condition) :=
    fun r => (scan_guided db s place condition).steady_holds r.columns
  obtain ⟨opened, hread, hopened⟩ := (host_draws s.table _).of_matchingIds_eq_ok hholds h
  obtain ⟨hanswer, hamid⟩ := hstart.read (collationOf db place) (Select.scan s.table condition)
  rw [show (Running.read (collationOf db place) _).outcome _ = _ from hread] at hanswer hamid
  rcases hsource : ((db.table place).read (collationOf db place) (Select.scan s.table condition)).1
    with e | source
  · rw [hsource] at hanswer
    cases hanswer
  · rw [hsource] at hamid
    obtain ⟨claim, rows, hyields, hfault, hfresh, hpatient, hover⟩ := hopened source hamid
    obtain ⟨keep, hkeep, hids⟩ := (scan_feeds db s place condition).matchingIds_eq_ok
      (leads_read_of_yields hsource hyields) (scan_judges db s place condition rows) hfresh
      hpatient hstart (congrArg Prod.fst h)
    exact ⟨claim, rows, keep, ⟨⟨source, hsource, hyields⟩, hpatient, hfault, hfresh.identity,
      hfresh.distinct, hkeep⟩, hids, hover⟩

/-! ## §C — the change of the rows that were found -/

/-- **Collected** — the state of a reading for ids that has answered them: it came to the end of the
table, its source was closed, and the database is as it was but for records. -/
structure Collected (db : Database) (s : Statement) (place : Nat) (condition : Option Expr)
    (ids : List Value) (scanned : Running) : Prop where
  reading : ∃ db', db.Alike () db' ∧ db.reading s place condition db' = (.ok ids, scanned)
  exhausted : ∃ last ended, pull.outcome last = (.ok none, ended) ∧ scanned = (close.run ended).2
  closed : scanned.source = .closed
  alike : db.Alike () scanned.db

/-- Matching is the reading and a log record. -/
theorem outcome_matchingIds_ok (halike : db.Alike () db') {scanned : Running}
    (h : db.reading s place condition db' = (.ok ids, scanned)) :
    ∃ db₁, (matchingIds s place condition).outcome db' = (.ok ids, db₁) ∧
      SameButTelemetry scanned.db db₁ := by
  rw [matchingIds, outcome_bind, outcome_get, resume_ok]
  dsimp only
  rw [halike.evaluatorFor, show ((host _ _).matchingIds _).outcome _ = _ from h, outcome_bind,
    outcome_set, resume_ok, outcome_bind, outcome_liftExcept, resume_ok, outcome_bind,
    outcome_modify, resume_ok]
  exact ⟨_, rfl, _, rfl⟩

section
variable {f : List Value → Table → Except Error Int × Table}

/-- **Rows that were found are changed** in the table as it is when the reading is over. -/
theorem Scan.changes (h : db.Scan s place condition claim rows keep)
    (halike : db.Alike () db') (hids : (rows.filter keep).map (·.id) = ids) (hsome : ids ≠ []) :
    ∃ scanned, db.Collected s place condition ids scanned ∧
      ((changeMatching s place condition f).outcome db').1 =
        (f ids (scanned.db.table place)).1 ∧
      SameButTelemetry (scanned.db.setTable place (f ids (scanned.db.table place)).2)
        ((changeMatching s place condition f).outcome db').2 := by
  rcases hreading : db.reading s place condition db' with ⟨answer, scanned⟩
  obtain rfl : answer = .ok ids := by
    rw [← hids, ← h.reading_eq halike, hreading]
  obtain ⟨-, -, -, -, -, last, ended, hlast, rfl⟩ := of_reading_eq_ok halike hreading
  obtain ⟨db₁, hmatching, telemetry, rfl⟩ := outcome_matchingIds_ok halike hreading
  have hforget := alike_matchingIds halike s place condition
  rw [hmatching] at hforget
  refine ⟨_, ⟨⟨db', halike, hreading⟩, ⟨last, ended, hlast, rfl⟩, rfl, hforget⟩, ?_⟩
  have hempty : ids.isEmpty = false := by
    cases ids with
    | nil => exact absurd rfl hsome
    | cons id ids => rfl
  rw [changeMatching, outcome_bind, hmatching, resume_ok, hempty]
  simp only [Bool.false_eq_true, if_false, outcome_onTable]
  exact ⟨rfl, telemetry, rfl⟩

/-- **No row was found**, and no change is asked for. -/
theorem Scan.changes_nothing (h : db.Scan s place condition claim rows keep)
    (halike : db.Alike () db') (hnone : rows.filter keep = []) :
    ((changeMatching s place condition f).outcome db').1 = .ok 0 ∧
      db.Alike () ((changeMatching s place condition f).outcome db').2 := by
  have hids := h.reading_eq halike
  rw [hnone] at hids
  rcases hreading : db.reading s place condition db' with ⟨answer, scanned⟩
  rw [hreading] at hids
  obtain rfl : answer = .ok [] := hids
  obtain ⟨db₁, hmatching, -⟩ := outcome_matchingIds_ok halike hreading
  have hafter := alike_matchingIds halike s place condition
  rw [hmatching] at hafter
  rw [changeMatching, outcome_bind, hmatching]
  exact ⟨rfl, hafter⟩

/-- **Something went wrong** in the reading, and no change is asked for. -/
theorem changeMatching_stopped (halike : db.Alike () db')
    (hno : ∀ claim rows keep, ¬ db.Scan s place condition claim rows keep) :
    (∃ e, ((changeMatching s place condition f).outcome db').1 = .error e) ∧
      db.Alike () ((changeMatching s place condition f).outcome db').2 := by
  have hafter := alike_matchingIds halike s place condition
  rw [changeMatching, outcome_bind]
  rcases hmatching : (matchingIds s place condition).outcome db' with ⟨e | ids, db₁⟩
  · rw [hmatching] at hafter
    exact ⟨⟨e, rfl⟩, hafter⟩
  · have hids := (matchingIds_alike halike s place condition).1
    rw [hmatching] at hids
    obtain ⟨claim, rows, keep, hscan, -⟩ := of_reading_eq_ok halike (Prod.ext hids.symm rfl)
    exact absurd hscan (hno claim rows keep)

end

/-! ## §D — before the scan -/

/-- The values of the assignments; only an UPDATE has any. -/
def Assigned (db : Database) (place : Nat) : Statement → List Value → Prop
  | .update u, values => db.assignedValues u place = .ok values
  | _, values => values = []

theorem Assigned.unique {values values' : List Value} (h : db.Assigned place s values)
    (h' : db.Assigned place s values') : values = values' := by
  cases s with
  | update u => exact Except.ok.inj ((h : db.assignedValues u place = _).symm.trans h')
  | select _ | insert _ | delete _ =>
      obtain rfl : values = [] := h
      exact (h' : values' = []).symm

variable {params : Parameters}

/-- **Before the scan** either nothing is wrong, and the rest is the change of the rows that are found,
or the statement has failed. -/
theorem perform_cases (params : Parameters) (hselect : ∀ q, s ≠ .select q)
    (hinsert : ∀ i, s ≠ .insert i) (hfind : db.find s.table = .ok place) :
    (∃ values, db.Proceeds place (s.bind params) ∧ db.Assigned place (s.bind params) values ∧
        ∃ db₀, db.Alike () db₀ ∧ (perform s params).outcome db = (changeMatching (s.bind params)
          place (s.bind params).condition ((s.bind params).change values)).outcome db₀) ∨
      ¬ db.Proceeds place (s.bind params) ∧
        ∃ e db', (perform s params).outcome db = (.error e, db') ∧ db.Alike () db' := by
  cases s with
  | select q => exact absurd rfl (hselect q)
  | insert i => exact absurd rfl (hinsert i)
  | delete d =>
      rw [outcome_perform hfind]
      rcases delete_cases db (d.bind params) place with ⟨hproceeds, hrest⟩ | hfailed
      · exact .inl ⟨[], hproceeds, rfl, hrest⟩
      · exact .inr hfailed
  | update u =>
      rw [outcome_perform hfind]
      exact update_cases db (u.bind params) place

/-! ## §E — statements -/

/-- **What a statement collects** before it asks for a change: nothing is wrong with it, its table is
scanned to the end, and the ids are those of the rows on which its condition holds, in the order in
which the table yields them. -/
structure Collects (db : Database) (s : Statement) (params : Parameters) (place : Nat)
    (values ids : List Value) : Prop where
  found : db.find s.table = .ok place
  proceeds : db.Proceeds place (s.bind params)
  assigned : db.Assigned place (s.bind params) values
  scanned : ∃ claim rows keep,
    db.Scan (s.bind params) place (s.bind params).condition claim rows keep ∧
      ids = (rows.filter keep).map (·.id)

/-- Every id is collected once. -/
theorem Collects.distinct {values : List Value} (h : db.Collects s params place values ids) :
    ids.Pairwise fun a b => a.same b = false := by
  obtain ⟨claim, rows, keep, hscan, rfl⟩ := h.scanned
  exact List.pairwise_map.mpr (hscan.distinct.filter keep)

/-- **The table is asked once**, for the change of the ids, after its scan: it is the last that is
written down of it, and no table is asked for any other change. -/
structure AsksOnce (db : Database) (s : Statement) (place : Nat) (values ids : List Value)
    (scanned : Running) (out : Except Error Int × Database) : Prop where
  collected : db.Collected s place s.condition ids scanned
  changed : SameButTelemetry
    (scanned.db.setTable place (s.change values ids (scanned.db.table place)).2) out.2
  answer : (∀ n, (s.change values ids (scanned.db.table place)).1 = .ok n → 0 ≤ n) →
    out.1 = (s.change values ids (scanned.db.table place)).1
  last : (out.2.table place).events =
    (scanned.db.table place).events ++ (db.table place).written (s.call values ids)
  once : ∀ other, (out.2.table other).changesAsked = (db.table other).changesAsked ++
    if other = place then (db.table place).written (s.call values ids) else []

/-- **No table is asked** for a change, and nothing but records is changed. -/
structure AsksNothing (db db' : Database) : Prop where
  alike : db.Alike () db'
  never : ∀ place, (db'.table place).changesAsked = (db.table place).changesAsked

theorem Alike.asksNothing (h : db.Alike () db') : db.AsksNothing db' := ⟨h, h.changesAsked⟩

/-- A table that yields anything is there. -/
theorem Scan.lt_length (h : db.Scan s place condition claim rows keep) :
    place < db.tables.length := by
  obtain ⟨source, hread, -⟩ := h.yields
  by_contra hplace
  have htable : db.table place = {} := by
    rw [table, List.getD_eq_getElem?_getD, List.getElem?_eq_none (Nat.not_lt.mp hplace)]
    rfl
  rw [htable] at hread
  cases hread

theorem Alike.length_tables (h : db.Alike () db') : db'.tables.length = db.tables.length := by
  have hmap : db'.tables.map Table.lasting = db.tables.map Table.lasting := congrArg (·.tables) h
  simpa using congrArg List.length hmap

theorem Alike.written (h : db.Alike () db') (place : Nat) (call : Call) :
    (db'.table place).written call = (db.table place).written call := by
  rw [← Table.written_lasting, lasting_table h, Table.written_lasting]

/-- A statement that has collected ids asks for their change. -/
theorem Collects.asksOnce (hselect : ∀ q, s ≠ .select q) (hinsert : ∀ i, s ≠ .insert i)
    {values : List Value} (h : db.Collects s params place values ids) (hsome : ids ≠ []) :
    ∃ scanned,
      db.AsksOnce (s.bind params) place values ids scanned ((execute s params).outcome db) := by
  obtain ⟨claim, rows, keep, hscan, hids⟩ := h.scanned
  rcases perform_cases params hselect hinsert h.found with
    ⟨values', -, hassigned, db₀, halike, hperform⟩ | ⟨hno, -⟩
  · obtain rfl := hassigned.unique h.assigned
    obtain ⟨scanned, hcollected, hanswer, hchanged⟩ :=
      hscan.changes (f := (s.bind params).change values') halike hids.symm hsome
    rw [← hperform] at hanswer hchanged
    -- The execution records what the change has left, and asks no table for anything else.
    have hout := hchanged.trans (sameButTelemetry_execute hselect)
    have hplace : place < scanned.db.tables.length :=
      hcollected.alike.length_tables.symm ▸ hscan.lt_length
    have htable : ((execute s params).outcome db).2.table place =
        ((s.bind params).change values' ids (scanned.db.table place)).2 :=
      (hout.table place).trans (table_setTable_self hplace _)
    refine ⟨scanned, hcollected, hout, fun hcount => ?_, ?_, fun other => ?_⟩
    · obtain ⟨_, hexecute, -⟩ := outcome_execute hselect (Prod.ext hanswer rfl) hcount
      rw [hexecute]
    · rw [htable, Statement.events_change, hcollected.alike.written]
    · by_cases hother : other = place
      · subst hother
        rw [htable, Statement.changesAsked_change, hcollected.alike.changesAsked,
          hcollected.alike.written, if_pos rfl]
      · rw [hout.table, table_setTable_other hother, hcollected.alike.changesAsked, if_neg hother,
          List.append_nil]
  · exact absurd h.proceeds hno

/-- A statement that has collected nothing asks for nothing. -/
theorem Collects.asksNothing (hselect : ∀ q, s ≠ .select q) (hinsert : ∀ i, s ≠ .insert i)
    {values : List Value} (h : db.Collects s params place values []) :
    ((execute s params).outcome db).1 = .ok 0 ∧
      db.AsksNothing ((execute s params).outcome db).2 := by
  obtain ⟨claim, rows, keep, hscan, hids⟩ := h.scanned
  rcases perform_cases params hselect hinsert h.found with
    ⟨values', -, -, db₀, halike, hperform⟩ | ⟨hno, -⟩
  · obtain ⟨hanswer, hafter⟩ := hscan.changes_nothing (f := (s.bind params).change values') halike
      (List.map_eq_nil_iff.mp hids.symm)
    rw [← hperform] at hanswer hafter
    obtain ⟨_, hexecute, hsame⟩ := outcome_execute hselect (Prod.ext hanswer rfl) fun n hn => by
      obtain rfl := Except.ok.inj hn
      exact Int.le_refl 0
    rw [hexecute]
    exact ⟨rfl, Alike.asksNothing (hsame.alike.trans hafter)⟩
  · exact absurd h.proceeds hno

/-- A statement that does not come to collect fails and asks for nothing. -/
theorem asksNothing_of_not_collects (hselect : ∀ q, s ≠ .select q) (hinsert : ∀ i, s ≠ .insert i)
    (hno : ∀ place values ids, ¬ db.Collects s params place values ids) :
    (∃ e, ((execute s params).outcome db).1 = .error e) ∧
      db.AsksNothing ((execute s params).outcome db).2 := by
  have hperform : ∃ e db', (perform s params).outcome db = (.error e, db') ∧ db.Alike () db' := by
    rcases hfind : db.find s.table with e | place
    · exact ⟨e, db, outcome_perform_missing hfind, alike_self db⟩
    rcases perform_cases params hselect hinsert hfind with
      ⟨values, hproceeds, hassigned, db₀, halike, hperform⟩ | ⟨-, hfailed⟩
    · obtain ⟨⟨e, hanswer⟩, hafter⟩ := changeMatching_stopped (f := (s.bind params).change values)
        halike fun claim rows keep hscan =>
          hno place values _ ⟨hfind, hproceeds, hassigned, claim, rows, keep, hscan, rfl⟩
      rw [← hperform] at hanswer hafter
      exact ⟨e, _, Prod.ext hanswer rfl, hafter⟩
    · exact hfailed
  obtain ⟨e, db', hperform, halike⟩ := hperform
  obtain ⟨_, hexecute, hsame⟩ := outcome_execute hselect hperform nofun
  rw [hexecute]
  exact ⟨⟨e, rfl⟩, Alike.asksNothing (hsame.alike.trans halike)⟩

end

/-- **UPDATE and DELETE collect before they change.**  What a statement has collected when its table
was scanned to the end is asked of the table in one change, each id once, if there is any id; otherwise
nothing is asked.  If the statement does not come so far, since its table is unknown, a condition is
missing, an assignment has no value, the table fails or breaks its contract, or the condition has no
value on a row, then it fails, and nothing is asked either. -/
theorem execute_collects (db : Database) (params : Parameters) {s : Statement}
    (hselect : ∀ q, s ≠ .select q) (hinsert : ∀ i, s ≠ .insert i) :
    let out := (execute s params).outcome db
    (∀ place values ids, db.Collects s params place values ids →
      ids.Pairwise (fun a b => a.same b = false) ∧
        (ids ≠ [] → ∃ scanned, db.AsksOnce (s.bind params) place values ids scanned out) ∧
        (ids = [] → out.1 = .ok 0 ∧ db.AsksNothing out.2)) ∧
      ((∀ place values ids, ¬ db.Collects s params place values ids) →
        (∃ e, out.1 = .error e) ∧ db.AsksNothing out.2) := by
  refine ⟨fun place values ids h => ⟨h.distinct, h.asksOnce hselect hinsert, ?_⟩,
    asksNothing_of_not_collects hselect hinsert⟩
  rintro rfl
  exact h.asksNothing hselect hinsert

/-- Three rows, the first of them without the column. -/
def partlyKnown : List Row :=
  [⟨.int 1, []⟩, ⟨.int 2, [(.name "a", .int 4)]⟩, ⟨.int 3, [(.name "a", .int 7)]⟩]

/-- A database of a scripted table that claims to yield the rows in order behind one that it left
out. -/
def partlyDatabase : Database where
  tables := [{
    name := "t"
    content := .script {
      items := some ((contracted (some { column := .text "a", skipped := .int 1 })
        partlyKnown).map .item)
      delete := some .count } }]
  names := [("t", 0)]

/-- The known rows are collected, whatever the claim says. -/
theorem collects_partlyDatabase :
    partlyDatabase.Collects (.delete deleteKnown) .none 0 [] [.int 2, .int 3] where
  found := rfl
  proceeds := rfl
  assigned := rfl
  scanned := by
    refine ⟨some { column := .text "a", skipped := .int 1 }, partlyKnown,
      fun r => !(r.columns.column "a").isNull, ?_, rfl⟩
    refine ⟨⟨.script 0, rfl, Table.yields_script rfl rfl rfl 0⟩, by decide +kernel, rfl,
      by decide +kernel, by decide +kernel, fun r hr => ?_⟩
    simp only [partlyKnown, List.mem_cons, List.not_mem_nil, or_false] at hr
    rcases hr with rfl | rfl | rfl <;> rfl

theorem execute_partlyDatabase :
    partlyDatabase.Collects (.delete deleteKnown) .none 0 [] [.int 2, .int 3] ∧
      ∃ scanned, partlyDatabase.AsksOnce (.delete deleteKnown) 0 [] [.int 2, .int 3] scanned
        ((execute (.delete deleteKnown) .none).outcome partlyDatabase) := by
  refine ⟨collects_partlyDatabase, ?_⟩
  obtain ⟨-, hasks, -⟩ := (execute_collects partlyDatabase .none (s := .delete deleteKnown) nofun
    nofun).1 0 [] _ collects_partlyDatabase
  exact hasks (by simp)

/-- What is written down of a table: the whole scan, its end, and the change. -/
example :
    let db := claimingDatabase { column := .text "a", skipped := .int 1 }
    (((execute (.delete deleteKnown) .none).outcome db).2.table 0).events.map (·.call) =
      [.select "BINARY" "a IS NOT NULL" [] "None" "None", .pull 0, .pull 1, .finish,
        .delete [.int 1]] := rfl

end Database
end TableQuery
