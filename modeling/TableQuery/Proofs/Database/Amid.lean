/-
# TableQuery.Proofs.Database.Amid — a reading amid other readings.

A SELECT on a database shares the database with its own subqueries, which may read the same table
while the SELECT is in the midst of it.  What readings change are records only: what was asked of a
scripted table, and telemetry.  `Database.forget` leaves these out, `Running.Amid` says how far a
reading has come, and `host_feeds` that the host of a SELECT comes to the items of its table however
the readings are mixed.

## §A — databases without records.
## §B — how far a reading has come.
## §C — the host of a SELECT.
-/
import TableQuery.Database.Reading
import TableQuery.Proofs.Reading.Delivery
import TableQuery.Proofs.Table.Yield

namespace TableQuery

/-! ## §A — databases without records -/

namespace Database

/-- The database without the records that readings leave. -/
def forget (db : Database) : Database :=
  { db with tables := db.tables.map Table.lasting, telemetry := {} }

@[simp]
theorem forget_log (db : Database) (level : Level) (logger : Logger) (event : String) :
    (db.log level logger event).forget = db.forget := rfl

@[simp]
theorem forget_count (db : Database) (s : Sample) (n : Int) :
    (db.count s n).forget = db.forget := rfl

@[simp]
theorem forget_span (db : Database) (s : Span) : (db.span s).forget = db.forget := rfl

@[simp]
theorem table_forget (db : Database) (place : Nat) :
    db.forget.table place = (db.table place).lasting := by
  simp only [table, forget, List.getD_eq_getElem?_getD, List.getElem?_map]
  cases db.tables[place]? <;> rfl

/-- Databases that are alike have alike tables. -/
theorem lasting_table {db db' : Database} (h : db.forget = db'.forget) (place : Nat) :
    (db.table place).lasting = (db'.table place).lasting := by
  rw [← table_forget, h, table_forget]

/-- A table that is put in its place again changes nothing but records. -/
theorem forget_setTable {db : Database} {place : Nat} {t : Table}
    (h : t.lasting = (db.table place).lasting) : (db.setTable place t).forget = db.forget := by
  have hset : (db.tables.map Table.lasting).set place t.lasting =
      db.tables.map Table.lasting := by
    by_cases hplace : place < db.tables.length
    · have hmap : place < (db.tables.map Table.lasting).length := by simpa
      have hget : t.lasting = (db.tables.map Table.lasting)[place] := by
        rw [h, List.getElem_map, table, List.getD_eq_getElem?_getD, List.getElem?_eq_getElem hplace]
        rfl
      rw [hget, List.set_getElem_self]
    · exact List.set_eq_of_length_le (by simpa using hplace)
  rw [forget, setTable, List.map_set, hset]
  rfl

end Database

/-! ## §B — how far a reading has come -/

namespace Running
open Run Database

/-- **Amid a reading** — the database is as it was but for records, the table is at its place,
`source` is what is to come of it, and the values of subqueries are good ones. -/
structure Amid (db : Database) (place : Nat) (good : List (Place × Deferred) → Prop)
    (source : Source) (r : Running) : Prop where
  database : r.db.forget = db.forget
  place : r.place = place
  source : r.source = source
  answers : good r.answers

/-- A reading that has some items of its table to come. -/
def Coming (db : Database) (place : Nat) (good : List (Place × Deferred) → Prop)
    (items : List Item) (r : Running) : Prop :=
  ∃ source, Amid db place good source r ∧ (db.table place).Yields source items

section
variable {db : Database} {place : Nat} {good : List (Place × Deferred) → Prop}
  {source : Source} {r : Running}

theorem Amid.lasting_table (h : Amid db place good source r) :
    (r.db.table r.place).lasting = (db.table place).lasting := by
  rw [h.place]
  exact Database.lasting_table h.database place

/-- A reading that goes on in a database with other records. -/
theorem Amid.onward (h : Amid db place good source r) {db' : Database}
    (hdb : db'.forget = r.db.forget) (source' : Source) (plan : Option Plan) :
    Amid db place good source' { r with db := db', source := source', plan } :=
  ⟨hdb.trans h.database, h.place, rfl, h.answers⟩

/-- What settles amid a reading settles whatever is known of its source. -/
theorem leads_amid {α : Type} {x : Run Running α} {a : Except Error α}
    (h : Settles (Amid db place good) x a) (known : Source → Prop) :
    Leads (fun r => ∃ source, Amid db place good source r ∧ known source) x a
      fun r => ∃ source, Amid db place good source r ∧ known source := by
  rintro r ⟨source, hamid, hknown⟩
  obtain ⟨hanswer, hafter⟩ := h source r hamid
  exact ⟨hanswer, source, hafter, hknown⟩

/-- What settles amid a reading settles while items are to come. -/
theorem settles_coming {α : Type} {x : Run Running α} {a : Except Error α}
    (h : Settles (Amid db place good) x a) : Settles (Coming db place good) x a :=
  fun items => leads_amid h fun source => (db.table place).Yields source items

/-! ## §C — the host of a SELECT -/

theorem outcome_onDatabase {α : Type} (x : Run Database α) (r : Running) :
    (onDatabase x).outcome r = ((x.outcome r.db).1, { r with db := (x.outcome r.db).2 }) := rfl

theorem outcome_pull (r : Running) :
    let p := (r.db.table r.place).pull r.source
    let db := r.db.setTable r.place p.table
    pull.outcome r = (p.answer, { r with
      db := match p.remark with
        | some event => db.log .warning .csv event
        | none => db
      source := p.source }) := by
  intro p db
  rw [pull, outcome_bind, outcome_get, resume_ok, outcome_bind, outcome_set, resume_ok]
  exact outcome_liftExcept _ _

theorem outcome_read (c : Collation) (s : Select) (r : Running) :
    let answer := (r.db.table r.place).read c s
    let begun := { r with db := r.db.setTable r.place answer.2 }
    (read c s).outcome r =
      match answer.1 with
      | .ok source => (.ok (), { begun with source })
      | .error e => (.error e, begun) := by
  simp only [read, outcome_bind, outcome_get, resume_ok, outcome_set, outcome_liftExcept]
  cases ((r.db.table r.place).read c s).1 <;> rfl

/-- A pull amid a reading gives what a pull of the table alone gives. -/
theorem Amid.pull (h : Amid db place good source r) :
    (pull.outcome r).1 = ((db.table place).pull source).answer ∧
      Amid db place good ((db.table place).pull source).source (pull.outcome r).2 := by
  have hgiven := Table.given_pull_congr h.lasting_table source
  simp only [Pulled.given, Prod.mk.injEq] at hgiven
  rw [outcome_pull, h.source, ← hgiven.1, ← hgiven.2.1]
  refine ⟨rfl, h.onward ?_ _ _⟩
  -- The table is put back with one more pull on record, and a remark of it goes to the log: both are
  -- records.
  have hset := forget_setTable (Table.lasting_pull (r.db.table r.place) source)
  split <;> exact hset

/-- Beginning a reading amid others is beginning it alone. -/
theorem Amid.read (h : Amid db place good source r) (c : Collation) (s : Select) :
    let answer := ((db.table place).read c s).1
    ((read c s).outcome r).1 = answer.map (fun _ => ()) ∧
      Amid db place good (answer.toOption.getD source) ((read c s).outcome r).2 := by
  have halone : ((r.db.table r.place).read c s).1 = ((db.table place).read c s).1 := by
    rw [← Table.read_lasting, h.lasting_table, Table.read_lasting]
  have hset := forget_setTable (Table.lasting_read (r.db.table r.place) c s)
  rw [outcome_read, halone]
  rcases ((db.table place).read c s).1 with e | source'
  · exact ⟨rfl, hset.trans h.database, h.place, h.source, h.answers⟩
  · exact ⟨rfl, h.onward hset _ _⟩

theorem Amid.modifyDatabase (h : Amid db place good source r) {f : Database → Database}
    (hf : ∀ db, (f db).forget = db.forget) :
    Amid db place good source ((modifyDatabase f).run r).2 :=
  ⟨(hf r.db).trans h.database, h.place, h.source, h.answers⟩

/-- A remark changes records only. -/
theorem Amid.note (h : Amid db place good source r) (name : String) (remark : Remark) :
    Amid db place good source ((note name remark).run r).2 := by
  cases remark with
  | planned p => exact ⟨h.database, h.place, h.source, h.answers⟩
  | scanned => exact h.modifyDatabase fun _ => rfl
  | breached => exact h.modifyDatabase fun _ => rfl

/-- Giving a reading up leaves records only. -/
theorem Amid.close (h : Amid db place good source r) :
    Amid db place good .closed (close.run r).2 :=
  ⟨(forget_setTable (Table.lasting_close ..)).trans h.database, h.place, rfl, h.answers⟩

/-- Amid other readings the patience is that of the table alone. -/
theorem Amid.patience (h : Amid db place good source r) :
    (patience.run r).1 = (db.table place).patience := by
  rw [← Table.patience_lasting, ← h.lasting_table, Table.patience_lasting]
  rfl

/-- The host of a SELECT offers the items that its source is known to come to. -/
theorem host_offers_known {known : List Item → Source → Prop}
    (hpull : ∀ i items source, known (i :: items) source →
      ((db.table place).pull source).answer = .ok (some i) ∧
        known items ((db.table place).pull source).source)
    (name : String) (ev : Evaluator Running) :
    (host name ev).Offers (fun items r => ∃ source, Amid db place good source r ∧ known items source)
      (db.table place).patience where
  pull_item i items := by
    rintro r ⟨source, hamid, hknown⟩
    obtain ⟨hitem, hrest⟩ := hpull i items source hknown
    obtain ⟨hanswer, hafter⟩ := hamid.pull
    exact ⟨hanswer.trans hitem, _, hafter, hrest⟩
  note remark items r := by
    rintro ⟨source, hamid, hknown⟩
    exact ⟨source, hamid.note name remark, hknown⟩
  patience_eq items r := by
    rintro ⟨source, hamid, hknown⟩
    exact ⟨hamid.patience, source, hamid, hknown⟩

/-- **The host of a SELECT is a feed** of the items of its table. -/
theorem host_feeds (name : String) (ev : Evaluator Running) :
    (host name ev).Feeds (Coming db place good) (db.table place).patience where
  toOffers := by
    refine host_offers_known (fun i items source hyields => ?_) name ev
    cases hyields with
    | item hitem hrest => exact ⟨hitem, hrest⟩
  pull_done := by
    rintro r ⟨source, hamid, hyields⟩
    cases hyields with
    | done hanswer =>
        obtain ⟨hpull, hafter⟩ := hamid.pull
        exact ⟨hpull.trans hanswer, _, hafter, .of_done hanswer⟩

end
end Running
end TableQuery
