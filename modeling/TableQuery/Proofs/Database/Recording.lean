/-
# TableQuery.Proofs.Database.Recording — a row given by names is inserted once.

A row given as columns and values goes into its table by way of a text: names are quoted, the values
stand in the text as markers, and the text is read and carried out like any other.  What comes out is
nevertheless one insertion: the table that is registered under the name is asked to insert the row, no
other table is asked for anything, and the answer is the id that the table gave.

The names must have no dots.  A dot parts a name where it is quoted, and the text then names another
table (`insertRecord_partedName`).

## §A — rows without repeated keys.
## §B — one row of literals.
## §C — insertion by names.
-/
import TableQuery.Proofs.Database.Asking
import TableQuery.Proofs.Database.Collecting
import TableQuery.Proofs.Database.Inserting
import TableQuery.Proofs.Sql.Changes

namespace TableQuery

open Run Running

/-! ## §A — rows without repeated keys -/

namespace Record

theorem set_of_not_mem {r : Record} {key : Key} (h : key ∉ r.map (·.1)) (v : Value) :
    r.set key v = r ++ [(key, v)] := by
  induction r with
  | nil => rfl
  | cons entry r ih =>
    obtain ⟨k, w⟩ := entry
    simp only [List.map_cons, List.mem_cons, not_or] at h
    rw [set, if_neg (Ne.symm h.1), ih h.2]
    rfl

/-- Pairs whose keys are new are written behind the others. -/
theorem update_of_nodup {r pairs : Record} (h : ((r ++ pairs).map (·.1)).Nodup) :
    r.update pairs = r ++ pairs := by
  induction pairs generalizing r with
  | nil => exact (List.append_nil r).symm
  | cons pair pairs ih =>
    obtain ⟨key, v⟩ := pair
    have hnew : key ∉ r.map (·.1) := by
      rw [List.map_append, List.map_cons, List.nodup_append] at h
      exact fun hmem => h.2.2 key hmem key List.mem_cons_self rfl
    show (r.set key v).update pairs = _
    rw [set_of_not_mem hnew, ih (by simpa using h)]
    simp

/-- The record of pairs without a repeated key is these pairs. -/
theorem ofPairs_of_nodup {pairs : Record} (h : (pairs.map (·.1)).Nodup) : ofPairs pairs = pairs :=
  update_of_nodup (r := []) h

end Record

namespace Table

/-- **An insertion is one call**, which a scripted table writes down behind all that it was asked
before. -/
theorem events_insert (t : Table) (row : Record) :
    (t.insert row).2.events = t.events ++ t.written (.insert row) := by
  have hname : String.ofList ("insert".toList.map Char.toLower) = "insert" := by decide +kernel
  rcases t with ⟨name, collation, _ | k | rows | f | sc⟩
  case script =>
    simp only [insert, written, supports, Call.operation, hname, Script.offers]
    cases sc.ids <;> simp [note, events, Script.note]
  all_goals rfl

end Table

namespace Database

/-! ## §B — one row of literals -/

section
variable {db db' : Database} {place : Nat}

/-- Literals have their values. -/
theorem outcome_valuesFrom_literals (ev : Evaluator Running) (row n : Nat) (values : List Value)
    (r : Running) :
    (valuesFrom ev row n (values.map .literal)).outcome r = (.ok values, r) := by
  induction values generalizing n with
  | nil => rfl
  | cons v values ih =>
    have hfirst : (ev.evaluate [] [n, row] (.literal v)).outcome r = (.ok v, r) := rfl
    rw [List.map_cons, valuesFrom, outcome_bind, hfirst, resume_ok, outcome_bind, ih]
    rfl

/-- One row of literals is inserted as it is. -/
theorem outcome_insertRows_literals (ev : Evaluator Running) (place : Nat) (columns : List String)
    (values : List Value) (db : Database) :
    (insertRows ev place columns 0 [values.map .literal]).outcome { db } =
      ((insertInto place (insertedRow columns values)).outcome db).map id ({ db := · }) := by
  have hout : (insertRows ev place columns 0 [values.map .literal]).outcome { db } =
      resume (fun _ => pure ()) ((onDatabase (insertInto place (insertedRow columns values))).outcome
        { db }) := by
    rw [insertRows, outcome_bind, outcome_valuesFrom_literals, resume_ok, outcome_bind]
    rfl
  rw [hout, outcome_onDatabase]
  rcases (insertInto place (insertedRow columns values)).outcome db with ⟨e | ⟨⟩, db₁⟩ <;> rfl

/-- **One insertion** — the table at the place has answered the insertion of the row with the id; the
other tables are as they were, and so is everything else but the id that is kept and what was
recorded. -/
structure InsertsOnce (db : Database) (place : Nat) (row : Record) (id : Value) (db' : Database) :
    Prop where
  answer : ((db.table place).insert row).1 = .ok id
  changed : SameButTelemetry
    { db.setTable place ((db.table place).insert row).2 with lastId := id } db'

theorem InsertsOnce.lastId {row : Record} {id : Value} (h : db.InsertsOnce place row id db') :
    db'.lastId = id := h.changed.lastId

/-- Only a table that is there inserts. -/
theorem InsertsOnce.lt_length {row : Record} {id : Value} (h : db.InsertsOnce place row id db') :
    place < db.tables.length := by
  by_contra hplace
  have htable : db.table place = {} := by
    rw [table, List.getD_eq_getElem?_getD, List.getElem?_eq_none (Nat.not_lt.mp hplace)]
    rfl
  have hanswer := h.answer
  rw [htable] at hanswer
  cases hanswer

/-- What the tables were asked: the one at the place for the insertion, no other one for anything. -/
theorem InsertsOnce.events {row : Record} {id : Value} (h : db.InsertsOnce place row id db')
    (other : Nat) :
    (db'.table other).events = (db.table other).events ++
      if other = place then (db.table place).written (.insert row) else [] := by
  rw [h.changed.table]
  show ((db.setTable place ((db.table place).insert row).2).table other).events = _
  by_cases hother : other = place
  · subst hother
    rw [table_setTable_self h.lt_length, Table.events_insert, if_pos rfl]
  · rw [table_setTable_other hother, if_neg hother, List.append_nil]

/-- An insertion into a table gives an id, or it fails. -/
theorem insertsOnce_insertInto {row : Record} {db' : Database}
    (h : (insertInto place row).outcome db = (.ok (), db')) :
    ∃ id, db.InsertsOnce place row id db' := by
  rw [insertInto, outcome_bind, outcome_onTable] at h
  rcases hinsert : (db.table place).insert row with ⟨e | id, t⟩
  · rw [hinsert] at h
    cases h
  · rw [hinsert, resume_ok, outcome_modify] at h
    refine ⟨id, by rw [hinsert], ?_⟩
    rw [hinsert]
    obtain ⟨-, rfl⟩ := Prod.mk.inj h
    dsimp only
    split <;> exact ⟨_, rfl⟩

/-- What differs in telemetry only is the same before an insertion and behind it. -/
theorem InsertsOnce.same {row : Record} {id : Value} {db₀ db₁ : Database}
    (h : db₀.InsertsOnce place row id db₁) (hbefore : SameButTelemetry db db₀)
    (hafter : SameButTelemetry db₁ db') : db.InsertsOnce place row id db' := by
  have htable := hbefore.table place
  refine ⟨htable ▸ h.answer, ?_⟩
  obtain ⟨telemetry, rfl⟩ := hbefore
  obtain ⟨telemetry₁, hchanged⟩ := h.changed
  obtain ⟨telemetry₂, rfl⟩ := hafter
  exact ⟨telemetry₂, by rw [hchanged]; rfl⟩

/-- **An INSERT of one row of literals** that answers is one insertion. -/
theorem insertsOnce_insert {i : Insert} {values : List Value} {n : Int}
    (hrows : i.rows = [values.map .literal]) (h : (insert i place).outcome db = (.ok n, db')) :
    ∃ id, db.InsertsOnce place (insertedRow i.columns values) id db' := by
  obtain ⟨db₂, hinsert, hsame⟩ := outcome_insert i place db
  rw [hrows, outcome_insertRows_literals] at hinsert hsame
  rw [hinsert] at h
  rcases hone : (insertInto place (insertedRow i.columns values)).outcome db with ⟨e | ⟨⟩, db₁⟩
  · rw [hone] at h
    cases h
  · rw [hone] at h hsame
    obtain ⟨id, honce⟩ := insertsOnce_insertInto hone
    obtain ⟨-, rfl⟩ := Prod.mk.inj h
    exact ⟨id, honce.same ⟨_, rfl⟩ hsame⟩

/-- Carrying such an INSERT out is one insertion, if it answers. -/
theorem insertsOnce_execute {i : Insert} {params : Parameters} {values : List Value} {n : Int}
    (hrows : (i.bind params).rows = [values.map .literal])
    (h : (execute (.insert i) params).outcome db = (.ok n, db')) :
    ∃ place id, db.find i.table = .ok place ∧
      db.InsertsOnce place (insertedRow i.columns values) id db' := by
  have hsame : SameButTelemetry ((perform (.insert i) params).outcome db).2
      ((execute (.insert i) params).outcome db).2 := sameButTelemetry_execute nofun
  rcases hfind : db.find i.table with e | place
  · have hmissing : (perform (.insert i) params).outcome db = (.error e, db) :=
      outcome_perform_missing hfind
    obtain ⟨db₁, hexecute, -⟩ := outcome_execute (s := .insert i) nofun hmissing nofun
    rw [hexecute] at h
    cases h
  · rcases hperform : (perform (.insert i) params).outcome db with ⟨answer, db₁⟩
    rw [hperform, h] at hsame
    have hinsert := hperform
    rw [outcome_perform (s := .insert i) hfind] at hinsert
    -- A failing INSERT would have made the execution fail, and this one answers.
    rcases answer with e | m
    · obtain ⟨db₂, hexecute, -⟩ := outcome_execute (s := .insert i) nofun hperform nofun
      rw [hexecute] at h
      cases h
    · obtain ⟨id, honce⟩ := insertsOnce_insert hrows hinsert
      exact ⟨place, id, rfl, honce.same ⟨_, rfl⟩ hsame⟩

end

/-! ## §C — insertion by names -/

/-- The markers of a row are bound to the values of a list one after the other. -/
theorem bindListFrom_markersFrom (values : List Value) (n count m : Nat) :
    Expr.bindListFrom (.list values) (Sql.markersFrom n count) m =
      ((List.range' n count).map fun i => .literal (values.getD i .null), m) := by
  induction count generalizing n with
  | zero => rfl
  | succ count ih =>
    have hfirst : Expr.bindFrom (.list values) (.marker { index := some (Int.ofNat n) }) m =
        (.literal (values.getD n .null), m) := by
      have hposition : Parameters.atPosition (.list values) (Int.ofNat n) = values.getD n .null := by
        simp [Parameters.atPosition]
      rw [← hposition]
      rfl
    show ((Expr.bindFrom (.list values) (.marker { index := some (Int.ofNat n) }) m).1 ::
        (Expr.bindListFrom (.list values) (Sql.markersFrom (n + 1) count)
          (Expr.bindFrom (.list values) (.marker { index := some (Int.ofNat n) }) m).2).1,
      (Expr.bindListFrom (.list values) (Sql.markersFrom (n + 1) count)
          (Expr.bindFrom (.list values) (.marker { index := some (Int.ofNat n) }) m).2).2) = _
    rw [hfirst, ih]
    rfl

theorem bind_insertOfMarkers (table : String) {columns : List String} {values : List Value}
    (h : columns.length = values.length) :
    ((Sql.insertOfMarkers table columns).bind (.list values)).rows = [values.map .literal] := by
  have hvalues : (List.range' 0 values.length).map (fun i => values.getD i .null) = values := by
    refine List.ext_getElem (by simp) fun i hi hi' => ?_
    simp [hi']
  have hliterals : (List.range' 0 values.length).map (fun i => Expr.literal (values.getD i .null)) =
      values.map .literal := by
    conv_rhs => rw [← hvalues, List.map_map]
    rfl
  show [(Expr.bindListFrom (.list values) (Sql.markersFrom 0 columns.length) 0).1] = _
  rw [bindListFrom_markersFrom, h, hliterals]

/-- **A row given by names is inserted once**, into the table that is registered under the name. -/
theorem insertRecord_once {db db' : Database} {table : String} (htable : '.' ∉ table.toList)
    {data : List (String × Value)} (hdots : ∀ c ∈ data, '.' ∉ c.1.toList)
    (hdistinct : (data.map (·.1)).Nodup) {id : Value}
    (h : (insertRecord table data).outcome db = (.ok id, db')) :
    ∃ place, db.find table = .ok place ∧
      db.InsertsOnce place (data.map fun c => (.name c.1, c.2)) id db' := by
  rw [insertRecord] at h
  by_cases hdata : data = []
  · subst hdata
    cases h
  have hcolumns : data.map (·.1) ≠ [] := by simpa using hdata
  have hread := Statement.ofText_insertText htable hcolumns fun c hc => by
    obtain ⟨entry, hentry, rfl⟩ := List.mem_map.mp hc
    exact hdots entry hentry
  have hrow : insertedRow (data.map (·.1)) (data.map (·.2)) =
      data.map fun c => (.name c.1, c.2) := by
    have hempty : (data.map (·.1)).isEmpty = false := by simpa using hdata
    have hpairs : ((data.map (·.1)).map Key.name).zip (data.map (·.2)) =
        data.map fun c => (Key.name c.1, c.2) := by
      rw [List.map_map, List.zip_map']
      rfl
    have hkeys : ((data.map fun c => (Key.name c.1, c.2)).map (·.1)).Nodup := by
      rw [List.map_map]
      have hnames := hdistinct.map (f := Key.name) fun a b hab => by cases hab; rfl
      rwa [List.map_map] at hnames
    rw [insertedRow, hempty, hpairs]
    exact Record.ofPairs_of_nodup hkeys
  rw [List.isEmpty_eq_false_iff.mpr hdata] at h
  change (do
    let _ ← executeText (insertText table (data.map (·.1))) (.list (data.map (·.2)))
    return (← get).lastId : Run Database Value).outcome db = _ at h
  obtain ⟨n, db₁, htext, h⟩ := outcome_bind_eq_ok.mp h
  obtain ⟨hid, rfl⟩ := Prod.mk.inj h
  obtain rfl := Except.ok.inj hid
  -- Reading the text leaves telemetry only, and what is read is the INSERT of the markers.
  obtain ⟨db₀, hparse, hsame⟩ := outcome_parse (insertText table (data.map (·.1))) db
  rw [executeText, outcome_bind, hparse, hread] at htext
  by_cases hname : table = ""
  · rw [if_pos hname] at htext
    cases htext
  rw [if_neg hname, resume_ok] at htext
  obtain ⟨place, id, hfind, honce⟩ := insertsOnce_execute
    (bind_insertOfMarkers table (by rw [List.length_map, List.length_map])) htext
  have hfind' : db.find table = .ok place := by
    obtain ⟨telemetry, rfl⟩ := hsame
    exact hfind
  change db₀.InsertsOnce place (insertedRow (data.map (·.1)) (data.map (·.2))) id db₁ at honce
  rw [hrow] at honce
  have hafter : SameButTelemetry db₁ db₁ := ⟨db₁.telemetry, rfl⟩
  have honce' := honce.same hsame hafter
  exact ⟨place, hfind', honce'.lastId ▸ honce'⟩

/-- A table that keeps its rows, and a table that follows a script and gives one id. -/
def numberingDatabase : Database where
  tables := [{ name := "kept", content := .kept {} },
    { name := "a \" table", content := .script { ids := some [.int 7] } }]
  names := [("kept", 0), ("a \" table", 1)]

/-- A row whose columns are a keyword and two words. -/
def keywordRow : List (String × Value) := [("SELECT", .int 1), ("x y", .null)]

/-- The id that was answered, where it is an integer. -/
def idNumber? : Except Error Value → Option Int
  | .ok (.int i) => some i
  | _ => none

theorem eq_of_idNumber? {answer : Except Error Value} {i : Int} (h : idNumber? answer = some i) :
    answer = .ok (.int i) := by
  cases answer with
  | error e => cases h
  | ok v =>
    cases v <;> cases h
    rfl

set_option maxRecDepth 100000 in
theorem insertRecord_numberingDatabase :
    ∃ db', '.' ∉ "a \" table".toList ∧ (∀ c ∈ keywordRow, '.' ∉ c.1.toList) ∧
      (keywordRow.map (·.1)).Nodup ∧
      (insertRecord "a \" table" keywordRow).outcome numberingDatabase = (.ok (.int 7), db') ∧
      ∃ place, numberingDatabase.find "a \" table" = .ok place ∧
        numberingDatabase.InsertsOnce place (keywordRow.map fun c => (.name c.1, c.2)) (.int 7) db' := by
  have hanswer : idNumber? ((insertRecord "a \" table" keywordRow).outcome numberingDatabase).1 =
      some 7 := by decide +kernel
  rcases hout : (insertRecord "a \" table" keywordRow).outcome numberingDatabase with ⟨answer, db'⟩
  rw [hout] at hanswer
  obtain rfl := eq_of_idNumber? hanswer
  exact ⟨db', by decide, by decide, by decide, rfl,
    insertRecord_once (by decide) (by decide) (by decide) hout⟩

/-- Two tables, one of them under a name with a dot. -/
def partedDatabase : Database where
  tables := [{ name := "a.b", content := .kept {} }, { name := "b", content := .kept {} }]
  names := [("a.b", 0), ("b", 1)]

/-- The keys of the rows that a table keeps. -/
def keptKeys (db : Database) (place : Nat) : Option (List (List Key)) :=
  (db.table place).keptRows?.map (·.map fun r => r.columns.map (·.1))

set_option maxRecDepth 100000 in
/-- A name with a dot is parted where it is quoted, and the row goes into the table that the last part
names. -/
theorem insertRecord_partedName :
    partedDatabase.find "a.b" = .ok 0 ∧
      idNumber? ((insertRecord "a.b" [("x", .int 1)]).outcome partedDatabase).1 = some 0 ∧
      keptKeys ((insertRecord "a.b" [("x", .int 1)]).outcome partedDatabase).2 0 = some [] ∧
      keptKeys ((insertRecord "a.b" [("x", .int 1)]).outcome partedDatabase).2 1 =
        some [[.name "x"]] := by
  refine ⟨rfl, ?_, ?_, ?_⟩
  · decide +kernel
  · decide +kernel
  · decide +kernel

end Database
end TableQuery
