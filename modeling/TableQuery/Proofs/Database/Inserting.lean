/-
# TableQuery.Proofs.Database.Inserting — INSERT works tuple after tuple.

An INSERT evaluates a tuple, inserts the row that it makes, and goes on with the next one.  So a
subquery in a tuple reads the rows that the tuples before it have made, and where a tuple fails, the
rows before it stay.  `InTurn` says this without the surroundings of a run: every tuple is evaluated
by itself, on the database that the tuples before it have left.  Running is the same
(`insertRows_inTurn`), since what is remembered of the subqueries of one tuple is never asked for by
another, and the tables come out as they were but for the new rows at the end of one of them.

## §A — tuples in turn.
## §B — one row.
## §C — one tuple.
## §D — all tuples.
## §E — statements.
-/
import TableQuery.Proofs.Database.Changing

namespace TableQuery

open Run Running

/-! ## §A — tuples in turn -/

namespace Database

/-- **The values of a tuple** of an INSERT, in the database as it is. -/
def tupleValues (db : Database) (s : Insert) (place index : Nat) (es : List Expr) :
    Except Error (List Value) :=
  ((valuesFrom (evaluatorFor (.insert s) place db) index 0 es).outcome { db }).1

/-- The database after a row was inserted into the table at a place. -/
def withRow (db : Database) (place : Nat) (row : Record) : Database :=
  ((insertInto place row).outcome db).2

/-- The database after the rows of some tuples were inserted. -/
def withTuples (db : Database) (place : Nat) (columns : List String) (done : List (List Value)) :
    Database :=
  done.foldl (fun db values => db.withRow place (insertedRow columns values)) db

/-- **Tuples in turn** — each tuple from an index on is evaluated on the database that the ones before
it have left, and its row is inserted; a tuple that fails is the last.  `done` holds the values of the
tuples whose rows were inserted. -/
inductive InTurn (s : Insert) (place : Nat) :
    Nat → List (List Expr) → Database → List (List Value) → Except Error Unit → Prop
  | finished {n : Nat} {db : Database} : InTurn s place n [] db [] (.ok ())
  | failed {n : Nat} {db : Database} {es : List Expr} {rest : List (List Expr)} {e : Error} :
      db.tupleValues s place n es = .error e → InTurn s place n (es :: rest) db [] (.error e)
  | inserted {n : Nat} {db : Database} {es : List Expr} {rest : List (List Expr)}
      {values : List Value} {done : List (List Value)} {result : Except Error Unit} :
      db.tupleValues s place n es = .ok values →
        InTurn s place (n + 1) rest (db.withRow place (insertedRow s.columns values)) done result →
        InTurn s place n (es :: rest) db (values :: done) result

section
variable {s : Insert} {place n : Nat} {tuples : List (List Expr)} {db : Database}
  {done : List (List Value)}

/-- Without a failure every tuple was inserted. -/
theorem InTurn.length_eq (h : InTurn s place n tuples db done (.ok ())) :
    done.length = tuples.length := by
  generalize hresult : Except.ok (ε := Error) () = result at h
  induction h with
  | finished => rfl
  | failed => cases hresult
  | inserted _ _ ih => exact congrArg Nat.succ (ih hresult)

/-- With a failure some tuple was not. -/
theorem InTurn.length_lt {e : Error} (h : InTurn s place n tuples db done (.error e)) :
    done.length < tuples.length := by
  generalize hresult : Except.error (α := Unit) e = result at h
  induction h with
  | finished => cases hresult
  | failed => exact Nat.succ_pos _
  | inserted _ _ ih => exact Nat.succ_lt_succ (ih hresult)

end

/-! ## §B — one row -/

section
variable {db db' : Database} {place : Nat} {k : Kept}

/-- A table that keeps other rows. -/
def keeping (t : Table) (k : Kept) : Table := { t with content := .kept k }

/-- The row comes last in the table, and its id is kept. -/
theorem withRow_eq (hk : (db.table place).content = .kept k) (row : Record) :
    (insertInto place row).outcome db = (.ok (), db.withRow place row) ∧
      SameButTelemetry
        { db.setTable place (keeping (db.table place) (k.insert row).1) with
          lastId := .int (k.insert row).2 }
        (db.withRow place row) := by
  have hinsert : (db.table place).insert row =
      (.ok (.int (k.insert row).2), keeping (db.table place) (k.insert row).1) := by
    rw [Table.insert, hk]
    rfl
  rw [withRow, insertInto, outcome_bind, outcome_onTable, hinsert, resume_ok, outcome_modify]
  refine ⟨rfl, ?_⟩
  dsimp only
  split <;> exact ⟨_, rfl⟩

theorem table_withRow_self (hk : (db.table place).content = .kept k) (row : Record) :
    (db.withRow place row).table place = keeping (db.table place) (k.insert row).1 := by
  rw [(withRow_eq hk row).2.table]
  exact table_setTable_self (lt_of_kept hk) _

theorem table_withRow_other (hk : (db.table place).content = .kept k) (row : Record) {other : Nat}
    (h : other ≠ place) : (db.withRow place row).table other = db.table other := by
  rw [(withRow_eq hk row).2.table]
  exact table_setTable_other h _

theorem lastId_withRow (hk : (db.table place).content = .kept k) (row : Record) :
    (db.withRow place row).lastId = .int (k.insert row).2 :=
  (withRow_eq hk row).2.lastId

theorem names_withRow (hk : (db.table place).content = .kept k) (row : Record) :
    (db.withRow place row).names = db.names :=
  (withRow_eq hk row).2.names

/-- A new row does not change how the table compares. -/
theorem collationOf_withRow (hk : (db.table place).content = .kept k) (row : Record) :
    collationOf (db.withRow place row) place = collationOf db place := by
  have htable := table_withRow_self hk row
  obtain ⟨telemetry, hsame⟩ := (withRow_eq hk row).2
  rw [collationOf, htable, hsame]
  rfl

/-- Databases that are alike stay alike when the same row is inserted into the same kept table. -/
theorem Alike.withRow (h : db.Alike () db') (hk : (db.table place).content = .kept k)
    (row : Record) : (db.withRow place row).Alike () (db'.withRow place row) := by
  have htable : db'.table place = db.table place := h.table hk
  have hk' : (db'.table place).content = .kept k := by rw [htable, hk]
  obtain ⟨telemetry, hsame⟩ := (withRow_eq hk row).2
  obtain ⟨telemetry', hsame'⟩ := (withRow_eq hk' row).2
  have hforget : db'.forget = db.forget := h
  simp only [forget, Database.mk.injEq] at hforget
  obtain ⟨htables, hnames, hcollation, hguarded, hdialect, -, -⟩ := hforget
  show (db'.withRow place row).forget = (db.withRow place row).forget
  rw [hsame, hsame', htable]
  simp only [forget, setTable, List.map_set, htables, hnames, hcollation, hguarded, hdialect]

end

/-! ## §C — one tuple -/

/-- What is remembered comes from tuples before an index. -/
def Before (n : Nat) (answers : List (Place × Deferred)) : Prop :=
  ∀ p ∈ answers, ∃ m < n, [m] <:+ p.1

/-- A need for the values of a subquery makes nothing else remembered. -/
theorem answers_members (run : Select → Run Database (List Record)) (p : Place) (s : Select)
    (r : Running) : ∀ q ∈ ((members run p s).outcome r).2.answers, q.1 = p ∨ q ∈ r.answers := by
  have hremember : ∀ d : Deferred,
      ∀ q ∈ (p, d) :: r.answers.filter (·.1 != p), q.1 = p ∨ q ∈ r.answers := by
    intro d q hq
    rcases List.mem_cons.mp hq with rfl | hq
    · exact .inl rfl
    · exact .inr (List.mem_filter.mp hq).1
  intro q hq
  rw [members, outcome_bind, outcome_get, resume_ok] at hq
  dsimp only at hq
  rw [outcome_bind, Deferred.fill] at hq
  split at hq
  · exact hremember _ q hq
  · rw [outcome_bind, outcome_onDatabase] at hq
    rcases hrun : (run s).outcome r.db with ⟨e | rows, db⟩
    · rw [hrun] at hq
      exact .inr hq
    · rw [hrun] at hq
      exact hremember _ q hq

section
variable {db : Database} {s : Insert} {place n : Nat} {es : List Expr} {r : Running}

/-- What is good to remember while a tuple is evaluated. -/
def TupleAnswered (db : Database) (s : Insert) (n : Nat) (es : List Expr)
    (answers : List (Place × Deferred)) : Prop :=
  Answered db (subqueries (.statement (.insert s))) (Expr.listSubqueriesAt 0 [n] es) answers ∧
    Before (n + 1) answers

/-- The evaluator of an INSERT answers the subqueries of a tuple alike, and only they are
remembered. -/
theorem evaluatorFor_answers (db : Database) (s : Insert) (place n : Nat) (es : List Expr) :
    (evaluatorFor (.insert s) place db).Answers (Amid db 0 (TupleAnswered db s n es))
      (Expr.listSubqueriesAt 0 [n] es) := by
  intro p hp
  have hsteady : Steady (Amid db 0 (Answered db (subqueries (.statement (.insert s)))
      (Expr.listSubqueriesAt 0 [n] es))) (members _ p.1 p.2) :=
    steady_members (steady_resultsTo db _) (Expr.toldApart_listSubqueriesAt 0 [n] es) hp
  obtain ⟨a, ha⟩ := hsteady
  refine ⟨a, fun source r hr => ?_⟩
  obtain ⟨hanswer, hafter⟩ := ha source r ⟨hr.database, hr.place, hr.source, hr.answers.1⟩
  refine ⟨hanswer, hafter.database, hafter.place, hafter.source, hafter.answers, ?_⟩
  intro q hq
  -- What is remembered now is the answer at `p`, below the place of the tuple, or it was there before.
  rcases answers_members _ p.1 p.2 r q hq with hqp | hqr
  · obtain ⟨m, -, hsuffix⟩ := Expr.below_listSubqueriesAt 0 [n] es p hp
    exact ⟨n, Nat.lt_succ_self n, hqp ▸ suffix_of_child hsuffix⟩
  · exact hr.answers.2 q hqr

/-- What other tuples have left is not asked for. -/
theorem Before.answered (h : Before n r.answers) : TupleAnswered db s n es r.answers := by
  -- Places below two different tuples are siblings' children, so none of them is the same.
  refine ⟨fun p d hmem q hq => ?_, fun p hp => ?_⟩
  · obtain ⟨m, hm, hsuffix⟩ := h (p, d) hmem
    obtain ⟨j, -, hbelow⟩ := Expr.below_listSubqueriesAt 0 [n] es (p, q) hq
    exact absurd rfl (ne_of_siblings (Nat.ne_of_lt hm) hsuffix (suffix_of_child hbelow))
  · obtain ⟨m, hm, hsuffix⟩ := h p hp
    exact ⟨m, Nat.lt_succ_of_lt hm, hsuffix⟩

/-- **A tuple** has the values in the midst of an INSERT that it has by itself. -/
theorem valuesFrom_tuple (s : Insert) (place : Nat) (es : List Expr)
    (hr : Amid db 0 (Before n) .closed r) :
    let out := (valuesFrom (evaluatorFor (.insert s) place db) n 0 es).outcome r
    out.1 = db.tupleValues s place n es ∧ Amid db 0 (Before (n + 1)) .closed out.2 := by
  have hsteady := steady_valuesFrom (evaluatorFor_answers db s place n es)
  have hstart : Amid db 0 (TupleAnswered db s n es) .closed { db } :=
    ⟨rfl, rfl, rfl, answered_nil _ _ _, fun p hp => absurd hp List.not_mem_nil⟩
  obtain ⟨hvalues, hafter⟩ := hsteady.settles hstart .closed r
    ⟨hr.database, hr.place, hr.source, hr.answers.answered⟩
  exact ⟨hvalues, hafter.database, hafter.place, hafter.source, hafter.answers.2⟩

end

/-! ## §D — all tuples -/

section
variable {db db' : Database} {s : Insert} {place : Nat} {k : Kept} {rows : List Record}

/-- **Appending** — rows stand at the end of a kept table, in their order, the id of the last of them
is kept, and nothing else of the tables is different. -/
structure Appends (db : Database) (place : Nat) (rows : List Record) (db' : Database) : Prop where
  target : ∃ before added : List Row, (db.table place).keptRows? = some before ∧
    (db'.table place).keptRows? = some (before ++ added) ∧ added.map (·.columns) = rows ∧
    db'.lastId = (added.getLast?.map (·.id)).getD db.lastId
  names : db'.names = db.names
  others : ∀ entry ∈ db.names, entry.2 ≠ place → db'.table entry.2 = db.table entry.2

theorem keptRows?_of_alike (h : db.Alike () db') (place : Nat) :
    (db'.table place).keptRows? = (db.table place).keptRows? := by
  have hlasting : ∀ t : Table, t.lasting.keptRows? = t.keptRows? := by
    rintro ⟨name, collation, content⟩
    cases content <;> rfl
  rw [← hlasting, lasting_table h, hlasting]

theorem Appends.alike (h : db.Appends place rows db') (hdb : db.InMemory) {db'' : Database}
    (halike : db'.Alike () db'') : db.Appends place rows db'' where
  target := by
    obtain ⟨before, added, hbefore, hafter, hrows, hlast⟩ := h.target
    refine ⟨before, added, hbefore, ?_, hrows, (congrArg (·.lastId) halike).trans hlast⟩
    rw [keptRows?_of_alike halike, hafter]
  names := (congrArg (·.names) halike).trans h.names
  others entry hentry hother := by
    obtain ⟨k, hk, -⟩ := hdb entry hentry
    have hsame := h.others entry hentry hother
    rw [halike.table (k := k) (by rw [hsame, hk]), hsame]

/-- The rows of tuples are appended. -/
theorem withTuples_appends (columns : List String) (done : List (List Value)) :
    ∀ (db : Database) (k : Kept), (db.table place).content = .kept k →
      db.Appends place (done.map (insertedRow columns)) (db.withTuples place columns done) := by
  induction done with
  | nil =>
      intro db k hk
      have hrows : (db.table place).keptRows? = some k.rows := by rw [Table.keptRows?, hk]
      exact ⟨⟨k.rows, [], hrows, by rw [List.append_nil]; exact hrows, rfl, rfl⟩, rfl,
        fun _ _ _ => rfl⟩
  | cons values done ih =>
      intro db k hk
      let row := insertedRow columns values
      have htable := table_withRow_self hk row
      have hrest := ih (db.withRow place row) (k.insert row).1 (by rw [htable]; rfl)
      obtain ⟨before, added, hbefore, hafter, hcolumns, hlast⟩ := hrest.target
      obtain rfl : k.rows ++ [⟨.int (k.insert row).2, row⟩] = before := by
        rw [htable] at hbefore
        exact Option.some.inj hbefore
      -- The rows of the rest stand behind the row of this tuple, which stands behind the old ones.
      refine ⟨⟨k.rows, ⟨.int (k.insert row).2, row⟩ :: added, ?_, ?_, ?_, ?_⟩, ?_, ?_⟩
      · rw [Table.keptRows?, hk]
      · rw [List.append_assoc] at hafter
        exact hafter
      · rw [List.map_cons, List.map_cons, hcolumns]
      · refine hlast.trans ?_
        rw [lastId_withRow hk, List.getLast?_cons]
        cases added.getLast? <;> rfl
      · exact hrest.names.trans (names_withRow hk row)
      · intro entry hentry hother
        refine (hrest.others entry ?_ hother).trans (table_withRow_other hk row hother)
        rw [names_withRow hk row]
        exact hentry

/-- **The tuples of an INSERT come in turn**, whatever is remembered of the tuples before: `ev`
evaluates, and the database that it works on is alike `db`. -/
theorem insertRows_inTurn (s : Insert) (place : Nat) (ev : Evaluator Running)
    (tuples : List (List Expr)) :
    ∀ (n : Nat) (db : Database) (k : Kept) (r : Running), (db.table place).content = .kept k →
      evaluatorFor (.insert s) place db = ev → Amid db 0 (Before n) .closed r →
      ∃ done db', InTurn s place n tuples db done
          ((insertRows ev place s.columns n tuples).outcome r).1 ∧
        db' = db.withTuples place s.columns done ∧
        db'.Alike () ((insertRows ev place s.columns n tuples).outcome r).2.db := by
  induction tuples with
  | nil =>
      intro n db k r hk hev hr
      exact ⟨[], db, .finished, rfl, hr.database⟩
  | cons es rest ih =>
      intro n db k r hk hev hr
      obtain ⟨hvalues, hafter⟩ := valuesFrom_tuple s place es hr
      rw [hev] at hvalues hafter
      rw [insertRows, outcome_bind]
      rcases hout : (valuesFrom ev n 0 es).outcome r with ⟨e | values, r₁⟩
      · rw [hout] at hvalues hafter
        exact ⟨[], db, .failed hvalues.symm, rfl, hafter.database⟩
      · rw [hout] at hvalues hafter
        rw [resume_ok, outcome_bind, outcome_onDatabase]
        -- The subqueries of the tuple left records only, so the row goes into the same table.
        have htable : r₁.db.table place = db.table place := Alike.table hafter.database hk
        have hk₁ : (r₁.db.table place).content = .kept k := by rw [htable, hk]
        rw [(withRow_eq hk₁ (insertedRow s.columns values)).1, resume_ok]
        -- The evaluator is made once, before the first tuple: it stays the right one because a row
        -- does not change how the table compares.
        obtain ⟨done, db', hturn, hfold, halike⟩ := ih (n + 1)
          (db.withRow place (insertedRow s.columns values)) (k.insert (insertedRow s.columns values)).1
          { r₁ with db := r₁.db.withRow place (insertedRow s.columns values) }
          (by rw [table_withRow_self hk]; rfl)
          (by rw [evaluatorFor, collationOf_withRow hk]; exact hev)
          ⟨Alike.withRow hafter.database hk _, hafter.place, hafter.source, hafter.answers⟩
        exact ⟨values :: done, db', .inserted hvalues.symm hturn, hfold, halike⟩

end

/-! ## §E — statements -/

section
variable {db : Database} {place : Nat}

theorem outcome_insert (s : Insert) (place : Nat) (db : Database) :
    let out := (insertRows (evaluatorFor (.insert s) place db) place s.columns 0 s.rows).outcome { db }
    ∃ db', (insert s place).outcome db = (out.1.map fun _ => (s.rows.length : Int), db') ∧
      SameButTelemetry out.2.db db' := by
  intro out
  rw [insert, outcome_bind, outcome_get, resume_ok]
  dsimp only
  rw [outcome_bind, outcome_evaluating]
  change ∃ db', resume _ (out.1, out.2.db) = _ ∧ _
  rcases out.1 with e | ⟨⟩
  · exact ⟨out.2.db, rfl, _, rfl⟩
  · exact ⟨_, rfl, _, rfl⟩

/-- **INSERT in turn** — what an INSERT comes to.  Without the table there is a failure and nothing
else.  Otherwise the tuples are taken in turn, and the rows of those that were evaluated are appended:
the rows of all tuples if the statement answers, which it does with their number, and if it fails then
with the failure of a tuple, and only the rows of the tuples before that one. -/
def InsertsInTurn (db : Database) (s : Insert) (params : Parameters) : Prop :=
  match db.find s.table, (execute (.insert s) params).outcome db with
  | .error e, (answer, db') => answer = .error e ∧ db'.lastId = db.lastId ∧ db'.names = db.names ∧
      ∀ entry ∈ db.names, db'.table entry.2 = db.table entry.2
  | .ok place, (answer, db') => ∃ done result,
      InTurn (s.bind params) place 0 (s.bind params).rows db done result ∧
        db.Appends place (done.map (insertedRow s.columns)) db' ∧
        match result with
        | .ok _ => answer = .ok (done.length : Int) ∧ done.length = (s.bind params).rows.length
        | .error e => answer = .error e ∧ done.length < (s.bind params).rows.length

end

/-- A database of one table without rows. -/
def emptyDatabase : Database where
  tables := [{ content := .kept {} }]
  names := [("t", 0)]

theorem inMemory_emptyDatabase : emptyDatabase.InMemory := by
  intro entry hentry
  obtain rfl := List.mem_singleton.mp hentry
  exact ⟨_, rfl, by decide, by decide, by decide⟩

/-- `INSERT INTO t (a) VALUES (1), (ABS(2))`. -/
def insertOneThenCall : Insert where
  table := "t"
  columns := ["a"]
  rows := [[.literal (.int 1)], [.call "ABS" [.literal (.int 2)]]]

end Database
end TableQuery
