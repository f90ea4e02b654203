/-
# TableQuery.Proofs.Database.Asking — rows that are asked for one by one are the results.

A selection leaves its reading between two requests and takes it up again in the database as it is
then.  What it takes up is what it left but for records, and a reading hangs on nothing else; so a
selection that is asked for all its rows answers the results of its SELECT (`Selection.answer_all`),
and fails where they do.

## §A — results as an answer.
## §B — requests.
## §C — all rows.
-/
import TableQuery.Database.Query
import TableQuery.Proofs.Database.Changing

namespace TableQuery

open Run Running Host

/-! ## §A — results as an answer -/

/-- What was collected as one answer: the rows, unless there was a failure. -/
def Host.collected {α : Type} : List α × Option Error → Except Error (List α)
  | (rows, none) => .ok rows
  | (_, some e) => .error e

theorem Host.collected_cons {α : Type} (a : α) (rest : List α × Option Error) :
    collected (a :: rest.1, rest.2) = (a :: ·) <$> collected rest := by
  rcases rest with ⟨rows, _ | e⟩ <;> rfl

namespace Selection

/-! ## §B — requests -/

section
variable {q : Selection} {db : Database} {place : Nat} {stage : Stage} {source : Source}
  {answers : List (Place × Deferred)}

/-- What a request comes to: a row, with the reading left where it stands, or the end. -/
def asked (q : Selection) (place : Nat) :
    Except Error (Option (Record × Stage)) × Running →
      (Except Error (Option Record) × Selection) × Database
  | (.error e, r) => ((.error e, { q with progress := .over }), q.trace false r.db)
  | (.ok none, r) => ((.ok none, { q with progress := .over }), q.trace true r.db)
  | (.ok (some (row, stage)), r) =>
    ((.ok (some row), { q with
      progress := .running place stage r.source r.answers
      delivered := q.delivered + 1 }), r.db)

theorem run_ask (q : Selection) (db : Database) (place : Nat) (stage : Stage) (source : Source)
    (answers : List (Place × Deferred)) :
    (q.ask place stage source answers).run db =
      q.asked place (((q.host db place).next q.statement stage).outcome
        { db, place, source, answers }) := by
  simp only [ask, StateT.run_bind, StateT.run_get, pure_bind]
  generalize ((q.host db place).next q.statement stage).outcome { db, place, source, answers } = out
  rcases out with ⟨e | _ | ⟨row, stage⟩, r⟩ <;> rfl

theorem run_next_running (hq : q.progress = .running place stage source answers) :
    q.next.run db = (q.ask place stage source answers).run db := by
  rw [next, hq]

theorem run_next_waiting (hq : q.progress = .waiting)
    (hfind : db.find q.statement.table = .ok place) :
    q.next.run db = (q.ask place .fresh .closed []).run db := by
  rw [next, hq]
  simp only [StateT.run_bind, StateT.run_get, pure_bind, hfind]

end

/-! ## §C — all rows -/

/-- **The run** — requests up to the end answer what the reading collects, wherever it stands.  The
database between two requests is that of the reading but for records. -/
theorem restTo_eq {db : Database} {place : Nat} {s : Select}
    {good : List (Place × Deferred) → Prop}
    (hev : (evaluator (Database.subqueries (.statement (.select s))) (collationOf db place)).Answers
      (Amid db place good) s.subqueries)
    {fuel : Nat} {q : Selection} (hq : q.statement = s) {stage : Stage} {source : Source}
    {answers : List (Place × Deferred)} {db' : Database}
    (hnext : q.next.run db' = (q.ask place stage source answers).run db')
    (hstart : Amid db place good source { db := db', place, source, answers }) {r : Running}
    (hr : Amid db place good source r) :
    ((restTo fuel q).run db').1 = collected
      ((collect ((Running.host s.table (evaluator (Database.subqueries (.statement (.select s)))
        (collationOf db place))).next s) fuel stage).run r).1 := by
  induction fuel generalizing q stage source answers db' r with
  | zero => rfl
  | succ fuel ih =>
    have hg := host_guided s.table hev
    -- One step answers the same in both databases, and leaves both readings at the same place of the
    -- source.
    obtain ⟨answer, source', hleads⟩ := hg.next stage source
    obtain ⟨hasked, hkept⟩ := hleads _ hstart
    obtain ⟨hcollected, hafter⟩ := hleads r hr
    have halike : db.Alike () db' := hstart.database
    have hhost : q.host db' place = Running.host s.table
        (evaluator (Database.subqueries (.statement (.select s))) (collationOf db place)) := by
      rw [Selection.host, hq, halike.collationOf]
    rw [restTo, StateT.run_bind, hnext, run_ask, hhost, hq, run_collect]
    rcases hout : ((Running.host s.table (evaluator (Database.subqueries (.statement (.select s)))
      (collationOf db place))).next s stage).outcome { db := db', place, source, answers }
      with ⟨answer', r₁⟩
    rcases hout' : ((Running.host s.table (evaluator (Database.subqueries (.statement (.select s)))
      (collationOf db place))).next s stage).outcome r with ⟨answer'', r₂⟩
    rw [hout] at hasked hkept
    rw [hout'] at hcollected hafter
    obtain rfl : answer' = answer := hasked
    obtain rfl : answer'' = answer' := hcollected
    rcases answer'' with e | _ | ⟨row, stage'⟩
    · rfl
    · rfl
    · obtain rfl : r₁.source = source' := hkept.source
      -- The rest of the run begins where this step has left the reading.
      have hrest := ih (q := { q with
          progress := .running place stage' r₁.source r₁.answers
          delivered := q.delivered + 1 }) hq (run_next_running rfl)
          ⟨hkept.database, rfl, rfl, hkept.answers⟩ hafter
      exact (congrArg ((row :: ·) <$> ·) hrest).trans (collected_cons row _).symm

/-- **A selection that is asked for all its rows** answers the results of its SELECT. -/
theorem answer_all (s : Select) (db : Database) :
    ((Selection.all { statement := s }).outcome db).1 =
      ((Database.resultsBy (Database.subqueries (.statement (.select s))) s).outcome db).1 := by
  rcases hfind : db.find s.table with e | place
  -- Without its table the first request fails, as the results do.
  · have hnone : db.find? s.table = none := by
      rw [Database.find] at hfind
      rcases hplace : db.find? s.table with _ | p
      · rfl
      · rw [hplace] at hfind
        cases hfind
    have hpatience : Selection.patience { statement := s } db = 1 := by
      simp only [Selection.patience, hnone]
    rw [Database.outcome_resultsBy_missing hfind, all, outcome_mk, StateT.run_bind, StateT.run_get,
      pure_bind, hpatience, restTo, StateT.run_bind, next]
    simp only [StateT.run_bind, StateT.run_get, pure_bind, hfind]
    rfl
  · have hpatience : Selection.patience { statement := s } db = (db.table place).patience := by
      rw [Database.find] at hfind
      rcases hplace : db.find? s.table with _ | p
      · rw [hplace] at hfind
        cases hfind
      · rw [hplace] at hfind
        obtain rfl := Except.ok.inj hfind
        simp only [Selection.patience, hplace]
    have hstart : Amid db place (Answered db (Database.subqueries (.statement (.select s)))
        s.subqueries) .closed { db, place } :=
      ⟨rfl, rfl, rfl, answered_nil db _ _⟩
    have hev := evaluator_answers place
      (Database.steady_resultsTo db (((Node.statement (.select s)).nodes true).length + 1))
      s.toldApart_subqueries (collationOf db place)
    have hrest (fuel : Nat) : ((restTo fuel { statement := s }).run db).1 = _ :=
      restTo_eq hev rfl (run_next_waiting rfl hfind) hstart hstart
    -- The results are what the host collects from the beginning, and so is what is asked for.
    have hresults : ((Running.host s.table (evaluator (Database.subqueries (.statement (.select s)))
        (collationOf db place))).results s).run { db, place } =
          (collect ((Running.host s.table (evaluator (Database.subqueries (.statement (.select s)))
            (collationOf db place))).next s) (db.table place).patience .fresh).run { db, place } := by
      rw [Host.results, StateT.run_bind]
      rfl
    rw [Database.outcome_resultsBy hfind (Prod.mk.eta (p := _)).symm, hresults, all, outcome_mk,
      StateT.run_bind, StateT.run_get, pure_bind, hpatience, hrest]
    generalize (collect _ _ _).run _ = out
    rcases out with ⟨⟨rows, _ | e⟩, r⟩ <;> rfl

end Selection

namespace Database

/-- Reading a text leaves telemetry only. -/
theorem outcome_parse (sql : String) (db : Database) :
    ∃ db', (parse sql).outcome db = (Statement.ofText sql, db') ∧ SameButTelemetry db db' := by
  rw [parse, outcome_bind, outcome_get, resume_ok]
  cases Statement.ofText sql with
  | error e => exact ⟨_, rfl, _, rfl⟩
  | ok s => exact ⟨_, rfl, _, rfl⟩

/-- A query of a text that is read as a SELECT asks a selection for all its rows, in the database as
it was but for records, unless the table is unknown. -/
theorem outcome_queryAll {sql : String} {s : Select}
    (hread : Statement.ofText sql = .ok (.select s)) (params : Parameters) (db : Database) :
    ∃ db', SameButTelemetry db db' ∧ (queryAll sql params).outcome db =
      resume (fun _ => Selection.all { statement := s.bind params }) (db'.find s.table, db') := by
  obtain ⟨db', hparse, hsame⟩ := outcome_parse sql db
  refine ⟨db', hsame, ?_⟩
  rw [queryAll, outcome_bind, query, outcome_bind, hparse, hread, resume_ok]
  show resume _ ((Database.select s params).outcome db') = _
  unfold Database.select
  rw [outcome_bind, outcome_get, resume_ok, outcome_bind, outcome_liftExcept]
  cases db'.find s.table <;> rfl

/-- **A query of a text** that is read as a SELECT answers the results of that SELECT. -/
theorem answer_queryAll {sql : String} {s : Select} (hread : Statement.ofText sql = .ok (.select s))
    (params : Parameters) (db : Database) :
    ((queryAll sql params).outcome db).1 =
      ((resultsBy (subqueries (.statement (.select (s.bind params)))) (s.bind params)).outcome db).1 := by
  obtain ⟨db', hsame, hquery⟩ := outcome_queryAll hread params db
  have htable : (s.bind params).table = s.table := by
    cases s
    rfl
  obtain ⟨answer, hsteady⟩ := steady_resultsBy
    (steady_resultsTo db (((Node.statement (.select (s.bind params))).nodes true).length + 1))
    (s.bind params)
  have hresults := (hsteady () db' hsame.alike).1.trans (hsteady () db (alike_self db)).1.symm
  rw [hquery]
  rcases hfind : db'.find s.table with e | place
  · rw [← htable] at hfind
    refine Eq.trans ?_ hresults
    rw [outcome_resultsBy_missing hfind]
    rfl
  · rw [resume_ok, Selection.answer_all]
    exact hresults

end Database
end TableQuery
