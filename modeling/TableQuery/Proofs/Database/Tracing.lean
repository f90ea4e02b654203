/-
# TableQuery.Proofs.Database.Tracing — one record for each SELECT that is asked for rows.

A caller asks a selection for some rows and gives it up.  The rows, the failure and the database are
those of the execution without a trace, and one record is added when it ends: a span with the number of
rows that were handed out, and a statement that was counted, both told apart by whether a failure ended
it (`Selection.consume_recorded`).  The execution itself records no span and counts no statement, and no
more do its subqueries, to any depth (`Running.silent_resultsTo`).

## §A — databases without a further record.
## §B — running SELECTs.
## §C — subqueries of any depth.
## §D — executions without a trace.
## §E — selections that are asked for rows.
-/
import TableQuery.Proofs.Database.Asking
import TableQuery.Proofs.Database.Claiming

namespace TableQuery

open Run Host

/-! ## §A — databases without a further record -/

/-- Writing to the log records no span. -/
theorem Telemetry.spans_record (t : Telemetry) (record : LogRecord) :
    (t.record record).spans = t.spans := by
  unfold Telemetry.record
  split
  · split <;> rfl
  · rfl

/-- Counting records no span. -/
theorem Telemetry.spans_count (t : Telemetry) (s : Sample) (n : Int) :
    (t.count s n).spans = t.spans := by
  unfold Telemetry.count
  split <;> rfl

/-- Counting a statement counts it once, under its verb and its success, if anything is counted. -/
theorem Telemetry.counted_count_queries (t : Telemetry) (verb verb' : String) (ok ok' : Bool) :
    (t.count (.queries verb ok) 1).counted (.queries verb' ok') = t.counted (.queries verb' ok') +
      if t.counting = true ∧ verb' = verb ∧ ok' = ok then 1 else 0 := by
  by_cases hcounting : t.counting = true
  · by_cases hsame : Sample.queries verb ok = .queries verb' ok'
    · obtain ⟨rfl, rfl⟩ := Sample.queries.inj hsame
      rw [if_pos ⟨hcounting, rfl, rfl⟩, counted_count hcounting]
    · rw [if_neg fun h => hsame (by rw [h.2.1, h.2.2]), add_zero, counted_count_other t hsame]
  · rw [if_neg fun h => hcounting h.1, add_zero, count, if_neg hcounting]

namespace Database

/-- **Silent** — between two databases no span was recorded and no statement was counted. -/
structure Silent (db db' : Database) : Prop where
  spans : db'.telemetry.spans = db.telemetry.spans
  counting : db'.telemetry.counting = db.telemetry.counting
  queries (verb : String) (ok : Bool) :
    db'.telemetry.counted (.queries verb ok) = db.telemetry.counted (.queries verb ok)

theorem Silent.refl (db : Database) : db.Silent db := ⟨rfl, rfl, fun _ _ => rfl⟩

theorem Silent.trans {db db' db'' : Database} (h : db.Silent db') (h' : db'.Silent db'') :
    db.Silent db'' :=
  ⟨h'.spans.trans h.spans, h'.counting.trans h.counting,
    fun verb ok => (h'.queries verb ok).trans (h.queries verb ok)⟩

theorem silent_setTable (db : Database) (place : Nat) (t : Table) : db.Silent (db.setTable place t) :=
  ⟨rfl, rfl, fun _ _ => rfl⟩

theorem silent_log (db : Database) (level : Level) (logger : Logger) (event : String) :
    db.Silent (db.log level logger event) :=
  ⟨db.telemetry.spans_record _, (db.telemetry.counted_record _ (.latency "")).2,
    fun _ _ => (db.telemetry.counted_record _ _).1⟩

/-- Counting anything but statements is silent. -/
theorem silent_count (db : Database) {s : Sample} (hs : ∀ verb ok, s ≠ .queries verb ok) (n : Int) :
    db.Silent (db.count s n) :=
  ⟨db.telemetry.spans_count s n, db.telemetry.counting_count s n,
    fun verb ok => db.telemetry.counted_count_other (hs verb ok) n⟩

end Database

/-! ## §B — running SELECTs -/

namespace Running
open Database

/-- **Silence** — a running SELECT stays at its table and records nothing, whether it answers or
fails. -/
def silence : Bounds Running where
  answering r t := t.place = r.place ∧ r.db.Silent t.db
  failing _ r t := t.place = r.place ∧ r.db.Silent t.db
  refl r := ⟨rfl, .refl r.db⟩
  trans h k := ⟨k.1.trans h.1, h.2.trans k.2⟩
  behind h k := ⟨k.1.trans h.1, h.2.trans k.2⟩

theorem within_silence {α : Type} {x : Run Running α}
    (h : ∀ r, (x.outcome r).2.place = r.place ∧ r.db.Silent (x.outcome r).2.db) :
    Within silence x :=
  fun r => ⟨fun _ _ hout => (Prod.mk.inj hout).2 ▸ h r, fun _ _ hout => (Prod.mk.inj hout).2 ▸ h r⟩

/-- What keeps to silence is silent, however it ends. -/
theorem silent_of_within {α : Type} {x : Run Running α} (h : Within silence x) (r : Running) :
    (x.outcome r).2.place = r.place ∧ r.db.Silent (x.outcome r).2.db := by
  rcases hout : x.outcome r with ⟨e | a, t⟩
  · exact (h r).2 e t hout
  · exact (h r).1 a t hout

/-- **A SELECT is silent** on every database. -/
def RunsSilently (run : Select → Run Database (List Record)) (q : Select) : Prop :=
  ∀ db : Database, db.Silent ((run q).outcome db).2

variable {run : Select → Run Database (List Record)} {q s : Select} {c : Collation}

theorem silent_pull (r : Running) :
    (pull.outcome r).2.place = r.place ∧ r.db.Silent (pull.outcome r).2.db := by
  have hset (t : Table) := silent_setTable r.db r.place t
  rw [outcome_pull]
  refine ⟨rfl, ?_⟩
  dsimp only
  split
  · exact (hset _).trans (silent_log _ _ _ _)
  · exact hset _

theorem silent_read (r : Running) :
    ((read c s).outcome r).2.place = r.place ∧ r.db.Silent ((read c s).outcome r).2.db := by
  rw [outcome_read]
  split <;> exact ⟨rfl, silent_setTable _ _ _⟩

theorem silent_note (name : String) (remark : Remark) (r : Running) :
    ((note name remark).run r).2.place = r.place ∧ r.db.Silent ((note name remark).run r).2.db := by
  cases remark with
  | planned p => exact ⟨rfl, (silent_log _ _ _ _).trans (silent_count _ (by simp) 1)⟩
  | scanned => exact ⟨rfl, silent_count _ (by simp) 1⟩
  | breached => exact ⟨rfl, (silent_log _ _ _ _).trans (silent_count _ (by simp) 1)⟩

/-- Finding out the values of a subquery is as silent as running it. -/
theorem silent_members (hrun : RunsSilently run q) (p : Place) (r : Running) :
    ((members run p q).outcome r).2.place = r.place ∧
      r.db.Silent ((members run p q).outcome r).2.db := by
  rcases hvalues : (r.deferred p q).values with _ | values
  · have hsilent := hrun r.db
    rw [outcome_members_unfilled rfl hvalues]
    rcases hout : (run q).outcome r.db with ⟨e | rows, db⟩
    · rw [hout] at hsilent
      exact ⟨rfl, hsilent⟩
    · rw [hout] at hsilent
      exact ⟨rfl, hsilent⟩
  · rw [outcome_members_known rfl hvalues]
    exact ⟨rfl, .refl r.db⟩

/-- **The host of a SELECT is silent** when its subqueries are. -/
theorem host_silent (hrun : ∀ q, RunsSilently run q) (name : String) (c : Collation) :
    (host name (evaluator run c)).Bounded silence s where
  failure _ r _ := silence.refl r
  opening _ := silence.refl _
  pull := within_silence silent_pull
  patience := within_silence silence.refl
  scanned := within_silence (silent_note name .scanned)
  breached := within_silence (silent_note name .breached)
  members p _ := within_silence (silent_members (hrun p.2) p.1)
  close _ := ⟨rfl, silent_setTable _ _ _⟩
  close_failing h := ⟨h.1, h.2.trans (silent_setTable _ _ _)⟩

/-- **Asking for the next row is silent**, from the first row on. -/
theorem silent_next (hrun : ∀ q, RunsSilently run q) (name : String) (c : Collation) (stage : Stage) :
    Within silence ((host name (evaluator run c)).next s stage) := by
  have hb := host_silent (s := s) hrun name c
  by_cases hstage : stage = .fresh
  · subst hstage
    refine within_silence fun r => ?_
    rcases hb.next_fresh (fun p => within_silence (silent_note name (.planned p))) r with
      ⟨e, -, hfailing⟩ | ⟨asked, hasked, hallows⟩
    · exact hfailing
    · -- Before the first row the clauses are asked, the table is opened, and then it is like any other.
      have hopened : r.db.Silent ((read c s).outcome asked).2.db :=
        hasked.2.trans (silent_read asked).2
      have hplace : ((read c s).outcome asked).2.place = r.place :=
        (silent_read asked).1.trans hasked.1
      have hafter : silence.answering ((read c s).outcome asked).2
          (((host name (evaluator run c)).next s .fresh).outcome r).2 := by
        revert hallows
        cases (((host name (evaluator run c)).next s .fresh).outcome r).1 <;> exact id
      exact ⟨hafter.1.trans hplace, hopened.trans hafter.2⟩
  · exact hb.next hstage

/-! ## §C — subqueries of any depth -/

theorem silent_resultsBy (hrun : ∀ q, RunsSilently run q) (s : Select) :
    RunsSilently (Database.resultsBy run) s := by
  intro db
  rcases hfind : db.find s.table with missing | place
  · rw [Database.outcome_resultsBy_missing hfind]
    exact .refl db
  · obtain ⟨fuel, hfuel⟩ := (host s.table (evaluator run (collationOf db place))).exists_run_results s
      { db, place } rfl
    have hnext (stage : Stage) (_ : True) :
        Within silence ((host s.table (evaluator run (collationOf db place))).next s stage) :=
      silent_next hrun s.table (collationOf db place) stage
    have hends := ends_collect (fun _ => True) hnext (fun _ => trivial) fuel .fresh trivial
      { db, place }
    rw [← hfuel] at hends
    rcases hresults : ((host s.table (evaluator run (collationOf db place))).results s).run
        { db, place } with ⟨⟨rows, fault⟩, r⟩
    rw [hresults] at hends
    rw [Database.outcome_resultsBy hfind hresults]
    rcases hends.reaches with hanswered | ⟨e, hfailed⟩
    · cases fault <;> exact hanswered.2
    · cases fault <;> exact hfailed.2

/-- **Subqueries are silent**, to every depth. -/
theorem silent_resultsTo (depth : Nat) (q : Select) : RunsSilently (Database.resultsTo depth) q := by
  induction depth generalizing q with
  | zero =>
      intro db
      rw [Database.resultsTo, outcome_throw]
      exact .refl db
  | succ depth ih =>
      have hstep : Database.resultsTo (depth + 1) q =
          Database.resultsBy (Database.resultsTo depth) q := rfl
      intro db
      rw [hstep]
      exact silent_resultsBy ih q db

end Running

/-! ## §D — executions without a trace -/

namespace Database
open Running

/-- What a running SELECT runs on. -/
def hostOf (s : Select) (r : Running) : Host Running :=
  host s.table (evaluator (subqueries (.statement (.select s))) (collationOf r.db r.place))

/-- Asking it for the next row is silent, and stays at the table. -/
theorem silent_request (s : Select) (stage : Stage) (r : Running) :
    (((hostOf s r).next s stage).outcome r).2.place = r.place ∧
      r.db.Silent (((hostOf s r).next s stage).outcome r).2.db :=
  silent_of_within (silent_next (silent_resultsTo _) s.table (collationOf r.db r.place) stage) r

/-- A running SELECT that is taken up again, after its caller has gone on with the database.  Its plan is
for those who look at it in between. -/
def resumed (doing : Database → Database) (r : Running) : Running :=
  { db := doing r.db, place := r.place, source := r.source, answers := r.answers }

/-- **The execution of a SELECT without a trace**, from a stage on: at most `n` rows are handed out, and
then the reading is given up, unless it is over.  What the caller does before it asks for the next
one, with `k` more to come, is `doing k`. -/
def handOut (s : Select) (doing : Nat → Database → Database) :
    Nat → Stage → StateM Running (List Record × Option Error)
  | 0, _ => do
    close
    return ([], none)
  | n + 1, stage => do
    match ← Run.attempt ((hostOf s (← get)).next s stage) with
    | .error e => return ([], some e)
    | .ok none => return ([], none)
    | .ok (some (row, stage)) => do
      modify (resumed (doing n))
      let (rows, e) ← handOut s doing n stage
      return (row :: rows, e)

/-- **The execution of a SELECT without a trace**, on the table that has its name when the first row is
asked for: the rows that are handed out, the failure that ends it, and the database afterwards.
Subqueries are run in this way (`Selection.answer_resultsBy_untraced`). -/
def untraced (s : Select) (doing : Nat → Database → Database) (n : Nat) (db : Database) :
    (List Record × Option Error) × Database :=
  match n with
  | 0 => (([], none), db)
  | n + 1 =>
    match db.find s.table with
    | .error e => (([], some e), db)
    | .ok place =>
      let out := (handOut s doing (n + 1) .fresh).run { db, place }
      (out.1, out.2.db)

variable {s : Select} {doing : Nat → Database → Database}

theorem run_handOut_succ (n : Nat) (stage : Stage) (r : Running) :
    (handOut s doing (n + 1) stage).run r =
      match ((hostOf s r).next s stage).outcome r with
      | (.error e, t) => (([], some e), t)
      | (.ok none, t) => (([], none), t)
      | (.ok (some (row, stage)), t) =>
        let rest := (handOut s doing n stage).run (resumed (doing n) t)
        ((row :: rest.1.1, rest.1.2), rest.2) := by
  rw [handOut, StateT.run_bind, StateT.run_get, pure_bind, StateT.run_bind, attempt]
  unfold outcome
  rcases ((hostOf s r).next s stage).run.run r with ⟨e | _ | ⟨row, stage'⟩, t⟩ <;> rfl

/-- **An execution without a trace is silent** as long as its caller is. -/
theorem silent_handOut (hdoing : ∀ k (db : Database), db.Silent (doing k db)) (n : Nat)
    (stage : Stage) (r : Running) : r.db.Silent ((handOut s doing n stage).run r).2.db := by
  induction n generalizing stage r with
  | zero => exact silent_setTable _ _ _
  | succ n ih =>
      have hnext := (silent_request s stage r).2
      rw [run_handOut_succ]
      rcases hout : ((hostOf s r).next s stage).outcome r with ⟨e | _ | ⟨row, stage'⟩, t⟩ <;>
        rw [hout] at hnext
      · exact hnext
      · exact hnext
      · exact (hnext.trans (hdoing n t.db)).trans (ih stage' (resumed (doing n) t))

theorem silent_untraced (hdoing : ∀ k (db : Database), db.Silent (doing k db)) (n : Nat)
    (db : Database) : db.Silent (untraced s doing n db).2 := by
  cases n with
  | zero => exact .refl db
  | succ n =>
      rw [untraced]
      split
      · exact .refl db
      · rename_i place _
        exact silent_handOut hdoing (n + 1) .fresh { db, place }

end Database

/-! ## §E — selections that are asked for rows -/

/-- **One record** — between two databases one span was recorded, of a SELECT that handed out some rows,
and one SELECT was counted, if anything is; both say whether it failed. -/
structure Database.OneRecord (table : String) (rows : Nat) (failed : Bool) (db db' : Database) :
    Prop where
  spans : db'.telemetry.spans = db.telemetry.spans ++
    [{ name := "vdb.select"
       attributes := [("vdb.table", .text table), ("vdb.rows", .int rows)]
       failed }]
  counting : db'.telemetry.counting = db.telemetry.counting
  queries (verb : String) (ok : Bool) :
    db'.telemetry.counted (.queries verb ok) = db.telemetry.counted (.queries verb ok) +
      if db.telemetry.counting = true ∧ verb = "select" ∧ ok = !failed then 1 else 0

/-- Silence before one record is one record. -/
theorem Database.Silent.oneRecord {db db' db'' : Database} {table : String} {rows : Nat} {failed : Bool}
    (h : db.Silent db') (h' : OneRecord table rows failed db' db'') :
    OneRecord table rows failed db db'' := by
  refine ⟨?_, h'.counting.trans h.counting, fun verb ok => ?_⟩
  · rw [h'.spans, h.spans]
  · rw [h'.queries, h.queries, h.counting]

namespace Selection
open Database

/-- The trace of a SELECT that handed out some rows. -/
def recorded (s : Select) (rows : Nat) (ok : Bool) (db : Database) : Database :=
  Selection.trace { statement := s, delivered := rows } ok db

/-- **The trace of a SELECT is one record.** -/
theorem oneRecord_recorded (s : Select) (rows : Nat) (ok : Bool) (db : Database) :
    OneRecord s.table rows (!ok) db (recorded s rows ok db) := by
  have hspan : Span.ofRows "vdb.select" [("vdb.table", Value.text s.table)] rows (!ok) =
      { name := "vdb.select"
        attributes := [("vdb.table", .text s.table), ("vdb.rows", .int rows)]
        failed := !ok } := by
    simp [Span.ofRows, Span.start, Span.withAttribute, Value.isNull]
  have hlatency (verb : String) (ok : Bool) : Sample.latency "select" ≠ .queries verb ok := by simp
  rw [recorded, trace, countStatement, hspan]
  refine ⟨?_, ?_, fun verb ok' => ?_⟩
  · exact (Telemetry.spans_count _ _ _).trans (Telemetry.spans_count _ _ _)
  · exact (Telemetry.counting_count _ _ _).trans (Telemetry.counting_count _ _ _)
  · rw [Bool.not_not]
    exact (Telemetry.counted_count_other _ (hlatency verb ok') 1).trans
      (Telemetry.counted_count_queries _ "select" verb ok ok')

/-- **A caller** that asks a selection for at most `n` rows, one after the other, and then gives it up. -/
def consume (doing : Nat → Database → Database) :
    Nat → Selection → StateM Database (List Record × Option Error)
  | 0, q => do
    let _ ← q.close
    return ([], none)
  | n + 1, q => do
    match ← q.next with
    | (.error e, q) => do
      let _ ← q.close
      return ([], some e)
    | (.ok none, q) => do
      let _ ← q.close
      return ([], none)
    | (.ok (some row), q) => do
      modify (doing n)
      let (rows, e) ← consume doing n q
      return (row :: rows, e)

variable {doing : Nat → Database → Database}

theorem run_consume_next (n : Nat) (q : Selection) (db : Database) :
    (consume doing (n + 1) q).run db =
      match q.next.run db with
      | ((.error e, q), db) => (([], some e), (q.close.run db).2)
      | ((.ok none, q), db) => (([], none), (q.close.run db).2)
      | ((.ok (some row), q), db) =>
        let rest := (consume doing n q).run (doing n db)
        ((row :: rest.1.1, rest.1.2), rest.2) := by
  rw [consume, StateT.run_bind]
  rcases q.next.run db with ⟨⟨e | _ | row, q⟩, db⟩ <;> rfl

/-- Nothing is left to give up once a selection is over. -/
theorem run_close_over {q : Selection} (hq : q.progress = .over) (db : Database) :
    (q.close.run db).2 = db := by
  rw [close, hq]
  rfl

/-- **A selection that is under way goes with its execution** — it hands out the same, comes to the same
failure and leaves the same database, with a trace of all that was handed out. -/
theorem run_consume_running (n : Nat) {q : Selection} {place : Nat} {stage : Stage} {source : Source}
    {answers : List (Place × Deferred)} (hq : q.progress = .running place stage source answers)
    (db : Database) :
    (q.consume doing n).run db =
      let out := (handOut q.statement doing n stage).run { db, place, source, answers }
      (out.1, recorded q.statement (q.delivered + out.1.1.length) out.1.2.isNone out.2.db) := by
  induction n generalizing q stage source answers db with
  | zero =>
      rw [consume, StateT.run_bind, close, hq]
      rfl
  | succ n ih =>
      have hplace := (silent_request q.statement stage { db, place, source, answers }).1
      have hhost : q.host db place = hostOf q.statement { db, place, source, answers } := rfl
      rw [run_consume_next, run_next_running hq, run_ask, run_handOut_succ, hhost]
      rcases hout : ((hostOf q.statement { db, place, source, answers }).next q.statement
        stage).outcome { db, place, source, answers } with ⟨e | _ | ⟨row, stage'⟩, r⟩ <;>
        rw [hout] at hplace
      · exact congrArg (Prod.mk _) (run_close_over rfl _)
      · exact congrArg (Prod.mk _) (run_close_over rfl _)
      · have hresumed : resumed (doing n) r =
            { db := doing n r.db, place, source := r.source, answers := r.answers } := by
          rw [resumed, hplace]
        -- The caller has its turn between two rows, and the rest goes on in the database that it
        -- leaves.
        have hrest := ih (q := { q with
          progress := .running place stage' r.source r.answers
          delivered := q.delivered + 1 }) rfl (doing n r.db)
        dsimp only [asked] at hrest ⊢
        rw [hrest, hresumed]
        dsimp only
        rw [List.length_cons, Nat.add_assoc, Nat.add_comm 1]

/-- **A selection that waits goes with its execution**, as soon as it is asked. -/
theorem run_consume_waiting (n : Nat) (s : Select) (db : Database) :
    (consume doing (n + 1) { statement := s }).run db =
      let out := untraced s doing (n + 1) db
      (out.1, recorded s out.1.1.length out.1.2.isNone out.2) := by
  rcases hfind : db.find s.table with e | place
  · have hnext : (next { statement := s }).run db =
        ((.error e, { statement := s, progress := .over }), recorded s 0 false db) := by
      rw [next]
      simp only [StateT.run_bind, StateT.run_get, pure_bind, hfind]
      rfl
    rw [run_consume_next, hnext, untraced, hfind]
    exact congrArg (Prod.mk _) (run_close_over rfl _)
  · -- Asked for its first row, it does what it would if its reading had been opened and left.
    let q : Selection := { statement := s, progress := .running place .fresh .closed [] }
    have hnext : (next { statement := s }).run db = q.next.run db := by
      rw [run_next_waiting rfl hfind, run_next_running rfl, run_ask, run_ask]
      rcases ((hostOf s { db, place }).next s .fresh).outcome { db, place } with
        ⟨e | _ | ⟨row, stage⟩, r⟩ <;> rfl
    have hconsume : (consume doing (n + 1) { statement := s }).run db =
        (q.consume doing (n + 1)).run db := by
      rw [run_consume_next, run_consume_next, hnext]
    rw [hconsume, run_consume_running (n + 1) rfl db, untraced, hfind]
    dsimp only [q]
    rw [Nat.zero_add]

/-- A caller that goes on with nothing in between collects what all rows come to, if it asks for as
many rows as are waited for. -/
theorem restTo_eq_consume (n : Nat) (q : Selection) (db : Database) :
    ((restTo n q).run db).1 = .error .unfinished ∨
      ((restTo n q).run db).1 = Host.collected ((q.consume (fun _ => id) n).run db).1 := by
  induction n generalizing q db with
  | zero => exact .inl rfl
  | succ n ih =>
      rw [restTo, StateT.run_bind, run_consume_next]
      rcases q.next.run db with ⟨⟨e | _ | row, q'⟩, db'⟩
      · exact .inr rfl
      · exact .inr rfl
      · exact (ih q' db').imp (congrArg ((row :: ·) <$> ·)) fun h =>
          (congrArg ((row :: ·) <$> ·) h).trans (Host.collected_cons row _).symm

/-- **The execution without a trace is that of a subquery** — for a caller that asks for enough rows
and goes on with nothing in between, unless there are more than are waited for. -/
theorem answer_resultsBy_untraced (s : Select) (db : Database) :
    ((resultsBy (subqueries (.statement (.select s))) s).outcome db).1 = .error .unfinished ∨
      ∃ n, ((resultsBy (subqueries (.statement (.select s))) s).outcome db).1 =
        Host.collected (untraced s (fun _ => id) n db).1 := by
  rw [← answer_all s db, all, Run.outcome_mk, StateT.run_bind, StateT.run_get, pure_bind]
  generalize patience { statement := s } db = n
  rcases restTo_eq_consume n { statement := s } db with h | h
  · exact .inl h
  · refine .inr ⟨n, h.trans ?_⟩
    cases n with
    | zero => rfl
    | succ n => rw [run_consume_waiting]

/-- **Returned** — a selection that a database has answered, of a text or of a tree. -/
inductive Returned : Selection → Prop where
  | query {sql : String} {params : Parameters} {db db' : Database} {q : Selection}
      (h : (query sql params).outcome db = (.ok q, db')) : Returned q
  | select {s : Select} {params : Parameters} {db db' : Database} {q : Selection}
      (h : (select s params).outcome db = (.ok q, db')) : Returned q

/-- Selections of trees have not been asked yet. -/
theorem eq_of_outcome_select {s : Select} {params : Parameters} {db db' : Database} {q : Selection}
    (h : (select s params).outcome db = (.ok q, db')) : q = { statement := s.bind params } := by
  obtain ⟨_, _, -, h⟩ := Run.outcome_bind_eq_ok.mp h
  obtain ⟨_, _, -, h⟩ := Run.outcome_bind_eq_ok.mp h
  rw [Run.outcome_pure] at h
  exact (Except.ok.inj (Prod.mk.inj h).1).symm

/-- Selections have not been asked yet when they are answered. -/
theorem Returned.eq {q : Selection} (h : q.Returned) : q = { statement := q.statement } := by
  cases h with
  | query h =>
      obtain ⟨statement, _, -, h⟩ := Run.outcome_bind_eq_ok.mp h
      cases statement with
      | select s => rw [eq_of_outcome_select h]
      | _ => cases h
  | select h => rw [eq_of_outcome_select h]

/-- **One SELECT, one record.**  A selection hands out the rows of the execution without a trace, up to
the failure that ends it there.  Nothing is recorded if it is not asked for a row.  Otherwise one
record is added to what the execution leaves, with the number of those rows, and it says that the
selection failed just when the execution did.  Neither the execution nor one of its subqueries adds a
record of its own. -/
theorem consume_recorded {q : Selection} (hq : q.Returned) (doing : Nat → Database → Database)
    (n : Nat) (db : Database) :
    ∃ rows error db', (q.consume doing n).run db = ((rows, error), db') ∧
      (untraced q.statement doing n db).1 = (rows, error) ∧
      (n = 0 → db' = db) ∧
      (0 < n → OneRecord q.statement.table rows.length error.isSome
        (untraced q.statement doing n db).2 db') ∧
      ((∀ k (db : Database), db.Silent (doing k db)) →
        db.Silent (untraced q.statement doing n db).2 ∧
          (0 < n → OneRecord q.statement.table rows.length error.isSome db db')) ∧
      ∀ t, Running.RunsSilently (subqueries (.statement (.select q.statement))) t := by
  rcases q with ⟨s, progress, delivered⟩
  obtain ⟨rfl, rfl⟩ : progress = .waiting ∧ delivered = 0 := by
    simpa only [Selection.mk.injEq, true_and] using hq.eq
  have hsubqueries (t : Select) :
      Running.RunsSilently (subqueries (.statement (.select s))) t :=
    Running.silent_resultsTo _ t
  cases n with
  | zero =>
      exact ⟨[], none, db, rfl, rfl, fun _ => rfl, fun h => absurd h (Nat.lt_irrefl 0),
        fun _ => ⟨.refl db, fun h => absurd h (Nat.lt_irrefl 0)⟩, hsubqueries⟩
  | succ n =>
      have hrecord := oneRecord_recorded s (untraced s doing (n + 1) db).1.1.length
        (untraced s doing (n + 1) db).1.2.isNone (untraced s doing (n + 1) db).2
      rw [Option.not_isNone] at hrecord
      refine ⟨_, _, _, run_consume_waiting n s db, rfl, fun h => absurd h n.succ_ne_zero,
        fun _ => hrecord, fun hdoing => ?_, hsubqueries⟩
      have hsilent := silent_untraced (s := s) hdoing (n + 1) db
      exact ⟨hsilent, fun _ => hsilent.oneRecord hrecord⟩

/-- `SELECT * FROM t`. -/
def wholePair : Select := .mk "t" [.all] none [] none none

/-- One row of two is asked for: the record says one row, and no failure. -/
theorem consume_recorded_pair :
    (select wholePair .none).outcome pairDatabase =
        (.ok { statement := wholePair }, pairDatabase) ∧
      ∃ db', (consume (fun _ => id) 1 { statement := wholePair }).run pairDatabase =
          (([[(.name "a", .int 1)]], none), db') ∧
        OneRecord "t" 1 false pairDatabase db' := by
  have hselected : (select wholePair .none).outcome pairDatabase =
      (.ok { statement := wholePair }, pairDatabase) := rfl
  have hfirst : ((consume (fun _ => id) 1 { statement := wholePair }).run pairDatabase).1 =
      ([[(.name "a", .int 1)]], none) := rfl
  obtain ⟨rows, error, db', hrun, -, -, -, hsilent, -⟩ :=
    consume_recorded (.select hselected) (fun _ => id) 1 pairDatabase
  rw [hrun] at hfirst
  obtain ⟨rfl, rfl⟩ := Prod.mk.inj hfirst
  exact ⟨hselected, db', hrun, (hsilent fun _ db => .refl db).2 Nat.one_pos⟩

end Selection
end TableQuery
