/-
# TableQuery.Proofs.Database.Unmoved — reading moves nothing.

A subquery answers the same rows whenever it is run, and running it leaves the database as it was
but for records.  This holds for every depth of nesting and for every table, by induction on the
depth: when the subqueries of a SELECT are steady, so are the values that are remembered of them, and
then the whole SELECT is.

## §A — databases that are alike.
## §B — values that are remembered.
## §C — guided hosts.
## §D — subqueries of any depth.
-/
import TableQuery.Proofs.Database.Amid
import TableQuery.Proofs.Reading.Determined

namespace TableQuery

open Run

/-! ## §A — databases that are alike -/

namespace Database

/-- The databases that differ from one in records only. -/
def Alike (db : Database) (_ : Unit) (db' : Database) : Prop := db'.forget = db.forget

theorem alike_self (db : Database) : db.Alike () db := rfl

theorem Alike.find {db db' : Database} (h : db.Alike () db') (name : String) :
    db'.find name = db.find name := by
  have hforget : db'.forget = db.forget := h
  have hnames : db'.forget.names = db.forget.names := congrArg (·.names) hforget
  show Database.find { db' with names := db'.forget.names } name = db.find name
  rw [hnames]
  rfl

/-- No table of alike databases was asked for another insertion or change. -/
theorem Alike.changesAsked {db db' : Database} (h : db.Alike () db') (place : Nat) :
    (db'.table place).changesAsked = (db.table place).changesAsked := by
  rw [← Table.events_lasting, lasting_table h, Table.events_lasting]

theorem Alike.collationOf {db db' : Database} (h : db.Alike () db') (place : Nat) :
    Running.collationOf db' place = Running.collationOf db place := by
  have hforget : db'.forget = db.forget := h
  have hcollation : db'.forget.collation = db.forget.collation := congrArg (·.collation) hforget
  have htable := lasting_table hforget place
  show (db'.table place).collation.getD db'.forget.collation = _
  rw [hcollation, ← Table.collation_lasting, htable, Table.collation_lasting]
  rfl

end Database

namespace Running
open Database

/-! ## §B — values that are remembered -/

/-- What is remembered of a subquery that answered some rows. -/
def remembered (s : Select) (rows : List Record) : Deferred :=
  { column := contributing s
    values := some (rows.map (Value.contributed (contributing s))) }

/-- **Good answers** — whatever is remembered of a subquery is what running it answers. -/
def Answered (db : Database) (run : Select → Run Database (List Record))
    (subs : List (Place × Select)) (answers : List (Place × Deferred)) : Prop :=
  ∀ p d, (p, d) ∈ answers → ∀ s, (p, s) ∈ subs →
    ∃ rows, Settles db.Alike (run s) (.ok rows) ∧ d = remembered s rows

theorem answered_nil (db : Database) (run : Select → Run Database (List Record))
    (subs : List (Place × Select)) : Answered db run subs [] :=
  fun _ _ h => absurd h List.not_mem_nil

section
variable {db : Database} {place : Nat} {run : Select → Run Database (List Record)}
  {subs : List (Place × Select)}

/-- Remembering what running a subquery answers keeps the answers good. -/
theorem Answered.remember {answers : List (Place × Deferred)} (h : Answered db run subs answers)
    (htold : ToldApart subs) {p : Place} {s : Select} (hs : (p, s) ∈ subs) {rows : List Record}
    (hrun : Settles db.Alike (run s) (.ok rows)) :
    Answered db run subs ((p, remembered s rows) :: answers.filter (·.1 != p)) := by
  intro q d hmem t ht
  rcases List.mem_cons.mp hmem with heq | hmem
  · obtain ⟨rfl, rfl⟩ := Prod.mk.inj heq
    obtain rfl := htold q s t hs ht
    exact ⟨rows, hrun, rfl⟩
  · exact h q d (List.mem_filter.mp hmem).1 t ht

theorem outcome_members_known {p : Place} {s : Select} {r : Running} {d : Deferred}
    {values : List Value} (hknown : r.deferred p s = d) (hvalues : d.values = some values) :
    (members run p s).outcome r =
      (.ok values, { r with answers := (p, d) :: r.answers.filter (·.1 != p) }) := by
  have hfill : d.fill (onDatabase (run s)) = pure d := by rw [Deferred.fill, hvalues]
  simp only [members, outcome_bind, outcome_get, resume_ok, hknown, hfill, outcome_pure,
    outcome_modify, hvalues, Option.getD_some]

theorem outcome_members_unfilled {p : Place} {s : Select} {r : Running} {d : Deferred}
    (hknown : r.deferred p s = d) (hvalues : d.values = none) :
    (members run p s).outcome r =
      match (run s).outcome r.db with
      | (.ok rows, db) =>
        (.ok (rows.map (Value.contributed d.column)), { r with
          db
          answers := (p, { d with values := some (rows.map (Value.contributed d.column)) }) ::
            r.answers.filter (·.1 != p) })
      | (.error e, db) => (.error e, { r with db }) := by
  simp only [members, outcome_bind, outcome_get, resume_ok, hknown, Deferred.fill, hvalues,
    outcome_onDatabase]
  rcases (run s).outcome r.db with ⟨e | rows, db⟩ <;> rfl

theorem outcome_members_unknown {p : Place} {s : Select} {r : Running}
    (hknown : r.deferred p s = { column := contributing s }) :
    (members run p s).outcome r =
      match (run s).outcome r.db with
      | (.ok rows, db) =>
        (.ok (rows.map (Value.contributed (contributing s))), { r with
          db, answers := (p, remembered s rows) :: r.answers.filter (·.1 != p) })
      | (.error e, db) => (.error e, { r with db }) :=
  outcome_members_unfilled hknown rfl

/-- **The values of a subquery** are what running it answers, as long as that is what is remembered of
it. -/
theorem settles_members {good : List (Place × Deferred) → Prop} {p : Place} {s : Select}
    {truth : Except Error (List Record)} (htruth : Settles db.Alike (run s) truth)
    (hknown : ∀ answers d, good answers → (p, d) ∈ answers →
      ∃ rows, truth = .ok rows ∧ d = remembered s rows)
    (hremember : ∀ answers rows, good answers → truth = .ok rows →
      good ((p, remembered s rows) :: answers.filter (·.1 != p))) :
    Settles (Amid db place good) (members run p s)
      (truth.map fun rows => rows.map (Value.contributed (contributing s))) := by
  intro source r hamid
  rcases hfind : r.answers.find? (·.1 == p) with _ | ⟨q, d⟩
  · -- the first need: the subquery is run, and what it answers is remembered
    have hunknown : r.deferred p s = { column := contributing s } := by rw [deferred, hfind]
    obtain ⟨hanswer, halike⟩ := htruth () r.db hamid.database
    rw [outcome_members_unknown hunknown]
    rcases hout : (run s).outcome r.db with ⟨answer, db'⟩
    rw [hout] at hanswer halike
    obtain rfl : answer = truth := hanswer
    rcases answer with e | rows
    · exact ⟨rfl, halike, hamid.place, hamid.source, hamid.answers⟩
    · exact ⟨rfl, halike, hamid.place, hamid.source, hremember _ _ hamid.answers rfl⟩
  · -- every later need: what is remembered is what running the subquery would answer
    have hq : q = p := by simpa using List.find?_some hfind
    subst hq
    have hdeferred : r.deferred q s = d := by rw [deferred, hfind]
    obtain ⟨rows, rfl, rfl⟩ := hknown _ d hamid.answers (List.mem_of_find?_eq_some hfind)
    rw [outcome_members_known hdeferred rfl]
    exact ⟨rfl, hamid.database, hamid.place, hamid.source, hremember _ _ hamid.answers rfl⟩

/-- What is remembered of a subquery is what running it answers. -/
theorem Answered.known {answers : List (Place × Deferred)} (h : Answered db run subs answers)
    {p : Place} {s : Select} (hs : (p, s) ∈ subs) {truth : Except Error (List Record)}
    (htruth : Settles db.Alike (run s) truth) {d : Deferred} (hd : (p, d) ∈ answers) :
    ∃ rows, truth = .ok rows ∧ d = remembered s rows := by
  obtain ⟨rows, hrows, rfl⟩ := h p d hd s hs
  exact ⟨rows, (htruth ()).unique (hrows ()) (alike_self db), rfl⟩

/-- **The values of a subquery are steady** when running it is. -/
theorem steady_members (hrun : ∀ s, Steady db.Alike (run s)) (htold : ToldApart subs) {p : Place}
    {s : Select} (hs : (p, s) ∈ subs) :
    Steady (Amid db place (Answered db run subs)) (members run p s) := by
  obtain ⟨truth, htruth⟩ := hrun s
  refine ⟨_, settles_members htruth (fun answers d hgood hd => hgood.known hs htruth hd) ?_⟩
  rintro answers rows hgood rfl
  exact hgood.remember htold hs htruth

/-- The evaluator of a statement answers its subqueries alike. -/
theorem evaluator_answers (place : Nat) (hrun : ∀ s, Steady db.Alike (run s)) (htold : ToldApart subs)
    (c : Collation) :
    (evaluator run c).Answers (Amid db place (Answered db run subs)) subs :=
  fun _ hp => steady_members hrun htold hp

/-! ## §C — guided hosts -/

/-- **The host of a SELECT is guided** when its subqueries are answered alike. -/
theorem host_guided {good : List (Place × Deferred) → Prop} {s : Select} (name : String)
    {ev : Evaluator Running} (hev : ev.Answers (Amid db place good) s.subqueries) :
    (host name ev).Guided (Amid db place good) s where
  read source := ⟨_, _, fun _ hr => hr.read ev.collation s⟩
  pull source := ⟨_, _, fun _ hr => hr.pull⟩
  close source := ⟨.ok (), .closed, fun _ hr => ⟨rfl, hr.close⟩⟩
  note remark source := ⟨.ok (), source, fun _ hr => ⟨rfl, hr.note name remark⟩⟩
  patience source := ⟨.ok (db.table place).patience, source, fun r hr => ⟨by
    rw [← Table.patience_lasting, ← hr.lasting_table, Table.patience_lasting]
    rfl, hr⟩⟩
  answers := hev

/-- A reading that is determined does the same from the beginning in every alike database. -/
theorem reading_settles {good : List (Place × Deferred) → Prop} (hgood : good []) {α : Type}
    {x : StateM Running α} (hx : Determined (Amid db place good) (liftM x)) :
    ∃ a, ∀ db', db.Alike () db' →
      ∃ r, x.run { db := db', place } = (a, r) ∧ db.Alike () r.db := by
  obtain ⟨answer, source, hleads⟩ := hx .closed
  have hstart : ∀ db', db.Alike () db' →
      Amid db place good .closed { db := db', place } :=
    fun _ halike => ⟨halike, rfl, rfl, hgood⟩
  obtain ⟨hself, -⟩ := hleads _ (hstart db (alike_self db))
  refine ⟨(x.run { db, place }).1, fun db' halike => ?_⟩
  obtain ⟨hanswer, hafter⟩ := hleads _ (hstart db' halike)
  have hsame : (x.run { db := db', place }).1 = (x.run { db, place }).1 :=
    Except.ok.inj (hanswer.trans hself.symm)
  exact ⟨(x.run { db := db', place }).2, Prod.ext hsame rfl, hafter.database⟩

end

/-! ## §D — subqueries of any depth -/

end Running

namespace Database
open Running

section
variable {run : Select → Run Database (List Record)} {s : Select} {db : Database}

theorem outcome_resultsBy_missing {e : Error} (h : db.find s.table = .error e) :
    (resultsBy run s).outcome db = (.error e, db) := by
  rw [resultsBy, outcome_bind, outcome_get, resume_ok, outcome_bind, outcome_liftExcept, h]
  rfl

theorem outcome_resultsBy {place : Nat} (h : db.find s.table = .ok place)
    {result : List Record × Option Error} {r : Running}
    (hresults : ((host s.table (evaluator run (collationOf db place))).results s).run
      { db, place } = (result, r)) :
    (resultsBy run s).outcome db = (result.2.elim (.ok result.1) .error, r.db) := by
  rw [resultsBy, outcome_bind, outcome_get, resume_ok, outcome_bind, outcome_liftExcept, h,
    resume_ok]
  dsimp only
  rw [hresults]
  rcases result with ⟨rows, _ | e⟩ <;> rfl

/-- A SELECT is steady when its subqueries are. -/
theorem steady_resultsBy (hrun : ∀ q, Steady db.Alike (run q)) (s : Select) :
    Steady db.Alike (resultsBy run s) := by
  rcases hfind : db.find s.table with e | place
  · refine ⟨.error e, fun _ db' halike => ?_⟩
    rw [outcome_resultsBy_missing ((halike.find s.table).trans hfind)]
    exact ⟨rfl, halike⟩
  · have hev := evaluator_answers place hrun s.toldApart_subqueries (collationOf db place)
    obtain ⟨result, hresults⟩ :=
      reading_settles (answered_nil db run s.subqueries) (host_guided s.table hev).results
    refine ⟨result.2.elim (.ok result.1) .error, fun _ db' halike => ?_⟩
    obtain ⟨r, hrun, hafter⟩ := hresults db' halike
    rw [← halike.collationOf place] at hrun
    rw [outcome_resultsBy ((halike.find s.table).trans hfind) hrun]
    exact ⟨rfl, hafter⟩

end

/-- **Running a subquery is steady**, whatever the depth to which its own subqueries are run. -/
theorem steady_resultsTo (db : Database) (depth : Nat) (s : Select) :
    Steady db.Alike (resultsTo depth s) := by
  induction depth generalizing s with
  | zero => exact steady_throw _
  | succ depth ih => exact steady_resultsBy ih s

end Database
end TableQuery
