/-
# TableQuery.Proofs.Reading.Determined — readings see nothing but their table.

Whatever a table yields, keeping its contract or not, a SELECT on a host whose steps are determined
is determined as a whole: its rows, its failure if there is one, and how far the reading has come
hang on nothing but the kind of state that it began in.

How the subqueries are answered, and how the condition is written, may change on the way: two SELECTs
that differ in their conditions only go together when the conditions agree on every row.  So each
step is put beside the same step of another SELECT on a host that answers subqueries in another way
(`Beside.results`); that a single reading is determined is the case of a SELECT beside itself.

## §A — guided hosts.
## §B — two SELECTs side by side.
## §C — rows and strategies.
## §D — the stages.
## §E — whole readings.
## §F — one SELECT.
-/
import TableQuery.Proofs.Evaluation.Places
import TableQuery.Reading.Cursor

namespace TableQuery
namespace Host

open Run

variable {σ ι : Type}

/-! ## §A — guided hosts -/

/-- **A guided host** for a SELECT — each of its own steps is determined, and the subqueries of the
SELECT are answered alike. -/
structure Guided (h : Host σ) (kind : ι → σ → Prop) (s : Select) : Prop where
  read : Determined kind (h.read s)
  pull : Determined kind h.pull
  close : Determined kind (liftM h.close : Run σ Unit)
  note (remark : Remark) : Determined kind (liftM (h.note remark) : Run σ Unit)
  patience : Determined kind (liftM h.patience : Run σ Nat)
  answers : h.evaluator.Answers kind s.subqueries

section
variable {h : Host σ} {kind : ι → σ → Prop} {s : Select}

theorem Guided.steady_evaluate (hg : h.Guided kind s) (row : Record) {place : Place} {e : Expr}
    (he : e.subqueriesAt place ⊆ s.subqueries) :
    Steady kind (h.evaluator.evaluate row place e) :=
  h.evaluator.steady_evaluate row place e fun p hp => hg.answers p (he hp)

theorem Guided.steady_holds (hg : h.Guided kind s) (row : Record) :
    Steady kind (h.evaluator.holds row [1] s.condition) := by
  refine h.evaluator.steady_holds row [1] s.condition fun e he p hp => ?_
  refine hg.answers p (s.condition_subset ?_)
  rw [he]
  exact hp

theorem Guided.refuse {α : Type} (hg : h.Guided kind s) (b : Breach) :
    Determined kind (h.refuse b : Run σ α) :=
  (hg.note .breached).bind fun _ => determined_throw _

theorem Guided.check (hg : h.Guided kind s) (seen : Seen) (i : Item) :
    Determined kind (h.check seen i) := by
  unfold Host.check
  split
  · exact hg.refuse _
  · split
    · exact determined_throw _
    · exact (hg.note .scanned).bind fun _ => determined_pure _
  · exact hg.refuse _
  · exact hg.refuse _

theorem Guided.row? (hg : h.Guided kind s) (first : Option Item) (seen : Seen) :
    Determined kind (h.row? first seen) := by
  have hitem : ∀ item, Determined kind (match item with
      | none => pure none
      | some i => some <$> h.check seen i : Run σ (Option (Row × Seen))) := by
    rintro (_ | i)
    · exact determined_pure none
    · exact (hg.check seen i).map some
  cases first with
  | none => exact hg.pull.bind hitem
  | some i => exact (determined_pure (some i)).bind hitem

theorem Guided.plan (hg : h.Guided kind s) (terms : List SortTerm) (claim : Option Claim)
    (offset : Nat) (limit : Option Nat) : Determined kind (h.plan terms claim offset limit) := by
  have hmake : Determined kind (do
      let p ← Run.ofLocale (Plan.make h.evaluator.collation terms claim offset limit)
      h.note (.planned p)
      return p : Run σ Plan) :=
    (determined_ofLocale _).bind fun p => (hg.note _).bind fun _ => determined_pure p
  unfold Host.plan
  split
  · exact (hg.refuse _).bind fun _ => hmake
  · exact hmake

/-! ## §B — two SELECTs side by side -/

/-- The host with other values of subqueries. -/
def asking (h : Host σ) (members : Place → Select → Run σ (List Value)) : Host σ :=
  { h with evaluator := h.evaluator.asking members }

/-- **A SELECT beside another one** — they differ in their conditions only, and these agree on every
row; the table begins its reading alike for both; and what the second one asks of its subqueries is
answered as on the host of the first. -/
structure Beside (h : Host σ) (members : Place → Select → Run σ (List Value))
    (kind : ι → σ → Prop) (s s' : Select) : Prop extends h.Guided kind s where
  columns_eq : s'.columns = s.columns
  orderBy_eq : s'.orderBy = s.orderBy
  limit_eq : s'.limit = s.limit
  offset_eq : s'.offset = s.offset
  begins : Together kind (h.read s) (h.read s')
  agrees : h.evaluator.Agrees members kind s'.subqueries
  holds (row : Record) : Agree kind (h.evaluator.holds row [1] s.condition)
    ((h.evaluator.asking members).holds row [1] s'.condition)

/-- A SELECT beside itself. -/
theorem Guided.beside (hg : h.Guided kind s) : h.Beside h.evaluator.members kind s s where
  toGuided := hg
  columns_eq := rfl
  orderBy_eq := rfl
  limit_eq := rfl
  offset_eq := rfl
  begins := hg.read.together
  agrees := hg.answers.agrees
  holds row := (hg.steady_holds row).agree

variable {members : Place → Select → Run σ (List Value)} {s' : Select}

theorem Beside.evaluate (hb : h.Beside members kind s s') (row : Record) {place : Place} {e : Expr}
    (he : e.subqueriesAt place ⊆ s'.subqueries) :
    Agree kind (h.evaluator.evaluate row place e)
      ((h.asking members).evaluator.evaluate row place e) :=
  h.evaluator.agree_evaluate row place e fun p hp => hb.agrees p (he hp)

/-- What LIMIT and OFFSET say does not hang on when they are asked. -/
theorem Beside.clause (hb : h.Beside members kind s s') (name : String) {place : Place}
    {e : Option Expr} (he : Expr.optionSubqueriesAt place e ⊆ s'.subqueries) :
    Agree kind (h.clause name place e) ((h.asking members).clause name place e) := by
  cases e with
  | none => exact (steady_pure none).agree
  | some e =>
      refine (hb.evaluate [] he).bind fun v => ?_
      split
      · exact (steady_pure none).agree
      · have hwhole : ∀ whole, Steady kind (match whole with
            | some i => pure (some i)
            | none => do throw (Error.evaluation (.notInteger name (← Run.ofNumber v.shown))) :
              Run σ (Option Int)) := by
          rintro (_ | i)
          · exact (steady_ofNumber _).bind fun _ => steady_throw _
          · exact steady_pure (some i)
        split
        · exact ((steady_ofNumber _).bind hwhole).agree
        · exact ((steady_pure none).bind hwhole).agree

/-! ## §C — rows and strategies -/

theorem Beside.admits (hb : h.Beside members kind s s') (trusted : Bool) (r : Row) :
    Together kind (h.admits trusted s r) ((h.asking members).admits trusted s' r) := by
  cases trusted
  · exact (hb.holds r.columns).together
  · exact (determined_pure true).together

theorem Beside.seek (hb : h.Beside members kind s s') (trusted : Bool) (fuel : Nat)
    (first : Option Item) (seen : Seen) (skip : Nat) :
    Together kind (h.seek s trusted fuel first seen skip)
      ((h.asking members).seek s' trusted fuel first seen skip) := by
  induction fuel generalizing first seen skip with
  | zero => exact (determined_throw _).together
  | succ fuel ih =>
      refine (hb.row? first seen).together.bind fun found => ?_
      rcases found with _ | ⟨r, seen⟩
      · exact (determined_pure none).together
      · refine (hb.admits trusted r).bind fun admitted => ?_
        cases admitted
        · exact ih none seen skip
        · cases skip with
          | zero => exact (determined_pure _).together
          | succ skip => exact ih none seen skip

theorem Beside.gather (hb : h.Beside members kind s s') (trusted : Bool) (fuel : Nat)
    (first : Option Item) (seen : Seen) :
    Together kind (h.gather s trusted fuel first seen)
      ((h.asking members).gather s' trusted fuel first seen) := by
  induction fuel generalizing first seen with
  | zero => exact (determined_throw _).together
  | succ fuel ih =>
      refine (hb.row? first seen).together.bind fun found => ?_
      rcases found with _ | ⟨r, seen⟩
      · exact (determined_pure []).together
      · refine (hb.admits trusted r).bind fun admitted => ?_
        cases admitted
        · exact ih none seen
        · exact (ih none seen).bind fun rows => (determined_pure _).together

theorem Beside.sortRows (hb : h.Beside members kind s s') {terms : List SortTerm}
    (hterms : ∀ t ∈ terms, t.expression.subqueriesAt t.place ⊆ s'.subqueries) (rows : List Row) :
    Agree kind (h.sortRows terms rows) ((h.asking members).sortRows terms rows) := by
  refine (agree_mapM fun r _ => ?_).bind fun keyed => (steady_pure _).agree
  refine (agree_mapM fun t ht => ?_).bind fun keys => (steady_pure _).agree
  exact hb.evaluate r.columns (hterms t ht)

/-! ## §D — the stages -/

theorem Beside.limit (hb : h.Beside members kind s s') :
    Together kind (h.limit s) ((h.asking members).limit s') := by
  have hclause := hb.clause "LIMIT" s'.limit_subset
  rw [hb.limit_eq] at hclause
  unfold Host.limit
  rw [hb.limit_eq]
  exact hclause.together.bind fun _ => (determined_pure _).together

theorem Beside.offset (hb : h.Beside members kind s s') :
    Together kind (h.offset s) ((h.asking members).offset s') := by
  have hclause := hb.clause "OFFSET" s'.offset_subset
  rw [hb.offset_eq] at hclause
  unfold Host.offset
  rw [hb.offset_eq]
  exact hclause.together.bind fun _ => (determined_pure _).together

theorem Beside.stream (hb : h.Beside members kind s s') (p : Plan) (first : Option Item)
    (seen : Seen) (skip emitted : Nat) :
    Together kind (h.stream s p first seen skip emitted)
      ((h.asking members).stream s' p first seen skip emitted) := by
  unfold Host.stream
  split
  · exact (determined_pure none).together
  · refine hb.patience.together.bind fun fuel => ?_
    refine (hb.seek p.trusted fuel first seen skip).bind fun found => ?_
    rcases found with _ | ⟨r, seen⟩
    · exact (determined_pure none).together
    · exact (determined_pure _).together

theorem Beside.begin (hb : h.Beside members kind s s') {terms : List SortTerm}
    (hterms : ∀ t ∈ terms, t.expression.subqueriesAt t.place ⊆ s'.subqueries) (offset : Nat)
    (limit : Option Nat) :
    Together kind (h.begin s terms offset limit)
      ((h.asking members).begin s' terms offset limit) := by
  refine hb.pull.together.bind fun item => ?_
  rcases claimed item with ⟨claim, first⟩
  refine (hb.plan terms claim offset limit).together.bind fun p => ?_
  rcases p.strategy with _ | _
  · exact hb.stream p first {} p.offset 0
  · refine hb.patience.together.bind fun fuel => ?_
    refine (hb.gather p.trusted fuel first {}).bind fun rows => ?_
    exact (hb.sortRows hterms rows).together.bind fun sorted => (determined_pure _).together

/-- **Every stage goes together** with the same stage of the other SELECT. -/
theorem Beside.advance (hb : h.Beside members kind s s') (stage : Stage) :
    Together kind (h.advance s stage) ((h.asking members).advance s' stage) := by
  cases stage with
  | fresh =>
      refine hb.limit.bind fun limit => hb.offset.bind fun offset => ?_
      have hterms : (Host.terms s' : Run σ (List SortTerm)) = Host.terms s := by
        rw [Host.terms, Host.terms, hb.columns_eq, hb.orderBy_eq]
      rw [hterms]
      unfold Host.terms
      rcases hresolved : SortTerm.resolveAll s.columns s.orderBy with fault | terms
      · exact fun i => ⟨_, i, (leads_throw (.evaluation fault)).bind_error,
          (leads_throw (.evaluation fault)).bind_error⟩
      · -- A term may have become a result column; its subqueries are those of the SELECT either way.
        have hsub : ∀ t ∈ terms, t.expression.subqueriesAt t.place ⊆ s'.subqueries := by
          rw [← hb.columns_eq, ← hb.orderBy_eq] at hresolved
          exact fun t ht => SortTerm.subset_of_resolveAll hresolved ht
        show Together kind
          (pure terms >>= fun terms => h.read s >>= fun _ => h.begin s terms offset limit)
          (pure terms >>= fun terms => h.read s' >>= fun _ =>
            (h.asking members).begin s' terms offset limit)
        rw [pure_bind, pure_bind]
        exact hb.begins.bind fun _ => hb.begin hsub offset limit
  | streaming p seen emitted => exact hb.stream p none seen 0 emitted
  | emitting rows => exact (determined_pure _).together
  | finished => exact (determined_pure none).together

/-! ## §E — whole readings -/

theorem Beside.projectFrom (hb : h.Beside members kind s s') (r : Row) {n : Nat}
    {columns : List ResultColumn}
    (hcolumns : ∀ k (c : ResultColumn), columns[k]? = some c →
      c.expression.subqueriesAt [n + k, 0] ⊆ s'.subqueries) (out : Record) :
    Agree kind (h.projectFrom r n columns out) ((h.asking members).projectFrom r n columns out) := by
  induction columns generalizing n out with
  | nil => exact (steady_pure out).agree
  | cons c columns ih =>
      have hrest : ∀ k (d : ResultColumn), columns[k]? = some d →
          d.expression.subqueriesAt [n + 1 + k, 0] ⊆ s'.subqueries := by
        intro k d hd
        rw [Nat.add_right_comm]
        exact hcolumns (k + 1) d hd
      unfold Host.projectFrom
      split
      · exact ih hrest _
      · exact (hb.evaluate r.columns (hcolumns 0 c rfl)).bind fun v => ih hrest _

/-- The result row of a row of the table does not hang on when it is asked for. -/
theorem Beside.project (hb : h.Beside members kind s s') (r : Row) :
    Agree kind (h.project s r) ((h.asking members).project s' r) := by
  unfold Host.project
  rw [hb.columns_eq]
  refine hb.projectFrom r (fun k c hc => ?_) []
  rw [Nat.zero_add]
  rw [← hb.columns_eq] at hc
  exact s'.column_subset hc

theorem Beside.step (hb : h.Beside members kind s s') (stage : Stage) :
    Together kind (h.step s stage) ((h.asking members).step s' stage) := by
  refine (hb.advance stage).bind fun found => ?_
  rcases found with _ | ⟨r, stage⟩
  · exact (determined_pure none).together
  · exact (hb.project r).together.bind fun out => (determined_pure _).together

theorem outcome_concluding {α : Type} (x : Run σ (Option α)) (st : σ) :
    (h.concluding x).outcome st =
      match x.outcome st with
      | (.ok (some a), st) => (.ok (some a), st)
      | (answer, st) => (answer, (h.close.run st).2) := by
  unfold outcome
  rw [concluding, ExceptT.run_mk, StateT.run_bind]
  rcases x.run.run st with ⟨e | _ | a, st'⟩ <;> rfl

/-- A reading that has come to a row goes on. -/
theorem leads_concluding {α : Type} {x : Run σ (Option α)} {a : α} {before after : σ → Prop}
    (hx : Leads before x (.ok (some a)) after) :
    Leads before (h.concluding x) (.ok (some a)) after := by
  intro st hst
  obtain ⟨hanswer, hafter⟩ := hx st hst
  rw [outcome_concluding]
  rcases hout : x.outcome st with ⟨answer, st'⟩
  rw [hout] at hanswer hafter
  subst hanswer
  exact ⟨rfl, hafter⟩

/-- A reading that has come to its end, or to a failure, is given up. -/
theorem leads_concluding_over {α : Type} {x : Run σ (Option α)} {answer : Except Error (Option α)}
    {gone : Except Error Unit} {before between after : σ → Prop}
    (hover : ∀ a, answer ≠ .ok (some a)) (hx : Leads before x answer between)
    (hclose : Leads between (liftM h.close : Run σ Unit) gone after) :
    Leads before (h.concluding x) answer after := by
  intro st hst
  obtain ⟨hanswer, hbetween⟩ := hx st hst
  rw [outcome_concluding]
  rcases hout : x.outcome st with ⟨found, st'⟩
  rw [hout] at hanswer hbetween
  obtain rfl : found = answer := hanswer
  rcases found with e | _ | a
  · exact ⟨rfl, (hclose st' hbetween).2⟩
  · exact ⟨rfl, (hclose st' hbetween).2⟩
  · exact absurd rfl (hover a)

theorem Guided.concluding {α : Type} (hg : h.Guided kind s) {x y : Run σ (Option α)}
    (hxy : Together kind x y) : Together kind (h.concluding x) (h.concluding y) := by
  intro i
  obtain ⟨answer, j, hx, hy⟩ := hxy i
  obtain ⟨_, k, hclose⟩ := hg.close j
  by_cases hrow : ∃ a, answer = .ok (some a)
  · obtain ⟨a, rfl⟩ := hrow
    exact ⟨_, j, leads_concluding hx, leads_concluding hy⟩
  · rw [not_exists] at hrow
    exact ⟨answer, k, leads_concluding_over hrow hx hclose, leads_concluding_over hrow hy hclose⟩

theorem Beside.next (hb : h.Beside members kind s s') (stage : Stage) :
    Together kind (h.next s stage) ((h.asking members).next s' stage) :=
  hb.concluding (hb.step stage)

theorem together_collect {α : Type} {ask ask' : Stage → Run σ (Option (α × Stage))}
    (hask : ∀ stage, Together kind (ask stage) (ask' stage)) (fuel : Nat) (stage : Stage) :
    Together kind (liftM (collect ask fuel stage) : Run σ (List α × Option Error))
      (liftM (collect ask' fuel stage)) := by
  induction fuel generalizing stage with
  | zero => exact (determined_pure _).together
  | succ fuel ih =>
      refine (hask stage).attempt.lift_bind fun answer => ?_
      rcases answer with e | _ | ⟨a, stage⟩
      · exact (determined_pure _).together
      · exact (determined_pure _).together
      · exact (ih stage).lift_bind fun rest => (determined_pure _).together

/-- **The results of two SELECTs** side by side go together. -/
theorem Beside.results (hb : h.Beside members kind s s') :
    Together kind (liftM (h.results s) : Run σ (List Record × Option Error))
      (liftM ((h.asking members).results s')) :=
  hb.patience.together.lift_bind fun fuel => together_collect hb.next fuel .fresh

/-! ## §F — one SELECT -/

/-- What LIMIT and OFFSET say does not hang on when they are asked. -/
theorem Guided.steady_clause (hg : h.Guided kind s) (name : String) {place : Place}
    {e : Option Expr} (he : Expr.optionSubqueriesAt place e ⊆ s.subqueries) :
    Steady kind (h.clause name place e) :=
  (hg.beside.clause name he).steady

theorem Guided.steady_sortRows (hg : h.Guided kind s) {terms : List SortTerm}
    (hterms : ∀ t ∈ terms, t.expression.subqueriesAt t.place ⊆ s.subqueries) (rows : List Row) :
    Steady kind (h.sortRows terms rows) :=
  (hg.beside.sortRows hterms rows).steady

/-- The result row of a row of the table does not hang on when it is asked for. -/
theorem Guided.steady_project (hg : h.Guided kind s) (r : Row) : Steady kind (h.project s r) :=
  (hg.beside.project r).steady

/-- **Every request is determined.** -/
theorem Guided.next (hg : h.Guided kind s) (stage : Stage) : Determined kind (h.next s stage) :=
  (hg.beside.next stage).determined

/-- **The results of a SELECT are determined.** -/
theorem Guided.results (hg : h.Guided kind s) :
    Determined kind (liftM (h.results s) : Run σ (List Record × Option Error)) :=
  hg.beside.results.determined

/-- **The ids of the rows that satisfy the condition are determined.** -/
theorem Guided.matchingIds (hg : h.Guided kind s) : Determined kind (h.matchingIds s) := by
  have hdisregard : ∀ first, Determined kind (h.disregard first) := by
    intro first
    unfold Host.disregard
    dsimp only
    split
    · exact (hg.refuse _).bind fun _ => determined_pure _
    · exact determined_pure _
  have hgather (fuel : Nat) (first : Option Item) :
      Determined kind (h.gather s false fuel first {}) :=
    (hg.beside.gather false fuel first {}).determined
  refine hg.read.bind fun _ => Determined.ensuring ?_ hg.close
  refine hg.pull.bind fun item => (hdisregard item).bind fun first => ?_
  exact hg.patience.bind fun fuel => (hgather fuel first).bind fun rows => determined_pure _

end
end Host
end TableQuery
