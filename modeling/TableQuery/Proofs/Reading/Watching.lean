/-
# TableQuery.Proofs.Reading.Watching — what a running SELECT asks of its table.

A host can be watched: everything that is asked of its table is written down, in order.  Watching
changes neither what is answered nor what becomes of the state (`Host.Follows`).  What a caller leaves
behind in this way is short to say, wherever the caller stops and whatever fails: nothing at all, or a
reading that was refused, or a reading that was opened, pulled from, and closed once
(`Host.consume_lifeCycle`).

## §A — watched hosts.
## §B — rows and strategies.
## §C — the stages.
## §D — callers.
-/
import TableQuery.Proofs.Evaluation.Apart
import TableQuery.Proofs.Reading.Bounded

namespace TableQuery

open Run

/-! ## §A — watched hosts -/

/-- Something that is asked of a table on behalf of a running SELECT. -/
inductive Access where
  | opened
  /-- The table was asked for a reading and failed. -/
  | refused (e : Error)
  | pulled (answer : Except Error (Option Item))
  | closed

/-- Whether a reading was opened. -/
def Access.isOpened : Access → Bool
  | opened => true
  | _ => false

namespace Host
variable {σ : Type}

/-- **A watched host** writes down what is asked of the table.  Without a reading that was opened
there is nothing to close, so giving up is then not written down. -/
def watched (h : Host σ) : Host (σ × List Access) where
  name := h.name
  evaluator := h.evaluator.apart
  read s := fun st =>
    match (h.read s).outcome st.1 with
    | (.ok (), st') => (.ok (), (st', st.2 ++ [.opened]))
    | (.error e, st') => (.error e, (st', st.2 ++ [.refused e]))
  pull := fun st =>
    ((h.pull.outcome st.1).1, ((h.pull.outcome st.1).2, st.2 ++ [.pulled (h.pull.outcome st.1).1]))
  close := fun st =>
    ((), ((h.close.run st.1).2, if st.2.any Access.isOpened then st.2 ++ [.closed] else st.2))
  note remark := stepApart (h.note remark)
  patience := stepApart h.patience

/-- What pulls have answered. -/
abbrev Pulls := List (Except Error (Option Item))

/-- **Following** — a computation on a watched host answers what the other one answers, leaves the
same state, and has pulled. -/
def Follows {α : Type} (watching : Run (σ × List Access) α) (x : Run σ α) : Prop :=
  ∀ st log, ∃ pulls : Pulls, watching.outcome (st, log) =
    ((x.outcome st).1, ((x.outcome st).2, log ++ pulls.map .pulled))

section
variable {α β : Type} {watching : Run (σ × List Access) α} {x : Run σ α}

theorem follows_apart (x : Run σ α) : Follows x.apart x := by
  intro st log
  exact ⟨[], by rw [outcome_apart, List.map_nil, List.append_nil]⟩

theorem Follows.bind {f' : α → Run (σ × List Access) β} {f : α → Run σ β}
    (hx : Follows watching x) (hf : ∀ a, Follows (f' a) (f a)) :
    Follows (watching >>= f') (x >>= f) := by
  intro st log
  obtain ⟨pulls, hfirst⟩ := hx st log
  rw [outcome_bind, outcome_bind, hfirst]
  rcases x.outcome st with ⟨e | a, t⟩
  · exact ⟨pulls, rfl⟩
  · obtain ⟨more, hrest⟩ := hf a t (log ++ pulls.map .pulled)
    refine ⟨pulls ++ more, ?_⟩
    rw [resume_ok, resume_ok, hrest, List.map_append, List.append_assoc]

end

/-! ## §B — rows and strategies -/

section
variable (h : Host σ) (s : Select)

theorem follows_pull : Follows h.watched.pull h.pull :=
  fun st _ => ⟨[(h.pull.outcome st).1], rfl⟩

theorem follows_patience :
    Follows (liftM h.watched.patience : Run (σ × List Access) Nat) (liftM h.patience : Run σ Nat) :=
  follows_apart (liftM h.patience)

theorem watched_refuse {α : Type} (b : Breach) :
    (h.watched.refuse b : Run _ α) = (h.refuse b : Run σ α).apart := rfl

theorem watched_check (seen : Seen) (i : Item) : h.watched.check seen i = (h.check seen i).apart := by
  unfold check
  rcases hb : seen.breach? i with _ | b
  · cases i with
    | row r =>
      dsimp only
      cases r.id.isIdentity <;> rfl
    | claim c | other v => cases hb
  · rfl

theorem follows_row (first : Option Item) (seen : Seen) :
    Follows (h.watched.row? first seen) (h.row? first seen) := by
  have hcheck (i : Item) :
      Follows (some <$> h.watched.check seen i) (some <$> h.check seen i) := by
    rw [watched_check, ← apart_map]
    exact follows_apart _
  cases first with
  | some i => exact hcheck i
  | none =>
    refine (follows_pull h).bind fun item => ?_
    cases item with
    | none => exact follows_apart (pure none)
    | some i => exact hcheck i

theorem watched_admits (trusted : Bool) (r : Row) :
    h.watched.admits trusted s r = (h.admits trusted s r).apart := by
  unfold admits
  split
  · rfl
  · exact (Evaluator.apart_holds h.evaluator r.columns [1] s.condition).symm

theorem follows_seek (trusted : Bool) (fuel : Nat) (first : Option Item) (seen : Seen) (skip : Nat) :
    Follows (h.watched.seek s trusted fuel first seen skip)
      (h.seek s trusted fuel first seen skip) := by
  induction fuel generalizing first seen skip with
  | zero => exact follows_apart (throw .unfinished)
  | succ fuel ih =>
    refine (follows_row h first seen).bind fun found => ?_
    rcases found with _ | ⟨r, seen⟩
    · exact follows_apart (pure none)
    · dsimp only
      rw [watched_admits]
      refine (follows_apart _).bind fun admits => ?_
      cases admits with
      | false => exact ih none seen skip
      | true =>
        cases skip with
        | zero => exact follows_apart (pure (some (r, seen)))
        | succ skip => exact ih none seen skip

theorem follows_gather (trusted : Bool) (fuel : Nat) (first : Option Item) (seen : Seen) :
    Follows (h.watched.gather s trusted fuel first seen) (h.gather s trusted fuel first seen) := by
  induction fuel generalizing first seen with
  | zero => exact follows_apart (throw .unfinished)
  | succ fuel ih =>
    refine (follows_row h first seen).bind fun found => ?_
    rcases found with _ | ⟨r, seen⟩
    · exact follows_apart (pure [])
    · dsimp only
      rw [watched_admits]
      refine (follows_apart _).bind fun admits => ?_
      cases admits with
      | false => exact ih none seen
      | true => exact (ih none seen).bind fun rows => follows_apart (pure (r :: rows))

theorem watched_sortRows (terms : List SortTerm) (rows : List Row) :
    h.watched.sortRows terms rows = (h.sortRows terms rows).apart := by
  have hvalue (r : Row) (t : SortTerm) :
      h.watched.evaluator.evaluate r.columns t.place t.expression =
        (h.evaluator.evaluate r.columns t.place t.expression).apart :=
    (Evaluator.apart_evaluate h.evaluator r.columns t.place t.expression).symm
  simp only [sortRows, apart_bind, apart_mapM, apart_pure, hvalue]
  rfl

/-! ## §C — the stages -/

theorem follows_stream (p : Plan) (first : Option Item) (seen : Seen) (skip emitted : Nat) :
    Follows (h.watched.stream s p first seen skip emitted)
      (h.stream s p first seen skip emitted) := by
  unfold stream
  split
  · exact follows_apart (pure none)
  · refine (follows_patience h).bind fun fuel => ?_
    refine (follows_seek h s p.trusted fuel first seen skip).bind fun found => ?_
    rcases found with _ | ⟨r, seen⟩
    · exact follows_apart (pure none)
    · exact follows_apart (pure (some (r, Stage.streaming p seen (emitted + 1))))

theorem follows_follow (terms : List SortTerm) (first : Option Item) (p : Plan) :
    Follows (h.watched.follow s terms first p) (h.follow s terms first p) := by
  unfold follow
  split
  · exact follows_stream h s p first {} p.offset 0
  · refine (follows_patience h).bind fun fuel => ?_
    refine (follows_gather h s p.trusted fuel first {}).bind fun rows => ?_
    rw [watched_sortRows]
    exact (follows_apart _).bind fun sorted => follows_apart (pure (emit (slice p sorted)))

theorem watched_plan (terms : List SortTerm) (claim : Option Claim) (offset : Nat)
    (limit : Option Nat) :
    h.watched.plan terms claim offset limit = (h.plan terms claim offset limit).apart := by
  have hmake : (do
      let p ← Run.ofLocale (Plan.make h.evaluator.collation terms claim offset limit)
      h.watched.note (.planned p)
      return p : Run (σ × List Access) Plan) = (do
      let p ← Run.ofLocale (Plan.make h.evaluator.collation terms claim offset limit)
      h.note (.planned p)
      return p : Run σ Plan).apart := by
    rw [apart_bind, apart_ofLocale]
    rfl
  unfold plan
  split
  · rw [apart_bind]
    exact congrArg₂ (· >>= ·) (watched_refuse h _) (funext fun _ => hmake)
  · exact hmake

theorem follows_begin (terms : List SortTerm) (offset : Nat) (limit : Option Nat) :
    Follows (h.watched.begin s terms offset limit) (h.begin s terms offset limit) := by
  rw [begin_eq, begin_eq]
  refine (follows_pull h).bind fun item => ?_
  rw [watched_plan]
  exact (follows_apart _).bind fun p => follows_follow h s terms (claimed item).2 p

theorem watched_clause (name : String) (place : Place) (e : Option Expr) :
    h.watched.clause name place e = (h.clause name place e).apart := by
  cases e with
  | none => rfl
  | some e =>
    have hvalue : h.watched.evaluator.evaluate [] place e =
        (h.evaluator.evaluate [] place e).apart :=
      (Evaluator.apart_evaluate h.evaluator [] place e).symm
    unfold clause
    dsimp only
    rw [hvalue, apart_bind]
    congr 1
    funext v
    cases v.isNull with
    | true => rfl
    | false =>
      rcases v.number? with _ | n <;> dsimp only
      · cases v.shown <;> rfl
      · rcases n.whole? with e | _ | i
        · rfl
        · cases v.shown <;> rfl
        · rfl

theorem watched_clauses : h.watched.clauses s = (h.clauses s).apart := by
  have hterms : (Host.terms s : Run (σ × List Access) _) = (Host.terms s : Run σ _).apart := by
    unfold Host.terms
    split <;> rfl
  simp only [clauses, limit, offset, watched_clause, hterms, apart_bind, apart_pure]

theorem follows_advance {stage : Stage} (hstage : stage ≠ .fresh) :
    Follows (h.watched.advance s stage) (h.advance s stage) := by
  cases stage with
  | fresh => exact absurd rfl hstage
  | streaming p seen emitted => exact follows_stream h s p none seen 0 emitted
  | emitting rows => exact follows_apart (pure (emit rows))
  | finished => exact follows_apart (pure none)

/-! ## §D — callers -/

/-- **A caller** that asks for at most `n` rows, one after the other, and then gives the reading up,
unless it is over.  Before the first row was asked for there is nothing to give up. -/
def consume (h : Host σ) (s : Select) : Nat → Stage → StateM σ (List Row × Option Error)
  | 0, .fresh => return ([], none)
  | 0, _ => do
    h.close
    return ([], none)
  | n + 1, stage => do
    match ← Run.attempt (h.nextRow s stage) with
    | .error e => return ([], some e)
    | .ok none => return ([], none)
    | .ok (some (r, stage)) =>
      let (rows, e) ← h.consume s n stage
      return (r :: rows, e)

theorem run_consume_succ (n : Nat) (stage : Stage) (st : σ) :
    (h.consume s (n + 1) stage).run st =
      match (h.nextRow s stage).outcome st with
      | (.error e, st) => (([], some e), st)
      | (.ok none, st) => (([], none), st)
      | (.ok (some (r, stage)), st) =>
        let rest := (h.consume s n stage).run st
        ((r :: rest.1.1, rest.1.2), rest.2) := by
  rw [consume, StateT.run_bind, attempt]
  unfold outcome
  rcases (h.nextRow s stage).run.run st with ⟨e | _ | ⟨r, stage'⟩, st'⟩ <;> rfl

theorem run_consume_zero {stage : Stage} (hstage : stage ≠ .fresh) (st : σ) :
    (h.consume s 0 stage).run st = (([], none), (h.close.run st).2) := by
  cases stage with
  | fresh => exact absurd rfl hstage
  | streaming _ _ _ | emitting _ | finished => rfl

/-- Closing a reading that was opened is written down. -/
theorem close_opened {log : List Access} (hlog : log.any Access.isOpened = true) (st : σ) :
    (h.watched.close.run (st, log)).2 = ((h.close.run st).2, log ++ [.closed]) := by
  show ((h.close.run st).2, if log.any Access.isOpened then log ++ [.closed] else log) = _
  rw [if_pos hlog]

/-- Reading a table is written down, and so is the failure of a table that cannot be read. -/
theorem watched_read (st : σ) (log : List Access) :
    (h.watched.read s).outcome (st, log) =
      match (h.read s).outcome st with
      | (.ok (), opened) => (.ok (), (opened, log ++ [.opened]))
      | (.error e, st') => (.error e, (st', log ++ [.refused e])) := rfl

/-- What is pulled and closed when `n` more rows are asked for from a stage on. -/
def Closes (n : Nat) (stage : Stage) : Prop :=
  ∀ (log : List Access) (st : σ), log.any Access.isOpened = true →
    ∃ pulls : Pulls, (h.watched.consume s n stage).run (st, log) =
      (((h.consume s n stage).run st).1,
        (((h.consume s n stage).run st).2, log ++ pulls.map .pulled ++ [.closed]))

/-- A request for a row that comes to what `x` answers, and the requests behind it. -/
theorem Follows.closes {watching : Run (σ × List Access) (Option (Row × Stage))}
    {x : Run σ (Option (Row × Stage))} (hx : Follows watching x) {n : Nat}
    (hrest : ∀ r stage, MayAnswer x (some (r, stage)) → Closes h s n stage) {stage : Stage}
    {st st' : σ} {log log' : List Access} (hlog : log'.any Access.isOpened = true)
    (hwatched : (h.watched.nextRow s stage).outcome (st, log) =
      (h.watched.concluding watching).outcome (st', log'))
    (hnext : (h.nextRow s stage).outcome st = (h.concluding x).outcome st') :
    ∃ pulls : Pulls, (h.watched.consume s (n + 1) stage).run (st, log) =
      (((h.consume s (n + 1) stage).run st).1,
        (((h.consume s (n + 1) stage).run st).2, log' ++ pulls.map .pulled ++ [.closed])) := by
  obtain ⟨pulls, hpulls⟩ := hx st' log'
  have hopened : (log' ++ pulls.map Access.pulled).any Access.isOpened = true := by
    rw [List.any_append, hlog, Bool.true_or]
  rw [run_consume_succ, run_consume_succ, hwatched, hnext, outcome_concluding, outcome_concluding,
    hpulls]
  rcases hout : x.outcome st' with ⟨e | _ | ⟨r, later⟩, t⟩ <;> dsimp only
  · exact ⟨pulls, by rw [close_opened h hopened]⟩
  · exact ⟨pulls, by rw [close_opened h hopened]⟩
  · obtain ⟨more, hmore⟩ := hrest r later ⟨st', t, hout⟩ _ t hopened
    exact ⟨pulls ++ more, by rw [hmore, List.map_append, ← List.append_assoc]⟩

/-- **A reading that is under way** is pulled from and closed once, however many more rows are asked
for. -/
theorem closes_later (n : Nat) {stage : Stage} (hstage : stage ≠ .fresh) : Closes h s n stage := by
  induction n generalizing stage with
  | zero =>
    intro log st hlog
    refine ⟨[], ?_⟩
    rw [run_consume_zero _ s hstage, run_consume_zero h s hstage, close_opened h hlog,
      List.map_nil, List.append_nil]
  | succ n ih =>
    intro log st hlog
    exact (follows_advance h s hstage).closes h s (fun r later ha => ih (advance_later ha)) hlog
      rfl rfl

/-- **The life of a reading.**  Whatever the statement, the table and the caller are, watching answers
and leaves the same, and what was asked of the table is

* nothing, when no row was asked for or a clause of the statement has no value;
* a single request that the table refused;
* or else a reading that was opened, some pulls, and one closing behind them. -/
theorem consume_lifeCycle (n : Nat) (st : σ) :
    ∃ log, (h.watched.consume s n .fresh).run (st, []) =
        (((h.consume s n .fresh).run st).1, (((h.consume s n .fresh).run st).2, log)) ∧
      (n = 0 → log = []) ∧
      (0 < n →
        match (h.clauses s).outcome st with
        | (.error _, _) => log = []
        | (.ok _, asked) =>
          match (h.read s).outcome asked with
          | (.error e, _) => log = [.refused e]
          | (.ok (), _) => ∃ pulls : Pulls, log = .opened :: pulls.map .pulled ++ [.closed]) := by
  cases n with
  | zero => exact ⟨[], rfl, fun _ => rfl, fun hn => absurd hn (Nat.lt_irrefl 0)⟩
  | succ n =>
    -- Before the table is read there is nothing to pull from, and afterwards the first row is like
    -- any other.
    have hwatched : (h.watched.nextRow s .fresh).outcome (st, []) =
        (h.watched.concluding ((h.clauses s).apart >>= fun found => h.watched.read s >>= fun _ =>
          h.watched.begin s found.1 found.2.1 found.2.2)).outcome (st, []) := by
      rw [nextRow, advance_fresh, watched_clauses]
    have hnext : (h.nextRow s .fresh).outcome st =
        (h.concluding (h.clauses s >>= fun found => h.read s >>= fun _ =>
          h.begin s found.1 found.2.1 found.2.2)).outcome st := by
      rw [nextRow, advance_fresh]
    rw [outcome_concluding, outcome_bind, outcome_apart] at hwatched
    rw [outcome_concluding, outcome_bind] at hnext
    rcases hclauses : (h.clauses s).outcome st with ⟨e | found, asked⟩
    · rw [hclauses] at hwatched hnext
      refine ⟨[], ?_, nofun, fun _ => rfl⟩
      rw [run_consume_succ, run_consume_succ, hwatched, hnext]
      rfl
    · rw [hclauses] at hwatched hnext
      dsimp only at hwatched hnext ⊢
      rw [resume_ok, outcome_bind] at hwatched hnext
      rcases hread : (h.read s).outcome asked with ⟨e | ⟨⟩, opened⟩
      · rw [hread] at hnext
        rw [watched_read, hread] at hwatched
        refine ⟨[.refused e], ?_, nofun, fun _ => rfl⟩
        rw [run_consume_succ, run_consume_succ, hwatched, hnext]
        rfl
      · rw [hread, resume_ok, ← outcome_concluding] at hnext
        rw [watched_read, hread, resume_ok, ← outcome_concluding] at hwatched
        obtain ⟨pulls, hconsume⟩ := (follows_begin h s found.1 found.2.1 found.2.2).closes h s
          (fun r later ha => closes_later h s n (begin_later ha)) rfl hwatched hnext
        exact ⟨_, hconsume, nofun, fun _ => ⟨pulls, rfl⟩⟩

end
end Host
end TableQuery
