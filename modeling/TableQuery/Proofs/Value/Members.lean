/-
# TableQuery.Proofs.Value.Members — a deferred set is the list of its values.

A deferred set is asked the questions of a written list, and runs its subquery for the first of
them. A run may fail at any row; the next question then starts another one.  So a set in use is in
one of two states (`Reached`): nothing is kept and every run failed, or the values of one whole run
are kept and every run before it failed.  An operation leads from the one to the other or stays
(§C), and from the second on the set is the list of its values (§D).

## §A — questions.
## §B — sets in use.
## §C — one operation.
## §D — courses of operations.
-/
import TableQuery.Proofs.Value.Equality
import TableQuery.Value.Members

namespace TableQuery

/-! ## §A — questions -/

namespace ValueSet

/-- What a set of values is asked, whatever its kind. -/
inductive Question where
  | contains (v : Value)
  | compareTo (v : Value)
  | single
  | toList
  | iterate

/-- What is answered. -/
inductive Answer where
  | truth (holds : Bool)
  | order (o : Ordering)
  | one (v : Value)
  | all (vs : List Value)
  | text (s : String)

/-- The answer of a set that has its values at hand. -/
def answer (s : ValueSet) : Question → Except Error Answer
  | .contains v => .truth <$> (s.contains v).mapError .number
  | .compareTo v => .order <$> s.compareTo v
  | .single => .one <$> s.single
  | .toList | .iterate => .ok (.all s.known)

/-- A filled set answers as the list of its values, refusals included. -/
theorem answer_filled (column : String) (vs : List Value) (q : Question) :
    (deferred { column, values := some vs }).answer q = (list vs).answer q := by
  cases q <;> rfl

/-- A list of one value answers as the value, which is a member from either side. -/
theorem answer_singleton (v : Value) (q : Question) :
    (list [v]).answer q = (scalar v).answer q := by
  cases q with
  | contains w =>
      have hmember : (list [v]).contains w = (scalar v).contains w :=
        (w.memberOf_singleton v).trans (w.looseEqual_comm v)
      rw [answer, hmember]
      rfl
  | compareTo w => rfl
  | single => rfl
  | toList => rfl
  | iterate => rfl

end ValueSet

namespace Deferred
open Run ValueSet

/-! ## §B — sets in use -/

/-- A deferred set in use: the set, and how many runs were started for it. -/
structure InUse where
  set : Deferred
  started : Nat := 0

/-- What the runs of a subquery yield, one run after the other, row by row; an error ends the run.
Nothing is said of what a run hangs on, and rows behind an error are never come to. -/
abbrev Runs := Nat → List (Except Error Record)

/-- What a deferred set tells of itself without its values. -/
inductive Glance where
  | shown
  | isFilled

def glance (d : Deferred) : Glance → Except Error Answer
  | .shown => .text <$> (deferred d).shown.mapError .number
  | .isFilled => .ok (.truth d.isFilled)

/-- What is done with a deferred set. -/
inductive Operation where
  | ask (q : Question)
  | look (g : Glance)

/-- Only questions need the values. -/
def Operation.needsValues : Operation → Bool
  | ask _ => true
  | look _ => false

/-- What is answered where the values are known. -/
def Operation.settled (column : String) (vs : List Value) : Operation → Except Error Answer
  | ask q => (list vs).answer q
  | look g => glance { column, values := some vs } g

namespace Runs

/-- What a run comes to: all of its rows, or the first error. -/
def result (runs : Runs) (n : Nat) : Except Error (List Record) := (runs n).mapM id

/-- Whether a run fails. -/
def fails (runs : Runs) (n : Nat) : Bool := !(runs.result n).isOk

/-- How many of the first runs fail. -/
def failures (runs : Runs) (n : Nat) : Nat := (List.range n).countP runs.fails

/-- **Starting a run** — its rows are taken until the end or an error. -/
def start (runs : Runs) : Run InUse (List Record) := do
  let u ← get
  set { u with started := u.started + 1 }
  (runs u.started).mapM fun row => liftExcept row

/-- **An operation** on a set in use; the set is kept as its filling left it. -/
def perform (runs : Runs) : Operation → Run InUse Answer
  | .ask q => do
    let d ← (← get).set.fill runs.start
    modify fun u => { u with set := d }
    liftExcept ((deferred d).answer q)
  | .look g => do liftExcept ((← get).set.glance g)

/-- **A course of operations**, every one on what the one before left, failed or not. -/
def course (runs : Runs) : List Operation → InUse → List (Except Error Answer) × InUse
  | [], u => ([], u)
  | op :: ops, u =>
    let (answer, u) := (runs.perform op).outcome u
    let (answers, u) := runs.course ops u
    (answer :: answers, u)

end Runs

/-! ## §C — one operation -/

section
variable {runs : Runs} {column : String} {u : InUse} {vs : List Value}

theorem outcome_taking (rows : List (Except Error Record)) (u : InUse) :
    (rows.mapM fun row => (liftExcept row : Run InUse Record)).outcome u = (rows.mapM id, u) := by
  -- the first error ends both, and rows before it are lost with it
  induction rows with
  | nil => rfl
  | cons row rows ih =>
      rw [List.mapM_cons, List.mapM_cons, outcome_bind, outcome_liftExcept]
      rcases row with e | row
      · rfl
      · rw [resume_ok, outcome_bind, ih]
        change resume _ (rows.mapM id, u) = ((do let rest ← rows.mapM id; pure (row :: rest)), u)
        cases rows.mapM id <;> rfl

theorem outcome_start (runs : Runs) (u : InUse) :
    runs.start.outcome u = (runs.result u.started, { u with started := u.started + 1 }) := by
  rw [Runs.start, outcome_bind, outcome_get, resume_ok, outcome_bind, outcome_set, resume_ok,
    outcome_taking]
  rfl

/-- A glance changes nothing. -/
theorem outcome_look (runs : Runs) (g : Glance) (u : InUse) :
    (runs.perform (.look g)).outcome u = (u.set.glance g, u) := by
  rw [Runs.perform, outcome_bind, outcome_get, resume_ok, outcome_liftExcept]

/-- A question is answered from what filling makes of the set. -/
theorem outcome_ask (runs : Runs) (q : Question) (u : InUse) :
    (runs.perform (.ask q)).outcome u =
      resume (fun d => do
        modify fun u => { u with set := d }
        liftExcept ((deferred d).answer q)) ((u.set.fill runs.start).outcome u) := by
  rw [Runs.perform, outcome_bind, outcome_get, resume_ok, outcome_bind]

/-- **A question to a pending set whose run fails** gets the error, and the set stays. -/
theorem outcome_ask_failed {n : Nat} {e : Error} (hrun : runs.result n = .error e) (q : Question) :
    (runs.perform (.ask q)).outcome ⟨{ column }, n⟩ = (.error e, ⟨{ column }, n + 1⟩) := by
  have hfill : (fill { column } runs.start).outcome ⟨{ column }, n⟩ =
      (.error e, ⟨{ column }, n + 1⟩) := by
    rw [fill, outcome_bind, outcome_start, hrun]
    rfl
  rw [outcome_ask, hfill, resume_error]

/-- **A question to a pending set whose run succeeds** is answered from the values of the run. -/
theorem outcome_ask_completed {n : Nat} {rows : List Record} (hrun : runs.result n = .ok rows)
    (q : Question) :
    (runs.perform (.ask q)).outcome ⟨{ column }, n⟩ =
      ((list (rows.map (Value.contributed column))).answer q,
        ⟨{ column, values := some (rows.map (Value.contributed column)) }, n + 1⟩) := by
  have hfill : (fill { column } runs.start).outcome ⟨{ column }, n⟩ =
      (.ok { column, values := some (rows.map (Value.contributed column)) },
        ⟨{ column }, n + 1⟩) := by
    rw [fill, outcome_bind, outcome_start, hrun]
    rfl
  rw [outcome_ask, hfill, resume_ok, outcome_bind, outcome_modify, resume_ok, outcome_liftExcept,
    answer_filled]

/-- **A filled set** answers as its list and starts nothing. -/
theorem outcome_filled (runs : Runs) (column : String) (vs : List Value) (n : Nat)
    (op : Operation) :
    (runs.perform op).outcome ⟨{ column, values := some vs }, n⟩ =
      (op.settled column vs, ⟨{ column, values := some vs }, n⟩) := by
  cases op with
  | ask q =>
      have hfill (u : InUse) : (fill { column, values := some vs } runs.start).outcome u =
          (.ok { column, values := some vs }, u) := rfl
      rw [outcome_ask, hfill, resume_ok, outcome_bind, outcome_modify, resume_ok,
        outcome_liftExcept, answer_filled]
      rfl
  | look g => exact outcome_look runs g _

/-- What a set in use may have come to from the start. -/
inductive Reached (runs : Runs) (column : String) : InUse → Prop
  /-- Every run failed and nothing is kept. -/
  | pending {n : Nat} (hbefore : ∀ i < n, runs.fails i = true) :
      Reached runs column ⟨{ column }, n⟩
  /-- A run succeeded after some that failed, and its values are kept. -/
  | filled {n : Nat} {rows : List Record} (hbefore : ∀ i < n, runs.fails i = true)
      (hlast : runs.result n = .ok rows) :
      Reached runs column
        ⟨{ column, values := some (rows.map (Value.contributed column)) }, n + 1⟩

/-- **The step** — an operation keeps a set in use within what may be reached. -/
theorem Reached.perform (hu : Reached runs column u) (op : Operation) :
    Reached runs column ((runs.perform op).outcome u).2 := by
  cases hu with
  | @pending n hbefore =>
      cases op with
      | ask q =>
          cases hrun : runs.result n with
          | error e =>
              -- the run joins those that failed
              rw [outcome_ask_failed hrun q]
              refine .pending fun i hi => ?_
              rcases Nat.lt_succ_iff_lt_or_eq.mp hi with hi | rfl
              · exact hbefore i hi
              · rw [Runs.fails, hrun]
                rfl
          | ok rows =>
              rw [outcome_ask_completed hrun q]
              exact .filled hbefore hrun
      | look g =>
          rw [outcome_look]
          exact .pending hbefore
  | @filled n rows hbefore hlast =>
      rw [outcome_filled]
      exact .filled hbefore hlast

/-- The runs that were started are those that failed, and the one that filled the set. -/
theorem Reached.started_eq (hu : Reached runs column u) :
    u.started = runs.failures u.started + (if u.set.isFilled then 1 else 0) := by
  have hall {n : Nat} (h : ∀ i < n, runs.fails i = true) : runs.failures n = n := by
    rw [Runs.failures, List.countP_eq_length.mpr fun i hi => h i (List.mem_range.mp hi),
      List.length_range]
  cases hu with
  | pending hbefore => exact (hall hbefore).symm
  | @filled n rows hbefore hlast =>
      have hok : runs.fails n = false := by
        rw [Runs.fails, hlast]
        rfl
      show n + 1 = runs.failures (n + 1) + 1
      rw [Runs.failures, List.range_succ, List.countP_append, List.countP_singleton, hok]
      exact congrArg (· + 1) (hall hbefore).symm

/-! ## §D — courses of operations -/

/-- **The run** — so does every course of operations. -/
theorem Reached.course (hu : Reached runs column u) (ops : List Operation) :
    Reached runs column (runs.course ops u).2 := by
  induction ops generalizing u with
  | nil => exact hu
  | cons op ops ih => exact ih (hu.perform op)

/-- Nothing is started while nothing is asked. -/
theorem course_glances {ops : List Operation} (hops : ∀ op ∈ ops, op.needsValues = false)
    (runs : Runs) (u : InUse) : (runs.course ops u).2 = u := by
  induction ops with
  | nil => rfl
  | cons op ops ih =>
      have hrest := ih fun op h => hops op (List.mem_cons_of_mem _ h)
      cases op with
      | ask q => cases hops _ List.mem_cons_self
      | look g =>
          rw [Runs.course, outcome_look]
          exact hrest

/-- From a filled set on every operation is answered from the list. -/
theorem course_filled (runs : Runs) (column : String) (vs : List Value) (n : Nat)
    (ops : List Operation) :
    runs.course ops ⟨{ column, values := some vs }, n⟩ =
      (ops.map (Operation.settled column vs), ⟨{ column, values := some vs }, n⟩) := by
  induction ops with
  | nil => rfl
  | cons op ops ih =>
      rw [Runs.course, outcome_filled]
      dsimp only
      rw [ih]
      rfl

/-- **Refining a list** — what a set in use does, against the list of its values. -/
structure RefinesList (runs : Runs) (column : String) (u : InUse) : Prop where
  /-- The runs started are those that failed, and at most one more. -/
  started : u.started = runs.failures u.started + (if u.set.isFilled then 1 else 0)
  /-- What needs no values starts nothing and changes nothing. -/
  look (g : Glance) : (runs.perform (.look g)).outcome u = (u.set.glance g, u)
  /-- A question whose run fails passes the error on and leaves the set pending. -/
  failed (hset : u.set.isFilled = false) (q : Question) (e : Error)
    (hrun : runs.result u.started = .error e) :
    (runs.perform (.ask q)).outcome u = (.error e, ⟨{ column }, u.started + 1⟩) ∧
      u.set = { column }
  /-- A question whose run succeeds is answered by the list, whose values are kept. -/
  completed (hset : u.set.isFilled = false) (q : Question) (rows : List Record)
    (hrun : runs.result u.started = .ok rows) :
    (runs.perform (.ask q)).outcome u =
      ((list (rows.map (Value.contributed column))).answer q,
        ⟨{ column, values := some (rows.map (Value.contributed column)) }, u.started + 1⟩)
  /-- What is kept are the values of the last run that was started; no further run is, and every
  later operation is answered from the list, and from its value if it has just one. -/
  filled (hset : u.set.isFilled = true) : ∃ n rows vs, u.started = n + 1 ∧
    runs.result n = .ok rows ∧ vs = rows.map (Value.contributed column) ∧
    u.set = { column, values := some vs } ∧
    (∀ later, runs.course later u = (later.map (Operation.settled column vs), u)) ∧
    ∀ v, vs = [v] → ∀ q : Question, (list vs).answer q = (scalar v).answer q

theorem Reached.refinesList (hu : Reached runs column u) : RefinesList runs column u where
  started := hu.started_eq
  look g := outcome_look runs g u
  failed := by
    intro hset q e hrun
    cases hu with
    | pending hbefore => exact ⟨outcome_ask_failed hrun q, rfl⟩
    | filled => cases hset
  completed := by
    intro hset q rows hrun
    cases hu with
    | pending hbefore => exact outcome_ask_completed hrun q
    | filled => cases hset
  filled := by
    intro hset
    cases hu with
    | pending => cases hset
    | @filled n rows hbefore hlast =>
        refine ⟨n, rows, _, rfl, hlast, rfl, rfl, fun later => course_filled _ _ _ _ later, ?_⟩
        intro v hv q
        rw [hv]
        exact answer_singleton v q

/-- **A deferred set refines the list of its values.**  Whatever the runs of its subquery come to,
failing at any of their rows, and whatever is done with the set, it refines the list; and no run is
started before the first question. -/
theorem course_refinesList (runs : Runs) (column : String) (ops : List Operation) :
    RefinesList runs column (runs.course ops ⟨{ column }, 0⟩).2 ∧
      ((∀ op ∈ ops, op.needsValues = false) →
        (runs.course ops ⟨{ column }, 0⟩).2 = ⟨{ column }, 0⟩) := by
  have hfresh : Reached runs column ⟨{ column }, 0⟩ :=
    .pending fun i hi => absurd hi (Nat.not_lt_zero i)
  exact ⟨(hfresh.course ops).refinesList, fun hops => course_glances hops runs _⟩

-- A run that fails behind its first row leaves nothing, and the next question starts another one.
example :
    (Runs.course (fun n => .ok [(.name "a", .bool true)] ::
        if n = 0 then [.error (.source "lost")] else [])
      [.ask .toList, .look .isFilled, .ask .single, .ask .toList] ⟨{}, 0⟩) =
      ([.error (.source "lost"), .ok (.truth false), .ok (.one (.bool true)),
        .ok (.all [.bool true])], ⟨{ values := some [.bool true] }, 2⟩) := by
  rfl

end

end Deferred
end TableQuery
