/-
# TableQuery.Proofs.Reading.Bounded — what a reading does to its host.

A running SELECT touches its host in few ways: it pulls items, makes remarks, asks for the values of
subqueries, and gives the reading up.  Whatever bounds these keep to, every stage of the SELECT keeps
to them from its first row on, and so does the whole rest of a reading (`Host.reaches_collect`).  What
happens once, at the beginning — the reading is opened and a plan is made — is left to the caller.

## §A — hosts within bounds.
## §B — rows and strategies.
## §C — the stages.
## §D — readings that have begun.
-/
import TableQuery.Proofs.Evaluation.Bounded
import TableQuery.Proofs.Evaluation.Proper
import TableQuery.Proofs.Reading.Delivery
import TableQuery.Proofs.Reading.Determined

namespace TableQuery

open Run

/-- A state that bounds allow in the end, whether there was an answer or a failure. -/
def Run.Bounds.Reaches {σ : Type} (b : Bounds σ) (s t : σ) : Prop :=
  b.answering s t ∨ ∃ e, b.failing e s t

/-- What bounds allow to have become of a state by an answer or a failure. -/
def Run.Bounds.Allows {σ α : Type} (b : Bounds σ) : Except Error α → σ → σ → Prop
  | .ok _ => b.answering
  | .error e => b.failing e

/-- What bounds allow of a reading to its end: an answer, or the failure that ends it.  To run out of
patience is no failure of the reading. -/
def Run.Bounds.Ends {σ : Type} (b : Bounds σ) : Option Error → σ → σ → Prop
  | none, s, t => b.answering s t
  | some e, s, t => b.failing e s t ∨ e = .unfinished ∧ b.answering s t

theorem Run.Within.allows {σ α : Type} {b : Bounds σ} {x : Run σ α} (hx : Within b x) (st : σ) :
    b.Allows (x.outcome st).1 st (x.outcome st).2 := by
  rcases hout : x.outcome st with ⟨e | a, t⟩
  · exact (hx st).2 e t hout
  · exact (hx st).1 a t hout

theorem Run.Bounds.Reaches.behind {σ : Type} {b : Bounds σ} {s t u : σ} (h : b.answering s t)
    (k : b.Reaches t u) : b.Reaches s u := by
  rcases k with k | ⟨e, k⟩
  · exact .inl (b.trans h k)
  · exact .inr ⟨e, b.behind h k⟩

theorem Run.Bounds.Ends.behind {σ : Type} {b : Bounds σ} {fault : Option Error} {s t u : σ}
    (h : b.answering s t) (k : b.Ends fault t u) : b.Ends fault s u := by
  cases fault with
  | none => exact b.trans h k
  | some e => exact k.imp (b.behind h) fun ⟨he, k⟩ => ⟨he, b.trans h k⟩

theorem Run.Bounds.Ends.reaches {σ : Type} {b : Bounds σ} {fault : Option Error} {s t : σ}
    (h : b.Ends fault s t) : b.Reaches s t := by
  cases fault with
  | none => exact .inl h
  | some e => exact h.symm.imp And.right fun h => ⟨e, h⟩

namespace Host
variable {σ : Type}

/-! ## §A — hosts within bounds -/

/-- **A host within bounds** for a SELECT — pulling, remarks on rows, the subqueries of the SELECT and
giving up keep to the bounds.  Any failure may come at any time, except that a proper SELECT never
comes to something that has no value. -/
structure Bounded (h : Host σ) (b : Bounds σ) (s : Select) : Prop where
  failure (e : Error) (st : σ) : (s.Proper → e.isValueless = false) → b.failing e st st
  opening {e : Error} {st t : σ} : (h.read s).outcome st = (.error e, t) → b.failing e t t
  pull : Within b h.pull
  patience : Within b (liftM h.patience : Run σ Nat)
  scanned : Within b (liftM (h.note .scanned) : Run σ Unit)
  breached : Within b (liftM (h.note .breached) : Run σ Unit)
  members (p : Place × Select) : p ∈ s.subqueries → Within b (h.evaluator.members p.1 p.2)
  close (st : σ) : b.answering st (h.close.run st).2
  close_failing {e : Error} {st st' : σ} : b.failing e st st' → b.failing e st (h.close.run st').2

section
variable {h : Host σ} {b : Bounds σ} {s : Select}

theorem Bounded.failed {α : Type} (hb : h.Bounded b s) {e : Error} (he : e.isValueless = false) :
    Within b (throw e : Run σ α) :=
  within_throw fun st => hb.failure e st fun _ => he

theorem Bounded.ofNumber {α : Type} (hb : h.Bounded b s) (x : Except NumberError α) :
    Within b (Run.ofNumber x) :=
  within_ofNumber x fun fault _ st => hb.failure (.number fault) st fun _ => rfl

theorem Bounded.permits (hb : h.Bounded b s) (row : Record) {ms : List Misfit} {nodes : List Node}
    {ps : List (Place × Select)} (hms : s.Proper → HaveValues ms) (hps : ps ⊆ s.subqueries) :
    h.evaluator.Permits row b ms nodes ps where
  misfit m hm st := hb.failure m.error st fun hs => hms hs m hm
  arity _ count _ st := hb.failure (.arity count) st fun _ => rfl
  overflow _ fault _ _ st := hb.failure (.number fault) st fun _ => rfl
  members p hp := hb.members p (hps hp)

theorem Bounded.evaluate (hb : h.Bounded b s) (row : Record) {place : Place} {e : Expr}
    (he : s.Evaluates place e) : Within b (h.evaluator.evaluate row place e) :=
  Evaluator.within_evaluate place e
    (hb.permits row (fun hs => (he.proper hs).misfits.2) he.subqueries)

theorem Bounded.holds (hb : h.Bounded b s) (row : Record) :
    Within b (h.evaluator.holds row [1] s.condition) := by
  refine Evaluator.within_holds [1] s.condition fun e he => ?_
  have he := Select.evaluates_condition he
  exact hb.permits row (fun hs => (he.proper hs).misfits.1) he.subqueries

/-- What LIMIT and OFFSET say is found out within the bounds. -/
theorem Bounded.clause (hb : h.Bounded b s) (name : String) {place : Place} {e : Option Expr}
    (he : ∀ x, e = some x → s.Evaluates place x) : Within b (h.clause name place e) := by
  cases e with
  | none => exact within_pure none
  | some e =>
      refine (hb.evaluate [] (he e rfl)).bind fun v _ => ?_
      split
      · exact within_pure none
      · have hwhole : ∀ whole, Within b (match whole with
            | some i => pure (some i)
            | none => do throw (Error.evaluation (.notInteger name (← Run.ofNumber v.shown))) :
              Run σ (Option Int)) := by
          rintro (_ | i)
          · exact (hb.ofNumber v.shown).bind fun shown _ => hb.failed rfl
          · exact within_pure (some i)
        split
        · exact (hb.ofNumber _).bind fun whole _ => hwhole whole
        · exact (within_pure none).bind fun whole _ => hwhole whole

theorem Bounded.limit (hb : h.Bounded b s) : Within b (h.limit s) :=
  (hb.clause "LIMIT" fun _ => Select.evaluates_limit).bind fun _ _ => within_pure _

theorem Bounded.offset (hb : h.Bounded b s) : Within b (h.offset s) :=
  (hb.clause "OFFSET" fun _ => Select.evaluates_offset).bind fun _ _ => within_pure _

/-- What a SELECT finds out before it reads its table: the terms of its order, OFFSET and LIMIT. -/
def clauses (h : Host σ) (s : Select) : Run σ (List SortTerm × Nat × Option Nat) := do
  let limit ← h.limit s
  let offset ← h.offset s
  let terms ← terms s
  return (terms, offset, limit)

theorem Bounded.clauses (hb : h.Bounded b s) : Within b (h.clauses s) := by
  refine hb.limit.bind fun limit _ => hb.offset.bind fun offset _ => Within.bind ?_ fun _ _ =>
    within_pure _
  unfold Host.terms
  split
  · exact within_pure _
  · rename_i fault hfault
    obtain ⟨shown, rfl⟩ := SortTerm.fault_of_resolveAll hfault
    exact hb.failed rfl

/-- What a SELECT finds out before it reads its table does not hang on when it is asked. -/
theorem Guided.steady_clauses {ι : Type} {kind : ι → σ → Prop} (hg : h.Guided kind s) :
    Steady kind (h.clauses s) := by
  have hlimit : Steady kind (h.limit s) :=
    (hg.steady_clause "LIMIT" s.limit_subset).bind fun _ => steady_pure _
  have hoffset : Steady kind (h.offset s) :=
    (hg.steady_clause "OFFSET" s.offset_subset).bind fun _ => steady_pure _
  have hterms : Steady kind (Host.terms s : Run σ (List SortTerm)) := by
    unfold Host.terms
    split
    · exact steady_pure _
    · exact steady_throw _
  exact hlimit.bind fun _ => hoffset.bind fun _ => hterms.bind fun _ => steady_pure _

theorem resolved_of_clauses {terms : List SortTerm} {offset : Nat} {limit : Option Nat}
    (ha : MayAnswer (h.clauses s) (terms, offset, limit)) :
    SortTerm.resolveAll s.columns s.orderBy = .ok terms := by
  obtain ⟨limit', -, ha⟩ := ha.of_bind
  obtain ⟨offset', -, ha⟩ := ha.of_bind
  obtain ⟨terms', hterms, ha⟩ := ha.of_bind
  obtain rfl : terms' = terms := congrArg Prod.fst ha.of_pure
  obtain ⟨st, t, hterms⟩ := hterms
  unfold Host.terms at hterms
  split at hterms
  · rename_i ts hresolved
    rw [hresolved, Except.ok.inj (Prod.mk.inj hterms).1]
  · cases hterms

/-! ## §B — rows and strategies -/

theorem Bounded.refuse {α : Type} (hb : h.Bounded b s) (breach : Breach) :
    Within b (h.refuse breach : Run σ α) :=
  hb.breached.bind fun _ _ => hb.failed rfl

theorem Bounded.check (hb : h.Bounded b s) (seen : Seen) (i : Item) :
    Within b (h.check seen i) := by
  unfold Host.check
  split
  · exact hb.refuse _
  · split
    · exact hb.failed rfl
    · exact hb.scanned.bind fun _ _ => within_pure _
  · exact hb.refuse _
  · exact hb.refuse _

theorem Bounded.row? (hb : h.Bounded b s) (first : Option Item) (seen : Seen) :
    Within b (h.row? first seen) := by
  have hitem : ∀ item, Within b (match item with
      | none => pure none
      | some i => some <$> h.check seen i : Run σ (Option (Row × Seen))) := by
    rintro (_ | i)
    · exact within_pure none
    · exact (hb.check seen i).map some
  cases first with
  | none => exact hb.pull.bind fun item _ => hitem item
  | some i => exact (within_pure (some i)).bind fun item _ => hitem item

theorem Bounded.admits (hb : h.Bounded b s) (trusted : Bool) (r : Row) :
    Within b (h.admits trusted s r) := by
  cases trusted
  · exact hb.holds r.columns
  · exact within_pure true

theorem Bounded.seek (hb : h.Bounded b s) (trusted : Bool) (fuel : Nat) (first : Option Item)
    (seen : Seen) (skip : Nat) : Within b (h.seek s trusted fuel first seen skip) := by
  induction fuel generalizing first seen skip with
  | zero => exact hb.failed rfl
  | succ fuel ih =>
      refine (hb.row? first seen).bind fun found _ => ?_
      rcases found with _ | ⟨r, seen⟩
      · exact within_pure none
      · refine (hb.admits trusted r).bind fun admitted _ => ?_
        cases admitted
        · exact ih none seen skip
        · cases skip with
          | zero => exact within_pure _
          | succ skip => exact ih none seen skip

theorem Bounded.gather (hb : h.Bounded b s) (trusted : Bool) (fuel : Nat) (first : Option Item)
    (seen : Seen) : Within b (h.gather s trusted fuel first seen) := by
  induction fuel generalizing first seen with
  | zero => exact hb.failed rfl
  | succ fuel ih =>
      refine (hb.row? first seen).bind fun found _ => ?_
      rcases found with _ | ⟨r, seen⟩
      · exact within_pure []
      · refine (hb.admits trusted r).bind fun admitted _ => ?_
        cases admitted
        · exact ih none seen
        · exact (ih none seen).bind fun rows _ => within_pure _

theorem Bounded.sortRows (hb : h.Bounded b s) {terms : List SortTerm}
    (hterms : ∀ t ∈ terms, s.Evaluates t.place t.expression) (rows : List Row) :
    Within b (h.sortRows terms rows) := by
  refine (within_mapM fun r _ => ?_).bind fun keyed _ => within_pure _
  refine (within_mapM fun t ht => ?_).bind fun keys _ => within_pure _
  exact hb.evaluate r.columns (hterms t ht)

/-! ## §C — the stages -/

theorem Bounded.stream (hb : h.Bounded b s) (p : Plan) (first : Option Item) (seen : Seen)
    (skip emitted : Nat) : Within b (h.stream s p first seen skip emitted) := by
  unfold Host.stream
  split
  · exact within_pure none
  · refine hb.patience.bind fun fuel _ => ?_
    refine (hb.seek p.trusted fuel first seen skip).bind fun found _ => ?_
    rcases found with _ | ⟨r, seen⟩
    · exact within_pure none
    · exact within_pure _

/-- The first row under a plan. -/
def follow (h : Host σ) (s : Select) (terms : List SortTerm) (first : Option Item) (p : Plan) :
    Run σ (Option (Row × Stage)) :=
  match p.strategy with
  | .stream => h.stream s p first {} p.offset 0
  | .gather => do
    let rows ← h.gather s p.trusted (← h.patience) first {}
    return emit (slice p (← h.sortRows terms rows))

theorem Bounded.follow (hb : h.Bounded b s) {terms : List SortTerm}
    (hterms : ∀ t ∈ terms, s.Evaluates t.place t.expression) (first : Option Item)
    (p : Plan) : Within b (h.follow s terms first p) := by
  unfold Host.follow
  split
  · exact hb.stream p first {} p.offset 0
  · refine hb.patience.bind fun fuel _ => ?_
    refine (hb.gather p.trusted fuel first {}).bind fun rows _ => ?_
    exact (hb.sortRows hterms rows).bind fun sorted _ => within_pure _

/-- Beginning is looking at the first item, making a plan, and following it. -/
theorem begin_eq (terms : List SortTerm) (offset : Nat) (limit : Option Nat) :
    h.begin s terms offset limit = h.pull >>= fun item =>
      h.plan terms (claimed item).1 offset limit >>= h.follow s terms (claimed item).2 := by
  unfold begin
  congr 1

/-- Before it reads its table a SELECT finds out what its clauses say. -/
theorem advance_fresh : h.advance s .fresh = h.clauses s >>= fun found =>
    h.read s >>= fun _ => h.begin s found.1 found.2.1 found.2.2 := by
  simp only [advance, clauses, bind_assoc, pure_bind]

/-- Once it reads its table a SELECT keeps to bounds that allow for the remark on its plan. -/
theorem Bounded.begin (hb : h.Bounded b s)
    (hplanned : ∀ p, Within b (liftM (h.note (.planned p)) : Run σ Unit)) {terms : List SortTerm}
    (hterms : ∀ t ∈ terms, s.Evaluates t.place t.expression) (offset : Nat)
    (limit : Option Nat) : Within b (h.begin s terms offset limit) := by
  rw [begin_eq]
  refine hb.pull.bind fun item _ => Within.bind ?_ fun p _ => hb.follow hterms _ p
  have hmake := (within_ofLocale (Plan.make h.evaluator.collation terms (claimed item).1 offset limit)
    fun fault _ st => hb.failure (.locale fault) st fun _ => rfl).bind fun p _ =>
      (hplanned p).bind fun _ _ => within_pure p
  unfold Host.plan
  split
  · exact (hb.refuse _).bind fun _ _ => hmake
  · exact hmake

/-- A stage after the first row has been asked for keeps to the bounds. -/
theorem Bounded.advance (hb : h.Bounded b s) {stage : Stage} (hstage : stage ≠ .fresh) :
    Within b (h.advance s stage) := by
  cases stage with
  | fresh => exact absurd rfl hstage
  | streaming p seen emitted => exact hb.stream p none seen 0 emitted
  | emitting rows => exact within_pure _
  | finished => exact within_pure none

theorem Bounded.projectFrom (hb : h.Bounded b s) (r : Row) {n : Nat} {columns : List ResultColumn}
    (hcolumns : ∀ k (c : ResultColumn), columns[k]? = some c →
      c.isStar = false → s.Evaluates [n + k, 0] c.expression) (out : Record) :
    Within b (h.projectFrom r n columns out) := by
  induction columns generalizing n out with
  | nil => exact within_pure out
  | cons c columns ih =>
      have hrest : ∀ k (d : ResultColumn), columns[k]? = some d →
          d.isStar = false → s.Evaluates [n + 1 + k, 0] d.expression := by
        intro k d hd
        rw [Nat.add_right_comm]
        exact hcolumns (k + 1) d hd
      unfold Host.projectFrom
      split
      · exact ih hrest _
      · rename_i hstar
        have hc := hcolumns 0 c rfl (Bool.eq_false_iff.mpr hstar)
        exact (hb.evaluate r.columns hc).bind fun v _ => ih hrest _

theorem Bounded.project (hb : h.Bounded b s) (r : Row) : Within b (h.project s r) := by
  refine hb.projectFrom r (fun k c hc hstar => ?_) []
  rw [Nat.zero_add]
  exact Select.evaluates_column hc hstar

/-- A request keeps to the bounds when coming to its row does. -/
theorem Bounded.concluding {α : Type} (hb : h.Bounded b s) {x : Run σ (Option α)}
    (hx : Within b x) : Within b (h.concluding x) := by
  intro st
  rw [outcome_concluding]
  rcases hout : x.outcome st with ⟨e | _ | a, st'⟩
  · refine ⟨fun _ _ h => (nomatch (Prod.mk.inj h).1), fun e' t h => ?_⟩
    obtain ⟨he, rfl⟩ := Prod.mk.inj h
    exact Except.error.inj he ▸ hb.close_failing ((hx st).2 e st' hout)
  · refine ⟨fun _ t h => ?_, fun _ _ h => (nomatch (Prod.mk.inj h).1)⟩
    obtain ⟨-, rfl⟩ := Prod.mk.inj h
    exact b.trans ((hx st).1 none st' hout) (hb.close st')
  · refine ⟨fun _ t h => ?_, fun _ _ h => (nomatch (Prod.mk.inj h).1)⟩
    obtain ⟨-, rfl⟩ := Prod.mk.inj h
    exact (hx st).1 (some a) st' hout

/-- The result row for what a stage has come to. -/
def projected (h : Host σ) (s : Select) : Option (Row × Stage) → Run σ (Option (Record × Stage))
  | none => return none
  | some (r, stage) => return some (← h.project s r, stage)

theorem Bounded.projected (hb : h.Bounded b s) (found : Option (Row × Stage)) :
    Within b (h.projected s found) := by
  rcases found with _ | ⟨r, stage⟩
  · exact within_pure none
  · exact (hb.project r).bind fun out _ => within_pure _

theorem step_eq (stage : Stage) : h.step s stage = h.advance s stage >>= h.projected s := by
  unfold step
  congr 1

theorem Bounded.next (hb : h.Bounded b s) {stage : Stage} (hstage : stage ≠ .fresh) :
    Within b (h.next s stage) := by
  unfold Host.next
  rw [step_eq]
  exact hb.concluding ((hb.advance hstage).bind fun found _ => hb.projected found)

/-! ## §D — readings that have begun -/

theorem stream_later {p : Plan} {first : Option Item} {seen : Seen} {skip emitted : Nat} {r : Row}
    {stage : Stage} (ha : MayAnswer (h.stream s p first seen skip emitted) (some (r, stage))) :
    stage ≠ .fresh := by
  unfold Host.stream at ha
  split at ha
  · exact nomatch ha.of_pure
  · obtain ⟨fuel, -, ha⟩ := ha.of_bind
    obtain ⟨found, -, ha⟩ := ha.of_bind
    rcases found with _ | ⟨r', seen'⟩
    · exact nomatch ha.of_pure
    · rintro rfl
      exact nomatch ha.of_pure

theorem emit_later {rows : List Row} {r : Row} {stage : Stage}
    (ha : emit rows = some (r, stage)) : stage ≠ .fresh := by
  rcases rows with _ | ⟨r', rows⟩
  · cases ha
  · rintro rfl
    cases ha

theorem follow_later {terms : List SortTerm} {first : Option Item} {p : Plan} {r : Row}
    {stage : Stage} (ha : MayAnswer (h.follow s terms first p) (some (r, stage))) :
    stage ≠ .fresh := by
  unfold Host.follow at ha
  split at ha
  · exact stream_later ha
  · obtain ⟨fuel, -, ha⟩ := ha.of_bind
    obtain ⟨rows, -, ha⟩ := ha.of_bind
    obtain ⟨sorted, -, ha⟩ := ha.of_bind
    exact emit_later ha.of_pure

theorem begin_later {terms : List SortTerm} {offset : Nat} {limit : Option Nat} {r : Row}
    {stage : Stage} (ha : MayAnswer (h.begin s terms offset limit) (some (r, stage))) :
    stage ≠ .fresh := by
  rw [begin_eq] at ha
  obtain ⟨item, -, ha⟩ := ha.of_bind
  obtain ⟨p, -, ha⟩ := ha.of_bind
  exact follow_later ha

/-- **No stage leads back to the beginning.** -/
theorem advance_later {stage stage' : Stage} {r : Row}
    (ha : MayAnswer (h.advance s stage) (some (r, stage'))) : stage' ≠ .fresh := by
  cases stage with
  | fresh =>
      obtain ⟨limit, -, ha⟩ := ha.of_bind
      obtain ⟨offset, -, ha⟩ := ha.of_bind
      obtain ⟨terms, -, ha⟩ := ha.of_bind
      obtain ⟨-, -, ha⟩ := ha.of_bind
      exact begin_later ha
  | streaming p seen emitted => exact stream_later ha
  | emitting rows => exact emit_later ha.of_pure
  | finished => exact nomatch ha.of_pure

theorem concluding_answer {α : Type} {x : Run σ (Option α)} {a : α}
    (ha : MayAnswer (h.concluding x) (some a)) : MayAnswer x (some a) := by
  obtain ⟨st, t, ha⟩ := ha
  rw [outcome_concluding] at ha
  rcases hout : x.outcome st with ⟨e | _ | c, st'⟩
  · rw [hout] at ha
    cases ha
  · rw [hout] at ha
    cases ha
  · rw [hout] at ha
    obtain rfl := Option.some.inj (Except.ok.inj (Prod.mk.inj ha).1)
    exact ⟨st, st', hout⟩

theorem next_later {stage stage' : Stage} {out : Record}
    (ha : MayAnswer (h.next s stage) (some (out, stage'))) : stage' ≠ .fresh := by
  obtain ⟨found, hfound, ha⟩ := (concluding_answer ha).of_bind
  rcases found with _ | ⟨r, later⟩
  · exact nomatch ha.of_pure
  · obtain ⟨row, -, ha⟩ := ha.of_bind
    obtain ⟨-, rfl⟩ := Prod.mk.inj (Option.some.inj ha.of_pure)
    exact advance_later hfound

/-- **A reading comes to its end** within the bounds, however many rows are asked for, when every
request from a stage that it comes to keeps to them. -/
theorem ends_collect {α : Type} {ask : Stage → Run σ (Option (α × Stage))} (good : Stage → Prop)
    (hask : ∀ stage, good stage → Within b (ask stage))
    (hlater : ∀ {stage stage' a}, MayAnswer (ask stage) (some (a, stage')) → good stage')
    (fuel : Nat) (stage : Stage) (hstage : good stage) (st : σ) :
    b.Ends ((collect ask fuel stage).run st).1.2 st ((collect ask fuel stage).run st).2 := by
  induction fuel generalizing stage st with
  | zero => exact .inr ⟨rfl, b.refl st⟩
  | succ fuel ih =>
      rw [run_collect]
      rcases hout : (ask stage).outcome st with ⟨e | _ | ⟨a, stage'⟩, t⟩
      · exact .inl ((hask stage hstage st).2 e t hout)
      · exact (hask stage hstage st).1 none t hout
      · have ht : b.answering st t := (hask stage hstage st).1 _ t hout
        exact .behind ht (ih stage' (hlater ⟨st, t, hout⟩) t)

/-- The results of a SELECT are collected from the beginning with some patience. -/
theorem exists_run_results (h : Host σ) (s : Select) (st : σ)
    (hstill : (h.patience.run st).2 = st) :
    ∃ fuel, (h.results s).run st = (collect (h.next s) fuel .fresh).run st := by
  refine ⟨(h.patience.run st).1, ?_⟩
  rw [results, StateT.run_bind]
  show (collect (h.next s) (h.patience.run st).1 .fresh).run (h.patience.run st).2 = _
  rw [hstill]

/-- **A reading that has begun** reaches, however many rows are asked for, nothing but what the
bounds allow. -/
theorem reaches_collect {α : Type} {ask : Stage → Run σ (Option (α × Stage))}
    (hask : ∀ stage, stage ≠ .fresh → Within b (ask stage))
    (hlater : ∀ {stage stage' a}, MayAnswer (ask stage) (some (a, stage')) → stage' ≠ .fresh)
    (fuel : Nat) {stage : Stage} (hstage : stage ≠ .fresh) (st : σ) :
    b.Reaches st ((collect ask fuel stage).run st).2 :=
  (ends_collect (· ≠ .fresh) hask hlater fuel stage hstage st).reaches

/-- **A reading that begins** opens once, in between what the bounds allow.  Where its clauses have no
value it does not open at all. -/
theorem Bounded.next_fresh (hb : h.Bounded b s)
    (hplanned : ∀ p, Within b (liftM (h.note (.planned p)) : Run σ Unit)) (st : σ) :
    (∃ e, ((h.next s .fresh).outcome st).1 = .error e ∧
      b.failing e st ((h.next s .fresh).outcome st).2) ∨
    ∃ asked, b.answering st asked ∧
      b.Allows ((h.next s .fresh).outcome st).1 ((h.read s).outcome asked).2
        ((h.next s .fresh).outcome st).2 := by
  have hnext : (h.next s .fresh).outcome st = (h.concluding (h.clauses s >>= fun found =>
      h.read s >>= fun _ => h.begin s found.1 found.2.1 found.2.2 >>= h.projected s)).outcome st := by
    rw [Host.next, step_eq, advance_fresh, bind_assoc]
    simp only [bind_assoc]
  -- The clauses are asked before the reading opens, and what they ask for is within the bounds.
  rw [hnext, outcome_concluding, outcome_bind]
  rcases hclauses : (h.clauses s).outcome st with ⟨e | ⟨terms, offset, limit⟩, asked⟩
  · exact .inl ⟨e, rfl, hb.close_failing ((hb.clauses st).2 e asked hclauses)⟩
  · refine .inr ⟨asked, (hb.clauses st).1 _ asked hclauses, ?_⟩
    rw [resume_ok, outcome_bind]
    rcases hread : (h.read s).outcome asked with ⟨e | ⟨⟩, opened⟩
    · exact hb.close_failing (hb.opening hread)
    · have hterms : ∀ t ∈ terms, s.Evaluates t.place t.expression :=
        fun t ht => Select.evaluates_term (resolved_of_clauses ⟨st, asked, hclauses⟩) ht
      have hrest : Within b (h.concluding (h.begin s terms offset limit >>= h.projected s)) :=
        hb.concluding ((hb.begin hplanned hterms offset limit).bind fun found _ => hb.projected found)
      rw [resume_ok, ← outcome_concluding]
      exact hrest.allows opened

end
end Host
end TableQuery
