/-
# TableQuery.Proofs.Database.Claiming — what comes of a claim.

A reading that begins with a claim goes one of three ways.  A claim at fault is refused: the failure
names the table, and one more violation of it is counted.  Any other claim leads to a plan, except
one: when the claim is about the very column and direction that are asked for, the name of its
collation is looked up, and a name that no collation has fails by itself — as no breach of the table,
and without a plan.

## §A — counters.
## §B — the plan of a running SELECT.
## §C — rows of a table that begins with a claim.
-/
import TableQuery.Proofs.Database.Refusing
import TableQuery.Proofs.Reading.Bounded

namespace TableQuery

open Run Host

/-! ## §A — counters -/

namespace Telemetry

/-- How much has been counted of a sample. -/
def counted (t : Telemetry) (s : Sample) : Int := ((t.counters.find? (·.1 == s)).map (·.2)).getD 0

theorem find?_add (counters : List (Sample × Int)) (s : Sample) (n : Int) :
    (((add counters s n).find? (·.1 == s)).map (·.2)).getD 0 =
      ((counters.find? (·.1 == s)).map (·.2)).getD 0 + n := by
  induction counters with
  | nil => simp [add]
  | cons c counters ih =>
      obtain ⟨t, m⟩ := c
      rw [add]
      by_cases h : t = s
      · simp [h]
      · simpa [h] using ih

theorem find?_add_other (counters : List (Sample × Int)) {s u : Sample} (h : s ≠ u) (n : Int) :
    (add counters s n).find? (·.1 == u) = counters.find? (·.1 == u) := by
  induction counters with
  | nil => simp [add, h]
  | cons c counters ih =>
      obtain ⟨t, m⟩ := c
      rw [add]
      by_cases ht : t = s
      · simp [ht, h]
      · rw [if_neg ht, List.find?_cons, List.find?_cons, ih]

/-- Counting one sample leaves the others alone. -/
theorem counted_count_other (t : Telemetry) {s u : Sample} (h : s ≠ u) (n : Int) :
    (t.count s n).counted u = t.counted u := by
  unfold count
  split
  · rw [counted, find?_add_other t.counters h]
    rfl
  · rfl

theorem counting_count (t : Telemetry) (s : Sample) (n : Int) :
    (t.count s n).counting = t.counting := by
  unfold count
  split <;> rfl

theorem counted_count {t : Telemetry} (h : t.counting = true) (s : Sample) (n : Int) :
    (t.count s n).counted s = t.counted s + n := by
  rw [count, if_pos h]
  exact find?_add t.counters s n

/-- Writing to the log counts nothing. -/
theorem counted_record (t : Telemetry) (record : LogRecord) (s : Sample) :
    (t.record record).counted s = t.counted s ∧ (t.record record).counting = t.counting := by
  unfold Telemetry.record
  split
  · split <;> exact ⟨rfl, rfl⟩
  · exact ⟨rfl, rfl⟩

end Telemetry

/-! ## §B — the plan of a running SELECT -/

namespace Running

/-- The bounds of what leaves the plan as it is. -/
def samePlan : Bounds Running where
  answering r t := t.plan = r.plan
  failing _ r t := t.plan = r.plan
  refl _ := rfl
  trans h k := k.trans h
  behind h k := k.trans h

theorem within_samePlan {α : Type} {x : Run Running α}
    (h : ∀ r, (x.outcome r).2.plan = r.plan) : Within samePlan x :=
  fun r => ⟨fun _ _ hout => (Prod.mk.inj hout).2 ▸ h r, fun _ _ hout => (Prod.mk.inj hout).2 ▸ h r⟩

theorem reaches_samePlan {r t : Running} : samePlan.Reaches r t ↔ t.plan = r.plan :=
  ⟨fun h => h.elim id fun ⟨_, h⟩ => h, .inl⟩

theorem plan_read (c : Collation) (s : Select) (r : Running) :
    ((read c s).outcome r).2.plan = r.plan := by
  rw [outcome_read]
  split <;> rfl

/-- Finding out the values of a subquery makes no plan for the SELECT around it. -/
theorem within_members (run : Select → Run Database (List Record)) (p : Place) (s : Select) :
    Within samePlan (members run p s) := by
  have hremember (d : Deferred) : Within samePlan (modify fun r : Running =>
      { r with answers := (p, d) :: r.answers.filter (·.1 != p) }) := within_samePlan fun _ => rfl
  refine (within_samePlan fun _ => rfl).bind fun r _ => Within.bind ?_ fun d _ =>
    (hremember d).bind fun _ _ => within_pure _
  unfold Deferred.fill
  split
  · exact within_pure _
  · exact (within_samePlan fun _ => rfl).bind fun _ _ => within_pure _

section
variable {name : String} {ev : Evaluator Running} {s : Select}

/-- **Only planning changes the plan.** -/
theorem host_bounded (hev : ∀ p ∈ s.subqueries, Within samePlan (ev.members p.1 p.2)) :
    (host name ev).Bounded samePlan s where
  failure _ _ _ := rfl
  opening _ := rfl
  pull := within_samePlan fun r => by rw [show (host name ev).pull = pull from rfl, outcome_pull]
  patience := within_samePlan fun _ => rfl
  scanned := within_samePlan fun _ => rfl
  breached := within_samePlan fun _ => rfl
  members := hev
  close _ := rfl
  close_failing h := h

end
end Running

/-! ## §C — rows of a table that begins with a claim -/

namespace Host
variable {σ : Type} {h : Host σ} {s : Select}

/-- Rows that are asked for from the beginning. -/
theorem run_rows (h : Host σ) (s : Select) (st : σ) (hpatience : ∃ n, h.patience.run st = (n + 1, st)) :
    ∃ n, (h.rows s).run st = (collect (h.nextRow s) (n + 1) .fresh).run st := by
  obtain ⟨n, hn⟩ := hpatience
  refine ⟨n, ?_⟩
  rw [rows, StateT.run_bind, hn]
  rfl

/-- When the first request fails there are no rows. -/
theorem run_rows_error {st st' : σ} {e : Error}
    (hpatience : ∃ n, h.patience.run st = (n + 1, st))
    (hfirst : (h.advance s .fresh).outcome st = (.error e, st')) :
    (h.rows s).run st = (([], some e), (h.close.run st').2) := by
  obtain ⟨n, hrows⟩ := h.run_rows s st hpatience
  rw [hrows, run_collect, nextRow, outcome_concluding, hfirst]

/-- A first request that fails no sooner than in its planning. -/
theorem advance_planning {st asked begun : σ} {c : Claim} {terms : List SortTerm} {offset : Nat}
    {limit : Option Nat} (hclauses : (h.clauses s).outcome st = (.ok (terms, offset, limit), asked))
    (hbegins : h.BeginsWith s asked c begun) :
    (h.advance s .fresh).outcome st =
      (h.plan terms (some c) offset limit >>= h.follow s terms none).outcome begun := by
  obtain ⟨opened, hread, hpull⟩ := hbegins
  rw [advance_fresh, outcome_bind, hclauses, resume_ok, outcome_bind, hread, resume_ok, begin_eq,
    outcome_bind, hpull, resume_ok]
  rfl

end Host

namespace Running
variable {name : String} {ev : Evaluator Running} {s : Select} {r asked begun : Running}
  {c : Claim} {terms : List SortTerm} {offset : Nat} {limit : Option Nat}

/-- Refusing a table counts one more violation of it. -/
theorem counted_refused (ev : Evaluator Running) (hcounting : begun.db.telemetry.counting = true) :
    ((host name ev).refused begun).db.telemetry.counted (.violations name) =
      begun.db.telemetry.counted (.violations name) + 1 := by
  obtain ⟨hlogged, hstill⟩ := begun.db.telemetry.counted_record {
    level := .warning, logger := Logger.reading.name
    event := "Virtual table " ++ name ++ " violated its contract" } (.violations name)
  rw [← hlogged]
  exact Telemetry.counted_count (hstill.trans hcounting) _ 1

theorem plan_begun (hev : ∀ p ∈ s.subqueries, Within samePlan (ev.members p.1 p.2))
    (hclauses : ((host name ev).clauses s).outcome r = (.ok (terms, offset, limit), asked))
    (hbegins : (host name ev).BeginsWith s asked c begun) : begun.plan = r.plan := by
  have hb : (host name ev).Bounded samePlan s := host_bounded hev
  have hasked : asked.plan = r.plan := (hb.clauses r).1 _ _ hclauses
  obtain ⟨opened, hread, hpull⟩ := hbegins
  have hopened : opened.plan = asked.plan :=
    (congrArg (·.2.plan) hread).symm.trans (plan_read ev.collation s asked)
  exact ((hb.pull opened).1 _ _ hpull).trans (hopened.trans hasked)

theorem nextRow_later {stage stage' : Stage} {row : Row}
    (ha : MayAnswer ((host name ev).nextRow s stage) (some (row, stage'))) : stage' ≠ .fresh :=
  advance_later (concluding_answer ha)

/-- Once there is a plan it stays, whatever the rows come to. -/
theorem rows_planned (hev : ∀ p ∈ s.subqueries, Within samePlan (ev.members p.1 p.2))
    (hclauses : ((host name ev).clauses s).outcome r = (.ok (terms, offset, limit), asked))
    (hbegins : (host name ev).BeginsWith s asked c begun) {p : Plan} {planned : Running}
    (hplan : ((host name ev).plan terms (some c) offset limit).outcome begun = (.ok p, planned)) :
    (((host name ev).rows s).run r).2.plan = planned.plan := by
  have hb : (host name ev).Bounded samePlan s := host_bounded hev
  have hterms : ∀ t ∈ terms, s.Evaluates t.place t.expression :=
    fun t ht => Select.evaluates_term (resolved_of_clauses ⟨r, asked, hclauses⟩) ht
  have hfollow : Within samePlan ((host name ev).concluding ((host name ev).follow s terms none p)) :=
    hb.concluding (hb.follow hterms none p)
  -- The first request is what follows the plan.
  have hfirst : ((host name ev).nextRow s .fresh).outcome r =
      ((host name ev).concluding ((host name ev).follow s terms none p)).outcome planned := by
    rw [nextRow, outcome_concluding, outcome_concluding, advance_planning hclauses hbegins,
      outcome_bind, hplan, resume_ok]
  obtain ⟨n, hrows⟩ := (host name ev).run_rows s r ⟨_, rfl⟩
  rw [hrows, run_collect, hfirst]
  rcases hout : ((host name ev).concluding ((host name ev).follow s terms none p)).outcome planned
    with ⟨e | _ | ⟨row, stage⟩, t⟩
  · exact (hfollow planned).2 e t hout
  · exact (hfollow planned).1 none t hout
  · have hlater : stage ≠ .fresh := follow_later (concluding_answer ⟨planned, t, hout⟩)
    have hrest := reaches_collect (b := samePlan)
      (fun stage hstage => hb.concluding (hb.advance hstage)) nextRow_later n hlater t
    exact (reaches_samePlan.mp hrest).trans ((hfollow planned).1 _ t hout)

/-- `SELECT * FROM t ORDER BY a`. -/
def orderedByA : Select := .mk "t" [.all] none [.mk (.column "a") false] none none

end Running
end TableQuery
