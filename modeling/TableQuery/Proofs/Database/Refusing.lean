/-
# TableQuery.Proofs.Database.Refusing — claims that are refused.

A SELECT and a statement that changes rows read the same items, and each of them looks at the claim
in front by itself.  A claim that is malformed is refused by both, with the same failure and before a
row was read, and then the table is not asked for a change.  Only SELECT also holds a claim against
its OFFSET: a claim that leaves out more rows than a SELECT skips is refused there, while a statement
that changes rows goes on with the rows behind it.

## §A — faults of a claim.
## §B — readings that begin with a claim.
## §C — a table that begins with a claim.
## §D — the first row and the ids.
## §E — statements.
-/
import TableQuery.Proofs.Database.Changing

namespace TableQuery

open Run

/-! ## §A — faults of a claim -/

/-- Without an OFFSET a claim is at fault if it is malformed, or else if it leaves out any row. -/
theorem Claim.faultFor?_zero (c : Claim) (fault : ClaimFault) :
    c.faultFor? 0 = some fault ↔ c.fault? = some fault ∨
      c.fault? = none ∧ ∃ n, c.skippedCount = some (n + 1) ∧ fault = .skippedTooMany (n + 1) 0 := by
  unfold Claim.faultFor?
  rcases c.fault? with _ | own
  · rcases c.skippedCount with _ | _ | n
    · simp
    · simp
    · simp [eq_comm]
  · simp

/-! ## §B — readings that begin with a claim -/

namespace Host
variable {σ : Type} {h : Host σ} {s : Select} {st begun : σ} {c : Claim} {fault : ClaimFault}

/-- **A reading that begins with a claim** — the first item of a reading for a statement is the claim,
and then the state is `begun`. -/
def BeginsWith (h : Host σ) (s : Select) (st : σ) (c : Claim) (begun : σ) : Prop :=
  ∃ opened, (h.read s).outcome st = (.ok (), opened) ∧
    h.pull.outcome opened = (.ok (some (.claim c)), begun)

/-- The state in which a reading is refused: the breach is noted and the reading given up. -/
def refused (h : Host σ) (begun : σ) : σ := (h.close.run ((h.note .breached).run begun).2).2

theorem outcome_refuse {α : Type} (b : Breach) (st : σ) :
    (h.refuse b : Run σ α).outcome st =
      (.error (.contract h.name b), ((h.note .breached).run st).2) := rfl

theorem begin_refused {terms : List SortTerm} {offset : Nat} {limit : Option Nat} {opened : σ}
    (hpull : h.pull.outcome opened = (.ok (some (.claim c)), begun))
    (hfault : c.faultFor? offset = some fault) :
    (h.begin s terms offset limit).outcome opened =
      (.error (.contract h.name (.claim fault)), ((h.note .breached).run begun).2) := by
  rw [begin, outcome_bind, hpull, resume_ok]
  simp only [claimed]
  rw [outcome_bind, plan]
  simp only [Option.bind_some, hfault]
  rw [outcome_bind, outcome_refuse, resume_error, resume_error]

/-- A SELECT of all columns refuses a claim that is at fault for it. -/
theorem next_refused {table : String} {w : Option Expr}
    (hbegins : h.BeginsWith (Select.scan table w) st c begun) (hfault : c.faultFor? 0 = some fault) :
    (h.next (Select.scan table w) .fresh).outcome st =
      (.error (.contract h.name (.claim fault)), h.refused begun) := by
  obtain ⟨opened, hread, hpull⟩ := hbegins
  have hadvance : (h.advance (Select.scan table w) .fresh).outcome st =
      (.error (.contract h.name (.claim fault)), ((h.note .breached).run begun).2) := by
    -- Without LIMIT, OFFSET and ORDER BY nothing happens before the table is read.
    change ((h.read (Select.scan table w)) >>= fun _ =>
      h.begin (Select.scan table w) [] 0 none).outcome st = _
    rw [outcome_bind, hread, resume_ok, begin_refused hpull hfault]
  rw [next, outcome_concluding, step, outcome_bind, hadvance]
  rfl

/-- A reading for ids refuses a claim that is malformed. -/
theorem matchingIds_refused (hbegins : h.BeginsWith s st c begun) (hfault : c.fault? = some fault) :
    (h.matchingIds s).outcome st = (.error (.contract h.name (.claim fault)), h.refused begun) := by
  obtain ⟨opened, hread, hpull⟩ := hbegins
  rw [matchingIds, outcome_bind, hread, resume_ok, outcome_ensuring, outcome_bind, hpull, resume_ok,
    outcome_bind, disregard]
  -- Only the claim's own faults are looked for here: the OFFSET has no part in `disregard`.
  simp only [claimed, Option.bind_some, hfault]
  rw [outcome_bind, outcome_refuse]
  rfl

end Host

/-! ## §C — a table that begins with a claim -/

namespace Database
open Running Host

/-- **A table that begins with a claim** — the first item that the table at a place gives for a
statement is the claim. -/
def LeadsWith (db : Database) (place : Nat) (s : Select) (c : Claim) : Prop :=
  ∃ source, ((db.table place).read (collationOf db place) s).1 = .ok source ∧
    ((db.table place).pull source).answer = .ok (some (.claim c))

section
variable {db db' : Database} {place : Nat} {c : Claim} {fault : ClaimFault} {q : Select}

/-- A reading of the table begins with the claim, and nothing but records is changed. -/
theorem LeadsWith.beginsWith (h : db.LeadsWith place q c) (name : String) (ev : Evaluator Running)
    (hev : ev.collation = collationOf db place) :
    ∃ begun, (host name ev).BeginsWith q { db, place } c begun ∧
      Amid db place (fun _ => True) .closed ((host name ev).refused begun) := by
  obtain ⟨source, hread, hpull⟩ := h
  have hstart : Amid db place (fun _ => True) .closed { db := db, place } :=
    ⟨rfl, rfl, rfl, trivial⟩
  rw [← hev] at hread
  obtain ⟨hopened, hopen⟩ := hstart.read ev.collation q
  rw [hread] at hopened hopen
  obtain ⟨hfirst, hafter⟩ := hopen.pull
  refine ⟨_, ⟨_, Prod.ext hopened rfl, Prod.ext (hfirst.trans hpull) rfl⟩, ?_⟩
  exact (hafter.note name .breached).close

theorem LeadsWith.of_alike (h : db.LeadsWith place q c) (halike : db.Alike () db') :
    db'.LeadsWith place q c := by
  obtain ⟨source, hread, hpull⟩ := h
  have htable := lasting_table halike place
  refine ⟨source, ?_, ?_⟩
  · rw [halike.collationOf, ← Table.read_lasting, htable, Table.read_lasting, hread]
  · have hgiven := Table.given_pull_congr htable source
    simp only [Pulled.given, Prod.mk.injEq] at hgiven
    rw [hgiven.1, hpull]

/-! ## §D — the first row and the ids -/

/-- A selection that was not asked before begins with its table. -/
theorem run_next_waiting {s : Select} (hfind : db.find s.table = .ok place) :
    (Selection.next { statement := s }).run db =
      (Selection.ask { statement := s } place .fresh .closed []).run db := by
  unfold Selection.next
  simp only [StateT.run_bind, StateT.run_get, pure_bind, hfind]

/-- A selection fails as its reading does. -/
theorem run_ask_error {x : Selection} {stage : Stage} {source : Source}
    {answers : List (Place × Deferred)} {e : Error} {r : Running}
    (h : ((x.host db place).next x.statement stage).outcome { db, place, source, answers } =
      (.error e, r)) : ((x.ask place stage source answers).run db).1.1 = .error e := by
  unfold Selection.ask
  simp only [StateT.run_bind, StateT.run_get, pure_bind, h]
  rfl

/-- A SELECT of all columns fails on a claim that is at fault for it. -/
theorem next_scan_refused {name : String} {w : Option Expr} (hfind : db.find name = .ok place)
    (hlead : db.LeadsWith place (Select.scan name w) c) (hfault : c.faultFor? 0 = some fault) :
    ((Selection.next { statement := Select.scan name w }).run db).1.1 =
      .error (.contract name (.claim fault)) := by
  obtain ⟨begun, hbegins, -⟩ := hlead.beginsWith name
    (evaluator (subqueries (.statement (.select (Select.scan name w)))) (collationOf db place)) rfl
  rw [run_next_waiting hfind]
  exact run_ask_error (next_refused hbegins hfault)

/-- A statement that changes rows fails on a malformed claim, whatever change it would ask for. -/
theorem changeMatching_refused {s : Statement} {w : Option Expr}
    (hlead : db.LeadsWith place (Select.scan s.table w) c) (hfault : c.fault? = some fault) :
    ∃ db', db.Alike () db' ∧ ∀ change, (changeMatching s place w change).outcome db =
      (.error (.contract s.table (.claim fault)), db') := by
  obtain ⟨begun, hbegins, hafter⟩ := hlead.beginsWith s.table (evaluatorFor s place db) rfl
  obtain ⟨hanswer, hforget⟩ := outcome_matchingIds (matchingIds_refused hbegins hfault)
  refine ⟨((matchingIds s place w).outcome db).2, hforget.trans hafter.database, fun change => ?_⟩
  have hout : (matchingIds s place w).outcome db =
      (.error (.contract s.table (.claim fault)), ((matchingIds s place w).outcome db).2) :=
    Prod.ext hanswer rfl
  rw [changeMatching, outcome_bind, hout]
  rfl

/-! ## §E — statements -/

/-- **Refused** — the statement fails with the error, and no table was changed or asked for a
change. -/
def Refuses (db : Database) (s : Statement) (params : Parameters) (e : Error) : Prop :=
  ∃ db', (execute s params).outcome db = (.error e, db') ∧ db.Alike () db' ∧
    ∀ other, (db'.table other).changesAsked = (db.table other).changesAsked

/-- A statement is refused when performing it fails and changes nothing. -/
theorem Refuses.of_perform {s : Statement} {params : Parameters} {e : Error}
    (hselect : ∀ q, s ≠ .select q) (h : (perform s params).outcome db = (.error e, db'))
    (halike : db.Alike () db') : db.Refuses s params e := by
  obtain ⟨db'', hexecute, hsame⟩ := outcome_execute hselect h nofun
  have hafter : db.Alike () db'' := hsame.alike.trans halike
  exact ⟨db'', hexecute, hafter, hafter.changesAsked⟩

/-- **DELETE** stops at a malformed claim, unless it has stopped before. -/
theorem delete_refused {d : Delete} (hlead : db.LeadsWith place (Select.scan d.table d.condition) c)
    (hfault : c.fault? = some fault) :
    ∃ e db', (delete d place).outcome db = (.error e, db') ∧ db.Alike () db' ∧
      (db.Proceeds place (.delete d) → e = .contract d.table (.claim fault)) := by
  rcases delete_cases db d place with ⟨-, db₀, halike, hrest⟩ | ⟨hno, e, db', hfailed, halike⟩
  · obtain ⟨db', halike', hchange⟩ :=
      changeMatching_refused (s := .delete d) (hlead.of_alike halike) hfault
    rw [hrest, hchange]
    exact ⟨_, db', rfl, halike'.trans halike, fun _ => rfl⟩
  · exact ⟨e, db', hfailed, halike, fun hproceeds => absurd hproceeds hno⟩

/-- **UPDATE** stops at a malformed claim, unless it has stopped before. -/
theorem update_refused {u : Update} (hlead : db.LeadsWith place (Select.scan u.table u.condition) c)
    (hfault : c.fault? = some fault) :
    ∃ e db', (update u place).outcome db = (.error e, db') ∧ db.Alike () db' ∧
      (db.Proceeds place (.update u) → e = .contract u.table (.claim fault)) := by
  rcases update_cases db u place with
    ⟨values, -, -, db₀, halike, hrest⟩ | ⟨hno, e, db', hfailed, halike⟩
  · -- The values were found on an alike database, whose table begins with the same claim.
    obtain ⟨db', halike', hchange⟩ :=
      changeMatching_refused (s := .update u) (hlead.of_alike halike) hfault
    rw [hrest, hchange]
    exact ⟨_, db', rfl, halike'.trans halike, fun _ => rfl⟩
  · exact ⟨e, db', hfailed, halike, fun hproceeds => absurd hproceeds hno⟩

end

/-- A database of a scripted table that gives a claim and then one row. -/
def claimingDatabase (c : Claim) : Database where
  tables := [{
    name := "t"
    content := .script {
      items := some [.item (.claim c), .item (.row ⟨.int 1, [(.name "a", .int 1)]⟩)]
      update := some .count
      delete := some .count } }]
  names := [("t", 0)]

/-- `DELETE FROM t WHERE a IS NOT NULL`. -/
def deleteKnown : Delete where
  table := "t"
  condition := some (.isNull (.column "a") true)

theorem leadsWith_claimingDatabase (c : Claim) :
    (claimingDatabase c).LeadsWith 0 (Select.scan "t" deleteKnown.condition) c :=
  ⟨.script 0, rfl, rfl⟩

end Database
end TableQuery
