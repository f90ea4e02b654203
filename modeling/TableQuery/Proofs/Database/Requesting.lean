/-
# TableQuery.Proofs.Database.Requesting — what a query asks its tables for.

A SELECT asks its table for a reading once, before its first row, and runs a subquery when it needs
its values for the first time.  So a query asks for no more readings than there are SELECTs in its
tree, however many rows are tested and in however many places a value is needed
(`Selection.requests_all`).  What is still to be asked for is kept account of: a reading has the
subqueries to come whose values it does not know, and learning the values of one takes it off
(`Watch.pending`).

The SELECTs of a tree are those that are written in the text, but for the subject of a BETWEEN, which
the tree has twice: a subquery there is run for each bound (`Database.requests_queryAll`).

## §A — requests.
## §B — requests that are still to come.
## §C — a reading from its beginning.
## §D — subqueries of any depth.
## §E — all rows of a selection.
## §F — texts.
-/
import Mathlib.Data.List.Perm.Subperm
import TableQuery.Proofs.Database.Asking
import TableQuery.Proofs.Reading.Bounded
import TableQuery.Proofs.Sql.Subqueries

namespace TableQuery

open Run Running Host

/-! ## §A — requests -/

/-- Whether a call asks for a reading. -/
def Call.isRequest : Call → Bool
  | .select .. => true
  | _ => false

namespace Table

/-- **The readings that a scripted table was asked for**, in their order. -/
def requests (t : Table) : List Call := (t.events.map Event.call).filter Call.isRequest

theorem requests_note (t : Table) {call : Call} (hcall : call.isRequest = false) :
    (t.note call).requests = t.requests := by
  rcases t with ⟨name, collation, _ | _ | _ | _ | s⟩ <;> try rfl
  simp [note, requests, events, Script.note, hcall]

theorem requests_pull (t : Table) (source : Source) : (t.pull source).table.requests = t.requests :=
  pull_keeps (fun t _ => requests_note t rfl) (fun t => requests_note t rfl) t source

theorem requests_close (t : Table) (source : Source) : (t.close source).requests = t.requests :=
  close_keeps (fun t => requests_note t rfl) t source

/-- Beginning to read asks for one reading at most. -/
theorem requests_read (t : Table) (c : Collation) (s : Select) :
    (t.read c s).2.requests.Sublist (t.requests ++ (Call.ofSelect c s).toOption.toList) := by
  have hkept : t.requests.Sublist (t.requests ++ (Call.ofSelect c s).toOption.toList) :=
    List.sublist_append_left _ _
  rcases t with ⟨name, collation, _ | _ | _ | _ | sc⟩
  case script =>
    unfold read
    dsimp only
    split
    · rcases hcall : Call.ofSelect c s with e | call
      · exact List.sublist_append_left _ _
      · simp only [note, requests, events, Script.note, List.reverse_cons, List.map_append,
          List.filter_append]
        exact (List.Sublist.refl _).append List.filter_sublist
    · exact hkept
  all_goals exact hkept

end Table

namespace Database

/-- **The request of a SELECT** to the table at a place; none to other tables than its own. -/
def request (db : Database) (place : Nat) (s : Select) : Option Call :=
  if db.find? s.table = some place then (Call.ofSelect (collationOf db place) s).toOption else none

theorem find?_of_find {db : Database} {name : String} {place : Nat} (h : db.find name = .ok place) :
    db.find? name = some place := by
  unfold find at h
  split at h
  · rename_i p hp
    rw [hp, Except.ok.inj h]
  · cases h

/-- Putting a table back changes no requests but its own. -/
theorem requests_setTable {db : Database} {place : Nat} {t : Table}
    (h : t.requests = (db.table place).requests) (other : Nat) :
    ((db.setTable place t).table other).requests = (db.table other).requests := by
  by_cases hother : other = place
  · subst hother
    by_cases hplace : other < db.tables.length
    · rw [table_setTable_self hplace, h]
    · rw [setTable, List.set_eq_of_length_le (Nat.not_lt.mp hplace)]
  · rw [table_setTable_other hother]

end Database

/-! ## §B — requests that are still to come -/

/-- What is watched: a table of a database, and a kind of request to it. -/
structure Watch where
  db : Database
  place : Nat
  kind : Call → Bool

namespace Watch

/-- How many requests of the kind the table was given. -/
def asked (w : Watch) (db : Database) : Nat := (db.table w.place).requests.countP w.kind

/-- How many requests of the kind some SELECTs come to. -/
def due (w : Watch) (ss : List Select) : Nat := (ss.filterMap (w.db.request w.place)).countP w.kind

/-- How many requests a subquery is still good for: none once its values are known. -/
def owed (w : Watch) (r : Running) (q : Place × Select) : Nat :=
  if (r.deferred q.1 q.2).isFilled then 0 else w.due q.2.selects

/-- **How many requests are still to come** of some subqueries. -/
def pending (w : Watch) (subs : List (Place × Select)) (r : Running) : Nat :=
  (subs.map (w.owed r)).sum

/-- **Within the account** — a reading asks for no more than is taken off what was to come.  A reading
that fails need not give account of what is left. -/
def account (w : Watch) (subs : List (Place × Select)) : Bounds Running where
  answering r t := w.db.Alike () r.db → w.db.Alike () t.db ∧ t.place = r.place ∧
    w.asked t.db + w.pending subs t ≤ w.asked r.db + w.pending subs r
  failing _ r t := w.db.Alike () r.db → w.db.Alike () t.db ∧
    w.asked t.db ≤ w.asked r.db + w.pending subs r
  refl _ halike := ⟨halike, rfl, Nat.le_refl _⟩
  trans h k halike := by
    obtain ⟨halike, hplace, hle⟩ := h halike
    obtain ⟨halike', hplace', hle'⟩ := k halike
    exact ⟨halike', hplace'.trans hplace, hle'.trans hle⟩
  behind h k halike := by
    obtain ⟨halike, -, hle⟩ := h halike
    obtain ⟨halike', hle'⟩ := k halike
    exact ⟨halike', hle'.trans hle⟩

section
variable {w : Watch} {subs : List (Place × Select)} {r t : Running}

theorem due_append (ss ss' : List Select) : w.due (ss ++ ss') = w.due ss + w.due ss' := by
  rw [due, List.filterMap_append, List.countP_append]
  rfl

theorem due_mono {ss ss' : List Select} (h : ss.Sublist ss') : w.due ss ≤ w.due ss' :=
  (h.filterMap _).countP_le

/-- In the end a reading has asked for no more than was to come. -/
theorem reaches_account (h : (w.account subs).Reaches r t) (halike : w.db.Alike () r.db) :
    w.db.Alike () t.db ∧ w.asked t.db ≤ w.asked r.db + w.pending subs r := by
  rcases h with h | ⟨e, h⟩
  · obtain ⟨halike', -, hle⟩ := h halike
    exact ⟨halike', (Nat.le_add_right _ _).trans hle⟩
  · exact h halike

theorem pending_congr (h : t.answers = r.answers) : w.pending subs t = w.pending subs r := by
  have howed : w.owed t = w.owed r := by
    funext q
    have hknown : t.deferred q.1 q.2 = r.deferred q.1 q.2 := by rw [deferred, deferred, h]
    rw [owed, owed, hknown]
  rw [pending, pending, howed]

/-- At the beginning every subquery is to come. -/
theorem pending_nil (h : r.answers = []) :
    w.pending subs r = w.due (subs.flatMap (·.2.selects)) := by
  induction subs with
  | nil => rfl
  | cons q subs ih =>
      have howed : w.owed r q = w.due q.2.selects := by
        rw [owed, deferred, h]
        rfl
      rw [List.flatMap_cons, due_append, ← ih, ← howed]
      rfl

/-- A step that asks for nothing. -/
structure Quiet (r t : Running) : Prop where
  forget : t.db.forget = r.db.forget
  place : t.place = r.place
  answers : t.answers = r.answers
  requests (place : Nat) : (t.db.table place).requests = (r.db.table place).requests

theorem Quiet.answering (h : Quiet r t) : (w.account subs).answering r t := by
  intro halike
  refine ⟨h.forget.trans halike, h.place, Nat.le_of_eq ?_⟩
  rw [pending_congr h.answers, asked, asked, h.requests]

theorem Quiet.failing {e : Error} (h : Quiet r t) : (w.account subs).failing e r t := by
  intro halike
  refine ⟨h.forget.trans halike, ?_⟩
  rw [asked, h.requests]
  exact Nat.le_add_right _ _

theorem within_quiet {α : Type} {x : Run Running α} (h : ∀ r, Quiet r (x.outcome r).2) :
    Within (w.account subs) x := by
  intro r
  have hquiet := h r
  refine ⟨fun a t hout => ?_, fun e t hout => ?_⟩
  · rw [hout] at hquiet
    exact hquiet.answering
  · rw [hout] at hquiet
    exact hquiet.failing

theorem quiet_pull (r : Running) : Quiet r (pull.outcome r).2 := by
  have hforget := Database.forget_setTable (Table.lasting_pull (r.db.table r.place) r.source)
  have hrequests := Database.requests_setTable (Table.requests_pull (r.db.table r.place) r.source)
  rw [outcome_pull]
  dsimp only
  split
  · exact ⟨hforget, rfl, rfl, hrequests⟩
  · exact ⟨hforget, rfl, rfl, hrequests⟩

theorem quiet_close (r : Running) : Quiet r (close.run r).2 where
  forget := Database.forget_setTable (Table.lasting_close _ _)
  place := rfl
  answers := rfl
  requests := Database.requests_setTable (Table.requests_close _ _)

theorem quiet_note (name : String) (remark : Remark) (r : Running) :
    Quiet r ((note name remark).run r).2 := by
  cases remark <;> exact ⟨rfl, rfl, rfl, fun _ => rfl⟩

/-! ### subqueries -/

/-- **Thrifty** — from every alike database a SELECT asks for no more than its own SELECTs. -/
def Thrifty (w : Watch) (run : Select → Run Database (List Record)) (q : Select) : Prop :=
  ∀ db, w.db.Alike () db → w.db.Alike () ((run q).outcome db).2 ∧
    w.asked ((run q).outcome db).2 ≤ w.asked db + w.due q.selects

variable {p : Place} {q : Select} {d : Deferred}

theorem deferred_remember (hanswers : t.answers = (p, d) :: r.answers.filter (·.1 != p))
    (p' : Place) (q' : Select) :
    t.deferred p' q' = if p = p' then d else r.deferred p' q' := by
  by_cases h : p = p'
  · simp [deferred, hanswers, h]
  · have hfind : (r.answers.filter (·.1 != p)).find? (·.1 == p') = r.answers.find? (·.1 == p') := by
      rw [List.find?_filter]
      congr 1
      funext a
      by_cases ha : a.1 = p'
      · simp [ha, Ne.symm h]
      · simp [ha]
    rw [if_neg h, deferred, deferred, hanswers, List.find?_cons_of_neg (by simpa using h), hfind]

/-- Learning the values of a subquery takes it off what is to come. -/
theorem pending_remember (hq : (p, q) ∈ subs)
    (hanswers : t.answers = (p, d) :: r.answers.filter (·.1 != p)) (hd : d.isFilled = true) :
    w.pending subs t + w.owed r (p, q) ≤ w.pending subs r := by
  have hknown (x : Place × Select) : w.owed t x = if p = x.1 then 0 else w.owed r x := by
    rw [owed, deferred_remember hanswers]
    by_cases h : p = x.1
    · rw [if_pos h, if_pos h, if_pos hd]
    · rw [if_neg h, if_neg h, owed]
  have hle (xs : List (Place × Select)) : (xs.map (w.owed t)).sum ≤ (xs.map (w.owed r)).sum := by
    refine List.sum_le_sum fun x _ => ?_
    rw [hknown]
    split
    · exact Nat.zero_le _
    · exact Nat.le_refl _
  obtain ⟨before, after, rfl⟩ := List.append_of_mem hq
  have hnone : w.owed t (p, q) = 0 := (hknown (p, q)).trans (if_pos rfl)
  have hbefore := hle before
  have hafter := hle after
  simp only [pending, List.map_append, List.map_cons, List.sum_append, List.sum_cons, hnone]
  omega

/-- **The values of a subquery** are asked for once: what running it asks for is taken off. -/
theorem within_members {run : Select → Run Database (List Record)} (hq : (p, q) ∈ subs)
    (hrun : w.Thrifty run q) : Within (w.account subs) (members run p q) := by
  intro r
  have hremember {t : Running} {d : Deferred}
      (hanswers : t.answers = (p, d) :: r.answers.filter (·.1 != p)) (hd : d.isFilled = true) :
      w.pending subs t + w.owed r (p, q) ≤ w.pending subs r :=
    pending_remember hq hanswers hd
  rcases hvalues : (r.deferred p q).values with _ | values
  -- It is asked for the first time, and running it asks for no more than is owed for it.
  · have howed : w.owed r (p, q) = w.due q.selects := by
      rw [owed, Deferred.isFilled, hvalues]
      rfl
    have howes : w.owed r (p, q) ≤ w.pending subs r :=
      List.single_le_sum (fun _ _ => Nat.zero_le _) _ (List.mem_map_of_mem hq)
    have hrun := hrun r.db
    rw [outcome_members_unfilled rfl hvalues]
    rcases hout : (run q).outcome r.db with ⟨e | rows, db⟩
    · rw [hout] at hrun
      refine ⟨fun _ _ h => (nomatch (Prod.mk.inj h).1), fun e' t h halike => ?_⟩
      obtain ⟨-, rfl⟩ := Prod.mk.inj h
      obtain ⟨halike', hle⟩ := hrun halike
      refine ⟨halike', ?_⟩
      dsimp only at hle ⊢
      omega
    · rw [hout] at hrun
      refine ⟨fun _ t h halike => ?_, fun _ _ h => (nomatch (Prod.mk.inj h).1)⟩
      obtain ⟨-, ht⟩ := Prod.mk.inj h
      obtain ⟨halike', hle⟩ := hrun halike
      have hless := hremember (congrArg (·.answers) ht).symm rfl
      subst ht
      refine ⟨halike', rfl, ?_⟩
      dsimp only at hle ⊢
      omega
  -- Its rows are known, and nothing is asked for again.
  · have hfilled : (r.deferred p q).isFilled = true := by
      rw [Deferred.isFilled, hvalues]
      rfl
    rw [outcome_members_known rfl hvalues]
    refine ⟨fun _ t h halike => ?_, fun _ _ h => (nomatch (Prod.mk.inj h).1)⟩
    obtain ⟨-, ht⟩ := Prod.mk.inj h
    have hless := hremember (congrArg (·.answers) ht).symm hfilled
    subst ht
    refine ⟨halike, rfl, ?_⟩
    dsimp only
    omega

/-! ## §C — a reading from its beginning -/

variable {run : Select → Run Database (List Record)} {s : Select} {c : Collation}

/-- **The host of a SELECT keeps account** when its subqueries are thrifty. -/
theorem host_account (hrun : ∀ q, w.Thrifty run q) (name : String) (c : Collation) :
    (host name (evaluator run c)).Bounded (w.account s.subqueries) s where
  failure _ _ _ halike := ⟨halike, Nat.le_add_right _ _⟩
  opening _ halike := ⟨halike, Nat.le_add_right _ _⟩
  pull := within_quiet quiet_pull
  patience := within_quiet fun _ => ⟨rfl, rfl, rfl, fun _ => rfl⟩
  scanned := within_quiet (quiet_note name .scanned)
  breached := within_quiet (quiet_note name .breached)
  members q hq := within_members hq (hrun q.2)
  close r := (quiet_close r).answering
  close_failing {_ _ t} h halike := by
    obtain ⟨halike', hle⟩ := h halike
    have hquiet : Quiet t ((host name (evaluator run c)).close.run t).2 := quiet_close t
    refine ⟨hquiet.forget.trans halike', ?_⟩
    rwa [asked, hquiet.requests]

/-- Opening the reading is the one request of a SELECT itself. -/
theorem read_account (subs : List (Place × Select)) (halike : w.db.Alike () r.db)
    (hfind : w.db.find? s.table = some r.place)
    (hc : c = collationOf w.db r.place) :
    w.db.Alike () ((read c s).outcome r).2.db ∧
      w.asked ((read c s).outcome r).2.db + w.pending subs ((read c s).outcome r).2 ≤
        w.asked r.db + w.pending subs r + w.due [s] := by
  have hforget := Database.forget_setTable (Table.lasting_read (r.db.table r.place) c s)
  have hasked : w.asked (r.db.setTable r.place ((r.db.table r.place).read c s).2) ≤
      w.asked r.db + w.due [s] := by
    by_cases hplace : w.place = r.place
    · have hdue : w.due [s] = (Call.ofSelect c s).toOption.toList.countP w.kind := by
        rw [due, List.filterMap_cons, Database.request, hplace, if_pos hfind, ← hc]
        cases (Call.ofSelect c s).toOption <;> rfl
      have hrequests := (Table.requests_read (r.db.table r.place) c s).countP_le (p := w.kind)
      rw [List.countP_append, ← hdue] at hrequests
      -- A place behind the last table has nothing to note the request in.
      by_cases hlt : r.place < r.db.tables.length
      · rw [asked, asked, hplace, Database.table_setTable_self hlt]
        exact hrequests
      · rw [Database.setTable, List.set_eq_of_length_le (Nat.not_lt.mp hlt)]
        exact Nat.le_add_right _ _
    · rw [asked, Database.table_setTable_other hplace]
      exact Nat.le_add_right _ _
  rw [outcome_read]
  split
  all_goals
    refine ⟨hforget.trans halike,
      (Nat.add_le_add hasked (Nat.le_of_eq (pending_congr (r := r) rfl))).trans (Nat.le_of_eq ?_)⟩
    omega

/-- **The first request for a row** asks for one reading more than what was to come. -/
theorem next_fresh_account (hrun : ∀ q, w.Thrifty run q) (halike : w.db.Alike () r.db)
    (hfind : w.db.find? s.table = some r.place) (hc : c = collationOf w.db r.place) :
    ∃ u, w.db.Alike () u.db ∧ w.asked u.db + w.pending s.subqueries u ≤
        w.asked r.db + w.pending s.subqueries r + w.due [s] ∧
      (w.account s.subqueries).Allows
        (((host s.table (evaluator run c)).next s .fresh).outcome r).1 u
        (((host s.table (evaluator run c)).next s .fresh).outcome r).2 := by
  have hb : (host s.table (evaluator run c)).Bounded (w.account s.subqueries) s :=
    host_account hrun s.table c
  have hplanned (p : Plan) : Within (w.account s.subqueries)
      (liftM ((host s.table (evaluator run c)).note (.planned p)) : Run Running Unit) :=
    within_quiet (quiet_note s.table (.planned p))
  rcases hb.next_fresh hplanned r with ⟨e, hanswer, hfailing⟩ | ⟨asked, hasked, hallows⟩
  · refine ⟨r, halike, Nat.le_add_right _ _, ?_⟩
    rw [hanswer]
    exact hfailing
  · obtain ⟨halike', hplace, hle⟩ := hasked halike
    rw [← hplace] at hfind hc
    obtain ⟨hopened, hread⟩ := read_account s.subqueries halike' hfind hc
    exact ⟨_, hopened, hread.trans (Nat.add_le_add_right hle _), hallows⟩

/-- What a SELECT comes to: itself and its subqueries. -/
theorem due_begin (s : Select) (h : r.answers = []) :
    w.pending s.subqueries r + w.due [s] ≤ w.due s.selects := by
  rw [pending_nil h, Nat.add_comm, ← due_append]
  exact due_mono s.sublist_subqueries

/-! ## §D — subqueries of any depth -/

/-- However many rows are asked for from the beginning, they ask for one reading more than what was to
come. -/
theorem collect_account (hrun : ∀ q, w.Thrifty run q) (halike : w.db.Alike () r.db)
    (hfind : w.db.find? s.table = some r.place) (hc : c = collationOf w.db r.place) (fuel : Nat) :
    let rows := collect ((host s.table (evaluator run c)).next s) fuel .fresh
    w.db.Alike () (rows.run r).2.db ∧
      w.asked (rows.run r).2.db ≤ w.asked r.db + w.pending s.subqueries r + w.due [s] := by
  cases fuel with
  | zero => exact ⟨halike, (Nat.le_add_right _ _).trans (Nat.le_add_right _ _)⟩
  | succ fuel =>
    have hb : (host s.table (evaluator run c)).Bounded (w.account s.subqueries) s :=
      host_account hrun s.table c
    obtain ⟨u, hu, hle, hfirst⟩ := next_fresh_account hrun halike hfind hc
    -- Only the first request may open the reading; the others stay within the bounds.
    suffices hreaches : (w.account s.subqueries).Reaches u
        ((collect ((host s.table (evaluator run c)).next s) (fuel + 1) .fresh).run r).2 by
      obtain ⟨halike', hle'⟩ := reaches_account hreaches hu
      exact ⟨halike', hle'.trans hle⟩
    rw [run_collect]
    rcases hout : ((host s.table (evaluator run c)).next s .fresh).outcome r
      with ⟨e | _ | ⟨row, stage⟩, t⟩
    · rw [hout] at hfirst
      exact .inr ⟨e, hfirst⟩
    · rw [hout] at hfirst
      exact .inl hfirst
    · rw [hout] at hfirst
      exact Run.Bounds.Reaches.behind hfirst (reaches_collect (fun _ hstage => hb.next hstage)
        next_later fuel (next_later ⟨r, t, hout⟩) t)

/-- A SELECT is thrifty when its subqueries are. -/
theorem thrifty_resultsBy (hrun : ∀ q, w.Thrifty run q) (s : Select) :
    w.Thrifty (Database.resultsBy run) s := by
  intro db halike
  rcases hfind : db.find s.table with e | place
  · rw [Database.outcome_resultsBy_missing hfind]
    exact ⟨halike, Nat.le_add_right _ _⟩
  · have hfind' : w.db.find? s.table = some place :=
      Database.find?_of_find ((halike.find s.table).symm.trans hfind)
    obtain ⟨fuel, hresults⟩ : ∃ n, ((host s.table (evaluator run (collationOf db place))).results s).run
        { db, place } = (collect ((host s.table (evaluator run (collationOf db place))).next s) n
          .fresh).run { db, place } := by
      rw [Host.results, StateT.run_bind]
      exact ⟨(db.table place).patience, rfl⟩
    rw [Database.outcome_resultsBy hfind (Prod.mk.eta (p := _)).symm, hresults]
    obtain ⟨halike', hle⟩ := collect_account (r := { db, place }) hrun halike hfind'
      (halike.collationOf place) fuel
    have hdue := w.due_begin (r := { db, place }) s rfl
    refine ⟨halike', hle.trans ?_⟩
    dsimp only
    omega

/-- **Running a subquery is thrifty**, whatever the depth to which its own subqueries are run. -/
theorem thrifty_resultsTo (w : Watch) (depth : Nat) (s : Select) :
    w.Thrifty (Database.resultsTo depth) s := by
  induction depth generalizing s with
  | zero =>
    intro db halike
    rw [Database.resultsTo, outcome_throw]
    exact ⟨halike, Nat.le_add_right _ _⟩
  | succ depth ih =>
    have hstep : Database.resultsTo (depth + 1) s =
        Database.resultsBy (Database.resultsTo depth) s := rfl
    intro db
    rw [hstep]
    exact thrifty_resultsBy ih s db

end
end Watch

/-! ## §E — all rows of a selection -/

namespace Selection
open Watch

section
variable {w : Watch} {s : Select} {q : Selection} {db : Database} {place : Nat} {stage : Stage}
  {source : Source} {answers : List (Place × Deferred)}

/-- **The rest of a selection** that has begun asks for no more than what is still to come. -/
theorem restTo_account (hq : q.statement = s)
    (hprogress : q.progress = .running place stage source answers) (hstage : stage ≠ .fresh)
    (halike : w.db.Alike () db) (fuel : Nat) :
    w.db.Alike () ((restTo fuel q).run db).2 ∧ w.asked ((restTo fuel q).run db).2 ≤
      w.asked db + w.pending s.subqueries { db, place, source, answers } := by
  induction fuel generalizing q db stage source answers with
  | zero => exact ⟨halike, Nat.le_add_right _ _⟩
  | succ fuel ih =>
    have hb : (q.host db place).Bounded (w.account s.subqueries) s := by
      rw [Selection.host, hq]
      exact host_account (w.thrifty_resultsTo _) s.table _
    rw [restTo, StateT.run_bind, run_next_running hprogress, run_ask, hq]
    rcases hout : ((q.host db place).next s stage).outcome { db, place, source, answers }
      with ⟨e | _ | ⟨row, stage'⟩, t⟩
    · exact (hb.next hstage _).2 e t hout halike
    · obtain ⟨halike', -, hle⟩ := (hb.next hstage _).1 none t hout halike
      exact ⟨halike', (Nat.le_add_right _ _).trans hle⟩
    · obtain ⟨halike', -, hle⟩ := (hb.next hstage _).1 _ t hout halike
      obtain ⟨hrest, hle'⟩ := ih (q := { q with
        progress := .running place stage' t.source t.answers
        delivered := q.delivered + 1 }) hq rfl (next_later ⟨_, t, hout⟩) halike'
      -- What a row has asked for is remembered with it, so that the rest owes only what is left.
      have hpending : w.pending s.subqueries
          { db := t.db, place, source := t.source, answers := t.answers } =
            w.pending s.subqueries t := pending_congr rfl
      rw [hpending] at hle'
      exact ⟨hrest, hle'.trans hle⟩

/-- A selection from its beginning asks for no more than the SELECTs of its statement. -/
theorem restTo_waiting (w : Watch) (s : Select) (halike : w.db.Alike () db) (fuel : Nat) :
    w.db.Alike () ((restTo fuel { statement := s }).run db).2 ∧
      w.asked ((restTo fuel { statement := s }).run db).2 ≤ w.asked db + w.due s.selects := by
  cases fuel with
  | zero => exact ⟨halike, Nat.le_add_right _ _⟩
  | succ fuel =>
    rw [restTo, StateT.run_bind]
    rcases hfind : db.find s.table with e | place
    · have hnext : (Selection.next { statement := s }).run db =
          ((.error e, { statement := s, progress := .over }), trace { statement := s } false db) := by
        rw [next]
        simp only [StateT.run_bind, StateT.run_get, pure_bind, hfind]
        rfl
      rw [hnext]
      exact ⟨halike, Nat.le_add_right _ _⟩
    · have hfind' : w.db.find? s.table = some place :=
        Database.find?_of_find ((halike.find s.table).symm.trans hfind)
      obtain ⟨u, hu, hle, hfirst⟩ := next_fresh_account (r := { db, place })
        (w.thrifty_resultsTo (((Node.statement (.select s)).nodes true).length + 1)) halike hfind'
        (halike.collationOf place)
      have hdue := w.due_begin (r := { db, place }) s rfl
      have hall : w.asked u.db + w.pending s.subqueries u ≤ w.asked db + w.due s.selects := by
        dsimp only at hle
        omega
      have hallows : (w.account s.subqueries).Allows
          (((Selection.host { statement := s } db place).next s .fresh).outcome { db, place }).1 u
          (((Selection.host { statement := s } db place).next s .fresh).outcome { db, place }).2 :=
        hfirst
      rw [run_next_waiting rfl hfind, run_ask]
      rcases hout : ((Selection.host { statement := s } db place).next s .fresh).outcome
        { db, place } with ⟨e | _ | ⟨row, stage⟩, t⟩
      · rw [hout] at hallows
        obtain ⟨halike', hle'⟩ := hallows hu
        exact ⟨halike', hle'.trans hall⟩
      · rw [hout] at hallows
        obtain ⟨halike', -, hle'⟩ := hallows hu
        exact ⟨halike', (Nat.le_add_right _ _).trans (hle'.trans hall)⟩
      · rw [hout] at hallows
        obtain ⟨halike', -, hle'⟩ := hallows hu
        let q : Selection := ⟨s, .running place stage t.source t.answers, 1⟩
        obtain ⟨hrest, hle''⟩ := restTo_account (w := w) (q := q) rfl rfl
          (next_later ⟨_, t, hout⟩) halike' fuel
        have hpending : w.pending s.subqueries
            { db := t.db, place, source := t.source, answers := t.answers } =
              w.pending s.subqueries t := pending_congr rfl
        rw [hpending] at hle''
        exact ⟨hrest, hle''.trans (hle'.trans hall)⟩

end

/-- **All rows of a selection** ask a table for no more than the SELECTs of the statement ask it for,
each of them once. -/
theorem requests_all (s : Select) (db : Database) (place : Nat) :
    (((Selection.all { statement := s }).outcome db).2.table place).requests.Subperm
      ((db.table place).requests ++ s.selects.filterMap (db.request place)) := by
  classical
  rw [Selection.all, outcome_mk, StateT.run_bind, StateT.run_get, pure_bind]
  generalize Selection.patience { statement := s } db = fuel
  refine List.subperm_ext_iff.mpr fun call _ => ?_
  rw [List.count_append]
  exact (restTo_waiting ⟨db, place, (· == call)⟩ s (Database.alike_self db) fuel).2

end Selection

/-! ## §F — texts -/

namespace Database

open Sql

/-- **A SELECT that a query is run as**: one that represents it, bound. -/
def RunAs (params : Parameters) (b : Select) (q : Query) : Prop :=
  ∃ s, q.RepresentedBy s ∧ s.BoundAs params b

theorem runAs_of_standFor {params : Parameters} {selects bound : List Select}
    {queries : List Query} (h : StandFor selects queries)
    (hbound : List.Forall₂ (Select.BoundAs params) selects bound) :
    List.SublistForall₂ (RunAs params) bound queries := by
  induction h generalizing bound with
  | nil =>
      cases hbound
      exact .nil
  | cons hquery _ ih =>
      cases hbound with
      | cons hfirst hrest => exact .cons ⟨_, hquery, hfirst⟩ (ih hrest)
  | cons_right _ ih => exact .cons_right (ih hbound)

/-- **A query asks for one reading at most** of each SELECT of its tree, whatever the rows, the
parameters and the database: of the SELECT itself, and of each query that is written in it, where a
query in the subject of a BETWEEN counts once for each bound. -/
theorem requests_queryAll {text : String} {s : Select}
    (hread : Statement.ofText text = .ok (.select s)) (params : Parameters) (db : Database) :
    ∃ q, sentence? text = some (.phrase (.query q)) ∧
      List.SublistForall₂ (RunAs params) (s.bind params).selects (q.queries true) ∧
      ∀ place, (((queryAll text params).outcome db).2.table place).requests.Subperm
        ((db.table place).requests ++ (s.bind params).selects.filterMap (db.request place)) := by
  obtain ⟨q, hq, hselects⟩ := Statement.selects_ofText hread
  refine ⟨q, hq, runAs_of_standFor hselects (s.forall₂_bind params), fun place => ?_⟩
  obtain ⟨db', ⟨telemetry, rfl⟩, hquery⟩ := outcome_queryAll hread params db
  rw [hquery]
  rcases Database.find _ s.table with e | found
  · exact (List.sublist_append_left _ _).subperm
  · exact Selection.requests_all (s.bind params) _ place

/-- A scripted table of one row with one column. -/
def oneRow (name column : String) : Table where
  name := name
  content := .script { items := some [.item (.row ⟨.int 1, [(.name column, .int 1)]⟩)] }

/-- A database of two such tables. -/
def askedDatabase : Database where
  tables := [oneRow "t" "a", oneRow "u" "x"]
  names := [("t", 0), ("u", 1)]

/-- How many readings each of the two tables was asked for. -/
def askedFor (db : Database) : List Nat := db.tables.map (·.requests.length)

/-- How many queries are written in a text. -/
def writtenQueries (text : String) : Option Nat :=
  (sentence? text).bind fun
    | .phrase (.query q) => some (q.queries false).length
    | _ => none

set_option maxRecDepth 100000 in
/-- A subquery on the right of IN is written once and run once. -/
theorem requests_queryAll_member :
    ∃ s q, Statement.ofText "SELECT a FROM t WHERE a IN (SELECT x FROM u)" = .ok (.select s) ∧
      sentence? "SELECT a FROM t WHERE a IN (SELECT x FROM u)" = some (.phrase (.query q)) ∧
      List.SublistForall₂ (RunAs .none) (s.bind .none).selects (q.queries true) ∧
      (∀ place, (((queryAll "SELECT a FROM t WHERE a IN (SELECT x FROM u)" .none).outcome
        askedDatabase).2.table place).requests.Subperm ((askedDatabase.table place).requests ++
          (s.bind .none).selects.filterMap (askedDatabase.request place))) ∧
      askedFor ((queryAll "SELECT a FROM t WHERE a IN (SELECT x FROM u)" .none).outcome
        askedDatabase).2 = [1, 1] := by
  have hselect : ((Statement.ofText "SELECT a FROM t WHERE a IN (SELECT x FROM u)").toOption.map
      Statement.verb) = some "select" := by decide +kernel
  rcases hread : Statement.ofText "SELECT a FROM t WHERE a IN (SELECT x FROM u)" with e | s
  · rw [hread] at hselect
    cases hselect
  · rw [hread] at hselect
    cases s with
    | select s =>
        obtain ⟨q, hq, hqueries, hrequests⟩ := requests_queryAll hread .none askedDatabase
        exact ⟨s, q, rfl, hq, hqueries, hrequests, by decide +kernel⟩
    | insert _ | update _ | delete _ => simp [Except.toOption, Statement.verb] at hselect

set_option maxRecDepth 100000 in
/-- A subquery that is the subject of a BETWEEN is written once and run twice. -/
theorem requests_queryAll_between :
    writtenQueries "SELECT a FROM t WHERE (SELECT x FROM u) BETWEEN 1 AND 2" = some 2 ∧
      askedFor ((queryAll "SELECT a FROM t WHERE (SELECT x FROM u) BETWEEN 1 AND 2" .none).outcome
        askedDatabase).2 = [1, 2] := by
  constructor
  · decide +kernel
  · decide +kernel

end Database
end TableQuery
