/-
# TableQuery.Proofs.Database.Stopping — a SELECT with a limit stops at the row that completes it.

A table need not end, and need not keep its contract for ever, for a SELECT that streams with a LIMIT to
give its rows.  It is enough that the items up to the row that completes the limit are in order; these are
the items that are pulled, whatever the table would yield behind them (`rows_stopEarly`).

## §A — tables of which the first items are known.
## §B — the rows up to the limit.
## §C — a table without an end.
-/
import TableQuery.Proofs.Database.Selecting
import TableQuery.Proofs.Reading.Stopping

namespace TableQuery
namespace Running

open Run Database Host

section
variable {db : Database} {place : Nat} {name : String} {ev : Evaluator Running} {s : Select}

/-! ## §A — tables of which the first items are known -/

/-- A reading of which some items of its table are the next to come. -/
def Offering (db : Database) (place : Nat) (good : List (Place × Deferred) → Prop)
    (items : List Item) (r : Running) : Prop :=
  ∃ source, Amid db place good source r ∧ (db.table place).Starts source items

/-- **The host of a SELECT is an offer** of the first items of its table. -/
theorem host_offers (good : List (Place × Deferred) → Prop) (name : String)
    (ev : Evaluator Running) :
    (host name ev).Offers (Offering db place good) (db.table place).patience := by
  refine host_offers_known (fun i items source hstarts => ?_) name ev
  cases hstarts with
  | item hitem hrest => exact ⟨hitem, hrest⟩

/-- What settles amid a reading settles while its table has items to offer. -/
theorem settles_offering {good : List (Place × Deferred) → Prop} {α : Type} {x : Run Running α}
    {a : Except Error α} (h : Settles (Amid db place good) x a) :
    Settles (Offering db place good) x a :=
  fun items => leads_amid h fun source => (db.table place).Starts source items

/-! ## §B — the rows up to the limit -/

/-- **Rows that decide a limit** — the rows that come first from a source of a table, behind a claim if
there is one: they keep the contract, they are fewer than a reading pulls at most, the condition has a
value on each of them unless the table is trusted, and `n` of them are admitted behind the first `skip`,
the last of the rows being the last of these.  What comes behind them is left open. -/
structure Decides (db : Database) (place : Nat) (h : Host Running) (s : Select) (source : Source)
    (claim : Option Claim) (trusted : Bool) (skip n : Nat) (keep : Row → Bool)
    (rows : List Row) : Prop where
  starts : (db.table place).Starts source (contracted claim rows)
  identity : ∀ r ∈ rows, r.id.isIdentity = true
  distinct : rows.Pairwise fun a b => a.id.same b.id = false
  patient : rows.length < (db.table place).patience
  verdict : ∀ r ∈ rows, ((h.admits trusted s r).outcome { db, place }).1 = .ok (keep r)
  completed : ∃ before last, rows = before ++ [last] ∧ keep last = true ∧
    (before.filter keep).length + 1 = skip + n

/-- The limit is reached with the last of the rows. -/
theorem Decides.count {h : Host Running} {source : Source} {claim : Option Claim} {trusted : Bool}
    {skip n : Nat} {keep : Row → Bool} {rows : List Row}
    (hd : Decides db place h s source claim trusted skip n keep rows) :
    EndsAdmitted keep rows ∧ (rows.filter keep).length = skip + n := by
  obtain ⟨before, last, rfl, hlast, hcount⟩ := hd.completed
  refine ⟨endsAdmitted_concat before hlast, ?_⟩
  rw [List.filter_append, List.filter_cons_of_pos hlast, List.length_append]
  exact hcount

/-- **Early stop** — a SELECT that streams with a LIMIT gives its rows from the items that it needs.

* With LIMIT 0 it pulls one item, gives nothing and is closed.
* Otherwise, once rows decide the limit, the admitted ones behind OFFSET are what it gives; these items
  are pulled and no further one, whatever would follow, and the reading is closed. -/
theorem rows_stopEarly (hev : Dependable ev db place s) {terms : List SortTerm} {offset : Nat}
    {limit : Option Nat}
    (hclauses : (((host name ev).clauses s).outcome { db, place }).1 = .ok (terms, offset, limit))
    {source : Source} (hread : ((db.table place).read ev.collation s).1 = .ok source)
    {item : Option Item} (hitem : ((db.table place).pull source).answer = .ok item) {p : Plan}
    (hplan : (host name ev).planned terms (claimed item).1 offset limit = .ok p)
    (hstream : p.strategy = .stream) {n : Nat} (hlimit : p.limit = some n) :
    (n = 0 →
      (host name ev).Reads s { db, place } [] [.opened, .pulled (.ok item), .closed]) ∧
    (0 < n → ∀ keep rows,
      Decides db place (host name ev) s source (claimed item).1 p.trusted p.offset n keep rows →
      ((rows.filter keep).drop p.offset).length = n ∧
      (host name ev).Reads s { db, place } ((rows.filter keep).drop p.offset)
        (.opened :: (contracted (claimed item).1 rows).map .took ++ [.closed])) := by
  obtain ⟨good, hgood, hanswers⟩ := hev
  have hg := host_guided name hanswers
  have ho : (host name ev).Offers (Offering db place good) (db.table place).patience :=
    host_offers good name ev
  have hstart : Amid db place good .closed { db, place } := ⟨rfl, rfl, rfl, hgood⟩
  -- What the clauses say is the same whatever the subqueries have left behind, and so is, below, whether
  -- a row is admitted.
  have hsettled := hg.steady_clauses.settles hstart .closed
  rw [hclauses] at hsettled
  constructor
  · rintro rfl
    have hpulled : Leads (Amid db place good source) (host name ev).pull (.ok item)
        (Offering db place good []) := by
      intro r hr
      obtain ⟨hanswer, hafter⟩ := hr.pull
      exact ⟨hanswer.trans hitem, _, hafter, .nil _⟩
    refine ho.reads_nothing hsettled (leads_read_source hread) hpulled hplan hstream hlimit ?_ rfl
      hstart
    exact Nat.lt_of_lt_of_le (by decide) (Nat.le_add_left _ _)
  · intro hn keep rows hd
    obtain ⟨hends, hcount⟩ := hd.count
    have hv : (host name ev).Verdicts (Offering db place good) p.trusted s rows
        fun r => .ok (keep r) := by
      intro r hr
      have hadmits : Steady (Amid db place good) ((host name ev).admits p.trusted s r) := by
        unfold Host.admits
        split
        · exact steady_pure true
        · exact hg.steady_holds r.columns
      have hsettled := hadmits.settles hstart
      rw [hd.verdict r hr] at hsettled
      exact settles_offering hsettled
    have hopened : Leads (Amid db place good .closed) ((host name ev).read s) (.ok ())
        (Offering db place good (contracted (claimed item).1 rows)) :=
      (leads_read_source hread).weaken fun _ hr => ⟨source, hr, hd.starts⟩
    refine ⟨by rw [List.length_drop, hcount, Nat.add_sub_cancel_left], ?_⟩
    exact ho.reads_early hsettled hopened hplan hstream hlimit hn hv
      (fresh_of_distinct hd.identity hd.distinct) hd.patient hends hcount rfl hstart

end

/-! ## §C — a table without an end -/

/-- A table that claims to yield numbers in order, and does so without end. -/
def endlessTable : Table where
  content := .script {
    items := some [.item (.claim { column := .text "n" })]
    endless := some 0 }

/-- The row of a number. -/
def numbered (n : Int) : Row := ⟨.int n, [(.name "n", .int n)]⟩

/-- `SELECT n FROM numbers ORDER BY n LIMIT 2 OFFSET 1`. -/
def nextNumbers : Select :=
  .mk "numbers" [.mk (.column "n") none "n"] none [.mk (.column "n") false] (some (.literal (.int 2)))
    (some (.literal (.int 1)))

/-- Two numbers are given, and the fourth is never pulled. -/
theorem rows_endlessTable :
    (host "numbers" {}).Reads nextNumbers { db := { tables := [endlessTable] } }
      [numbered 1, numbered 2]
      [.opened, .took (.claim { column := .text "n" }), .took (.row (numbered 0)),
        .took (.row (numbered 1)), .took (.row (numbered 2)), .closed] := by
  have hdecides : Decides { tables := [endlessTable] } 0 (host "numbers" {}) nextNumbers (.script 0)
      (some { column := .text "n" }) false 1 2 (fun _ => true)
      [numbered 0, numbered 1, numbered 2] := by
    refine ⟨?_, by decide +kernel, by decide +kernel, by decide +kernel, fun _ _ => rfl, ?_⟩
    · exact .item rfl (.item rfl (.item rfl (.item rfl (.nil _))))
    · exact ⟨[numbered 0, numbered 1], numbered 2, rfl, rfl, rfl⟩
  have hread : (endlessTable.read .binary nextNumbers).1 = .ok (.script 0) :=
    Table.read_script rfl rfl rfl (by decide +kernel)
  have hclauses : (((host "numbers" {}).clauses nextNumbers).outcome
      { db := { tables := [endlessTable] } }).1 = .ok ([⟨.column "n", false, [0, 2]⟩], 1, some 2) := rfl
  have hdependable := dependable_alone .none .binary { tables := [endlessTable] } 0 nextNumbers
  have hplan : (host "numbers" {}).planned [⟨.column "n", false, [0, 2]⟩]
    (some { column := .text "n" }) 1 (some 2) = .ok {
      strategy := .stream, reason := "table order matches ORDER BY", claim := some { column := .text "n" }
      trusted := false, offset := 1, limit := some 2 } := rfl
  exact ((rows_stopEarly hdependable hclauses hread rfl hplan rfl rfl).2 (by decide) _ _ hdecides).2

end Running
end TableQuery
