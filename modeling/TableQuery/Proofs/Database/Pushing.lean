/-
# TableQuery.Proofs.Database.Pushing — OFFSET pushed into the table does not show.

A table that applies the condition, leaves out the first `k` of the rows that satisfy it and says so
gives through a SELECT the same rows, or the same failure, as a table that yields all rows under the
same claim and leaves the whole of OFFSET to the SELECT.  That needs an OFFSET of at least `k`; a
claim that left out more is refused, and no row is given.

## §A — two tables that differ in what they skip.
## §B — a table that skips a row.
-/
import TableQuery.Proofs.Database.Across
import TableQuery.Proofs.Reading.Skipping

namespace TableQuery
namespace Running

open Run Database Host

/-! ## §A — two tables that differ in what they skip -/

section
variable {good : List (Place × Deferred) → Prop} {w w' : Setting} {ev : Evaluator Running}
  {s : Select}

/-- **Two tables that differ in what they skip** — one yields all rows under a claim; the other says
in that claim that it left out the first `k` of the rows that satisfy the condition, and yields the
others of these. -/
structure Pushed (ev : Evaluator Running) (s : Select) (w w' : Setting) (claim : Claim) (k : Nat)
    (rows : List Row) (keep : Row → Bool) : Prop where
  all : ((w.db.table w.place).items ev.collation s).1 =
    .ok (contracted (some (claim.skipping .null)) rows)
  skipped : ((w'.db.table w'.place).items ev.collation s).1 =
    .ok (contracted (some (claim.skipping (.int k))) ((rows.filter keep).drop k))
  identity : ∀ r ∈ rows, r.id.isIdentity = true
  distinct : rows.Pairwise fun a b => a.id.same b.id = false
  verdict : ∀ r ∈ rows, said w (ev.holds r.columns [1] s.condition) = .ok (keep r)

variable {claim : Claim} {k : Nat} {rows : List Row} {keep : Row → Bool}

/-- Over the table that yields all rows the condition decides. -/
theorem Pushed.rows_all (h : Pushed ev s w w' claim k rows keep) (name : String) (hgood : good [])
    (hev : ev.Answers (AmidOne [w, w'] good) s.subqueries) :
    (((host name ev).rows s).run (startOf w)).1 =
      answered .ok
        (begun (said w ((host name ev).clause "LIMIT" [3] s.limit))
          (said w ((host name ev).clause "OFFSET" [4] s.offset))
          (SortTerm.resolveAll s.columns s.orderBy) fun terms offset limit =>
            (host name ev).planned terms (some (claim.skipping .null)) offset limit >>= fun p =>
              carriedOut p (said w ((host name ev).sortRows terms (rows.filter keep)))
                (rows.filter keep)) := by
  have hw : w ∈ [w, w'] := List.mem_cons_self
  refine (answered_carriedOut name hgood hev hw hw h.all
    (fresh_of_distinct h.identity h.distinct) ?_).1
  intro terms offset limit p hp r hr
  have hsettles : Settles (Amid w.db w.place good) (ev.holds r.columns [1] s.condition)
      (said w (ev.holds r.columns [1] s.condition)) :=
    settles_said hgood hw hw ((host_guidedIn name hev).steady_holds r.columns)
  rw [h.verdict r hr] at hsettles
  rw [(of_planned_unskipped _ terms claim hp).1]
  exact settles_coming hsettles

/-- Over the other table the table has decided. -/
theorem Pushed.rows_skipped (h : Pushed ev s w w' claim k rows keep) (name : String)
    (hgood : good []) (hev : ev.Answers (AmidOne [w, w'] good) s.subqueries) :
    (((host name ev).rows s).run (startOf w')).1 =
      answered .ok
        (begun (said w ((host name ev).clause "LIMIT" [3] s.limit))
          (said w ((host name ev).clause "OFFSET" [4] s.offset))
          (SortTerm.resolveAll s.columns s.orderBy) fun terms offset limit =>
            (host name ev).planned terms (some (claim.skipping (.int k))) offset limit >>= fun p =>
              carriedOut p (said w ((host name ev).sortRows terms ((rows.filter keep).drop k)))
                ((rows.filter keep).drop k)) := by
  have hleft : ((rows.filter keep).drop k).Sublist rows :=
    (List.drop_sublist ..).trans List.filter_sublist
  have hfresh : Fresh {} ((rows.filter keep).drop k) :=
    fresh_of_distinct (fun r hr => h.identity r (hleft.mem hr)) (h.distinct.sublist hleft)
  -- The plan trusts a table that skips rows, and each of its rows is admitted.
  have hv : ∀ terms offset limit p,
      (host name ev).planned terms (some (claim.skipping (.int k))) offset limit = .ok p →
        (host name ev).Verdicts (Coming w'.db w'.place good) p.trusted s ((rows.filter keep).drop k)
          fun _ => .ok true := by
    intro terms offset limit p hp
    rw [trusted_of_planned_skipped _ terms claim hp]
    exact verdicts_trusted s _
  obtain ⟨hrows, -⟩ := answered_carriedOut name hgood hev List.mem_cons_self
    (List.mem_cons_of_mem w List.mem_cons_self) h.skipped hfresh hv
  have hwhole : ((rows.filter keep).drop k).filter (fun _ => true) = (rows.filter keep).drop k :=
    List.filter_eq_self.mpr fun _ _ => rfl
  rwa [hwhole] at hrows

end

/-! ## §B — a table that skips a row -/

/-- Rows in the order of their column, one of them without it. -/
def threeRows : List Row :=
  [⟨.int 1, []⟩, ⟨.int 2, [(.name "a", .int 4)]⟩, ⟨.int 3, [(.name "a", .int 7)]⟩]

/-- Whether a row has the column. -/
def hasColumn (r : Row) : Bool := !(r.columns.column "a").isNull

/-- A table that claims to yield rows in the order of the column. -/
def claimingSetting (skipped : Value) (rows : List Row) : Setting where
  db := { tables := [{ content := .script {
    items := some ((contracted (some { column := .text "a", skipped }) rows).map .item) } }] }

/-- The table that leaves out the first `k` of the rows with the column. -/
def skippingSetting (k : Nat) : Setting :=
  claimingSetting (.int k) ((threeRows.filter hasColumn).drop k)

theorem pushed_secondRow (k : Nat) :
    Pushed {} secondRow (claimingSetting .null threeRows) (skippingSetting k)
      { column := .text "a" } k threeRows hasColumn where
  all := Table.items_script rfl rfl rfl rfl (by decide +kernel)
  skipped := Table.items_script rfl rfl rfl rfl (by decide +kernel)
  identity := by decide +kernel
  distinct := by decide +kernel
  verdict r hr := by
    simp only [threeRows, List.mem_cons, List.not_mem_nil, or_false] at hr
    rcases hr with rfl | rfl | rfl <;> rfl

/-- `SELECT * FROM t LIMIT 'x'`. -/
def textLimit : Select := .mk "t" [.all] none [] (some (.literal (.text "x"))) none

end Running
end TableQuery
