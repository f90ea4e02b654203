/-
# TableQuery.Proofs.Reading.Skipping — a table that skips rows itself.

A table may apply the condition itself, leave out the first of the rows that satisfy it, and say in
its claim how many it left out.  The plan for such a claim trusts the table and leaves less of OFFSET
to do.  What is left of the rows in the end is what is left when the table yields all rows, unless
rows have to be sorted: then the rows that were left out need not be the first ones.

## §A — claims that differ in what they skip.
## §B — plans.
## §C — what is left of the rows.
-/
import TableQuery.Proofs.Reading.Independence

namespace TableQuery

/-! ## §A — claims that differ in what they skip -/

namespace Claim

/-- A claim with another number of rows that were left out, none if the table applied no
condition. -/
def skipping (c : Claim) (skipped : Value) : Claim := { c with skipped }

variable (c : Claim) (k offset : Nat)

/-- To leave rows out is no fault of a claim by itself. -/
theorem fault?_skipping : (c.skipping (.int k)).fault? = (c.skipping .null).fault? := by
  have hnat : ¬(k : Int) < 0 := by omega
  simp only [fault?, skipping, hnat, if_false]

theorem skippedCount_skipping : (c.skipping (.int k)).skippedCount = some k := rfl

theorem faultFor?_unskipped :
    (c.skipping .null).faultFor? offset = (c.skipping .null).fault? := by
  have hnone : (c.skipping .null).skippedCount = none := rfl
  rw [faultFor?, hnone]
  cases (c.skipping .null).fault? <;> rfl

/-- It is no fault for a query that skips as many. -/
theorem faultFor?_skipped (hk : k ≤ offset) :
    (c.skipping (.int k)).faultFor? offset = (c.skipping .null).fault? := by
  simp only [faultFor?, fault?_skipping, skippedCount_skipping, Nat.not_lt.mpr hk, if_false]
  cases (c.skipping .null).fault? <;> rfl

/-- **It is one for a query that skips fewer.** -/
theorem faultFor?_skippedTooMany (hk : offset < k) :
    (c.skipping (.int k)).faultFor? offset =
      some ((c.skipping .null).fault?.getD (.skippedTooMany k offset)) := by
  simp only [faultFor?, fault?_skipping, skippedCount_skipping, hk, if_true]
  cases (c.skipping .null).fault? <;> rfl

end Claim

/-! ## §B — plans -/

/-- The plan for a table that leaves out the first `k` of the rows that satisfy the condition. -/
def Plan.skipping (p : Plan) (c : Claim) (k : Nat) : Plan :=
  { p with claim := some (c.skipping (.int k)), trusted := true, offset := p.offset - k }

/-- What a table skips has no part in the choice of a strategy. -/
theorem Plan.make_skipped (active : Collation) (terms : List SortTerm) (c : Claim) (k offset : Nat)
    (limit : Option Nat) :
    Plan.make active terms (some (c.skipping (.int k))) offset limit =
      (Plan.make active terms (some (c.skipping .null)) offset limit).map
        (·.skipping c k) := by
  have hchoose : Plan.choose active terms (some (c.skipping (.int k))) =
      Plan.choose active terms (some (c.skipping .null)) := rfl
  rw [Plan.make, Plan.make, hchoose]
  rcases Plan.choose active terms (some (c.skipping .null)) with e | ⟨strategy, reason⟩ <;>
    rfl

/-- A table that skips nothing is not trusted, and the whole of OFFSET and LIMIT is left to do. -/
theorem Plan.of_make_unskipped {active : Collation} {terms : List SortTerm} {c : Claim}
    {offset : Nat} {limit : Option Nat} {p : Plan}
    (hp : Plan.make active terms (some (c.skipping .null)) offset limit = .ok p) :
    p.trusted = false ∧ p.offset = offset ∧ (terms = [] → p.strategy = .stream) := by
  rw [Plan.make] at hp
  rcases hchoose : Plan.choose active terms (some (c.skipping .null))
    with e | ⟨strategy, reason⟩
  · rw [hchoose] at hp
    cases hp
  · rw [hchoose] at hp
    obtain rfl := Except.ok.inj hp
    refine ⟨rfl, rfl, ?_⟩
    rintro rfl
    exact congrArg Prod.fst (Except.ok.inj hchoose).symm

namespace Host

variable {σ : Type} (h : Host σ) (terms : List SortTerm) (c : Claim)

/-- **A claim that left rows out is planned for** as if it had not, the table being trusted and less
of OFFSET left to do. -/
theorem planned_skipped {k offset : Nat} (hk : k ≤ offset) (limit : Option Nat) :
    h.planned terms (some (c.skipping (.int k))) offset limit =
      (h.planned terms (some (c.skipping .null)) offset limit).map (·.skipping c k) := by
  rw [planned, planned, Option.bind_some, Option.bind_some, Claim.faultFor?_unskipped,
    Claim.faultFor?_skipped c k offset hk, Plan.make_skipped]
  rcases (c.skipping .null).fault? with _ | fault
  · cases Plan.make h.evaluator.collation terms (some (c.skipping .null)) offset limit <;> rfl
  · rfl

/-- A claim that left out more rows than OFFSET skips is refused. -/
theorem planned_skippedTooMany {k offset : Nat} (hk : offset < k) (limit : Option Nat) :
    h.planned terms (some (c.skipping (.int k))) offset limit =
      .error (.contract h.name
        (.claim ((c.skipping .null).fault?.getD (.skippedTooMany k offset)))) := by
  rw [planned, Option.bind_some, Claim.faultFor?_skippedTooMany c k offset hk]

/-- A table that says what it skips is trusted. -/
theorem trusted_of_planned_skipped {k offset : Nat} {limit : Option Nat} {p : Plan}
    (hp : h.planned terms (some (c.skipping (.int k))) offset limit = .ok p) : p.trusted = true := by
  rcases Nat.lt_or_ge offset k with hk | hk
  · rw [planned_skippedTooMany h terms c hk] at hp
    cases hp
  · rw [planned_skipped h terms c hk] at hp
    rcases hplan : h.planned terms (some (c.skipping .null)) offset limit with e | q
    · rw [hplan] at hp
      cases hp
    · rw [hplan] at hp
      rw [← Except.ok.inj hp]
      rfl

theorem of_planned_unskipped {offset : Nat} {limit : Option Nat} {p : Plan}
    (hp : h.planned terms (some (c.skipping .null)) offset limit = .ok p) :
    p.trusted = false ∧ p.offset = offset ∧ (terms = [] → p.strategy = .stream) := by
  rw [planned] at hp
  split at hp
  · cases hp
  · rcases hmake : Plan.make h.evaluator.collation terms (some (c.skipping .null)) offset
      limit with e | q
    · rw [hmake] at hp
      cases hp
    · rw [hmake] at hp
      obtain rfl := Except.ok.inj hp
      exact Plan.of_make_unskipped hmake

/-! ## §C — what is left of the rows -/

theorem cutOut_drop {k offset : Nat} (hk : k ≤ offset) (limit : Option Nat) (rows : List Row) :
    cutOut (offset - k) limit (rows.drop k) = cutOut offset limit rows := by
  rw [cutOut, cutOut, List.drop_drop, Nat.add_sub_cancel' hk]

/-- **Nothing is lost** of the rows that are admitted when the first of them are left out of those that
OFFSET skips, as long as sorting does not move them. -/
theorem carriedOut_skipped {k offset : Nat} (hk : k ≤ offset) (limit : Option Nat)
    {admitted : List Row} {sorted sorted' : Except Error (List Row)}
    (hsorted : terms = [] ∨ k = 0 ∧ sorted' = sorted ∨
      sorted = .ok admitted ∧ sorted' = .ok (admitted.drop k)) :
    (h.planned terms (some (c.skipping (.int k))) offset limit >>= fun p =>
        carriedOut p sorted' (admitted.drop k)) =
      (h.planned terms (some (c.skipping .null)) offset limit >>= fun p =>
        carriedOut p sorted admitted) := by
  rw [planned_skipped h terms c hk]
  rcases hp : h.planned terms (some (c.skipping .null)) offset limit with e | p
  · rfl
  · obtain ⟨-, rfl, hstream⟩ := of_planned_unskipped h terms c hp
    show carriedOut (p.skipping c k) sorted' (admitted.drop k) = carriedOut p sorted admitted
    have hcut := cutOut_drop hk p.limit
    unfold carriedOut Plan.skipping
    dsimp only
    rcases hstrategy : p.strategy with _ | _
    · rw [hcut]
    -- Without an order the plan streams; otherwise nothing is left out, or sorting moves no row.
    · rcases hsorted with hnil | ⟨rfl, rfl⟩ | ⟨rfl, rfl⟩
      · cases hstrategy.symm.trans (hstream hnil)
      · rfl
      · show Except.ok _ = Except.ok _
        rw [hcut]

end Host
end TableQuery
