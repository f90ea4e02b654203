/-
# TableQuery.Proofs.Reading.Matching — the ids of the rows that satisfy a condition.

A statement that changes rows first asks for the ids of all rows that satisfy its condition.  When
there is an answer, the condition had a value on every row, and the ids are those of the rows on
which it holds, in the order in which the table gives them.
-/
import TableQuery.Proofs.Reading.Independence

namespace TableQuery
namespace Host

open Run

variable {σ : Type} {h : Host σ} {coming : List Item → σ → Prop} {patience : Nat} {s : Select}

/-- A claim without fault is passed over. -/
theorem leads_disregard {before : σ → Prop} {item first : Option Item} {claim : Option Claim}
    (hclaimed : claimed item = (claim, first)) (hfault : claim.bind Claim.fault? = none) :
    Leads before (h.disregard item) (.ok first) before := by
  unfold disregard
  rw [hclaimed]
  dsimp only
  rw [hfault]
  exact leads_pure first

/-- A claim with a fault is refused. -/
theorem leads_disregard_fault (before : σ → Prop) {item first : Option Item} {claim : Option Claim}
    (hclaimed : claimed item = (claim, first)) {fault : ClaimFault}
    (hfault : claim.bind Claim.fault? = some fault) :
    ∃ e, Leads before (h.disregard item) (.error e) fun _ => True := by
  refine ⟨.contract h.name (.claim fault), fun st _ => ?_⟩
  unfold disregard
  rw [hclaimed]
  dsimp only
  rw [hfault]
  exact ⟨rfl, trivial⟩

/-- **A reading for ids** answers the ids of the rows that are sifted, whatever a claim without fault
says of them. -/
theorem Feeds.leads_matchingIds (hf : h.Feeds coming patience) {start : σ → Prop}
    {claim : Option Claim} {rows : List Row}
    (hread : Leads start (h.read s) (.ok ()) (coming (contracted claim rows)))
    {verdict : Row → Except Error Bool} (hj : h.Judges coming s rows verdict)
    (hfresh : Fresh {} rows) (hlength : rows.length < patience)
    (hfault : claim.bind Claim.fault? = none) :
    Leads start (h.matchingIds s) ((sift verdict rows).map fun rows => rows.map (·.id))
      fun _ => True := by
  obtain ⟨item, first, items, hpull, hclaimed, hheld⟩ := hf.leads_claimed claim rows
  have hgather : Leads (coming items) (do
      let rows ← h.gather s false (← h.patience) first {}
      return rows.map (·.id) : Run σ (List Value))
      ((sift verdict rows).map fun rows => rows.map (·.id)) fun st => ∃ left, coming left st := by
    refine (hf.leads_patience items).bind ?_
    exact (hf.leads_gather hj.verdicts hheld hfresh hlength).map _
  exact hread.bind (Leads.ensuring (hpull.bind ((leads_disregard hclaimed hfault).bind hgather))
    h.close)

/-- **Matching rows** — an answer is a verdict on every row, and the ids of the rows that are
admitted. -/
theorem Feeds.matchingIds_eq_ok (hf : h.Feeds coming patience) {start : σ → Prop}
    {claim : Option Claim} {rows : List Row}
    (hread : Leads start (h.read s) (.ok ()) (coming (contracted claim rows)))
    {verdict : Row → Except Error Bool} (hj : h.Judges coming s rows verdict)
    (hfresh : Fresh {} rows) (hlength : rows.length < patience) {st : σ} (hst : start st)
    {ids : List Value} (hids : ((h.matchingIds s).outcome st).1 = .ok ids) :
    ∃ keep : Row → Bool, (∀ r ∈ rows, verdict r = .ok (keep r)) ∧
      ids = (rows.filter keep).map (·.id) := by
  rcases hfault : claim.bind Claim.fault? with _ | fault
  · have hleads := hf.leads_matchingIds hread hj hfresh hlength hfault
    have hsift := (hleads st hst).1.symm.trans hids
    rcases hout : sift verdict rows with e | admitted
    · rw [hout] at hsift
      cases hsift
    · rw [hout] at hsift
      obtain ⟨keep, hkeep, rfl⟩ := of_sift_eq_ok hout
      exact ⟨keep, hkeep, (Except.ok.inj hsift).symm⟩
  · obtain ⟨item, first, items, hpull, hclaimed, -⟩ := hf.leads_claimed claim rows
    obtain ⟨e, hrefused⟩ := leads_disregard_fault (coming items) hclaimed hfault
    have hleads : Leads start (h.matchingIds s) (.error e) fun _ => True :=
      hread.bind (Leads.ensuring (hpull.bind hrefused.bind_error) h.close)
    cases (hleads st hst).1.symm.trans hids

end Host
end TableQuery
