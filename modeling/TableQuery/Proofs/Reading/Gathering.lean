/-
# TableQuery.Proofs.Reading.Gathering — what a reading for ids has read when it answers.

A reading for ids goes through all items of a table.  It fails at the first item that breaks the
contract, at the first row whose condition has no value, and where the table fails.  So an answer
says much of the table: it yielded at most a claim without fault and then rows that pass the check,
and it came to its end.  The last that was asked of it was a pull that gave nothing more, and then its
source was closed.

## §A — one row.
## §B — hosts that draw from a table.
## §C — gathering to the end.
## §D — the ids.
-/
import TableQuery.Proofs.Reading.Independence

namespace TableQuery
namespace Host

open Run

variable {σ : Type} {h : Host σ} {s : Select} {st st' : σ} {seen : Seen}

/-! ## §A — one row -/

/-- A row that passed the check is a row with an identity that was not met before. -/
theorem of_check_eq_ok {i : Item} {found : Row × Seen}
    (hcheck : (h.check seen i).outcome st = (.ok found, st')) :
    ∃ r, i = .row r ∧ seen.breach? (.row r) = none ∧ r.id.isIdentity = true ∧
      found = (r, seen.add r) ∧ st' = ((h.note .scanned).run st).2 := by
  cases i with
  | row r =>
      rcases hbreach : seen.breach? (.row r) with _ | b
      · rcases hid : r.id.isIdentity with _ | _
        · simp only [check, hbreach, hid] at hcheck
          cases hcheck
        · simp only [check, hbreach, hid] at hcheck
          obtain ⟨hfound, hafter⟩ := Prod.mk.inj hcheck
          exact ⟨r, rfl, hbreach, hid, (Except.ok.inj hfound).symm, hafter.symm⟩
      · simp only [check, hbreach] at hcheck
        cases hcheck
  | claim c => cases hcheck
  | other v => cases hcheck

/-- A further row is pulled unless it has been pulled already, and passed the check. -/
theorem of_row_eq_ok {first : Option Item} {found : Option (Row × Seen)}
    (hrow : (h.row? first seen).outcome st = (.ok found, st')) :
    (first = none ∧ found = none ∧ h.pull.outcome st = (.ok none, st')) ∨
      ∃ r opened, (first = some (.row r) ∧ opened = st ∨
          first = none ∧ h.pull.outcome st = (.ok (some (.row r)), opened)) ∧
        seen.breach? (.row r) = none ∧ r.id.isIdentity = true ∧ found = some (r, seen.add r) ∧
        st' = ((h.note .scanned).run opened).2 := by
  have hchecked : ∀ i opened, (some <$> h.check seen i).outcome opened = (.ok found, st') →
      ∃ r, i = .row r ∧ seen.breach? (.row r) = none ∧ r.id.isIdentity = true ∧
        found = some (r, seen.add r) ∧ st' = ((h.note .scanned).run opened).2 := by
    intro i opened hchecked
    rw [outcome_map] at hchecked
    rcases hout : (h.check seen i).outcome opened with ⟨e | checked, after⟩
    · rw [hout] at hchecked
      cases hchecked
    · rw [hout] at hchecked
      obtain ⟨hfound, rfl⟩ := Prod.mk.inj hchecked
      obtain ⟨r, hr, hbreach, hid, rfl, hafter⟩ := of_check_eq_ok hout
      exact ⟨r, hr, hbreach, hid, (Except.ok.inj hfound).symm, hafter⟩
  cases first with
  | some i =>
      obtain ⟨r, rfl, hrest⟩ := hchecked i st hrow
      exact .inr ⟨r, st, .inl ⟨rfl, rfl⟩, hrest⟩
  | none =>
      obtain ⟨item, opened, hpull, hrow⟩ := outcome_bind_eq_ok.mp hrow
      cases item with
      | none =>
          obtain ⟨hfound, rfl⟩ := Prod.mk.inj hrow
          exact .inl ⟨rfl, (Except.ok.inj hfound).symm, hpull⟩
      | some i =>
          obtain ⟨r, rfl, hrest⟩ := hchecked i opened hrow
          exact .inr ⟨r, opened, .inr ⟨rfl, hpull⟩, hrest⟩

/-- A row that passes the check before rows that pass it behind it. -/
theorem Fresh.cons {r : Row} {rows : List Row} (hbreach : seen.breach? (.row r) = none)
    (hid : r.id.isIdentity = true) (hrows : Fresh (seen.add r) rows) : Fresh seen (r :: rows) := by
  have hnone : seen.ids.any (·.same r.id) = false := by
    rcases hany : seen.ids.any (·.same r.id) with _ | _
    · rfl
    · simp only [Seen.breach?, hany, if_true] at hbreach
      cases hbreach
  refine ⟨?_, ?_, ?_⟩
  · exact List.forall_mem_cons.mpr ⟨hid, hrows.identity⟩
  · refine List.forall_mem_cons.mpr ⟨fun id hmem => ?_, fun q hq id hmem => ?_⟩
    · exact Bool.eq_false_iff.mpr (List.any_eq_false.mp hnone id hmem)
    · exact hrows.unseen q hq id (List.mem_cons_of_mem r.id hmem)
  · refine List.pairwise_cons.mpr ⟨fun q hq => ?_, hrows.distinct⟩
    exact hrows.unseen q hq r.id List.mem_cons_self

/-! ## §B — hosts that draw from a table -/

/-- **Drawing** — what a host pulls comes from a source that is known in every state, and `yields`
says what a source has to come. -/
structure Draws {ι : Type} (h : Host σ) (kind : ι → σ → Prop) (yields : ι → List Item → Prop)
    (patience : Nat) : Prop where
  item {i : ι} {st st' : σ} {item : Item} : kind i st → h.pull.outcome st = (.ok (some item), st') →
    ∃ j, kind j st' ∧ ∀ items, yields j items → yields i (item :: items)
  done {i : ι} {st st' : σ} : kind i st → h.pull.outcome st = (.ok none, st') →
    ∃ j, kind j st' ∧ yields i [] ∧ ∀ items, yields j items → items = []
  note (remark : Remark) {i : ι} {st : σ} : kind i st → kind i ((h.note remark).run st).2
  patience_eq {i : ι} {st : σ} : kind i st →
    ((h.patience).run st).1 = patience ∧ kind i ((h.patience).run st).2

section
variable {ι : Type} {kind : ι → σ → Prop} {yields : ι → List Item → Prop} {patience : Nat} {i : ι}

/-! ## §C — gathering to the end -/

/-- **Gathering comes to the end** — an answer means that the table yielded rows that pass the check
and then nothing more, which was the last that was asked. -/
theorem Draws.of_gather_eq_ok (hd : h.Draws kind yields patience)
    (hholds : ∀ r : Row, Steady kind (h.evaluator.holds r.columns [1] s.condition)) {fuel : Nat}
    {first : Option Item} (hst : kind i st) {admitted : List Row}
    (hout : (h.gather s false fuel first seen).outcome st = (.ok admitted, st')) :
    ∃ rows items, held first rows items ∧ yields i items ∧ Fresh seen rows ∧ rows.length < fuel ∧
      ∃ last, h.pull.outcome last = (.ok none, st') := by
  -- On the rows that may still be pulled; `first` is general at the start and `none` from then on.
  induction fuel generalizing first seen i st admitted with
  | zero => cases hout
  | succ fuel ih =>
      obtain ⟨found, checked, hrow, hrest⟩ := outcome_bind_eq_ok.mp hout
      rcases of_row_eq_ok hrow with ⟨rfl, rfl, hpull⟩ | ⟨r, opened, hr, hbreach, hid, rfl, rfl⟩
      · obtain ⟨-, rfl⟩ := Prod.mk.inj hrest
        obtain ⟨-, -, hnil, -⟩ := hd.done hst hpull
        exact ⟨[], [], rfl, hnil, ⟨nofun, nofun, .nil⟩, Nat.succ_pos fuel, st, hpull⟩
      · obtain ⟨j, hj, hyields⟩ : ∃ j, kind j opened ∧ ∀ rows : List Row,
            yields j (rows.map .row) → ∃ items, held first (r :: rows) items ∧ yields i items := by
          rcases hr with ⟨rfl, rfl⟩ | ⟨rfl, hpull⟩
          · exact ⟨i, hst, fun rows hrows => ⟨_, rfl, hrows⟩⟩
          · obtain ⟨j, hj, hmore⟩ := hd.item hst hpull
            exact ⟨j, hj, fun rows hrows => ⟨_, rfl, hmore _ hrows⟩⟩
        obtain ⟨admits, judged, hadmits, hrest⟩ := outcome_bind_eq_ok.mp hrest
        obtain ⟨verdict, hverdict⟩ := hholds r
        have hjudged : kind j judged := by
          have hkept := (hverdict j _ (hd.note .scanned hj)).2
          rwa [show (h.evaluator.holds r.columns [1] s.condition).outcome _ = _ from hadmits] at hkept
        obtain ⟨others, hothers⟩ : ∃ others,
            (h.gather s false fuel none (seen.add r)).outcome judged = (.ok others, st') := by
          cases admits with
          | false => exact ⟨admitted, hrest⟩
          | true =>
              obtain ⟨others, after, hgather, hpure⟩ := outcome_bind_eq_ok.mp hrest
              obtain ⟨-, rfl⟩ := Prod.mk.inj hpure
              exact ⟨others, hgather⟩
        obtain ⟨rows, items, hheld, hitems, hfresh, hlength, hlast⟩ := ih hjudged hothers
        obtain rfl : items = rows.map .row := hheld
        obtain ⟨items, hheld, hitems⟩ := hyields rows hitems
        exact ⟨r :: rows, items, hheld, hitems, hfresh.cons hbreach hid, Nat.succ_lt_succ hlength,
          hlast⟩

/-! ## §D — the ids -/

/-- A claim that is passed over has no fault. -/
theorem of_disregard_eq_ok {item first : Option Item}
    (hout : (h.disregard item).outcome st = (.ok first, st')) :
    (claimed item).1.bind Claim.fault? = none ∧ first = (claimed item).2 ∧ st' = st := by
  unfold disregard at hout
  dsimp only at hout
  rcases hfault : (claimed item).1.bind Claim.fault? with _ | fault
  · rw [hfault] at hout
    obtain ⟨hfirst, hafter⟩ := Prod.mk.inj hout
    exact ⟨rfl, (Except.ok.inj hfirst).symm, hafter.symm⟩
  · rw [hfault] at hout
    cases hout

/-- **An answer of a reading for ids** means that the table kept its contract and came to its end, and
that its source was closed then. -/
theorem Draws.of_matchingIds_eq_ok (hd : h.Draws kind yields patience)
    (hholds : ∀ r : Row, Steady kind (h.evaluator.holds r.columns [1] s.condition))
    {ids : List Value} (hids : (h.matchingIds s).outcome st = (.ok ids, st')) :
    ∃ opened, (h.read s).outcome st = (.ok (), opened) ∧ ∀ i, kind i opened →
      ∃ claim rows, yields i (contracted claim rows) ∧ claim.bind Claim.fault? = none ∧
        Fresh {} rows ∧ rows.length < patience ∧
        ∃ last ended, h.pull.outcome last = (.ok none, ended) ∧ st' = (h.close.run ended).2 := by
  obtain ⟨⟨⟩, opened, hread, hreading⟩ := outcome_bind_eq_ok.mp hids
  refine ⟨opened, hread, fun i hi => ?_⟩
  obtain ⟨ended, hbody, rfl⟩ := outcome_ensuring_eq_ok.mp hreading
  obtain ⟨item, _, hpull, hbehind⟩ := outcome_bind_eq_ok.mp hbody
  obtain ⟨first, pulled, hdisregard, hgathering⟩ := outcome_bind_eq_ok.mp hbehind
  obtain ⟨fuel, begun, hpatience, hgathering⟩ := outcome_bind_eq_ok.mp hgathering
  obtain ⟨admitted, gathered, hgather, hpure⟩ := outcome_bind_eq_ok.mp hgathering
  obtain ⟨-, rfl⟩ := Prod.mk.inj hpure
  obtain ⟨hfuel, rfl⟩ := Prod.mk.inj hpatience
  obtain ⟨hfault, rfl, rfl⟩ := of_disregard_eq_ok hdisregard
  have hgathered : ∀ {j}, kind j pulled → ∃ rows items, held (claimed item).2 rows items ∧
      yields j items ∧ Fresh {} rows ∧ rows.length < patience ∧
        ∃ last, h.pull.outcome last = (.ok none, gathered) := by
    intro j hj
    obtain ⟨hpatient, hbegun⟩ := hd.patience_eq hj
    have hfuel : patience = fuel := hpatient.symm.trans (Except.ok.inj hfuel)
    rw [hfuel]
    exact hd.of_gather_eq_ok hholds hbegun hgather
  -- The first item is none at all, a claim, or a row that is held back for the gathering.
  cases item with
  | none =>
      obtain ⟨j, hj, hnil, hover⟩ := hd.done hi hpull
      obtain ⟨rows, items, hheld, hitems, hfresh, hlength, last, hlast⟩ := hgathered hj
      obtain rfl := hover items hitems
      obtain rfl : rows = [] := List.map_eq_nil_iff.mp hheld.symm
      exact ⟨none, [], hnil, rfl, hfresh, hlength, last, _, hlast, rfl⟩
  | some item =>
      obtain ⟨j, hj, hmore⟩ := hd.item hi hpull
      obtain ⟨rows, items, hheld, hitems, hfresh, hlength, last, hlast⟩ := hgathered hj
      cases item with
      | claim c =>
          obtain rfl : items = rows.map .row := hheld
          exact ⟨some c, rows, hmore _ hitems, hfault, hfresh, hlength, last, _, hlast, rfl⟩
      | row r =>
          have hrows : contracted none rows = .row r :: items := hheld.symm
          exact ⟨none, rows, hrows ▸ hmore _ hitems, hfault, hfresh, hlength, last, _, hlast, rfl⟩
      | other v =>
          cases rows <;> cases hheld

end
end Host
end TableQuery
