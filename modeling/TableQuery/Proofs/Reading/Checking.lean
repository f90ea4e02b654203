/-
# TableQuery.Proofs.Reading.Checking — how far a table keeps its contract.

Every item is checked before it is used, so what is taken of a table is always the same part of its
items: the longest stretch from the beginning that consists of rows with identities of their own.
`Host.drain` takes it, and stops at the first item that is something else, which it names.  A reading
that gathers its rows takes just as much, and one that streams takes the beginning of it; so no id is
met twice among the rows of a result or among the ids of a reading for ids.

## §A — checked items.
## §B — all that is taken.
## §C — where it stops.
## §D — no id twice.
-/
import TableQuery.Proofs.Reading.Bounded
import TableQuery.Proofs.Reading.Gathering
import TableQuery.Proofs.Table.Kept

namespace TableQuery

/-- Only an identity is the same as another value. -/
theorem Value.isIdentity_of_same {v w : Value} (h : v.same w = true) : w.isIdentity = true := by
  cases w with
  | list _ | record _ => cases v <;> cases h
  | null | bool _ | int _ | float _ | text _ | blob _ => rfl

namespace Host

open Run

variable {σ : Type} {h : Host σ} {s : Select} {st st' : σ} {seen seen' : Seen} {r : Row}

/-! ## §A — checked items -/

theorem outcome_check_breach {i : Item} {b : Breach} (hb : seen.breach? i = some b) (st : σ) :
    (h.check seen i).outcome st = (.error (.contract h.name b), ((h.note .breached).run st).2) := by
  unfold check
  rw [hb]
  rfl

theorem outcome_check_unhashable (hb : seen.breach? (.row r) = none)
    (hid : r.id.isIdentity = false) (st : σ) :
    (h.check seen (.row r)).outcome st = (.error (.unhashable r.id.kindName), st) := by
  simp only [check, hb, hid]
  rfl

theorem outcome_check_row (hb : seen.breach? (.row r) = none) (hid : r.id.isIdentity = true)
    (st : σ) : (h.check seen (.row r)).outcome st =
      (.ok (r, seen.add r), ((h.note .scanned).run st).2) := by
  simp only [check, hb, hid]
  rfl

/-- The failure at an item that is not taken, behind a number of rows. -/
def faultOf (name : String) (count : Nat) : Item → Error
  | .claim _ => .contract name (.claim (.late count))
  | .other v => .contract name (.notRow count v.kindName)
  | .row r =>
    if r.id.isIdentity then .contract name (.repeatedId count (Seen.shownId r.id))
    else .unhashable r.id.kindName

/-- How many breaches of the contract a failure reports. -/
def breaches : Option Error → Nat
  | some (.contract ..) => 1
  | _ => 0

theorem faultOf_breach {i : Item} {b : Breach} (hb : seen.breach? i = some b) (name : String) :
    faultOf name seen.count i = .contract name b := by
  cases i with
  | claim c | other v =>
    obtain rfl := Option.some.inj hb
    rfl
  | row r =>
    unfold Seen.breach? at hb
    dsimp only at hb
    split at hb
    · rename_i hany
      obtain ⟨id, -, hsame⟩ := List.any_eq_true.mp hany
      obtain rfl := Option.some.inj hb
      rw [faultOf, if_pos (Value.isIdentity_of_same hsame)]
    · cases hb

/-! ## §B — all that is taken -/

/-- **Taking all rows of a table** that pass the check, with the failure that ended it; `first` is an
item that has been pulled already. -/
def drain (h : Host σ) : Nat → Option Item → Seen → StateM σ (List Row × Option Error)
  | 0, _, _ => return ([], some .unfinished)
  | patience + 1, first, seen => do
    match ← Run.attempt (h.row? first seen) with
    | .error e => return ([], some e)
    | .ok none => return ([], none)
    | .ok (some (r, seen)) =>
      let (rows, e) ← h.drain patience none seen
      return (r :: rows, e)

theorem run_drain (fuel : Nat) (first : Option Item) (seen : Seen) (st : σ) :
    (h.drain (fuel + 1) first seen).run st =
      match (h.row? first seen).outcome st with
      | (.error e, st) => (([], some e), st)
      | (.ok none, st) => (([], none), st)
      | (.ok (some (r, seen)), st) =>
        let rest := (h.drain fuel none seen).run st
        ((r :: rest.1.1, rest.1.2), rest.2) := by
  rw [drain, StateT.run_bind, attempt]
  unfold outcome
  rcases (h.row? first seen).run.run st with ⟨e | _ | ⟨r, seen'⟩, st'⟩ <;> rfl

/-- **A reading that is believed to yield its result** gathers what is taken, or fails where the
taking stops. -/
theorem gather_trusted (s : Select) (fuel : Nat) (first : Option Item) (seen : Seen) (st : σ) :
    (h.gather s true fuel first seen).outcome st =
      let taken := (h.drain fuel first seen).run st
      (taken.1.2.elim (.ok taken.1.1) .error, taken.2) := by
  induction fuel generalizing first seen st with
  | zero => rfl
  | succ fuel ih =>
    rw [gather, outcome_bind, run_drain]
    rcases (h.row? first seen).outcome st with ⟨e | _ | ⟨r, seen'⟩, st'⟩
    · rfl
    · rfl
    · rw [resume_ok]
      have hadmits : (h.admits true s r).outcome st' = (.ok true, st') := rfl
      rw [outcome_bind, hadmits, resume_ok, if_pos rfl, outcome_bind, ih]
      dsimp only
      rcases (h.drain fuel none seen').run st' with ⟨⟨rows, _ | e⟩, st''⟩ <;> rfl

/-! ## §C — where it stops -/

/-- **What is taken of some items** behind rows that were seen: the longest stretch of rows that pass
the check, and the failure at the item behind it, if there is one. -/
structure Drained (name : String) (seen : Seen) (items : List Item) (rows : List Row)
    (fault : Option Error) : Prop where
  fresh : Fresh seen rows
  leading : rows.map .row <+: items
  longest : ∀ others, Fresh seen others → others.map .row <+: items → others.length ≤ rows.length
  fault_eq : fault = items[rows.length]?.map (faultOf name (seen.count + rows.length))

/-- Nothing is taken where an item does not pass the check. -/
theorem Drained.stop {name : String} {i : Item} {items : List Item} {e : Error}
    (hstop : ∀ r, i = .row r → ¬ Fresh seen [r]) (hfault : faultOf name seen.count i = e) :
    Drained name seen (i :: items) [] (some e) where
  fresh := ⟨nofun, nofun, .nil⟩
  leading := List.nil_prefix
  longest := by
    intro others hothers hleading
    rcases others with _ | ⟨r, others⟩
    · exact Nat.le_refl 0
    · have hi : Item.row r = i := (List.cons_prefix_cons.mp hleading).1
      refine absurd ⟨?_, ?_, List.pairwise_singleton ..⟩ (hstop r hi.symm)
      · exact fun q hq => hothers.identity q (List.mem_singleton.mp hq ▸ List.mem_cons_self)
      · exact fun q hq => hothers.unseen q (List.mem_singleton.mp hq ▸ List.mem_cons_self)
  fault_eq := congrArg some hfault.symm

/-- A row that passes the check is taken before what is taken behind it. -/
theorem Drained.cons {name : String} {items : List Item} {rows : List Row} {fault : Option Error}
    (hb : seen.breach? (.row r) = none) (hid : r.id.isIdentity = true)
    (hrest : Drained name (seen.add r) items rows fault) :
    Drained name seen (.row r :: items) (r :: rows) fault where
  fresh := hrest.fresh.cons hb hid
  leading := List.cons_prefix_cons.mpr ⟨rfl, hrest.leading⟩
  longest := by
    intro others hothers hleading
    rcases others with _ | ⟨q, others⟩
    · exact Nat.zero_le _
    · obtain ⟨hq, hbehind⟩ := List.cons_prefix_cons.mp hleading
      obtain rfl := Item.row.inj hq
      exact Nat.succ_le_succ (hrest.longest others hothers.tail hbehind)
  fault_eq := by
    rw [hrest.fault_eq, List.length_cons, List.getElem?_cons_succ]
    exact congrArg (fun n => Option.map (faultOf name n) _) (Nat.add_right_comm ..)

/-- **Tallying** — what a host pulls are the items that are to come, and its remarks are counted:
`scanned` rows and `breached` contracts. -/
structure Tallies (h : Host σ) (coming : List Item → Nat → Nat → σ → Prop) : Prop where
  pull_item (i : Item) (items : List Item) (scanned breached : Nat) :
    Leads (coming (i :: items) scanned breached) h.pull (.ok (some i))
      (coming items scanned breached)
  pull_done (scanned breached : Nat) :
    Leads (coming [] scanned breached) h.pull (.ok none) (coming [] scanned breached)
  scan {items : List Item} {scanned breached : Nat} {st : σ} :
    coming items scanned breached st →
      coming items (scanned + 1) breached ((h.note .scanned).run st).2
  breach {items : List Item} {scanned breached : Nat} {st : σ} :
    coming items scanned breached st →
      coming items scanned (breached + 1) ((h.note .breached).run st).2

section
variable {coming : List Item → Nat → Nat → σ → Prop} {rows : List Row} {fault : Option Error}

/-- Taking all rows comes to these rows and this failure, and has each of them counted. -/
def ComesTo (h : Host σ) (coming : List Item → Nat → Nat → σ → Prop) (fuel : Nat)
    (first : Option Item) (seen : Seen) (before : Nat → Nat → σ → Prop) (rows : List Row)
    (fault : Option Error) : Prop :=
  ∀ scanned breached st, before scanned breached st →
    ((h.drain fuel first seen).run st).1 = (rows, fault) ∧
      ∃ left, coming left (scanned + rows.length) (breached + breaches fault)
        ((h.drain fuel first seen).run st).2

/-- An item that is at hand is checked, and then the others are taken. -/
theorem Tallies.drain_item (ht : h.Tallies coming) {items : List Item} {fuel : Nat}
    (hrest : ∀ seen, ∃ rows fault, Drained h.name seen items rows fault ∧
      h.ComesTo coming fuel none seen (coming items) rows fault) (i : Item) (seen : Seen)
    {first : Option Item} {before : Nat → Nat → σ → Prop}
    (hfirst : ∀ scanned breached st, before scanned breached st →
      ∃ st', (h.row? first seen).outcome st = (some <$> h.check seen i).outcome st' ∧
        coming items scanned breached st') :
    ∃ rows fault, Drained h.name seen (i :: items) rows fault ∧
      h.ComesTo coming (fuel + 1) first seen before rows fault := by
  -- The three ways a check can go; what is counted hangs on which one it is.
  rcases hb : seen.breach? i with _ | b
  · obtain ⟨r, rfl⟩ : ∃ r, i = .row r := by
      cases i with
      | row r => exact ⟨r, rfl⟩
      | claim c | other v => cases hb
    rcases hid : r.id.isIdentity with _ | _
    · refine ⟨[], some (.unhashable r.id.kindName), .stop ?_ (by rw [faultOf, hid]; rfl), ?_⟩
      · intro q hq hfresh
        obtain rfl := Item.row.inj hq
        exact Bool.false_ne_true (hid.symm.trans (hfresh.identity r List.mem_cons_self))
      · intro scanned breached st hst
        obtain ⟨st', hrow, hst'⟩ := hfirst scanned breached st hst
        rw [run_drain, hrow, outcome_map, outcome_check_unhashable hb hid]
        exact ⟨rfl, items, hst'⟩
    · obtain ⟨rows, fault, hdrained, hcomes⟩ := hrest (seen.add r)
      refine ⟨r :: rows, fault, hdrained.cons hb hid, fun scanned breached st hst => ?_⟩
      obtain ⟨st', hrow, hst'⟩ := hfirst scanned breached st hst
      obtain ⟨hanswer, left, hleft⟩ := hcomes _ _ _ (ht.scan hst')
      rw [run_drain, hrow, outcome_map, outcome_check_row hb hid]
      refine ⟨congrArg (fun p : List Row × Option Error => (r :: p.1, p.2)) hanswer, left, ?_⟩
      rw [List.length_cons, Nat.add_comm rows.length 1, ← Nat.add_assoc]
      exact hleft
  · refine ⟨[], some (.contract h.name b), .stop ?_ (faultOf_breach hb h.name), ?_⟩
    · rintro r rfl hfresh
      exact Option.some_ne_none b (hb.symm.trans hfresh.head)
    · intro scanned breached st hst
      obtain ⟨st', hrow, hst'⟩ := hfirst scanned breached st hst
      rw [run_drain, hrow, outcome_map, outcome_check_breach hb]
      exact ⟨rfl, items, ht.breach hst'⟩

/-- **All that is taken** of the items to come is the longest stretch that keeps the contract, and the
failure is that at the item behind it. -/
theorem Tallies.drain (ht : h.Tallies coming) {items : List Item} {fuel : Nat}
    (hfuel : items.length < fuel) (seen : Seen) :
    ∃ rows fault, Drained h.name seen items rows fault ∧
      h.ComesTo coming fuel none seen (coming items) rows fault := by
  obtain ⟨fuel, rfl⟩ := Nat.exists_eq_succ_of_ne_zero (Nat.ne_zero_of_lt hfuel)
  induction items generalizing seen fuel with
  | nil =>
    refine ⟨[], none, ⟨⟨nofun, nofun, .nil⟩, List.nil_prefix, ?_, rfl⟩, ?_⟩
    · intro others _ hleading
      rw [List.map_eq_nil_iff.mp (List.prefix_nil.mp hleading)]
    · intro scanned breached st hst
      obtain ⟨hpull, hafter⟩ := ht.pull_done scanned breached st hst
      have hrow : (h.row? none seen).outcome st = (.ok none, (h.pull.outcome st).2) := by
        rw [row?, outcome_bind, show h.pull.outcome st = (.ok none, _) from Prod.ext hpull rfl]
        rfl
      rw [run_drain, hrow]
      exact ⟨rfl, [], hafter⟩
  | cons i items ih =>
    obtain ⟨fuel, rfl⟩ := Nat.exists_eq_succ_of_ne_zero
      (Nat.ne_zero_of_lt (Nat.lt_of_succ_lt_succ hfuel))
    refine ht.drain_item (fun seen => ih seen fuel (Nat.lt_of_succ_lt_succ hfuel)) i seen ?_
    intro scanned breached st hst
    obtain ⟨hpull, hafter⟩ := ht.pull_item i items scanned breached st hst
    refine ⟨(h.pull.outcome st).2, ?_, hafter⟩
    -- The item is pulled first; whether it is taken is for the check.
    rw [row?, outcome_bind, show h.pull.outcome st = (.ok (some i), _) from Prod.ext hpull rfl]
    rfl

/-- The same when the first of the items has been pulled already. -/
theorem Tallies.drain_from (ht : h.Tallies coming) {items : List Item} (first : Option Item)
    {fuel : Nat} (hfuel : (first.toList ++ items).length < fuel) (seen : Seen) :
    ∃ rows fault, Drained h.name seen (first.toList ++ items) rows fault ∧
      h.ComesTo coming fuel first seen (coming items) rows fault := by
  cases first with
  | none => exact ht.drain hfuel seen
  | some i =>
    obtain ⟨fuel, rfl⟩ := Nat.exists_eq_succ_of_ne_zero (Nat.ne_zero_of_lt hfuel)
    exact ht.drain_item (fun seen => ht.drain (Nat.lt_of_succ_lt_succ hfuel) seen) i seen
      fun _ _ st hst => ⟨st, rfl, hst⟩

end

/-! ## §D — no id twice -/

/-- Rows that no two have one identity. -/
def Distinct (rows : List Row) : Prop := rows.Pairwise fun a b => a.id.same b.id = false

theorem Distinct.perm {rows others : List Row} (h : Distinct rows) (hperm : rows.Perm others) :
    Distinct others :=
  hperm.pairwise h fun {a b} hab => (Value.same_comm b.id a.id).trans hab

/-- A row that is not among those that were seen. -/
def Seen.Lacks (seen : Seen) (r : Row) : Prop := ∀ id ∈ seen.ids, id.same r.id = false

/-- A checked row was not seen before, and is seen from then on. -/
theorem row_answer {first : Option Item} (ha : MayAnswer (h.row? first seen) (some (r, seen'))) :
    Fresh seen [r] ∧ seen' = seen.add r := by
  obtain ⟨st, st', hout⟩ := ha
  rcases of_row_eq_ok hout with ⟨-, hnone, -⟩ | ⟨q, -, -, hb, hid, hfound, -⟩
  · cases hnone
  · obtain ⟨rfl, rfl⟩ := Prod.mk.inj (Option.some.inj hfound)
    exact ⟨Fresh.cons hb hid ⟨nofun, nofun, .nil⟩, rfl⟩

/-- What passes the check behind one more row passes it without that row. -/
theorem Fresh.of_add {rows : List Row} (hfresh : Fresh (seen.add r) rows) : Fresh seen rows :=
  ⟨hfresh.identity, fun q hq id hid => hfresh.unseen q hq id (List.mem_cons_of_mem _ hid),
    hfresh.distinct⟩

/-- **Gathered rows** have passed the check. -/
theorem gather_answer {trusted : Bool} {fuel : Nat} {first : Option Item} {rows : List Row}
    (ha : MayAnswer (h.gather s trusted fuel first seen) rows) : Fresh seen rows := by
  induction fuel generalizing first seen rows with
  | zero => obtain ⟨_, _, hout⟩ := ha; cases hout
  | succ fuel ih =>
    obtain ⟨found, hrow, ha⟩ := ha.of_bind
    rcases found with _ | ⟨r, seen'⟩
    · obtain rfl := ha.of_pure
      exact ⟨nofun, nofun, .nil⟩
    · obtain ⟨hr, rfl⟩ := row_answer hrow
      obtain ⟨admits, -, ha⟩ := ha.of_bind
      cases admits with
      | false => exact (ih ha).of_add
      | true =>
        obtain ⟨others, hgather, ha⟩ := ha.of_bind
        obtain rfl := ha.of_pure
        have hbehind := ih hgather
        exact hbehind.cons hr.head (hr.identity r List.mem_cons_self)

/-- A row that is sought was not seen before, and is seen from then on. -/
theorem seek_answer {trusted : Bool} {fuel skip : Nat} {first : Option Item}
    (ha : MayAnswer (h.seek s trusted fuel first seen skip) (some (r, seen'))) :
    Seen.Lacks seen r ∧ r.id ∈ seen'.ids ∧ seen.ids ⊆ seen'.ids := by
  induction fuel generalizing first seen skip with
  | zero => obtain ⟨_, _, hout⟩ := ha; cases hout
  | succ fuel ih =>
    obtain ⟨found, hrow, ha⟩ := ha.of_bind
    rcases found with _ | ⟨q, known⟩
    · exact nomatch ha.of_pure
    · obtain ⟨hq, rfl⟩ := row_answer hrow
      obtain ⟨admits, -, ha⟩ := ha.of_bind
      -- A row that is passed over has been seen as well.
      have hover : ∀ {skip}, MayAnswer (h.seek s trusted fuel none (seen.add q) skip)
          (some (r, seen')) → Seen.Lacks seen r ∧ r.id ∈ seen'.ids ∧ seen.ids ⊆ seen'.ids := by
        intro skip ha
        obtain ⟨hlacks, hmem, hsub⟩ := ih ha
        exact ⟨fun id hid => hlacks id (List.mem_cons_of_mem _ hid), hmem,
          fun id hid => hsub (List.mem_cons_of_mem _ hid)⟩
      cases admits with
      | false => exact hover ha
      | true =>
        cases skip with
        | succ skip => exact hover ha
        | zero =>
          obtain ⟨rfl, rfl⟩ := Prod.mk.inj (Option.some.inj ha.of_pure)
          exact ⟨hq.unseen q List.mem_cons_self, List.mem_cons_self,
            fun id hid => List.mem_cons_of_mem _ hid⟩

theorem slice_sublist (p : Plan) (rows : List Row) : (slice p rows).Sublist rows := by
  unfold slice
  split
  · exact List.drop_sublist ..
  · exact (List.take_sublist ..).trans (List.drop_sublist ..)

/-- The rows that are ready at a stage have identities of their own. -/
def Stage.Sound : Stage → Prop
  | .emitting rows => Distinct rows
  | _ => True

/-- A row that may still be answered at a stage. -/
def Stage.Allows : Stage → Row → Prop
  | .streaming _ seen _, r => Seen.Lacks seen r
  | .emitting rows, r => r ∈ rows
  | _, _ => True

/-- **A step of a reading** that answers a row: it was allowed, and from then on only others of it
are. -/
structure Stage.Answers (stage : Stage) (r : Row) (stage' : Stage) : Prop where
  allowed : stage.Allows r
  sound : stage'.Sound
  others : ∀ q, stage'.Allows q → stage.Allows q ∧ r.id.same q.id = false

theorem stream_answer {p : Plan} {first : Option Item} {skip emitted : Nat} {stage' : Stage}
    (ha : MayAnswer (h.stream s p first seen skip emitted) (some (r, stage'))) (count : Nat) :
    (Stage.streaming p seen count).Answers r stage' := by
  unfold Host.stream at ha
  split at ha
  · exact nomatch ha.of_pure
  · obtain ⟨fuel, -, ha⟩ := ha.of_bind
    obtain ⟨found, hseek, ha⟩ := ha.of_bind
    rcases found with _ | ⟨q, known⟩
    · exact nomatch ha.of_pure
    · obtain ⟨rfl, rfl⟩ := Prod.mk.inj (Option.some.inj ha.of_pure)
      obtain ⟨hlacks, hmem, hsub⟩ := seek_answer hseek
      exact ⟨hlacks, trivial, fun q hq => ⟨fun id hid => hq id (hsub hid), hq _ hmem⟩⟩

theorem emit_answer {rows : List Row} {stage' : Stage} (hrows : Distinct rows)
    (ha : emit rows = some (r, stage')) : (Stage.emitting rows).Answers r stage' := by
  rcases rows with _ | ⟨q, rows⟩
  · cases ha
  · obtain ⟨rfl, rfl⟩ := Prod.mk.inj (Option.some.inj ha)
    obtain ⟨hfirst, hrest⟩ := List.pairwise_cons.mp hrows
    exact ⟨List.mem_cons_self, hrest, fun d hd => ⟨List.mem_cons_of_mem _ hd, hfirst d hd⟩⟩

/-- The stage before the first row allows every row. -/
theorem Stage.Answers.fresh {stage stage' : Stage} (ha : stage.Answers r stage') :
    Stage.fresh.Answers r stage' :=
  ⟨trivial, ha.sound, fun q hq => ⟨trivial, (ha.others q hq).2⟩⟩

theorem follow_answer {terms : List SortTerm} {first : Option Item} {p : Plan} {stage' : Stage}
    (ha : MayAnswer (h.follow s terms first p) (some (r, stage'))) :
    Stage.fresh.Answers r stage' := by
  unfold Host.follow at ha
  split at ha
  · exact (stream_answer ha 0).fresh
  · obtain ⟨fuel, -, ha⟩ := ha.of_bind
    obtain ⟨rows, hgather, ha⟩ := ha.of_bind
    obtain ⟨sorted, hsort, ha⟩ := ha.of_bind
    have hsorted : Distinct sorted := Distinct.perm (gather_answer hgather).distinct
      (perm_of_sortRows hsort).symm
    exact (emit_answer (hsorted.sublist (slice_sublist p sorted)) ha.of_pure).fresh

/-- **One step** of a reading for rows. -/
theorem advance_answer {stage stage' : Stage} (hstage : stage.Sound)
    (ha : MayAnswer (h.advance s stage) (some (r, stage'))) : stage.Answers r stage' := by
  cases stage with
  | fresh =>
    rw [advance_fresh] at ha
    obtain ⟨found, -, ha⟩ := ha.of_bind
    obtain ⟨-, -, ha⟩ := ha.of_bind
    rw [begin_eq] at ha
    obtain ⟨item, -, ha⟩ := ha.of_bind
    obtain ⟨p, -, ha⟩ := ha.of_bind
    exact follow_answer ha
  | streaming p seen emitted => exact stream_answer ha emitted
  | emitting rows => exact emit_answer hstage ha.of_pure
  | finished => exact nomatch ha.of_pure

/-- **A whole reading** answers rows with identities of their own, however many are asked for. -/
theorem distinct_collect (fuel : Nat) {stage : Stage} (hstage : stage.Sound) (st : σ) :
    Distinct ((collect (h.nextRow s) fuel stage).run st).1.1 ∧
      ∀ r ∈ ((collect (h.nextRow s) fuel stage).run st).1.1, stage.Allows r := by
  induction fuel generalizing stage st with
  | zero => exact ⟨.nil, nofun⟩
  | succ fuel ih =>
    rw [run_collect]
    rcases hout : (h.nextRow s stage).outcome st with ⟨e | _ | ⟨r, stage'⟩, t⟩
    · exact ⟨.nil, nofun⟩
    · exact ⟨.nil, nofun⟩
    · have hstep := advance_answer hstage (concluding_answer ⟨st, t, hout⟩)
      obtain ⟨hdistinct, hallowed⟩ := ih hstep.sound t
      refine ⟨List.pairwise_cons.mpr ⟨?_, hdistinct⟩, List.forall_mem_cons.mpr ⟨hstep.allowed, ?_⟩⟩
      · exact fun q hq => (hstep.others q (hallowed q hq)).2
      · exact fun q hq => (hstep.others q (hallowed q hq)).1

/-- No two rows of a result have one id. -/
theorem distinct_rows (h : Host σ) (s : Select) (st : σ) : Distinct ((h.rows s).run st).1.1 := by
  rw [rows, StateT.run_bind]
  exact (@distinct_collect σ h s (h.patience.run st).1 .fresh trivial _).1

/-- No id stands twice among the ids of the rows that satisfy a condition. -/
theorem distinct_matchingIds {ids : List Value} (ha : MayAnswer (h.matchingIds s) ids) :
    ids.Pairwise fun v w => v.same w = false := by
  obtain ⟨-, -, st, st', hout⟩ := ha.of_bind
  obtain ⟨t, hbody, -⟩ := outcome_ensuring_eq_ok.mp hout
  obtain ⟨item, -, ha⟩ := MayAnswer.of_bind ⟨st, t, hbody⟩
  obtain ⟨first, -, ha⟩ := ha.of_bind
  obtain ⟨fuel, -, ha⟩ := ha.of_bind
  obtain ⟨rows, hgather, ha⟩ := ha.of_bind
  obtain rfl := ha.of_pure
  exact List.pairwise_map.mpr (gather_answer hgather).distinct

end Host
end TableQuery
