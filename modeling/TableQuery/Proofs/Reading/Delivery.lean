/-
# TableQuery.Proofs.Reading.Delivery — the two strategies deliver the rows of a feed.

A feed is a host whose items are known in advance: `coming items` says of a state which items are
still to come.  An offer is one whose first items are known, and nothing is known of what follows.
Streaming passes over rows one by one and stops at the limit; gathering takes all of them, sorts and
cuts.  `Host.Due` says which rows a SELECT still has to deliver at a stage, and `advance_due` that asking
for the next row delivers the first of them and leaves the others due.  So both strategies deliver a
list that is known before either has begun.

## §A — offers and feeds.
## §B — checked rows.
## §C — gathering and seeking.
## §D — the rows that are due.
## §E — the rows as they are shown.
## §F — rows or a failure.
-/
import TableQuery.Proofs.Reading.Determined
import TableQuery.Proofs.Reading.Planning

namespace TableQuery
namespace Host

open Run

variable {σ : Type}

/-! ## §A — offers and feeds -/

/-- **An offer** — a host that comes to the items that were said to come, whatever it comes to behind
them, and whose remarks change nothing in that. -/
structure Offers (h : Host σ) (coming : List Item → σ → Prop) (patience : Nat) : Prop where
  pull_item (i : Item) (items : List Item) :
    Leads (coming (i :: items)) h.pull (.ok (some i)) (coming items)
  note (remark : Remark) (items : List Item) (st : σ) :
    coming items st → coming items ((h.note remark).run st).2
  patience_eq (items : List Item) (st : σ) :
    coming items st → ((h.patience).run st).1 = patience ∧ coming items ((h.patience).run st).2

/-- **A feed** — a host that comes to the items that were said to come, and to its end behind
them. -/
structure Feeds (h : Host σ) (coming : List Item → σ → Prop) (patience : Nat) : Prop
    extends h.Offers coming patience where
  pull_done : Leads (coming []) h.pull (.ok none) (coming [])

/-- A remark answers nothing and keeps what is to come. -/
theorem Offers.leads_note {h : Host σ} {coming : List Item → σ → Prop} {patience : Nat}
    (ho : h.Offers coming patience) (remark : Remark) (items : List Item) :
    Leads (coming items) (liftM (h.note remark)) (.ok ()) (coming items) :=
  fun st hst => ⟨rfl, ho.note remark items st hst⟩

theorem Offers.leads_patience {h : Host σ} {coming : List Item → σ → Prop} {patience : Nat}
    (ho : h.Offers coming patience) (items : List Item) :
    Leads (coming items) (liftM h.patience) (.ok patience) (coming items) := by
  intro st hst
  obtain ⟨hanswer, hcoming⟩ := ho.patience_eq items st hst
  exact ⟨by simp [hanswer], hcoming⟩

/-! ## §B — checked rows -/

/-- Rows that pass the check behind the rows that were seen: each has an identity, and no identity
is met twice. -/
structure Fresh (seen : Seen) (rows : List Row) : Prop where
  identity : ∀ r ∈ rows, r.id.isIdentity = true
  unseen : ∀ r ∈ rows, ∀ id ∈ seen.ids, id.same r.id = false
  distinct : rows.Pairwise fun a b => a.id.same b.id = false

theorem Fresh.head {seen : Seen} {r : Row} {rows : List Row} (h : Fresh seen (r :: rows)) :
    seen.breach? (.row r) = none := by
  have hany : seen.ids.any (·.same r.id) = false := by
    rw [List.any_eq_false]
    intro id hid
    simp [h.unseen r List.mem_cons_self id hid]
  simp [Seen.breach?, hany]

theorem Fresh.tail {seen : Seen} {r : Row} {rows : List Row} (h : Fresh seen (r :: rows)) :
    Fresh (seen.add r) rows := by
  refine ⟨fun q hq => h.identity q (List.mem_cons_of_mem r hq), ?_, h.distinct.tail⟩
  intro q hq id hid
  rcases List.mem_cons.mp hid with rfl | hid
  · exact List.rel_of_pairwise_cons h.distinct hq
  · exact h.unseen q (List.mem_cons_of_mem r hq) id hid

/-- Distinct identities pass the check from the start. -/
theorem fresh_of_distinct {rows : List Row} (hid : ∀ r ∈ rows, r.id.isIdentity = true)
    (hdistinct : rows.Pairwise fun a b => a.id.same b.id = false) : Fresh {} rows :=
  ⟨hid, fun _ _ _ hmem => absurd hmem List.not_mem_nil, hdistinct⟩

section Feeding
variable {h : Host σ} {coming : List Item → σ → Prop} {patience : Nat}

/-- A fresh row passes the check. -/
theorem Offers.leads_check (ho : h.Offers coming patience) {seen : Seen} {r : Row} {rows : List Row}
    (hfresh : Fresh seen (r :: rows)) (items : List Item) :
    Leads (coming items) (h.check seen (.row r)) (.ok (r, seen.add r)) (coming items) := by
  have hid : r.id.isIdentity = true := hfresh.identity r List.mem_cons_self
  simp only [check, hfresh.head, hid, Bool.not_true, Bool.false_eq_true, if_false]
  exact (ho.leads_note .scanned items).bind (leads_pure _)

/-- What is to come while `first` has been pulled already. -/
def held (first : Option Item) (rows : List Row) (items : List Item) : Prop :=
  first.toList ++ items = rows.map .row

/-- Nothing has been pulled in advance once the reading goes on. -/
theorem held_rest (rows : List Row) : held none rows (rows.map .row) := rfl

/-- At the end there is no further row. -/
theorem Feeds.leads_row_none (hf : h.Feeds coming patience) {first : Option Item}
    {items : List Item} (hheld : held first [] items) (seen : Seen) :
    Leads (coming items) (h.row? first seen) (.ok none) (coming []) := by
  obtain ⟨hfirst, rfl⟩ := List.append_eq_nil_iff.mp hheld
  obtain rfl : first = none := by
    cases first <;> first | rfl | cases hfirst
  exact hf.pull_done.bind (leads_pure none)

/-- The next row is the first of those that are to come. -/
theorem Offers.leads_row_some (ho : h.Offers coming patience) {first : Option Item} {r : Row}
    {rows : List Row} {items : List Item} (hheld : held first (r :: rows) items) {seen : Seen}
    (hfresh : Fresh seen (r :: rows)) :
    Leads (coming items) (h.row? first seen) (.ok (some (r, seen.add r)))
      (coming (rows.map .row)) := by
  cases first with
  | none =>
      obtain rfl : items = .row r :: rows.map .row := hheld
      exact (ho.pull_item _ _).bind ((ho.leads_check hfresh _).map some)
  | some i =>
      obtain ⟨rfl, rfl⟩ := List.cons_eq_cons.mp hheld
      exact (leads_pure _).bind ((ho.leads_check hfresh _).map some)

/-! ## §C — gathering and seeking -/

/-- The verdicts on some rows, the same whenever they are asked for; a table that is trusted is
believed that all its rows belong to the result. -/
def Verdicts (h : Host σ) (coming : List Item → σ → Prop) (trusted : Bool) (s : Select)
    (rows : List Row) (verdict : Row → Except Error Bool) : Prop :=
  ∀ r ∈ rows, Settles coming (h.admits trusted s r) (verdict r)

theorem Verdicts.tail {trusted : Bool} {s : Select} {r : Row} {rows : List Row}
    {verdict : Row → Except Error Bool} (hv : h.Verdicts coming trusted s (r :: rows) verdict) :
    h.Verdicts coming trusted s rows verdict :=
  fun q hq => hv q (List.mem_cons_of_mem r hq)

theorem Verdicts.leads {trusted : Bool} {s : Select} {r : Row} {rows : List Row}
    {verdict : Row → Except Error Bool} (hv : h.Verdicts coming trusted s (r :: rows) verdict)
    (items : List Item) :
    Leads (coming items) (h.admits trusted s r) (verdict r) (coming items) :=
  hv r List.mem_cons_self items

/-- All rows of a table that is trusted are admitted. -/
theorem verdicts_trusted (s : Select) (rows : List Row) :
    h.Verdicts coming true s rows fun _ => .ok true :=
  fun _ _ _ => leads_pure true

/-- The verdicts of a condition on some rows, the same whenever they are asked for. -/
def Judges (h : Host σ) (coming : List Item → σ → Prop) (s : Select) (rows : List Row)
    (verdict : Row → Except Error Bool) : Prop :=
  ∀ r ∈ rows, Settles coming (h.evaluator.holds r.columns [1] s.condition) (verdict r)

/-- A table that is not trusted is asked for the condition. -/
theorem Judges.verdicts {s : Select} {rows : List Row} {verdict : Row → Except Error Bool}
    (hj : h.Judges coming s rows verdict) : h.Verdicts coming false s rows verdict :=
  hj

/-- Whether the rows are admitted as `keep` says, whenever they are asked about. -/
def Admits (h : Host σ) (coming : List Item → σ → Prop) (s : Select) (rows : List Row)
    (keep : Row → Bool) : Prop :=
  ∀ r ∈ rows, Settles coming (h.evaluator.holds r.columns [1] s.condition) (.ok (keep r))

theorem Admits.verdicts {s : Select} {rows : List Row} {keep : Row → Bool}
    (ha : h.Admits coming s rows keep) :
    h.Verdicts coming false s rows fun r => .ok (keep r) :=
  ha

/-- The rows that a verdict admits, as far as there is one on every row. -/
def sift (verdict : Row → Except Error Bool) : List Row → Except Error (List Row)
  | [] => .ok []
  | r :: rows => do
    if ← verdict r then return r :: (← sift verdict rows)
    else sift verdict rows

theorem sift_congr {verdict verdict' : Row → Except Error Bool} {rows : List Row}
    (h : ∀ r ∈ rows, verdict r = verdict' r) : sift verdict rows = sift verdict' rows := by
  induction rows with
  | nil => rfl
  | cons r rows ih =>
      rw [sift, sift, h r List.mem_cons_self, ih fun q hq => h q (List.mem_cons_of_mem r hq)]

theorem sift_ok (keep : Row → Bool) (rows : List Row) :
    sift (fun r => .ok (keep r)) rows = .ok (rows.filter keep) := by
  induction rows with
  | nil => rfl
  | cons r rows ih =>
      show (if keep r then _ else _) = _
      rw [ih]
      cases hkeep : keep r
      · rw [List.filter_cons_of_neg (by simp [hkeep])]
        rfl
      · rw [List.filter_cons_of_pos hkeep]
        rfl

/-- What is sifted are the rows on which the verdict is that they are admitted, and there is a
verdict on every row. -/
theorem of_sift_eq_ok {verdict : Row → Except Error Bool} {rows admitted : List Row}
    (h : sift verdict rows = .ok admitted) :
    ∃ keep : Row → Bool, (∀ r ∈ rows, verdict r = .ok (keep r)) ∧ admitted = rows.filter keep := by
  have hall : ∀ r ∈ rows, ∃ b, verdict r = .ok b := by
    induction rows generalizing admitted with
    | nil => exact fun _ hr => absurd hr List.not_mem_nil
    | cons r rows ih =>
        rw [sift] at h
        rcases hverdict : verdict r with e | b
        · rw [hverdict] at h
          cases h
        · obtain ⟨rest, hrest⟩ : ∃ rest, sift verdict rows = .ok rest := by
            rcases hrest : sift verdict rows with e | rest
            · rw [hverdict, hrest] at h
              cases b <;> cases h
            · exact ⟨rest, rfl⟩
          intro q hq
          rcases List.mem_cons.mp hq with rfl | hq
          · exact ⟨b, hverdict⟩
          · exact ih hrest q hq
  have hkeep : ∀ r ∈ rows, verdict r = .ok ((verdict r).toOption.getD false) := by
    intro r hr
    obtain ⟨b, hb⟩ := hall r hr
    rw [hb]
    rfl
  refine ⟨fun r => (verdict r).toOption.getD false, hkeep, ?_⟩
  rw [sift_congr hkeep, sift_ok] at h
  exact (Except.ok.inj h).symm

/-- **Gathering** comes to the rows that are sifted. -/
theorem Feeds.leads_gather (hf : h.Feeds coming patience) {trusted : Bool} {s : Select}
    {verdict : Row → Except Error Bool} {rows : List Row}
    (hv : h.Verdicts coming trusted s rows verdict) {first : Option Item} {items : List Item}
    (hheld : held first rows items) {seen : Seen}
    (hfresh : Fresh seen rows) {fuel : Nat} (hfuel : rows.length < fuel) :
    Leads (coming items) (h.gather s trusted fuel first seen) (sift verdict rows)
      fun st => ∃ left, coming left st := by
  -- On the rows that are to come.  An item may have been pulled before the first of them only, so
  -- `first` is general here and `none` in the hypothesis that is used.
  induction rows generalizing first items seen fuel with
  | nil =>
      obtain ⟨fuel, rfl⟩ := Nat.exists_eq_succ_of_ne_zero (Nat.ne_of_gt hfuel)
      refine (hf.leads_row_none hheld seen).bind fun st hst => ?_
      exact ⟨rfl, [], hst⟩
  | cons r rows ih =>
      obtain ⟨fuel, rfl⟩ := Nat.exists_eq_succ_of_ne_zero (Nat.ne_zero_of_lt hfuel)
      have hrest := ih hv.tail (held_rest rows) hfresh.tail (Nat.lt_of_succ_lt_succ hfuel)
      have hverdict := hv.leads (rows.map .row)
      refine (hf.leads_row_some hheld hfresh).bind ?_
      rw [sift]
      rcases hanswer : verdict r with e | b
      · -- Sifting stops here, with the rest of the items still to come.
        rw [hanswer] at hverdict
        exact (Leads.bind_error hverdict).weaken fun st hst => ⟨_, hst⟩
      · rw [hanswer] at hverdict
        refine Leads.bind hverdict ?_
        cases b
        · exact hrest
        · rcases hs : sift verdict rows with e | rest
          · rw [hs] at hrest
            exact hrest.bind_error
          · rw [hs] at hrest
            exact hrest.bind (leads_pure _)

/-- **Seeking** finds nothing when no more than `skip` rows are admitted. -/
theorem Feeds.leads_seek_none (hf : h.Feeds coming patience) {trusted : Bool} {s : Select}
    {keep : Row → Bool} {rows : List Row}
    (hv : h.Verdicts coming trusted s rows fun r => .ok (keep r)) {first : Option Item}
    {items : List Item} (hheld : held first rows items) {seen : Seen} (hfresh : Fresh seen rows)
    {fuel : Nat}
    (hfuel : rows.length < fuel) {skip : Nat} (hskip : (rows.filter keep).drop skip = []) :
    Leads (coming items) (h.seek s trusted fuel first seen skip) (.ok none) (coming []) := by
  induction rows generalizing first items seen fuel skip with
  | nil =>
      obtain ⟨fuel, rfl⟩ := Nat.exists_eq_succ_of_ne_zero (Nat.ne_of_gt hfuel)
      exact (hf.leads_row_none hheld seen).bind (leads_pure none)
  | cons r rows ih =>
      obtain ⟨fuel, rfl⟩ := Nat.exists_eq_succ_of_ne_zero (Nat.ne_zero_of_lt hfuel)
      have hrest := fun skip => @ih hv.tail none _ (held_rest rows) _ hfresh.tail fuel
        (Nat.lt_of_succ_lt_succ hfuel) skip
      refine (hf.leads_row_some hheld hfresh).bind ((hv.leads _).bind ?_)
      cases hkeep : keep r
      · rw [List.filter_cons_of_neg (by simp [hkeep])] at hskip
        exact hrest skip hskip
      · rw [List.filter_cons_of_pos hkeep] at hskip
        cases skip with
        | zero => cases hskip
        | succ skip => exact hrest skip hskip

/-- **Seeking** finds the admitted row behind the first `skip` of them, and the others are still to
come. -/
theorem Offers.leads_seek_some (ho : h.Offers coming patience) {trusted : Bool} {s : Select}
    {keep : Row → Bool} {rows : List Row}
    (hv : h.Verdicts coming trusted s rows fun r => .ok (keep r)) {first : Option Item}
    {items : List Item} (hheld : held first rows items) {seen : Seen} (hfresh : Fresh seen rows)
    {fuel : Nat}
    (hfuel : rows.length < fuel) {skip : Nat} {found : Row} {others : List Row}
    (hskip : (rows.filter keep).drop skip = found :: others) :
    ∃ left seen', left <:+ rows ∧ Fresh seen' left ∧ left.filter keep = others ∧
      Leads (coming items) (h.seek s trusted fuel first seen skip) (.ok (some (found, seen')))
        (coming (left.map .row)) := by
  induction rows generalizing first items seen fuel skip with
  | nil => simp at hskip
  | cons r rows ih =>
      obtain ⟨fuel, rfl⟩ := Nat.exists_eq_succ_of_ne_zero (Nat.ne_zero_of_lt hfuel)
      have hrest := fun skip => @ih hv.tail none _ (held_rest rows) _ hfresh.tail fuel
        (Nat.lt_of_succ_lt_succ hfuel) skip
      -- The row is passed over when it is not admitted or still to be skipped, and found otherwise.
      cases hkeep : keep r
      · rw [List.filter_cons_of_neg (by simp [hkeep])] at hskip
        obtain ⟨left, seen', hleft, hfresh', hothers, hleads⟩ := hrest skip hskip
        refine ⟨left, seen', hleft.trans (List.suffix_cons r rows), hfresh', hothers, ?_⟩
        refine (ho.leads_row_some hheld hfresh).bind ((hv.leads _).bind ?_)
        rw [hkeep]
        exact hleads
      · rw [List.filter_cons_of_pos hkeep] at hskip
        cases skip with
        | zero =>
            obtain ⟨rfl, hothers⟩ := List.cons_eq_cons.mp hskip
            refine ⟨rows, seen.add r, List.suffix_cons r rows, hfresh.tail, hothers, ?_⟩
            refine (ho.leads_row_some hheld hfresh).bind ((hv.leads _).bind ?_)
            rw [hkeep]
            exact leads_pure _
        | succ skip =>
            obtain ⟨left, seen', hleft, hfresh', hothers, hleads⟩ := hrest skip hskip
            refine ⟨left, seen', hleft.trans (List.suffix_cons r rows), hfresh', hothers, ?_⟩
            refine (ho.leads_row_some hheld hfresh).bind ((hv.leads _).bind ?_)
            rw [hkeep]
            exact hleads

/-! ## §D — the rows that are due -/

/-- What LIMIT leaves of some rows when `emitted` were given before them. -/
def cut (limit : Option Nat) (emitted : Nat) (rows : List Row) : List Row :=
  match limit with
  | none => rows
  | some n => rows.take (n - emitted)

theorem cut_nil (limit : Option Nat) (emitted : Nat) : cut limit emitted [] = [] := by
  cases limit <;> simp [cut]

theorem cut_of_reached {limit : Option Nat} {emitted : Nat}
    (h : limit.any (· ≤ emitted) = true) (rows : List Row) : cut limit emitted rows = [] := by
  obtain ⟨n, rfl, hn⟩ := (Option.any_eq_true ..).mp h
  have hzero : n - emitted = 0 := Nat.sub_eq_zero_of_le (of_decide_eq_true hn)
  rw [cut, hzero, List.take_zero]

theorem cut_cons {limit : Option Nat} {emitted : Nat}
    (h : limit.any (· ≤ emitted) = false) (r : Row) (rows : List Row) :
    cut limit emitted (r :: rows) = r :: cut limit (emitted + 1) rows := by
  rcases limit with _ | n
  · rfl
  · have hn : n - emitted = (n - (emitted + 1)) + 1 := by
      simp at h
      omega
    rw [cut, hn, List.take_succ_cons, cut]

variable (h coming patience) in
/-- **The rows that are due** at a stage, and what is to come of the table then. -/
inductive Due (s : Select) (keep : Row → Bool) : Stage → List Row → (σ → Prop) → Prop where
  | streaming {p : Plan} {seen : Seen} {emitted : Nat} {left : List Row} :
      Fresh seen left → h.Verdicts coming p.trusted s left (fun r => .ok (keep r)) →
      left.length < patience →
      Due s keep (.streaming p seen emitted) (cut p.limit emitted (left.filter keep))
        (coming (left.map .row))
  | emitting (rows : List Row) :
      Due s keep (.emitting rows) rows fun st => ∃ items, coming items st


variable (h coming patience) in
/-- A request for a row answers the first row of a list, and the others are due after it. -/
def Delivers (s : Select) (keep : Row → Bool) (before : σ → Prop)
    (x : Run σ (Option (Row × Stage))) : List Row → Prop
  | [] => ∃ after, Leads before x (.ok none) after
  | r :: rest => ∃ stage after, Leads before x (.ok (some (r, stage))) after ∧
      h.Due coming patience s keep stage rest after

section
variable {s : Select} {keep : Row → Bool} {before between : σ → Prop} {rows : List Row}

theorem Delivers.bind {α : Type} {x : Run σ α} {a : α}
    {f : α → Run σ (Option (Row × Stage))} (hx : Leads before x (.ok a) between)
    (hf : h.Delivers coming patience s keep between (f a) rows) :
    h.Delivers coming patience s keep before (x >>= f) rows := by
  cases rows with
  | nil =>
      obtain ⟨after, hleads⟩ := hf
      exact ⟨after, hx.bind hleads⟩
  | cons r rest =>
      obtain ⟨stage, after, hleads, hdue⟩ := hf
      exact ⟨stage, after, hx.bind hleads, hdue⟩

/-- Rows that are ready are delivered. -/
theorem delivers_emit (rows : List Row) :
    h.Delivers coming patience s keep (fun st => ∃ items, coming items st) (pure (emit rows))
      rows := by
  cases rows with
  | nil => exact ⟨_, leads_pure none⟩
  | cons r rest => exact ⟨.emitting rest, _, leads_pure _, .emitting rest⟩

/-- A stream that has reached its limit takes nothing further. -/
theorem leads_stream_reached {p : Plan} {emitted : Nat}
    (hreached : p.limit.any (· ≤ emitted) = true) (first : Option Item) (seen : Seen) (skip : Nat) :
    Leads before (h.stream s p first seen skip emitted) (.ok none) before := by
  rw [stream, if_pos hreached]
  exact leads_pure none

/-- **A stream comes to** the first admitted row behind those that are skipped, whatever follows the
rows that are to come. -/
theorem Offers.leads_stream (ho : h.Offers coming patience) {p : Plan} {left : List Row}
    (hv : h.Verdicts coming p.trusted s left fun r => .ok (keep r)) {first : Option Item}
    {items : List Item} (hheld : held first left items) {seen : Seen} (hfresh : Fresh seen left)
    (hlength : left.length < patience) {skip emitted : Nat}
    (hlimit : ¬p.limit.any (· ≤ emitted) = true) {found : Row} {others : List Row}
    (hskip : (left.filter keep).drop skip = found :: others) :
    ∃ left' seen', left' <:+ left ∧ Fresh seen' left' ∧ left'.filter keep = others ∧
      Leads (coming items) (h.stream s p first seen skip emitted)
        (.ok (some (found, .streaming p seen' (emitted + 1)))) (coming (left'.map .row)) := by
  obtain ⟨left', seen', hleft, hfresh', hothers, hleads⟩ :=
    ho.leads_seek_some hv hheld hfresh hlength hskip
  refine ⟨left', seen', hleft, hfresh', hothers, ?_⟩
  rw [stream, if_neg hlimit]
  exact (ho.leads_patience items).bind (hleads.bind (leads_pure _))

/-- **A stream delivers** the admitted rows behind those that are skipped, up to the limit. -/
theorem Feeds.delivers_stream (hf : h.Feeds coming patience) {p : Plan} {left : List Row}
    (hv : h.Verdicts coming p.trusted s left fun r => .ok (keep r)) {first : Option Item}
    {items : List Item} (hheld : held first left items) {seen : Seen} (hfresh : Fresh seen left)
    (hlength : left.length < patience) (skip emitted : Nat) :
    h.Delivers coming patience s keep (coming items) (h.stream s p first seen skip emitted)
      (cut p.limit emitted ((left.filter keep).drop skip)) := by
  by_cases hlimit : p.limit.any (· ≤ emitted) = true
  · rw [cut_of_reached hlimit]
    exact ⟨_, leads_stream_reached hlimit first seen skip⟩
  · rcases hskip : (left.filter keep).drop skip with _ | ⟨found, others⟩
    · rw [cut_nil]
      refine ⟨coming [], ?_⟩
      rw [stream, if_neg hlimit]
      exact (hf.leads_patience items).bind
        ((hf.leads_seek_none hv hheld hfresh hlength hskip).bind (leads_pure none))
    · rw [cut_cons (Bool.eq_false_iff.mpr hlimit)]
      obtain ⟨left', seen', hleft, hfresh', rfl, hleads⟩ :=
        hf.leads_stream hv hheld hfresh hlength hlimit hskip
      exact ⟨_, _, hleads, .streaming hfresh' (fun q hq => hv q (hleft.mem hq))
        (Nat.lt_of_le_of_lt hleft.length_le hlength)⟩

/-- **The step** — asking for the next row delivers the rows that are due. -/
theorem Feeds.delivers_advance (hf : h.Feeds coming patience) {stage : Stage}
    (hdue : h.Due coming patience s keep stage rows before) :
    h.Delivers coming patience s keep before (h.advance s stage) rows := by
  cases hdue with
  | streaming hfresh hv hlength =>
      exact hf.delivers_stream hv (held_rest _) hfresh hlength 0 _
  | emitting => exact delivers_emit rows

/-- What is settled while items are to come is settled at every stage at which rows are due. -/
theorem Due.leads {stage : Stage} (hdue : h.Due coming patience s keep stage rows before) {α : Type}
    {x : Run σ α} {a : Except Error α} (hx : Settles coming x a) : Leads before x a before := by
  cases hdue with
  | streaming => exact hx _
  | emitting => exact hx.anywhere

/-! ## §E — the rows as they are shown -/

/-- The next row of the table as `view` shows it. -/
def stepAs {α : Type} (h : Host σ) (s : Select) (view : Row → Run σ α) (stage : Stage) :
    Run σ (Option (α × Stage)) := do
  match ← h.advance s stage with
  | none => return none
  | some (r, stage) => return some (← view r, stage)

/-- A result row is the row of the table, projected. -/
theorem next_eq (h : Host σ) (s : Select) :
    h.next s = fun stage => h.concluding (h.stepAs s (h.project s) stage) := rfl

/-- A row of the table is shown as it is. -/
theorem nextRow_eq (h : Host σ) (s : Select) :
    h.nextRow s = fun stage => h.concluding (h.stepAs s pure stage) := by
  funext stage
  refine congrArg h.concluding ((bind_pure _).symm.trans (bind_congr ?_))
  rintro (_ | ⟨r, stage⟩)
  · rfl
  · exact (pure_bind r fun r => pure (some (r, stage))).symm

section
variable {α : Type} {view : Row → Run σ α} {stage stage' : Stage} {after : σ → Prop} {r : Row}

variable (view) in
theorem leads_stepAs_error {e : Error} (hx : Leads before (h.advance s stage) (.error e) after) :
    Leads before (h.stepAs s view stage) (.error e) after :=
  hx.bind_error

variable (view) in
theorem leads_stepAs_none (hx : Leads before (h.advance s stage) (.ok none) after) :
    Leads before (h.stepAs s view stage) (.ok none) after :=
  Leads.bind hx (leads_pure none)

theorem leads_stepAs_some (hx : Leads before (h.advance s stage) (.ok (some (r, stage'))) between)
    {shown : Except Error α} (hview : Leads between (view r) shown after) :
    Leads before (h.stepAs s view stage) (shown.map fun a => some (a, stage')) after := by
  refine Leads.bind hx ?_
  cases shown with
  | error e => exact hview.bind_error
  | ok a => exact hview.bind (leads_pure _)

end

/-- Rows as they are shown, up to the first one that cannot be. -/
def shownRows {α : Type} (shown : Row → Except Error α) : List Row → List α × Option Error
  | [] => ([], none)
  | r :: rows =>
    match shown r with
    | .error e => ([], some e)
    | .ok a => (a :: (shownRows shown rows).1, (shownRows shown rows).2)

theorem shownRows_ok (rows : List Row) : shownRows .ok rows = (rows, none) := by
  induction rows with
  | nil => rfl
  | cons r rows ih => rw [shownRows, ih]

theorem run_collect {α : Type} (ask : Stage → Run σ (Option (α × Stage))) (patience : Nat)
    (stage : Stage) (st : σ) :
    (collect ask (patience + 1) stage).run st =
      match (ask stage).outcome st with
      | (.error e, st) => (([], some e), st)
      | (.ok none, st) => (([], none), st)
      | (.ok (some (a, stage)), st) =>
        let rest := (collect ask patience stage).run st
        ((a :: rest.1.1, rest.1.2), rest.2) := by
  rw [collect, StateT.run_bind, attempt]
  unfold outcome
  rcases (ask stage).run.run st with ⟨e | _ | ⟨a, stage'⟩, st'⟩ <;> rfl

/-- An answer that is the end or a failure is the last one. -/
theorem collect_last {α : Type} {ask : Stage → Run σ (Option (α × Stage))} {stage : Stage} {st : σ}
    (last : Option Error) (hanswer : ((ask stage).outcome st).1 = last.elim (.ok none) .error)
    {fuel : Nat} (hfuel : 0 < fuel) : ((collect ask fuel stage).run st).1 = ([], last) := by
  obtain ⟨fuel, rfl⟩ := Nat.exists_eq_succ_of_ne_zero (Nat.ne_of_gt hfuel)
  rw [run_collect]
  rcases hout : (ask stage).outcome st with ⟨answer, st'⟩
  rw [hout] at hanswer
  subst hanswer
  cases last <;> rfl

/-- An answer that is a row is the first one. -/
theorem collect_first {α : Type} {ask : Stage → Run σ (Option (α × Stage))} {stage stage' : Stage}
    {after : σ → Prop} {a : α} (hanswer : Leads before (ask stage) (.ok (some (a, stage'))) after)
    {fuel : Nat} {others : List α × Option Error}
    (hrest : ∀ st, after st → ((collect ask fuel stage').run st).1 = others) {st : σ}
    (hst : before st) :
    ((collect ask (fuel + 1) stage).run st).1 = (a :: others.1, others.2) := by
  obtain ⟨hfirst, hafter⟩ := hanswer st hst
  rw [run_collect]
  rcases hout : (ask stage).outcome st with ⟨answer, st'⟩
  rw [hout] at hfirst hafter
  subst hfirst
  simp only [hrest st' hafter]

/-- Whether there is a further row or not, giving the reading up does not change the answer. -/
theorem answer_concluding {α : Type} (x : Run σ (Option α)) (st : σ) :
    ((h.concluding x).outcome st).1 = (x.outcome st).1 := by
  rw [outcome_concluding]
  rcases x.outcome st with ⟨e | _ | a, st'⟩ <;> rfl

/-- **The run** — asking again and again collects the rows that are due, as they are shown. -/
theorem Feeds.collect_eq (hf : h.Feeds coming patience) {stage : Stage}
    (hrows : h.Delivers coming patience s keep before (h.advance s stage) rows) {α : Type}
    {view : Row → Run σ α} {shown : Row → Except Error α}
    (hview : ∀ r ∈ rows, Settles coming (view r) (shown r)) {fuel : Nat}
    (hfuel : rows.length < fuel) {st : σ} (hst : before st) :
    ((collect (fun stage => h.concluding (h.stepAs s view stage)) fuel stage).run st).1 =
      shownRows shown rows := by
  -- On the rows that are due: an answer of `advance` leaves one fewer, due at the next stage.
  induction rows generalizing stage before fuel st with
  | nil =>
      obtain ⟨after, hleads⟩ := hrows
      have hnone := (leads_stepAs_none view hleads st hst).1
      exact collect_last none ((answer_concluding _ st).trans hnone) hfuel
  | cons r rest ih =>
      obtain ⟨stage', after, hleads, hdue⟩ := hrows
      have hstep := leads_stepAs_some hleads (hdue.leads (hview r List.mem_cons_self))
      rcases hanswer : shown r with e | a
      · rw [hanswer] at hstep
        rw [shownRows, hanswer]
        exact collect_last (some e) ((answer_concluding _ st).trans (hstep st hst).1)
          (Nat.zero_lt_of_lt hfuel)
      · obtain ⟨fuel, rfl⟩ := Nat.exists_eq_succ_of_ne_zero (Nat.ne_zero_of_lt hfuel)
        rw [hanswer] at hstep
        rw [shownRows, hanswer]
        refine collect_first (leads_concluding hstep) (fun st' hst' => ?_) hst
        exact ih (hf.delivers_advance hdue) (fun q hq => hview q (List.mem_cons_of_mem r hq))
          (Nat.lt_of_succ_lt_succ hfuel) hst'

/-! ## §F — rows or a failure -/

variable (h coming patience) in
/-- **A request for the first row gives** the rows of the result, or it fails. -/
def Gives (s : Select) (keep : Row → Bool) (before : σ → Prop)
    (x : Run σ (Option (Row × Stage))) : Except Error (List Row) → Prop
  | .ok rows => h.Delivers coming patience s keep before x rows
  | .error e => ∃ after, Leads before x (.error e) after

/-- What comes after a step that answers something known. -/
theorem Gives.bind {α : Type} {x : Run σ α} {answer : Except Error α}
    {f : α → Run σ (Option (Row × Stage))} {given : α → Except Error (List Row)}
    (hx : Leads before x answer between)
    (hf : ∀ a, answer = .ok a → h.Gives coming patience s keep between (f a) (given a)) :
    h.Gives coming patience s keep before (x >>= f) (answer >>= given) := by
  rcases answer with e | a
  · exact ⟨between, hx.bind_error⟩
  · show h.Gives coming patience s keep before (x >>= f) (given a)
    have hrest := hf a rfl
    rcases hgiven : given a with e | rows
    · rw [hgiven] at hrest
      obtain ⟨after, hleads⟩ := hrest
      exact ⟨after, hx.bind hleads⟩
    · rw [hgiven] at hrest
      exact Delivers.bind hx hrest

theorem Gives.bind_ok {α : Type} {x : Run σ α} {a : α} {f : α → Run σ (Option (Row × Stage))}
    {given : Except Error (List Row)} (hx : Leads before x (.ok a) between)
    (hf : h.Gives coming patience s keep between (f a) given) :
    h.Gives coming patience s keep before (x >>= f) given := by
  change h.Gives coming patience s keep before (x >>= f) (Except.ok a >>= fun _ => given)
  refine Gives.bind hx fun b hb => ?_
  rwa [← Except.ok.inj hb]

/-- What a whole reading answers. -/
def answered {α : Type} (shown : Row → Except Error α) :
    Except Error (List Row) → List α × Option Error
  | .ok rows => shownRows shown rows
  | .error e => ([], some e)

/-- **A whole reading** collects what its fresh stage gives. -/
theorem Feeds.collect_fresh (hf : h.Feeds coming patience) {start : σ → Prop}
    {given : Except Error (List Row)}
    (hgiven : h.Gives coming patience s keep start (h.advance s .fresh) given)
    (hlength : ∀ rows, given = .ok rows → rows.length < patience) (hpatience : 0 < patience)
    {α : Type} {view : Row → Run σ α} {shown : Row → Except Error α}
    (hview : ∀ rows, given = .ok rows → ∀ r ∈ rows, Settles coming (view r) (shown r)) {st : σ}
    (hst : start st) :
    ((collect (fun stage => h.concluding (h.stepAs s view stage)) patience .fresh).run st).1 =
      answered shown given := by
  rcases given with e | rows
  · obtain ⟨after, hleads⟩ := hgiven
    have herror := (leads_stepAs_error view hleads st hst).1
    exact collect_last (some e) ((answer_concluding _ st).trans herror) hpatience
  · exact hf.collect_eq hgiven (hview rows rfl) (hlength rows rfl) hst

end
end Feeding
end Host
end TableQuery
