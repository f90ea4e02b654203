/-
# TableQuery.Proofs.Reading.Stopping — a stream with a limit takes nothing that it does not need.

A stream is decided by the rows up to the one that completes its limit.  It comes to them, gives the
admitted ones behind OFFSET, and is closed without a further pull, so nothing has to be known of what
the table would yield next: the table need only be an offer (`Host.Offers`).  Watching such a reading
shows that the pulls are those of the deciding rows and no others.

## §A — rows that end with an admitted one.
## §B — whole readings.
## §C — readings that stop.
## §D — watched offers.
-/
import TableQuery.Proofs.Reading.Independence
import TableQuery.Proofs.Reading.Watching

namespace TableQuery

open Run

/-- A pull that came to an item. -/
def Access.took (i : Item) : Access := .pulled (.ok (some i))

namespace Host

/-! ## §A — rows that end with an admitted one -/

/-- Rows of which every part at the end has an admitted one, unless it is empty. -/
def EndsAdmitted (keep : Row → Bool) (rows : List Row) : Prop :=
  ∀ left, left <:+ rows → left.filter keep = [] → left = []

theorem endsAdmitted_concat {keep : Row → Bool} (before : List Row) {last : Row}
    (hlast : keep last = true) : EndsAdmitted keep (before ++ [last]) := by
  intro left hleft hnone
  rcases List.suffix_concat_iff.mp hleft with rfl | ⟨left, rfl, -⟩
  · rfl
  · have hmem : last ∈ (left ++ [last]).filter keep := List.mem_filter.mpr ⟨by simp, hlast⟩
    rw [hnone] at hmem
    exact absurd hmem List.not_mem_nil

theorem EndsAdmitted.suffix {keep : Row → Bool} {left rows : List Row}
    (h : EndsAdmitted keep rows) (hleft : left <:+ rows) : EndsAdmitted keep left :=
  fun l hl => h l (hl.trans hleft)

/-! ## §B — whole readings -/

section
variable {σ : Type} {h : Host σ} {coming : List Item → σ → Prop} {patience : Nat} {s : Select}
  {keep : Row → Bool}

variable (h) in
/-- The states that giving a reading up leaves. -/
def Closed (before : σ → Prop) (st : σ) : Prop := ∃ st', before st' ∧ (h.close.run st').2 = st

variable (h s) in
/-- Asking for rows from a stage on gives some rows and then no more. -/
def Collects (before : σ → Prop) (fuel : Nat) (stage : Stage) (rows : List Row)
    (after : σ → Prop) : Prop :=
  ∀ st, before st → ((collect (h.nextRow s) fuel stage).run st).1 = (rows, none) ∧
    after ((collect (h.nextRow s) fuel stage).run st).2

section
variable {before between after : σ → Prop} {fuel : Nat} {stage : Stage}

/-- A reading that is over is given up. -/
theorem collects_none (hnone : Leads before (h.advance s stage) (.ok none) between)
    (hfuel : 0 < fuel) : h.Collects s before fuel stage [] (h.Closed between) := by
  obtain ⟨fuel, rfl⟩ := Nat.exists_eq_succ_of_ne_zero (Nat.ne_of_gt hfuel)
  intro st hst
  have hclose : Leads between (liftM h.close : Run σ Unit) (.ok ()) (h.Closed between) :=
    fun st' hst' => ⟨rfl, st', hst', rfl⟩
  obtain ⟨hanswer, hclosed⟩ := leads_concluding_over nofun hnone hclose st hst
  rw [run_collect, nextRow]
  rcases hout : (h.concluding (h.advance s stage)).outcome st with ⟨answer, st'⟩
  rw [hout] at hanswer hclosed
  subst hanswer
  exact ⟨rfl, hclosed⟩

/-- A reading that has come to a row goes on. -/
theorem Collects.cons {r : Row} {stage' : Stage} {rows : List Row}
    (hsome : Leads before (h.advance s stage) (.ok (some (r, stage'))) between)
    (hrest : h.Collects s between fuel stage' rows after) :
    h.Collects s before (fuel + 1) stage (r :: rows) after := by
  intro st hst
  obtain ⟨hanswer, hbetween⟩ := leads_concluding hsome st hst
  rw [run_collect, nextRow]
  rcases hout : (h.concluding (h.advance s stage)).outcome st with ⟨answer, st'⟩
  rw [hout] at hanswer hbetween
  subst hanswer
  obtain ⟨hrows, hafter⟩ := hrest st' hbetween
  exact ⟨by simp only [hrows], hafter⟩

end

/-! ## §C — readings that stop -/

/-- **A stream under way** gives the admitted rows that the limit still leaves, and is closed before
it takes anything further. -/
theorem Offers.collects_streaming (ho : h.Offers coming patience) {p : Plan} {n : Nat}
    (hlimit : p.limit = some n) {left : List Row}
    (hv : h.Verdicts coming p.trusted s left fun r => .ok (keep r)) {seen : Seen}
    (hfresh : Fresh seen left) (hlength : left.length < patience)
    (hends : EndsAdmitted keep left) {emitted : Nat}
    (hcount : emitted + (left.filter keep).length = n) {fuel : Nat}
    (hfuel : (left.filter keep).length < fuel) :
    h.Collects s (coming (left.map .row)) fuel (.streaming p seen emitted) (left.filter keep)
      (h.Closed (coming [])) := by
  -- On the rows that the limit still leaves: with the last of them nothing else is left of the rows,
  -- since the rows end with an admitted one.
  induction hdue : left.filter keep generalizing left seen emitted fuel with
  | nil =>
    obtain rfl := hends left (List.suffix_refl left) hdue
    rw [hdue] at hfuel hcount
    refine collects_none (leads_stream_reached ?_ none seen 0) hfuel
    simp [hlimit, ← hcount]
  | cons found others ih =>
    obtain ⟨fuel, rfl⟩ := Nat.exists_eq_succ_of_ne_zero (Nat.ne_zero_of_lt hfuel)
    rw [hdue, List.length_cons] at hfuel hcount
    have hopen : ¬p.limit.any (· ≤ emitted) = true := by
      simp [hlimit, ← hcount]
    have hskip : (left.filter keep).drop 0 = found :: others := hdue
    obtain ⟨left', seen', hleft, hfresh', rfl, hleads⟩ :=
      ho.leads_stream hv (held_rest left) hfresh hlength hopen hskip
    exact Collects.cons hleads (ih (fun q hq => hv q (hleft.mem hq)) hfresh'
      (Nat.lt_of_le_of_lt hleft.length_le hlength) (hends.suffix hleft) (by omega)
      (Nat.lt_of_succ_lt_succ hfuel) rfl)

variable {start between : σ → Prop} {terms : List SortTerm} {offset : Nat} {limit : Option Nat}
  {p : Plan} {n : Nat}

/-- **A SELECT that streams** gives the admitted rows behind those that are skipped, and is closed when
it has come to the last row that its limit allows. -/
theorem Offers.collects_early (ho : h.Offers coming patience) {claim : Option Claim}
    {rows : List Row} (hclauses : Leads start (h.clauses s) (.ok (terms, offset, limit)) start)
    (hread : Leads start (h.read s) (.ok ()) (coming (contracted claim rows)))
    (hplan : h.planned terms claim offset limit = .ok p) (hstream : p.strategy = .stream)
    (hlimit : p.limit = some n) (hn : 0 < n)
    (hv : h.Verdicts coming p.trusted s rows fun r => .ok (keep r)) (hfresh : Fresh {} rows)
    (hlength : rows.length < patience) (hends : EndsAdmitted keep rows)
    (hcount : (rows.filter keep).length = p.offset + n) :
    h.Collects s start patience .fresh ((rows.filter keep).drop p.offset)
      (h.Closed (coming [])) := by
  have hdue : ((rows.filter keep).drop p.offset).length = n := by
    rw [List.length_drop, hcount, Nat.add_sub_cancel_left]
  have hadmitted : (rows.filter keep).length ≤ rows.length := List.length_filter_le ..
  have hopen : ¬p.limit.any (· ≤ 0) = true := by
    rw [hlimit]
    simpa using Nat.ne_of_gt hn
  -- The first request comes to the first admitted row behind OFFSET; what is left of the rows then is
  -- for the stream that is under way.
  obtain ⟨found, others, hskip⟩ : ∃ found others, (rows.filter keep).drop p.offset = found :: others :=
    List.exists_cons_of_length_pos (hdue ▸ hn)
  obtain ⟨r, rest, rfl⟩ : ∃ r rest, rows = r :: rest :=
    List.exists_cons_of_length_pos (by omega)
  obtain ⟨item, first, items, hpull, hclaimed, hheld⟩ := ho.leads_claimed claim r rest
  rw [hskip, List.length_cons] at hdue
  rw [hskip]
  obtain ⟨left, seen, hleft, hfresh', rfl, hleads⟩ :=
    ho.leads_stream hv hheld hfresh hlength hopen hskip
  have hbegin : Leads (coming (contracted claim (r :: rest))) (h.begin s terms offset limit)
      (.ok (some (found, .streaming p seen 1))) (coming (left.map .row)) := by
    have hplanned := ho.leads_plan terms claim offset limit items
    rw [hplan] at hplanned
    refine hpull.bind ?_
    rw [hclaimed]
    refine hplanned.bind ?_
    rw [hstream]
    exact hleads
  have hfirst : Leads start (h.advance s .fresh) (.ok (some (found, .streaming p seen 1)))
      (coming (left.map .row)) := by
    rw [advance_fresh]
    exact hclauses.bind (hread.bind hbegin)
  obtain ⟨fuel, rfl⟩ := Nat.exists_eq_succ_of_ne_zero (Nat.ne_zero_of_lt hlength)
  exact Collects.cons hfirst (ho.collects_streaming hlimit (fun q hq => hv q (hleft.mem hq)) hfresh'
    (Nat.lt_of_le_of_lt hleft.length_le hlength) (hends.suffix hleft) (by omega) (by omega))

/-- **A SELECT that streams no rows** is closed once it has its plan. -/
theorem Offers.collects_nothing (ho : h.Offers coming patience) {item : Option Item}
    (hclauses : Leads start (h.clauses s) (.ok (terms, offset, limit)) start)
    (hread : Leads start (h.read s) (.ok ()) between)
    (hpull : Leads between h.pull (.ok item) (coming []))
    (hplan : h.planned terms (claimed item).1 offset limit = .ok p) (hstream : p.strategy = .stream)
    (hlimit : p.limit = some 0) (hpatience : 0 < patience) :
    h.Collects s start patience .fresh [] (h.Closed (coming [])) := by
  have hplanned := ho.leads_plan terms (claimed item).1 offset limit []
  rw [hplan] at hplanned
  have hbegin : Leads between (h.begin s terms offset limit) (.ok none) (coming []) := by
    refine hpull.bind (hplanned.bind ?_)
    rw [hstream]
    exact leads_stream_reached (by simp [hlimit]) _ {} p.offset
  refine collects_none ?_ hpatience
  rw [advance_fresh]
  exact hclauses.bind (hread.bind hbegin)

/-! ## §D — watched offers -/

variable (coming) in
/-- A watched state that has some items to come, and has `whole` on its log when they are pulled. -/
def Noted (whole : List Access) (items : List Item) (st : σ × List Access) : Prop :=
  coming items st.1 ∧ st.2 ++ items.map Access.took = whole

/-- **A watched offer** is an offer. -/
theorem Offers.watched (ho : h.Offers coming patience) (whole : List Access) :
    h.watched.Offers (Noted coming whole) patience where
  pull_item i items := by
    rintro ⟨st, log⟩ ⟨hst, rfl⟩
    obtain ⟨hanswer, hafter⟩ := ho.pull_item i items st hst
    refine ⟨hanswer, hafter, ?_⟩
    show log ++ [.pulled (h.pull.outcome st).1] ++ items.map Access.took = _
    rw [hanswer, List.append_assoc]
    rfl
  note remark items st hst := ⟨ho.note remark items st.1 hst.1, hst.2⟩
  patience_eq items st hst :=
    ⟨(ho.patience_eq items st.1 hst.1).1, (ho.patience_eq items st.1 hst.1).2, hst.2⟩

theorem Verdicts.watched {trusted : Bool} {rows : List Row} {verdict : Row → Except Error Bool}
    (hv : h.Verdicts coming trusted s rows verdict) (whole : List Access) :
    h.watched.Verdicts (Noted coming whole) trusted s rows verdict := by
  intro r hr items
  rw [watched_admits]
  exact leads_apart (hv r hr items) fun log => log ++ items.map Access.took = whole

theorem leads_watched_read {start between : σ → Prop} (hread : Leads start (h.read s) (.ok ()) between) :
    Leads (fun st => start st.1 ∧ st.2 = []) (h.watched.read s) (.ok ())
      fun st => between st.1 ∧ st.2 = [.opened] := by
  rintro ⟨st, log⟩ ⟨hst, rfl⟩
  obtain ⟨hanswer, hbetween⟩ := hread st hst
  rw [watched_read]
  rcases hout : (h.read s).outcome st with ⟨answer, st'⟩
  rw [hout] at hanswer hbetween
  subst hanswer
  exact ⟨rfl, hbetween, rfl⟩

theorem leads_watched_pull {before after : σ → Prop} {answer : Except Error (Option Item)}
    (hpull : Leads before h.pull answer after) (log : List Access) :
    Leads (fun st => before st.1 ∧ st.2 = log) h.watched.pull answer
      fun st => after st.1 ∧ st.2 = log ++ [.pulled answer] := by
  rintro ⟨st, log⟩ ⟨hst, rfl⟩
  obtain ⟨hanswer, hafter⟩ := hpull st hst
  refine ⟨hanswer, hafter, ?_⟩
  show log ++ [.pulled (h.pull.outcome st).1] = _
  rw [hanswer]

variable (h s) in
/-- **A whole reading** from a state gives some rows and no failure, and `log` is what it asks of its
table; that it is watched makes no difference to the rows. -/
def Reads (st : σ) (rows : List Row) (log : List Access) : Prop :=
  ((h.rows s).run st).1 = (rows, none) ∧
    ∃ st', (h.watched.rows s).run (st, []) = ((rows, none), (st', log))

section
variable {start between : σ → Prop} {terms : List SortTerm} {offset : Nat} {limit : Option Nat}
  {p : Plan} {n : Nat} {st st' : σ}

/-- A reading that stops where nothing of the log is left to come. -/
theorem reads_of_collects {rows : List Row} {after : σ → Prop} {pulls : List Access}
    (hrows : h.Collects s start patience .fresh rows after)
    (hwatched : h.watched.Collects s (fun st => start st.1 ∧ st.2 = []) patience .fresh rows
      (h.watched.Closed (Noted coming (.opened :: pulls) [])))
    (hpatience : h.patience.run st = (patience, st')) (hst : start st') :
    h.Reads s st rows (.opened :: pulls ++ [.closed]) := by
  constructor
  · rw [Host.rows, StateT.run_bind, hpatience]
    exact (hrows st' hst).1
  · -- Nothing of the log is left to come when the reading is closed, and closing is written behind it.
    obtain ⟨hanswer, ⟨later, log⟩, ⟨-, hlog⟩, hclose⟩ := hwatched (st', []) ⟨hst, rfl⟩
    obtain rfl : log = .opened :: pulls := (List.append_nil log).symm.trans hlog
    have hpatience' : h.watched.patience.run (st, []) = (patience, (st', [])) := by
      show ((h.patience.run st).1, ((h.patience.run st).2, _)) = _
      rw [hpatience]
    rw [close_opened h rfl later] at hclose
    refine ⟨(h.close.run later).2, ?_⟩
    rw [Host.rows, StateT.run_bind, hpatience']
    exact Prod.ext hanswer hclose.symm

/-- **Early stop** — a SELECT that streams pulls the items up to the last row that its limit allows and
nothing more. -/
theorem Offers.reads_early (ho : h.Offers coming patience) {claim : Option Claim} {rows : List Row}
    (hclauses : Leads start (h.clauses s) (.ok (terms, offset, limit)) start)
    (hread : Leads start (h.read s) (.ok ()) (coming (contracted claim rows)))
    (hplan : h.planned terms claim offset limit = .ok p) (hstream : p.strategy = .stream)
    (hlimit : p.limit = some n) (hn : 0 < n)
    (hv : h.Verdicts coming p.trusted s rows fun r => .ok (keep r)) (hfresh : Fresh {} rows)
    (hlength : rows.length < patience) (hends : EndsAdmitted keep rows)
    (hcount : (rows.filter keep).length = p.offset + n)
    (hpatience : h.patience.run st = (patience, st')) (hst : start st') :
    h.Reads s st ((rows.filter keep).drop p.offset)
      (.opened :: (contracted claim rows).map .took ++ [.closed]) := by
  have hopened : Leads (fun st => start st.1 ∧ st.2 = []) (h.watched.read s) (.ok ())
      (Noted coming (.opened :: (contracted claim rows).map .took) (contracted claim rows)) :=
    (leads_watched_read hread).weaken fun st hst => ⟨hst.1, by rw [hst.2]; rfl⟩
  have hasked := leads_apart hclauses (· = ([] : List Access))
  rw [← watched_clauses] at hasked
  have hrows := ho.collects_early hclauses hread hplan hstream hlimit hn hv hfresh hlength hends hcount
  have hwatched := (ho.watched _).collects_early hasked hopened hplan hstream hlimit hn (hv.watched _)
    hfresh hlength hends hcount
  exact reads_of_collects hrows hwatched hpatience hst

/-- **No rows** — a SELECT that streams none of them pulls one item, to find out about a claim. -/
theorem Offers.reads_nothing (ho : h.Offers coming patience) {item : Option Item}
    (hclauses : Leads start (h.clauses s) (.ok (terms, offset, limit)) start)
    (hread : Leads start (h.read s) (.ok ()) between)
    (hpull : Leads between h.pull (.ok item) (coming []))
    (hplan : h.planned terms (claimed item).1 offset limit = .ok p) (hstream : p.strategy = .stream)
    (hlimit : p.limit = some 0) (hzero : 0 < patience)
    (hpatience : h.patience.run st = (patience, st')) (hst : start st') :
    h.Reads s st [] [.opened, .pulled (.ok item), .closed] := by
  have hpulled : Leads (fun st => between st.1 ∧ st.2 = [.opened]) h.watched.pull (.ok item)
      (Noted coming [.opened, .pulled (.ok item)] []) :=
    (leads_watched_pull hpull [.opened]).weaken fun st hst => ⟨hst.1, by rw [hst.2]; rfl⟩
  have hasked := leads_apart hclauses (· = ([] : List Access))
  rw [← watched_clauses] at hasked
  have hrows := ho.collects_nothing hclauses hread hpull hplan hstream hlimit hzero
  have hwatched := (ho.watched _).collects_nothing hasked (leads_watched_read hread) hpulled hplan
    hstream hlimit hzero
  exact reads_of_collects hrows hwatched hpatience hst

end
end
end Host
end TableQuery
