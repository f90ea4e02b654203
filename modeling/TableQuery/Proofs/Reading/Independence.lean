/-
# TableQuery.Proofs.Reading.Independence — the plan does not show in the rows.

What a SELECT asks for is a window: the admitted rows in the order of the terms, OFFSET of them
dropped and at most LIMIT of them kept.  A stream filters, skips and stops; gathering filters, sorts
and cuts.  For a sound and honest claim both deliver the windowed rows, since a claim that is
followed says that sorting would move nothing.

## §A — sorting what was gathered.
## §B — the claim and the first item.
## §C — the first row.
## §D — OFFSET and LIMIT.
-/
import TableQuery.Proofs.Reading.Delivery

namespace TableQuery
namespace Host

open Run

variable {σ : Type} {h : Host σ} {coming : List Item → σ → Prop} {patience : Nat}

/-! ## §A — sorting what was gathered -/

/-- Whether the terms have the values `key` on some rows, whenever they are asked for. -/
def Keyed (h : Host σ) (coming : List Item → σ → Prop) (terms : List SortTerm) (rows : List Row)
    (key : SortTerm → Row → Value) : Prop :=
  ∀ r ∈ rows, ∀ t ∈ terms,
    Settles coming (h.evaluator.evaluate r.columns t.place t.expression) (.ok (key t r))

/-- **Sorting** comes to the rows in the order of the terms. -/
theorem Keyed.settles_sortRows {terms : List SortTerm} {rows : List Row}
    {key : SortTerm → Row → Value} (hk : h.Keyed coming terms rows key) :
    Settles coming (h.sortRows terms rows)
      (.ok (sortedRows h.evaluator.collation key terms rows)) := by
  intro items
  rw [← sortByKeys_eq]
  refine (leads_mapM fun r hr => ?_).bind (leads_pure _)
  exact (leads_mapM fun t ht => hk r hr t ht items).bind (leads_pure _)

/-- A term that is a column has the value of the column on every row. -/
theorem keyed_column {t : SortTerm} {name : String} (hname : t.expression = .column name)
    (rows : List Row) :
    h.Keyed coming [t] rows fun _ r => r.columns.column (Expr.lastPart name) := by
  intro r _ t' ht
  obtain rfl := List.mem_singleton.mp ht
  rw [hname, Evaluator.evaluate, Evaluator.value]
  exact fun _ => leads_pure _

/-- Sorting neither loses nor adds a row. -/
theorem perm_of_sortRows {terms : List SortTerm} {rows sorted : List Row}
    (ha : MayAnswer (h.sortRows terms rows) sorted) : sorted.Perm rows := by
  obtain ⟨keyed, ⟨st, st', hkeyed⟩, ha⟩ := ha.of_bind
  obtain rfl := ha.of_pure
  have hrows : keyed.map (·.2) = rows := by
    refine map_of_mapM (fun r st k st' hout => ?_) hkeyed
    obtain ⟨keys, t, -, hpure⟩ := outcome_bind_eq_ok.mp hout
    exact congrArg Prod.snd (Except.ok.inj (Prod.mk.inj hpure).1).symm
  rw [sortByKeys, ← hrows]
  exact (List.mergeSort_perm keyed _).map _

/-! ## §B — the claim and the first item -/

/-- What a table yields that keeps its contract: perhaps a claim, then rows. -/
def contracted (claim : Option Claim) (rows : List Row) : List Item :=
  (claim.map Item.claim).toList ++ rows.map .row

/-- The first pull comes to the claim, or to the first row, which is held back. -/
theorem Offers.leads_claimed (ho : h.Offers coming patience) (claim : Option Claim) (r : Row)
    (rows : List Row) :
    ∃ item first items,
      Leads (coming (contracted claim (r :: rows))) h.pull (.ok item) (coming items) ∧
      claimed item = (claim, first) ∧ held first (r :: rows) items := by
  rcases claim with _ | c
  · exact ⟨some (.row r), some (.row r), rows.map .row, ho.pull_item _ _, rfl, rfl⟩
  · exact ⟨some (.claim c), none, (r :: rows).map .row, ho.pull_item _ _, rfl, rfl⟩

/-- The first pull comes to the claim, to the first row, which is held back, or to the end. -/
theorem Feeds.leads_claimed (hf : h.Feeds coming patience) (claim : Option Claim)
    (rows : List Row) :
    ∃ item first items, Leads (coming (contracted claim rows)) h.pull (.ok item) (coming items) ∧
      claimed item = (claim, first) ∧ held first rows items := by
  rcases rows with _ | ⟨r, rows⟩
  · rcases claim with _ | c
    · exact ⟨none, none, [], hf.pull_done, rfl, rfl⟩
    · exact ⟨some (.claim c), none, [], hf.pull_item _ _, rfl, rfl⟩
  · exact hf.toOffers.leads_claimed claim r rows

/-- The plan that is made on a claim, unless the claim is refused. -/
def planned (h : Host σ) (terms : List SortTerm) (claim : Option Claim) (offset : Nat)
    (limit : Option Nat) : Except Error Plan :=
  match claim.bind (·.faultFor? offset) with
  | some fault => .error (.contract h.name (.claim fault))
  | none => (Plan.make h.evaluator.collation terms claim offset limit).mapError .locale

/-- Planning takes nothing of what is to come. -/
theorem Offers.leads_plan (ho : h.Offers coming patience) (terms : List SortTerm)
    (claim : Option Claim) (offset : Nat) (limit : Option Nat) (items : List Item) :
    Leads (coming items) (h.plan terms claim offset limit) (h.planned terms claim offset limit)
      (coming items) := by
  have hmake : Leads (coming items) (do
      let p ← Run.ofLocale (Plan.make h.evaluator.collation terms claim offset limit)
      h.note (.planned p)
      return p : Run σ Plan)
      ((Plan.make h.evaluator.collation terms claim offset limit).mapError .locale)
      (coming items) := by
    rcases Plan.make h.evaluator.collation terms claim offset limit with e | p
    · exact (leads_ofLocale (.error e)).bind_error
    · exact (leads_ofLocale (.ok p)).bind ((ho.leads_note (.planned p) items).bind (leads_pure p))
  unfold plan planned
  rcases claim.bind (·.faultFor? offset) with _ | fault
  · exact hmake
  · exact Leads.bind_error
      ((ho.leads_note .breached items).bind (leads_throw (.contract h.name (.claim fault))))

/-! ## §C — the first row -/

/-- The rows that OFFSET and LIMIT leave. -/
def cutOut (offset : Nat) (limit : Option Nat) (rows : List Row) : List Row :=
  cut limit 0 (rows.drop offset)

theorem length_cutOut_le (offset : Nat) (limit : Option Nat) (rows : List Row) :
    (cutOut offset limit rows).length ≤ rows.length := by
  cases limit <;> simp [cutOut, cut]

theorem slice_eq_cutOut (p : Plan) (rows : List Row) :
    slice p rows = cutOut p.offset p.limit rows := by
  rw [slice, cutOut]
  cases p.limit <;> rfl

section
variable {s : Select} {terms : List SortTerm} {claim : Option Claim} {rows : List Row}
  {keep : Row → Bool} {key : SortTerm → Row → Value}

/-- A term that is a column has the value of the column. -/
theorem Keyed.column (hk : h.Keyed coming terms rows key) {t : SortTerm} (ht : t ∈ terms)
    {name : String} (hname : t.expression = .column name) {items : List Item} {st : σ}
    (hst : coming items st) {r : Row} (hr : r ∈ rows) :
    key t r = r.columns.column (Expr.lastPart name) := by
  have hleads := hk r hr t ht items
  rw [hname, Evaluator.evaluate, Evaluator.value] at hleads
  have hvalue := (hleads.unique (leads_pure (r.columns.column (Expr.lastPart name)))) hst
  exact Except.ok.inj hvalue

/-- What gathering leaves of the rows that a verdict admits. -/
def gathered (p : Plan) (verdict : Row → Except Error Bool)
    (sorting : List Row → Except Error (List Row)) (rows : List Row) : Except Error (List Row) := do
  let admitted ← sift verdict rows
  let sorted ← sorting admitted
  return cutOut p.offset p.limit sorted

/-- **Gathering gives** what it leaves of the admitted rows. -/
theorem Feeds.gives_gather (hf : h.Feeds coming patience) {p : Plan}
    {verdict : Row → Except Error Bool} (hv : h.Verdicts coming p.trusted s rows verdict)
    {sorting : List Row → Except Error (List Row)}
    (hsort : ∀ admitted, sift verdict rows = .ok admitted →
      Settles coming (h.sortRows terms admitted) (sorting admitted))
    (hfresh : Fresh {} rows) (hlength : rows.length < patience) {first : Option Item}
    {items : List Item} (hheld : held first rows items) :
    h.Gives coming patience s keep (coming items)
      (do
        let rows ← h.gather s p.trusted (← h.patience) first {}
        return emit (slice p (← h.sortRows terms rows)))
      (gathered p verdict sorting rows) := by
  refine Gives.bind_ok (hf.leads_patience items) ?_
  refine Gives.bind (hf.leads_gather hv hheld hfresh hlength) fun admitted hadmitted => ?_
  refine Gives.bind (hsort admitted hadmitted).anywhere fun sorted _ => ?_
  rw [← slice_eq_cutOut]
  exact delivers_emit _

/-- **A SELECT that has begun gives** what its plan gives, unless its claim is refused. -/
theorem Feeds.gives_begin (hf : h.Feeds coming patience) {offset : Nat} {limit : Option Nat}
    {given : Plan → Except Error (List Row)}
    (hstream : ∀ p, h.planned terms claim offset limit = .ok p → p.strategy = .stream →
      ∀ first items, held first rows items →
        h.Gives coming patience s keep (coming items) (h.stream s p first {} p.offset 0) (given p))
    (hgather : ∀ p, h.planned terms claim offset limit = .ok p → p.strategy = .gather →
      ∀ first items, held first rows items →
        h.Gives coming patience s keep (coming items)
          (do
            let rows ← h.gather s p.trusted (← h.patience) first {}
            return emit (slice p (← h.sortRows terms rows)))
          (given p)) :
    h.Gives coming patience s keep (coming (contracted claim rows)) (h.begin s terms offset limit)
      (h.planned terms claim offset limit >>= given) := by
  obtain ⟨item, first, items, hpull, hclaimed, hheld⟩ := hf.leads_claimed claim rows
  refine Gives.bind_ok hpull ?_
  rw [hclaimed]
  refine Gives.bind (hf.leads_plan terms claim offset limit items) fun p hp => ?_
  rcases hstrategy : p.strategy with _ | _
  · exact hstream p hp hstrategy first items hheld
  · exact hgather p hp hstrategy first items hheld

/-- What a plan leaves of the rows that are admitted, `sorted` being what sorting them answers. -/
def carriedOut (p : Plan) (sorted : Except Error (List Row)) (admitted : List Row) :
    Except Error (List Row) :=
  match p.strategy with
  | .stream => .ok (cutOut p.offset p.limit admitted)
  | .gather => return cutOut p.offset p.limit (← sorted)

/-- **Both strategies give** what the plan leaves of the admitted rows. -/
theorem Feeds.gives_carriedOut (hf : h.Feeds coming patience) {offset : Nat} {limit : Option Nat}
    (hv : ∀ p, h.planned terms claim offset limit = .ok p →
      h.Verdicts coming p.trusted s rows fun r => .ok (keep r))
    {sorted : Except Error (List Row)}
    (hsort : Settles coming (h.sortRows terms (rows.filter keep)) sorted) (hfresh : Fresh {} rows)
    (hlength : rows.length < patience) :
    h.Gives coming patience s keep (coming (contracted claim rows)) (h.begin s terms offset limit)
      (h.planned terms claim offset limit >>= fun p => carriedOut p sorted (rows.filter keep)) := by
  refine hf.gives_begin ?_ ?_
  · intro p hp hstrategy first items hheld
    rw [carriedOut, hstrategy]
    exact hf.delivers_stream (hv p hp) hheld hfresh hlength p.offset 0
  · intro p hp hstrategy first items hheld
    have hcarried : carriedOut p sorted (rows.filter keep) =
        gathered p (fun r => .ok (keep r)) (fun _ => sorted) rows := by
      rw [carriedOut, hstrategy, gathered, sift_ok]
      rfl
    rw [hcarried]
    refine hf.gives_gather (hv p hp) (fun admitted hadmitted => ?_) hfresh hlength hheld
    rw [sift_ok] at hadmitted
    rwa [← Except.ok.inj hadmitted]

/-- What a plan leaves is no more than the rows that are admitted. -/
theorem length_of_carriedOut {p : Plan} {sorted : Except Error (List Row)} {admitted left : List Row}
    (hsorted : ∀ l, sorted = .ok l → l.length = admitted.length)
    (hleft : carriedOut p sorted admitted = .ok left) : left.length ≤ admitted.length := by
  unfold carriedOut at hleft
  rcases hstrategy : p.strategy with _ | _
  · rw [hstrategy] at hleft
    rw [← Except.ok.inj hleft]
    exact length_cutOut_le ..
  · rw [hstrategy] at hleft
    rcases hsort : sorted with e | l
    · rw [hsort] at hleft
      cases hleft
    · rw [hsort] at hleft
      rw [← Except.ok.inj hleft, ← hsorted l hsort]
      exact length_cutOut_le ..

/-- A plan for a sound claim is made. -/
theorem planned_of_sound {named : Collation}
    (hactive : Collation.ofName h.evaluator.collation.name = .ok named) (terms : List SortTerm)
    (hsound : ∀ c ∈ claim, c.Sound) (offset : Nat) (limit : Option Nat) :
    ∃ p, h.planned terms claim offset limit = .ok p ∧
      p.trusted = false ∧ p.offset = offset ∧ p.limit = limit ∧
      (p.strategy = .stream → terms = [] ∨
        ∃ c ∈ claim, ∃ t name, terms = [t] ∧ c.Matches h.evaluator.collation t name) := by
  obtain ⟨p, hp, hplan⟩ := Plan.make_of_sound hactive terms hsound offset limit
  have hfault : claim.bind (·.faultFor? offset) = none := by
    rcases claim with _ | c
    · rfl
    · exact (hsound c rfl).faultFor? offset
  refine ⟨p, ?_, hplan⟩
  rw [planned, hfault, hp]
  rfl

/-- **Both strategies give** the admitted rows in the order of the terms, OFFSET dropped and LIMIT
kept, when the claim is sound and honest. -/
theorem Feeds.gives_sorted (hf : h.Feeds coming patience) {named : Collation}
    (hactive : Collation.ofName h.evaluator.collation.name = .ok named)
    (hsound : ∀ c ∈ claim, c.Sound) (honest : ∀ c ∈ claim, c.Honest h.evaluator.collation rows)
    (hfresh : Fresh {} rows) (hlength : rows.length < patience)
    (ha : h.Admits coming s rows keep) (hk : h.Keyed coming terms rows key) (offset : Nat)
    (limit : Option Nat) {st : σ} (hst : coming (contracted claim rows) st) :
    h.Gives coming patience s keep (coming (contracted claim rows)) (h.begin s terms offset limit)
      (.ok (cutOut offset limit
        (sortedRows h.evaluator.collation key terms (rows.filter keep)))) := by
  obtain ⟨p, hp, htrusted, rfl, rfl, hstream⟩ :=
    planned_of_sound (h := h) hactive terms hsound offset limit
  have hv : ∀ q, h.planned terms claim p.offset p.limit = .ok q →
      h.Verdicts coming q.trusted s rows fun r => .ok (keep r) := by
    intro q hq
    obtain rfl := Except.ok.inj (hp.symm.trans hq)
    rw [htrusted]
    exact ha.verdicts
  have hsort : Settles coming (h.sortRows terms (rows.filter keep))
      (.ok (sortedRows h.evaluator.collation key terms (rows.filter keep))) :=
    Keyed.settles_sortRows fun r hr => hk r (List.mem_filter.mp hr).1
  have hgiven := hf.gives_carriedOut hv hsort hfresh hlength
  have hcarried : carriedOut p
      (.ok (sortedRows h.evaluator.collation key terms (rows.filter keep))) (rows.filter keep) =
        .ok (cutOut p.offset p.limit
          (sortedRows h.evaluator.collation key terms (rows.filter keep))) := by
    rw [carriedOut]
    rcases hstrategy : p.strategy with _ | _
    · -- Streaming is chosen only where the rows come in order already: sorting changes nothing.
      rcases hstream hstrategy with rfl | ⟨c, hc, t, name, rfl, hmatches⟩
      · rw [sortedRows_nil]
      · have hcolumn := fun r hr =>
          hk.column (List.mem_singleton_self t) hmatches.expression hst (r := r) hr
        rw [sortedRows_of_pairwise _ _ ((hmatches.sorted (honest c hc) hcolumn).filter keep)]
    · rfl
  rw [hp] at hgiven
  exact hcarried ▸ hgiven

/-! ## §D — OFFSET and LIMIT -/

/-- **The window** that the values of OFFSET and LIMIT leave of some rows: nothing is skipped
without an OFFSET or with a negative one, and nothing is cut without a LIMIT or with a negative
one. -/
def window (offset limit : Option Int) (rows : List Row) : List Row :=
  let left := rows.drop (offset.getD 0).toNat
  match limit with
  | none => left
  | some n => if n < 0 then left else left.take n.toNat

/-- How many rows a value of OFFSET skips. -/
def toSkip (offset : Option Int) : Nat := (offset.getD 0).toNat

/-- How many rows a value of LIMIT allows. -/
def atMost (limit : Option Int) : Option Nat :=
  limit.bind fun i => if i < 0 then none else some i.toNat

theorem window_eq_cutOut (offset limit : Option Int) (rows : List Row) :
    window offset limit rows = cutOut (toSkip offset) (atMost limit) rows := by
  rcases limit with _ | n
  · rfl
  · simp only [window, cutOut, toSkip, atMost, Option.bind_some]
    split <;> rfl

/-- What a SELECT gives once its clauses have their values. -/
def begun (limit offset : Except Error (Option Int)) (terms : Except EvaluationFault (List SortTerm))
    (given : List SortTerm → Nat → Option Nat → Except Error (List Row)) :
    Except Error (List Row) := do
  let limit ← limit.map atMost
  let offset ← offset.map toSkip
  let terms ← terms.mapError .evaluation
  given terms offset limit

theorem of_begun_eq_ok {limit offset : Except Error (Option Int)}
    {terms : Except EvaluationFault (List SortTerm)}
    {given : List SortTerm → Nat → Option Nat → Except Error (List Row)} {left : List Row}
    (h : begun limit offset terms given = .ok left) :
    ∃ l o ts, limit = .ok l ∧ offset = .ok o ∧ terms = .ok ts ∧
      given ts (toSkip o) (atMost l) = .ok left := by
  rcases limit with e | l
  · cases h
  · rcases offset with e | o
    · cases h
    · rcases terms with e | ts
      · cases h
      · exact ⟨l, o, ts, rfl, rfl, rfl, h⟩

theorem begun_congr {limit offset : Except Error (Option Int)}
    {terms : Except EvaluationFault (List SortTerm)}
    {given given' : List SortTerm → Nat → Option Nat → Except Error (List Row)}
    (h : ∀ l o ts, limit = .ok l → offset = .ok o → terms = .ok ts →
      given ts (toSkip o) (atMost l) = given' ts (toSkip o) (atMost l)) :
    begun limit offset terms given = begun limit offset terms given' := by
  rcases limit with e | l
  · rfl
  · rcases offset with e | o
    · rfl
    · rcases terms with e | ts
      · rfl
      · exact h l o ts rfl rfl rfl

/-- A SELECT that is refused once it has begun answers nothing, and says why unless a clause has failed
before. -/
theorem answered_refused {α : Type} (shown : Row → Except Error α) (limit : Except Error (Option Int))
    (offset : Option Int) (terms : Except EvaluationFault (List SortTerm))
    {given : List SortTerm → Nat → Option Nat → Except Error (List Row)} {refusal : Error}
    (h : ∀ ts l, given ts (toSkip offset) l = .error refusal) :
    ∃ e, answered shown (begun limit (.ok offset) terms given) = ([], some e) ∧
      ∀ l ts, limit = .ok l → terms = .ok ts → e = refusal := by
  rcases limit with e | l
  · exact ⟨e, rfl, nofun⟩
  · rcases terms with fault | ts
    · exact ⟨.evaluation fault, rfl, nofun⟩
    · exact ⟨refusal, congrArg (answered shown) (h ts (atMost l)), fun _ _ _ _ => rfl⟩

/-- **A SELECT that has not begun gives** what it gives once it has begun, as far as its clauses have
values. -/
theorem gives_fresh {start between : σ → Prop} {limit offset : Except Error (Option Int)}
    (hlimit : Leads start (h.clause "LIMIT" [3] s.limit) limit start)
    (hoffset : Leads start (h.clause "OFFSET" [4] s.offset) offset start)
    (hread : Leads start (h.read s) (.ok ()) between)
    {given : List SortTerm → Nat → Option Nat → Except Error (List Row)}
    (hbegin : ∀ terms offset limit, SortTerm.resolveAll s.columns s.orderBy = .ok terms →
      h.Gives coming patience s keep between (h.begin s terms offset limit)
        (given terms offset limit)) :
    h.Gives coming patience s keep start (h.advance s .fresh)
      (begun limit offset (SortTerm.resolveAll s.columns s.orderBy) given) := by
  have hmost : Leads start (h.limit s) (limit.map atMost) start := by
    cases limit with
    | error e => exact hlimit.bind_error
    | ok value => exact hlimit.bind (leads_pure _)
  have hskip : Leads start (h.offset s) (offset.map toSkip) start := by
    cases offset with
    | error e => exact hoffset.bind_error
    | ok value => exact hoffset.bind (leads_pure _)
  have hterms : Leads start (Host.terms s)
      ((SortTerm.resolveAll s.columns s.orderBy).mapError .evaluation) start := by
    unfold Host.terms
    cases SortTerm.resolveAll s.columns s.orderBy with
    | error fault => exact leads_throw (.evaluation fault)
    | ok terms => exact leads_pure terms
  -- LIMIT, OFFSET and the terms of the order are asked for in this order, and then the table is
  -- opened.
  refine Gives.bind hmost fun limit _ => Gives.bind hskip fun offset _ => ?_
  refine Gives.bind hterms fun terms hresolved => Gives.bind_ok hread (hbegin terms offset limit ?_)
  cases hresolve : SortTerm.resolveAll s.columns s.orderBy with
  | error fault =>
      rw [hresolve] at hresolved
      cases hresolved
  | ok terms' =>
      rw [hresolve] at hresolved
      rw [Except.ok.inj hresolved]

/-- **Both strategies deliver** the window of the admitted rows in the order of the terms, when the
claim is sound and honest. -/
theorem Feeds.delivers_fresh (hf : h.Feeds coming patience) {named : Collation}
    (hactive : Collation.ofName h.evaluator.collation.name = .ok named)
    (hsound : ∀ c ∈ claim, c.Sound) (honest : ∀ c ∈ claim, c.Honest h.evaluator.collation rows)
    (hfresh : Fresh {} rows) (hlength : rows.length < patience)
    (ha : h.Admits coming s rows keep) (hk : h.Keyed coming terms rows key)
    (hterms : SortTerm.resolveAll s.columns s.orderBy = .ok terms) {start : σ → Prop}
    {limit offset : Option Int}
    (hlimit : Leads start (h.clause "LIMIT" [3] s.limit) (.ok limit) start)
    (hoffset : Leads start (h.clause "OFFSET" [4] s.offset) (.ok offset) start)
    (hread : Leads start (h.read s) (.ok ()) (coming (contracted claim rows))) {st : σ}
    (hst : start st) :
    h.Delivers coming patience s keep start (h.advance s .fresh)
      (window offset limit
        (sortedRows h.evaluator.collation key terms (rows.filter keep))) := by
  have hbegun := (hread st hst).2
  have hgiven : h.Gives coming patience s keep start (h.advance s .fresh)
      (begun (.ok limit) (.ok offset) (SortTerm.resolveAll s.columns s.orderBy) fun _ offset limit =>
        .ok (cutOut offset limit
          (sortedRows h.evaluator.collation key terms (rows.filter keep)))) := by
    refine gives_fresh hlimit hoffset hread fun terms' offset' limit' hterms' => ?_
    obtain rfl := Except.ok.inj (hterms.symm.trans hterms')
    exact hf.gives_sorted hactive hsound honest hfresh hlength ha hk offset' limit' hbegun
  rw [hterms] at hgiven
  rw [window_eq_cutOut]
  exact hgiven

/-- The window is no longer than what it is cut from. -/
theorem length_window_le (offset limit : Option Int) (rows : List Row) :
    (window offset limit rows).length ≤ rows.length := by
  rw [window_eq_cutOut]
  exact length_cutOut_le ..

/-- The rows of a SELECT are those that its fresh stage delivers. -/
theorem Feeds.rows_eq (hf : h.Feeds coming patience) {start : σ → Prop} {expected : List Row}
    (hexpected : h.Delivers coming patience s keep start (h.advance s .fresh) expected)
    (hlength : expected.length < patience) {st st' : σ}
    (hpatience : h.patience.run st = (patience, st')) (hst : start st') :
    ((h.rows s).run st).1 = (expected, none) := by
  rw [Host.rows, StateT.run_bind, hpatience, nextRow_eq]
  rw [← shownRows_ok]
  exact hf.collect_eq hexpected (fun r _ _ => leads_pure r) hlength hst

end
end Host
end TableQuery
