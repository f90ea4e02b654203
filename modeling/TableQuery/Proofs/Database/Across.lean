/-
# TableQuery.Proofs.Database.Across — one SELECT over several tables.

A SELECT may be run over one table and over another, in one database or in two.  Its clauses, its
condition, the terms of its order and its result columns say the same in all these settings when its
subqueries are answered alike in them.  What the SELECT gives then differs by what the tables yield,
and by nothing else.

## §A — settings.
## §B — evaluators that can be depended on in all of them.
## §C — what is said in all settings.
## §D — whole readings in a setting.
-/
import TableQuery.Proofs.Database.Selecting

namespace TableQuery

/-! ## §A — settings -/

/-- A database and the place of the table that is read. -/
structure Setting where
  db : Database
  place : Nat := 0

namespace Running

open Run Database Host

/-- The beginning of a reading in a setting. -/
def startOf (w : Setting) : Running := { db := w.db, place := w.place }

/-- **Amid a reading in one of some settings**, however far it has come. -/
def AmidOne (settings : List Setting) (good : List (Place × Deferred) → Prop)
    (i : Setting × Source) (r : Running) : Prop :=
  i.1 ∈ settings ∧ Amid i.1.db i.1.place good i.2 r

section
variable {settings : List Setting} {good : List (Place × Deferred) → Prop} {w : Setting}

theorem amidOne_start (hgood : good []) (hw : w ∈ settings) :
    AmidOne settings good (w, .closed) (startOf w) :=
  ⟨hw, rfl, rfl, rfl, hgood⟩

/-- What settles in all settings settles in each of them. -/
theorem settles_amid {α : Type} {x : Run Running α} {a : Except Error α}
    (hx : Settles (AmidOne settings good) x a) (hw : w ∈ settings) :
    Settles (Amid w.db w.place good) x a := by
  intro source r hr
  obtain ⟨hanswer, -, hafter⟩ := hx (w, source) r ⟨hw, hr⟩
  exact ⟨hanswer, hafter⟩

end

/-! ## §B — evaluators that can be depended on in all of them -/

/-- **Dependable in some settings** — the subqueries of a SELECT are answered alike in all of them,
throughout every reading, as long as what is remembered of them is good. -/
def DependableIn (ev : Evaluator Running) (settings : List Setting) (s : Select) : Prop :=
  ∃ good : List (Place × Deferred) → Prop,
    good [] ∧ ev.Answers (AmidOne settings good) s.subqueries

/-- An evaluator that carries no subqueries out can be depended on in all settings. -/
theorem dependableIn_alone (params : Parameters) (c : Collation) (settings : List Setting)
    (s : Select) : DependableIn { params, collation := c } settings s :=
  ⟨fun _ => True, trivial, fun _ _ => steady_throw _⟩

/-- Answers that are good in all settings. -/
def AnsweredIn (settings : List Setting) (run : Select → Run Database (List Record))
    (subs : List (Place × Select)) (answers : List (Place × Deferred)) : Prop :=
  ∀ w ∈ settings, Answered w.db run subs answers

/-- The values of a subquery that answers the same in all settings are the same in all of them. -/
theorem steady_membersIn {run : Select → Run Database (List Record)}
    {subs : List (Place × Select)} (htold : ToldApart subs) {settings : List Setting} {p : Place}
    {q : Select} (hq : (p, q) ∈ subs) {truth : Except Error (List Record)}
    (htruth : ∀ w ∈ settings, Settles w.db.Alike (run q) truth) :
    Steady (AmidOne settings (AnsweredIn settings run subs)) (members run p q) := by
  refine ⟨truth.map fun rows => rows.map (Value.contributed (contributing q)), ?_⟩
  rintro ⟨w, source⟩ r ⟨hw, hamid⟩
  have hmembers : Settles (Amid w.db w.place (AnsweredIn settings run subs)) (members run p q)
      (truth.map fun rows => rows.map (Value.contributed (contributing q))) := by
    refine settles_members (htruth w hw) ?_ ?_
    · exact fun answers d hgood hd => (hgood w hw).known hq (htruth w hw) hd
    · rintro answers rows hgood rfl v hv
      exact (hgood v hv).remember htold hq (htruth v hv)
  obtain ⟨hanswer, hafter⟩ := hmembers source r hamid
  exact ⟨hanswer, hw, hafter⟩

/-- **The evaluator of a statement** can be depended on in settings in whose databases the subqueries
of a SELECT answer the same. -/
theorem dependableIn_evaluator (n : Node) (c : Collation) {settings : List Setting} {s : Select}
    (hsame : ∀ p q, (p, q) ∈ s.subqueries →
      ∃ truth, ∀ w ∈ settings, Settles w.db.Alike (subqueries n q) truth) :
    DependableIn (evaluator (subqueries n) c) settings s := by
  refine ⟨AnsweredIn settings (subqueries n) s.subqueries,
    fun w _ => answered_nil w.db _ _, ?_⟩
  rintro ⟨p, q⟩ hq
  obtain ⟨truth, htruth⟩ := hsame p q hq
  exact steady_membersIn s.toldApart_subqueries hq htruth

/-- In one database the subqueries of a SELECT answer the same, whichever of its tables is read. -/
theorem dependableIn_database (n : Node) (c : Collation) (db : Database) (places : List Nat)
    (s : Select) :
    DependableIn (evaluator (subqueries n) c) (places.map (Setting.mk db)) s := by
  refine dependableIn_evaluator n c fun p q _ => ?_
  obtain ⟨truth, htruth⟩ := steady_resultsTo db ((n.nodes true).length + 1) q
  refine ⟨truth, fun w hw => ?_⟩
  obtain ⟨place, -, rfl⟩ := List.mem_map.mp hw
  exact htruth

/-! ## §C — what is said in all settings -/

/-- What a computation answers at the beginning of a reading. -/
def said {α : Type} (w : Setting) (x : Run Running α) : Except Error α :=
  (x.outcome (startOf w)).1

section
variable {settings : List Setting} {good : List (Place × Deferred) → Prop} {w w' : Setting}
  {ev : Evaluator Running} {s : Select}

/-- What is steady is said in one setting as in all others. -/
theorem settles_said (hgood : good []) (hw : w ∈ settings) (hw' : w' ∈ settings) {α : Type}
    {x : Run Running α} (hx : Steady (AmidOne settings good) x) :
    Settles (Amid w'.db w'.place good) x (said w x) :=
  settles_amid (hx.settles (amidOne_start hgood hw)) hw'

/-- What is determined in each setting is determined in all of them. -/
theorem determined_amidOne {α : Type} {x : Run Running α}
    (hx : ∀ w ∈ settings, Determined (Amid w.db w.place good) x) :
    Determined (AmidOne settings good) x := by
  rintro ⟨w, source⟩
  by_cases hw : w ∈ settings
  · obtain ⟨a, source', hleads⟩ := hx w hw source
    exact ⟨a, (w, source'), fun r hr => ⟨(hleads r hr.2).1, hw, (hleads r hr.2).2⟩⟩
  · exact ⟨.error .unfinished, (w, source), fun r hr => absurd hr.1 hw⟩

/-- The host of a SELECT is guided in all settings in which its subqueries are answered alike. -/
theorem host_guidedIn (name : String) (hev : ev.Answers (AmidOne settings good) s.subqueries) :
    (host name ev).Guided (AmidOne settings good) s :=
  have hguided (w : Setting) (hw : w ∈ settings) :
      (host name ev).Guided (Amid w.db w.place good) s :=
    host_guided name fun p hp => (hev p hp).imp fun _ ha => settles_amid ha hw
  { read := determined_amidOne fun w hw => (hguided w hw).read
    pull := determined_amidOne fun w hw => (hguided w hw).pull
    close := determined_amidOne fun w hw => (hguided w hw).close
    note := fun remark => determined_amidOne fun w hw => (hguided w hw).note remark
    patience := determined_amidOne fun w hw => (hguided w hw).patience
    answers := hev }

end

/-! ## §D — whole readings in a setting -/

section
variable {settings : List Setting} {good : List (Place × Deferred) → Prop} {w w' : Setting}
  {name : String} {ev : Evaluator Running} {s : Select} {keep : Row → Bool}

/-- What the host of a SELECT gives in a setting. -/
abbrev GivesIn (good : List (Place × Deferred) → Prop) (w : Setting) (name : String)
    (ev : Evaluator Running) (s : Select) (keep : Row → Bool) :
    (Running → Prop) → Run Running (Option (Row × Stage)) → Except Error (List Row) → Prop :=
  (host name ev).Gives (Coming w.db w.place good) (w.db.table w.place).patience s keep

/-- **A SELECT that has not begun** gives in a setting what its clauses, which say the same in all of
them, leave it to give once it has begun to read the items of its table. -/
theorem gives_in (hgood : good []) (hev : ev.Answers (AmidOne settings good) s.subqueries)
    (hw : w ∈ settings) (hw' : w' ∈ settings) {items : List Item}
    (hitems : ((w'.db.table w'.place).items ev.collation s).1 = .ok items)
    {given : List SortTerm → Nat → Option Nat → Except Error (List Row)}
    (hbegin : ∀ terms offset limit, SortTerm.resolveAll s.columns s.orderBy = .ok terms →
      GivesIn good w' name ev s keep (Coming w'.db w'.place good items)
        ((host name ev).begin s terms offset limit) (given terms offset limit)) :
    GivesIn good w' name ev s keep (Amid w'.db w'.place good .closed)
      ((host name ev).advance s .fresh)
      (begun (said w ((host name ev).clause "LIMIT" [3] s.limit))
        (said w ((host name ev).clause "OFFSET" [4] s.offset))
        (SortTerm.resolveAll s.columns s.orderBy) given) := by
  have hg := host_guidedIn name hev
  exact gives_fresh (settles_said hgood hw hw' (hg.steady_clause "LIMIT" s.limit_subset) .closed)
    (settles_said hgood hw hw' (hg.steady_clause "OFFSET" s.offset_subset) .closed)
    (leads_read hitems).1 hbegin

/-- **A whole reading in a setting** answers what its fresh stage gives: its rows, and its result rows
as they are said in all settings. -/
theorem answered_in (hgood : good []) (hev : ev.Answers (AmidOne settings good) s.subqueries)
    (hw : w ∈ settings) (hw' : w' ∈ settings) {given : Except Error (List Row)}
    (hgiven : GivesIn good w' name ev s keep (Amid w'.db w'.place good .closed)
      ((host name ev).advance s .fresh) given)
    (hlength : ∀ rows, given = .ok rows → rows.length < (w'.db.table w'.place).patience)
    (hpatience : 0 < (w'.db.table w'.place).patience) :
    (((host name ev).rows s).run (startOf w')).1 = answered .ok given ∧
      (((host name ev).results s).run (startOf w')).1 =
        answered (fun r => said w ((host name ev).project s r)) given := by
  have hf : (host name ev).Feeds (Coming w'.db w'.place good) (w'.db.table w'.place).patience :=
    host_feeds name ev
  have hg := host_guidedIn name hev
  have hstart : Amid w'.db w'.place good .closed (startOf w') := ⟨rfl, rfl, rfl, hgood⟩
  constructor
  · rw [Host.rows, StateT.run_bind, nextRow_eq]
    exact hf.collect_fresh hgiven hlength hpatience (fun _ _ r _ _ => leads_pure r) hstart
  · rw [Host.results, StateT.run_bind, next_eq]
    refine hf.collect_fresh hgiven hlength hpatience (fun _ _ r _ => ?_) hstart
    exact settles_coming (settles_said hgood hw hw' (hg.steady_project r))

/-- Rows that come in the order of a column are left as they are by sorting by it. -/
theorem said_sortRows {name column : String} {t : SortTerm} (ht : t.expression = .column column)
    {rows : List Row}
    (hrows : rows.Pairwise
      (rowLE ev.collation (fun _ r => r.columns.column (Expr.lastPart column)) [t] · ·)) :
    said w ((host name ev).sortRows [t] rows) = .ok rows := by
  have hkeyed : (host name ev).Keyed (fun _ r => r = startOf w) [t] rows
      fun _ r => r.columns.column (Expr.lastPart column) := keyed_column ht rows
  have hsorted := (hkeyed.settles_sortRows [] (startOf w) rfl).1
  exact hsorted.trans (congrArg Except.ok (sortedRows_of_pairwise _ _ hrows))

/-- **A SELECT over a table that keeps its contract** answers what the plan leaves of the rows that are
admitted, as far as the clauses have values and the claim is not refused. -/
theorem answered_carriedOut (name : String) (hgood : good [])
    (hev : ev.Answers (AmidOne settings good) s.subqueries) (hw : w ∈ settings)
    (hw' : w' ∈ settings) {claim : Option Claim} {rows : List Row}
    (hitems : ((w'.db.table w'.place).items ev.collation s).1 = .ok (contracted claim rows))
    (hfresh : Fresh {} rows)
    (hv : ∀ terms offset limit p, (host name ev).planned terms claim offset limit = .ok p →
      (host name ev).Verdicts (Coming w'.db w'.place good) p.trusted s rows
        fun r => .ok (keep r)) :
    let given := begun (said w ((host name ev).clause "LIMIT" [3] s.limit))
      (said w ((host name ev).clause "OFFSET" [4] s.offset))
      (SortTerm.resolveAll s.columns s.orderBy) fun terms offset limit =>
        (host name ev).planned terms claim offset limit >>= fun p =>
          carriedOut p (said w ((host name ev).sortRows terms (rows.filter keep)))
            (rows.filter keep)
    (((host name ev).rows s).run (startOf w')).1 = answered .ok given ∧
      (((host name ev).results s).run (startOf w')).1 =
        answered (fun r => said w ((host name ev).project s r)) given := by
  have hf : (host name ev).Feeds (Coming w'.db w'.place good) (w'.db.table w'.place).patience :=
    host_feeds name ev
  have hrows := length_lt_patience hitems
  refine answered_in hgood hev hw hw' (?_ : GivesIn good w' name ev s keep _ _ _) ?_ ?_
  · refine gives_in hgood hev hw hw' hitems fun terms offset limit hterms => ?_
    have hsub : ∀ t ∈ terms, t.expression.subqueriesAt t.place ⊆ s.subqueries :=
      fun t ht => SortTerm.subset_of_resolveAll hterms ht
    have hsort := settles_said hgood hw hw'
      ((host_guidedIn name hev).steady_sortRows hsub (rows.filter keep))
    exact hf.gives_carriedOut (hv terms offset limit) (settles_coming hsort) hfresh hrows
  · intro left hleft
    obtain ⟨_, _, terms, -, -, -, hgiven⟩ := of_begun_eq_ok hleft
    -- Whatever the plan is, no more rows are left than are admitted.
    rcases hp : (host name ev).planned terms claim _ _ with e | p
    · rw [hp] at hgiven
      cases hgiven
    · rw [hp] at hgiven
      have hsorted (l : List Row)
          (hl : said w ((host name ev).sortRows terms (rows.filter keep)) = .ok l) :
          l.length = (rows.filter keep).length :=
        (perm_of_sortRows ⟨_, _, Prod.ext hl rfl⟩).length_eq
      have hadmitted := length_of_carriedOut hsorted hgiven
      exact Nat.lt_of_le_of_lt (hadmitted.trans (List.length_filter_le ..)) hrows
  · exact Nat.zero_lt_of_lt hrows

end
end Running
end TableQuery
