/-
# TableQuery.Proofs.Database.Sparing — readings that never come to what has no value.

A reading fails for many reasons, but what a table yields and how a SELECT goes about its rows never
makes it ask for the value of something that has none.  Only the tree could, and a proper one does not,
with its subqueries at any depth (`Running.spares_resultsTo`).  So the evaluation of a text never
fails in this way, whatever the row, the parameters and the tables that its subqueries read
(`Evaluator.wellFormed_not_mistyped`).

## §A — sources.
## §B — running SELECTs.
## §C — subqueries of any depth.
## §D — conditions and texts.
-/
import TableQuery.Proofs.Database.Amid
import TableQuery.Proofs.Database.Unmoved
import TableQuery.Proofs.Evaluation.WellFormed
import TableQuery.Proofs.Reading.Bounded
import TableQuery.Proofs.Sql.Proper

namespace TableQuery

open Run Host

/-! ## §A — sources -/

/-- **A clean source** — one that does not end with the fault that something has no value. -/
def Source.Clean : Source → Prop
  | .records _ fault => ∀ e, fault = some e → e.isValueless = false
  | _ => True

/-- A clean pull: what it fails with is another fault, and what is still to come is clean. -/
structure Pulled.Clean (p : Pulled) : Prop where
  source : p.source.Clean
  answer (e : Error) : p.answer = .error e → e.isValueless = false

/-- What comes of the beginning of a reading: a clean source, or another fault. -/
def Source.CleanAnswer : Except Error Source → Prop
  | .ok source => source.Clean
  | .error e => e.isValueless = false

theorem Csv.File.isValueless_of_mark {option text : String} {e : Error}
    (h : mark option text = .error e) : e.isValueless = false := by
  unfold mark at h
  split at h
  · cases h
  · obtain rfl := Except.error.inj h
    rfl

theorem Csv.File.isValueless_of_marks {f : Csv.File} {e : Error} (h : f.marks = .error e) :
    e.isValueless = false := by
  unfold marks at h
  rcases hdelimiter : mark "delimiter" f.delimiter with fault | delimiter
  · rw [hdelimiter] at h
    obtain rfl := Except.error.inj h
    exact isValueless_of_mark hdelimiter
  · rcases hquote : mark "quotechar" f.quote with fault | quote
    · rw [hdelimiter, hquote] at h
      obtain rfl := Except.error.inj h
      exact isValueless_of_mark hquote
    · rw [hdelimiter, hquote] at h
      cases h

/-- A file ends with a fault of its marks or its encoding. -/
theorem Csv.File.isValueless_of_read {f : Csv.File} {e : Error} (h : f.read.2 = some e) :
    e.isValueless = false := by
  unfold read at h
  split at h
  · obtain rfl := Option.some.inj h
    rfl
  · split at h
    · rename_i hmarks
      obtain rfl := Option.some.inj h
      exact isValueless_of_marks hmarks
    · unfold decodedRows at h
      split at h
      · cases h
      · obtain rfl := Option.some.inj h
        rfl

namespace Table
variable (t : Table)

theorem clean_exhausted : t.exhausted.Clean := ⟨trivial, fun _ h => nomatch h⟩

theorem clean_pullRow (rows : List Row) : (t.pullRow rows).Clean := by
  cases rows with
  | nil => exact clean_exhausted t
  | cons r left => exact ⟨trivial, fun _ h => nomatch h⟩

theorem clean_pullRecord {fault : Option Error} (h : ∀ e, fault = some e → e.isValueless = false)
    (records : List Csv.Numbered) : (t.pullRecord fault records).Clean := by
  cases records with
  | cons r left => exact ⟨h, fun _ h => nomatch h⟩
  | nil =>
      cases fault with
      | none => exact clean_exhausted t
      | some fault => exact ⟨trivial, fun e he => Except.error.inj he ▸ h fault rfl⟩

theorem clean_pullEntry (s : Script) (index : Nat) : (t.pullEntry s index).Clean := by
  unfold pullEntry
  split
  · exact clean_exhausted _
  · dsimp only
    split
    · exact ⟨trivial, fun _ h => nomatch h⟩
    · exact ⟨trivial, fun e he => Except.error.inj he ▸ rfl⟩

/-- **Pulling from a clean source** is clean. -/
theorem clean_pull {source : Source} (h : source.Clean) : (t.pull source).Clean := by
  unfold pull
  split
  · split
    · split
      · exact ⟨trivial, fun _ h => nomatch h⟩
      · exact clean_pullRow t _
    · exact clean_pullRow t _
    · exact clean_pullRecord t (fun _ => Csv.File.isValueless_of_read) _
    · exact clean_exhausted t
  · exact clean_pullRow t _
  · exact clean_pullRecord t h _
  · split
    · exact clean_pullEntry t _ _
    · exact clean_exhausted t
  · split
    · exact clean_exhausted t
    · exact ⟨trivial, fun _ h => nomatch h⟩
  · exact clean_exhausted t

theorem clean_read (c : Collation) (s : Select) : Source.CleanAnswer (t.read c s).1 := by
  unfold read
  split
  · rfl
  · split
    · split
      · dsimp only
        split <;> trivial
      · rfl
    · rfl
  · trivial

end Table

/-! ## §B — running SELECTs -/

namespace Running

/-- A running SELECT with a clean source. -/
def Clean (r : Running) : Prop := r.source.Clean

/-- **Sparing** — from a clean source a reading comes to a clean source, or fails for another reason
than that something has no value. -/
def sparing : Bounds Running where
  answering r t := r.Clean → t.Clean
  failing e r _ := r.Clean → e.isValueless = false
  refl _ h := h
  trans h k hclean := k (h hclean)
  behind h k hclean := k (h hclean)

/-- **A SELECT spares** the databases it is run on: it never fails because something has no value. -/
def Spares (run : Select → Run Database (List Record)) (q : Select) : Prop :=
  ∀ db e db', (run q).outcome db = (.error e, db') → e.isValueless = false

variable {run : Select → Run Database (List Record)} {q : Select} {c : Collation}

theorem within_sparing {x : StateM Running Unit} (h : ∀ r, (x.run r).2.source = r.source) :
    Within sparing (liftM x : Run Running Unit) :=
  within_lift fun r hclean => by rwa [Clean, h]

theorem sparing_pull : Within sparing pull := by
  intro r
  rw [outcome_pull]
  refine ⟨fun a t hout hclean => ?_, fun e t hout hclean => ?_⟩
  · obtain ⟨-, rfl⟩ := Prod.mk.inj hout
    exact (Table.clean_pull _ hclean).source
  · exact (Table.clean_pull _ hclean).answer e (Prod.mk.inj hout).1

/-- The values of a subquery that spares are found out, or it fails for another reason. -/
theorem isValueless_of_members (hrun : Spares run q) {p : Place} {r t : Running} {e : Error}
    (h : (members run p q).outcome r = (.error e, t)) : e.isValueless = false := by
  rcases hvalues : (r.deferred p q).values with _ | values
  · rw [outcome_members_unfilled rfl hvalues] at h
    split at h
    · cases h
    · rename_i db hout
      obtain rfl := Except.error.inj (Prod.mk.inj h).1
      exact hrun r.db _ db hout
  · rw [outcome_members_known rfl hvalues] at h
    cases h

/-- Finding out the values of a subquery leaves the source alone. -/
theorem source_members {p : Place} {r t : Running} {values : List Value}
    (h : (members run p q).outcome r = (.ok values, t)) : t.source = r.source := by
  rcases hvalues : (r.deferred p q).values with _ | known
  · rw [outcome_members_unfilled rfl hvalues] at h
    split at h
    · obtain ⟨-, rfl⟩ := Prod.mk.inj h
      rfl
    · cases h
  · rw [outcome_members_known rfl hvalues] at h
    obtain ⟨-, rfl⟩ := Prod.mk.inj h
    rfl

theorem sparing_members (hrun : Spares run q) (p : Place) : Within sparing (members run p q) :=
  fun r => ⟨fun _ t hout hclean => by rwa [Clean, source_members hout],
    fun _ _ hout _ => isValueless_of_members hrun hout⟩

theorem isValueless_of_read {s : Select} {r t : Running} {e : Error}
    (h : (read c s).outcome r = (.error e, t)) : e.isValueless = false := by
  have hread := Table.clean_read (r.db.table r.place) c s
  rw [outcome_read] at h
  split at h
  · cases h
  · rename_i fault hfault
    rw [hfault] at hread
    exact Except.error.inj (Prod.mk.inj h).1 ▸ hread

/-- Beginning to read keeps the source clean. -/
theorem clean_read (s : Select) {r : Running} (hclean : r.Clean) :
    ((read c s).outcome r).2.Clean := by
  have hread := Table.clean_read (r.db.table r.place) c s
  rw [outcome_read]
  split
  · rename_i source hsource
    rwa [hsource] at hread
  · exact hclean

/-- **The host of a proper SELECT is sparing** when proper subqueries spare. -/
theorem host_sparing {s : Select} (hs : s.Proper) (hrun : ∀ q : Select, q.Proper → Spares run q)
    (name : String) (c : Collation) : (host name (evaluator run c)).Bounded sparing s where
  failure _ _ he _ := he hs
  opening hout _ := isValueless_of_read hout
  pull := sparing_pull
  patience := within_lift fun _ hclean => hclean
  scanned := within_sparing fun _ => rfl
  breached := within_sparing fun _ => rfl
  members p hp := sparing_members (hrun p.2 (hs.subqueries p hp)) p.1
  close _ _ := trivial
  close_failing h := h

variable {s : Select}

/-- **Asking for the next row** is sparing, from the first row on. -/
theorem sparing_next (hs : s.Proper) (hrun : ∀ q : Select, q.Proper → Spares run q) (c : Collation)
    (stage : Stage) : Within sparing ((host s.table (evaluator run c)).next s stage) := by
  have hb := host_sparing hs hrun s.table c
  by_cases hstage : stage = .fresh
  · subst hstage
    intro r
    have hplanned (p : Plan) : Within sparing
        (liftM ((host s.table (evaluator run c)).note (.planned p)) : Run Running Unit) :=
      within_sparing fun _ => rfl
    rcases hb.next_fresh hplanned r with ⟨e, hanswer, hfailing⟩ | ⟨asked, hasked, hallows⟩
    · refine ⟨fun a t hout => ?_, fun e' t hout => ?_⟩
      · rw [hout] at hanswer
        cases hanswer
      · rw [hout] at hanswer hfailing
        exact Except.error.inj hanswer ▸ hfailing
    · refine ⟨fun a t hout hclean => ?_, fun e t hout hclean => ?_⟩
      · rw [hout] at hallows
        exact hallows (clean_read s (hasked hclean))
      · rw [hout] at hallows
        exact hallows (clean_read s (hasked hclean))
  · exact hb.next hstage

/-! ## §C — subqueries of any depth -/

/-- A proper SELECT spares when proper subqueries do. -/
theorem spares_resultsBy (hs : s.Proper) (hrun : ∀ q : Select, q.Proper → Spares run q) :
    Spares (Database.resultsBy run) s := by
  intro db e db' hout
  rcases hfind : db.find s.table with missing | place
  · rw [Database.outcome_resultsBy_missing hfind] at hout
    obtain rfl := Except.error.inj (Prod.mk.inj hout).1
    unfold Database.find at hfind
    split at hfind
    · cases hfind
    · obtain rfl := Except.error.inj hfind
      rfl
  · obtain ⟨fuel, hfuel⟩ := (host s.table (evaluator run (collationOf db place))).exists_run_results s
      { db, place } rfl
    -- Each request either gives a row, or is the last one and fails with an error that spares.
    have hends := ends_collect (fun _ => True)
      (fun stage _ => sparing_next hs hrun (collationOf db place) stage) (fun _ => trivial) fuel
      .fresh trivial { db, place }
    rw [← hfuel] at hends
    rcases hresults : ((host s.table (evaluator run (collationOf db place))).results s).run
        { db, place } with ⟨⟨rows, fault⟩, r⟩
    rw [hresults] at hends
    rw [Database.outcome_resultsBy hfind hresults] at hout
    cases fault with
    | none => cases hout
    | some fault =>
        obtain rfl : fault = e := Except.error.inj (Prod.mk.inj hout).1
        rcases hends with hfailing | ⟨rfl, -⟩
        · exact hfailing trivial
        · rfl

/-- **A proper SELECT spares** to every depth. -/
theorem spares_resultsTo (depth : Nat) {q : Select} (hq : q.Proper) :
    Spares (Database.resultsTo depth) q := by
  induction depth generalizing q with
  | zero =>
      intro db e db' hout
      rw [Database.resultsTo, outcome_throw] at hout
      obtain rfl := Except.error.inj (Prod.mk.inj hout).1
      rfl
  | succ depth ih =>
      have hstep : Database.resultsTo (depth + 1) q =
          Database.resultsBy (Database.resultsTo depth) q := rfl
      intro db e db' hout
      rw [hstep] at hout
      exact spares_resultsBy hq (fun _ => ih) db e db' hout

end Running

/-! ## §D — conditions and texts -/

namespace Evaluator
open Running

/-- The evaluation of expressions with parameters whose subqueries are run to a depth. -/
def ofDatabase (depth : Nat) (c : Collation) (params : Parameters) : Evaluator Running :=
  { evaluator (Database.resultsTo depth) c with params }

/-- **An expression of the language** never fails because something has no value. -/
theorem ofDatabase_spares {e : Expr} (he : e.Proper) {depth : Nat} {c : Collation}
    {params : Parameters} {row : Record} {at_ : Place} {r t : Running} {error : Error}
    (hout : ((ofDatabase depth c params).holds row at_ (some e)).outcome r = (.error error, t) ∨
      ((ofDatabase depth c params).evaluate row at_ e).outcome r = (.error error, t)) :
    error.isValueless = false := by
  refine Bool.eq_false_iff.mpr fun hvalueless => ?_
  obtain ⟨p, hp, s, u, hfails⟩ := subqueryFails_of_proper he hout hvalueless
  have hspared : error.isValueless = false :=
    isValueless_of_members (spares_resultsTo depth (he.subqueriesAt at_ p hp)) hfails
  rw [hspared] at hvalueless
  cases hvalueless

/-- **Well-formed trees never hit an error of types.**  A well-formed condition, asked whether it
holds, and a well-formed value, asked for, fail with a fault of numbers and nothing else, whatever the
row, the parameters and the collation.  The expression of a text is never refused for having no value:
the only way to such a failure is a subquery that fails so, and those of the database do not. -/
theorem wellFormed_not_mistyped :
    (∀ {σ : Type} (ev : Evaluator σ) (row : Record) (at_ : Place) (e : Expr) (s t : σ) (error : Error),
      e.IsCondition → (ev.holds row at_ (some e)).outcome s = (.error error, t) →
        ∃ fault, error = .number fault) ∧
    (∀ {σ : Type} (ev : Evaluator σ) (row : Record) (at_ : Place) (e : Expr) (s t : σ) (error : Error),
      e.IsValue → (ev.evaluate row at_ e).outcome s = (.error error, t) →
        ∃ fault, error = .number fault) ∧
    (∀ (text : String) (e : Expr), Expr.ofText text = .ok e →
      ∀ {σ : Type} (ev : Evaluator σ) (row : Record) (at_ : Place) (s t : σ) (kind : String),
        ((ev.holds row at_ (some e)).outcome s = (.error (.evaluation (.notValue kind)), t) ∨
          (ev.evaluate row at_ e).outcome s = (.error (.evaluation (.notValue kind)), t)) →
        ev.SubqueryFails (e.subqueriesAt at_) (.evaluation (.notValue kind))) ∧
    (∀ (text : String) (e : Expr), Expr.ofText text = .ok e →
      ∀ (depth : Nat) (c : Collation) (params : Parameters) (row : Record) (at_ : Place)
        (r t : Running) (kind : String),
        ((ofDatabase depth c params).holds row at_ (some e)).outcome r ≠
            (.error (.evaluation (.notValue kind)), t) ∧
          ((ofDatabase depth c params).evaluate row at_ e).outcome r ≠
            (.error (.evaluation (.notValue kind)), t)) := by
  refine ⟨fun ev row at_ e s t error he => number_of_isCondition he,
    fun ev row at_ e s t error he => number_of_isValue he,
    fun text e htext σ ev row at_ s t kind hout =>
      subqueryFails_of_proper (Expr.proper_ofText htext) hout rfl,
    fun text e htext depth c params row at_ r t kind => ⟨fun hout => ?_, fun hout => ?_⟩⟩
  · cases ofDatabase_spares (Expr.proper_ofText htext) (.inl hout)
  · cases ofDatabase_spares (Expr.proper_ofText htext) (.inr hout)

/-- Whether the remainder that has no result is one. -/
def remainderIsOne : Expr := .binary .eq hugeRemainder (.literal (.int 1))

theorem isValue_hugeRemainder : hugeRemainder.IsValue :=
  .arithmetic rfl (.column "a") (.literal (.int 3))

theorem isCondition_remainderIsOne : remainderIsOne.IsCondition :=
  .comparison rfl isValue_hugeRemainder (.literal (.int 1))

theorem outcome_remainderIsOne : ∃ error, (({} : Evaluator Unit).holds hugeRow []
    (some remainderIsOne)).outcome () = (.error error, ()) := by
  have hnone : ((({} : Evaluator Unit).holds hugeRow [] (some remainderIsOne)).outcome
      ()).1.toOption.isNone = true := by decide +kernel
  rcases hout : (({} : Evaluator Unit).holds hugeRow [] (some remainderIsOne)).outcome ()
    with ⟨error | b, u⟩
  · exact ⟨error, rfl⟩
  · rw [hout] at hnone
    cases hnone

/-- An evaluator whose subqueries fail for having no value. -/
def refusing : Evaluator Unit where
  members _ _ := throw (.evaluation (.notValue "Star"))

theorem ofText_subquery : ∃ s, Expr.ofText "(SELECT b FROM t)" = .ok (.subquery s) := by
  have hkind : (Expr.ofText "(SELECT b FROM t)").toOption.map Expr.kindName = some "Subquery" := by
    decide +kernel
  rcases hread : Expr.ofText "(SELECT b FROM t)" with error | e
  · rw [hread] at hkind
    cases hkind
  · rw [hread] at hkind
    cases e with
    | subquery s => exact ⟨s, rfl⟩
    | misplaced kind => exact (Expr.proper_ofText hread).elim
    | _ => simp [Except.toOption, Expr.kindName] at hkind

/-- A condition and a value fail for their numbers.  A subquery that is the expression of a text fails
for having no value where the outside does, and never on a database. -/
theorem wellFormed_remainder :
    (∃ error fault, (({} : Evaluator Unit).holds hugeRow [] (some remainderIsOne)).outcome () =
      (.error error, ()) ∧ error = .number fault) ∧
    (∃ error fault, (({} : Evaluator Unit).evaluate hugeRow [] hugeRemainder).outcome () =
      (.error error, ()) ∧ error = .number fault) ∧
    ∃ s, Expr.ofText "(SELECT b FROM t)" = .ok (.subquery s) ∧
      refusing.SubqueryFails ((Expr.subquery s).subqueriesAt []) (.evaluation (.notValue "Star")) ∧
      ∀ t, ((ofDatabase 1 .binary .none).evaluate [] [] (.subquery s)).outcome { db := {} } ≠
        (.error (.evaluation (.notValue "Star")), t) := by
  obtain ⟨hcondition, hvalue, houtside, hdatabase⟩ := wellFormed_not_mistyped
  obtain ⟨error, hfails⟩ := outcome_remainderIsOne
  obtain ⟨fault, hfault⟩ := hcondition {} hugeRow [] remainderIsOne () () error
    isCondition_remainderIsOne hfails
  obtain ⟨fault', hfault'⟩ := hvalue {} hugeRow [] hugeRemainder () () _ isValue_hugeRemainder
    outcome_hugeRemainder
  obtain ⟨s, htext⟩ := ofText_subquery
  refine ⟨⟨error, fault, hfails, hfault⟩, ⟨_, fault', outcome_hugeRemainder, hfault'⟩, s, htext, ?_,
    fun t => ?_⟩
  · exact houtside _ _ htext refusing [] [] () () "Star" (.inr rfl)
  · exact (hdatabase _ _ htext 1 .binary .none [] [] { db := {} } t "Star").2

end Evaluator
end TableQuery
