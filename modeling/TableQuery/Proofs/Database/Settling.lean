/-
# TableQuery.Proofs.Database.Settling — a subquery and its values say the same.

A subquery in a condition may be asked for its values, when a row needs them, or have its values
written down beforehand: as the list of literals behind IN, or as the literal of its single value in
the place of an operand.  The rows of the SELECT are the same either way (`Selection.all_settled`),
whatever the rows of its table, the order in which they are tested, and the operands that are passed
over.  A subquery that fails, and one in the place of an operand that has not one value, has no value
to write down and stays.

The two SELECTs are carried out to different depths, as one of them has fewer nodes; so what a SELECT
answers must not hang on the depth, as long as it is enough (`agree_resultsTo`).  That is the case in
which nothing is known, and both facts are instances of `agree_resultsBy`.

## §A — subqueries are smaller than what they stand in.
## §B — subqueries that are carried out in two ways.
## §C — a SELECT and the SELECT with values written down.
## §D — rows of a query.
-/
import TableQuery.Proofs.Database.Asking

namespace TableQuery

open Run Running Host

/-! ## §A — subqueries are smaller than what they stand in -/

namespace Expr

mutual

/-- A subquery has fewer nodes than the expression that it stands in. -/
theorem length_nodes_lt : ∀ (at_ : Place) (e : Expr), ∀ q ∈ e.subqueriesAt at_,
    (q.2.nodes true).length < (e.nodes true).length
  | at_, .binary _ l r, q, hq => by
      rw [subqueriesAt] at hq
      rw [nodes, List.length_cons, List.length_append]
      rcases List.mem_append.mp hq with hq | hq
      · have := length_nodes_lt _ l q hq
        omega
      · have := length_nodes_lt _ r q hq
        omega
  | at_, .unary _ e, q, hq => by
      rw [subqueriesAt] at hq
      exact Nat.lt_succ_of_lt (length_nodes_lt _ e q hq)
  | at_, .member l vs none _, q, hq => by
      rw [subqueriesAt] at hq
      simp only [nodes, List.length_cons, List.length_append]
      rcases List.mem_append.mp hq with hq | hq
      · have := length_nodes_lt _ l q hq
        omega
      · have := length_listNodes_lt 1 at_ vs q hq
        omega
  | at_, .member l vs (some s) _, q, hq => by
      rw [subqueriesAt] at hq
      simp only [nodes, Select.optionNodes, if_true, List.length_cons, List.length_append]
      rcases List.mem_append.mp hq with hq | hq
      · have := length_nodes_lt _ l q hq
        omega
      · obtain rfl := List.mem_singleton.mp hq
        dsimp only
        omega
  | at_, .isNull e _, q, hq => by
      rw [subqueriesAt] at hq
      exact Nat.lt_succ_of_lt (length_nodes_lt _ e q hq)
  | at_, .like l p _, q, hq => by
      rw [subqueriesAt] at hq
      rw [nodes, List.length_cons, List.length_append]
      rcases List.mem_append.mp hq with hq | hq
      · have := length_nodes_lt _ l q hq
        omega
      · have := length_nodes_lt _ p q hq
        omega
  | at_, .subquery s, q, hq => by
      rw [subqueriesAt] at hq
      obtain rfl := List.mem_singleton.mp hq
      exact Nat.lt_succ_self _
  | _, .literal _, _, hq | _, .column _, _, hq | _, .marker _, _, hq | _, .call .., _, hq
  | _, .star, _, hq | _, .misplaced _, _, hq => by
      simp [subqueriesAt] at hq

theorem length_listNodes_lt (n : Nat) (at_ : Place) : ∀ es : List Expr,
    ∀ q ∈ listSubqueriesAt n at_ es, (q.2.nodes true).length < (listNodes true es).length + 1
  | [], _, hq => nomatch hq
  | e :: es, q, hq => by
      rw [listSubqueriesAt] at hq
      rw [listNodes, List.length_append]
      rcases List.mem_append.mp hq with hq | hq
      · have := length_nodes_lt _ e q hq
        omega
      · have := length_listNodes_lt (n + 1) at_ es q hq
        omega

end

theorem length_optionNodes_lt (at_ : Place) (e : Option Expr) : ∀ q ∈ optionSubqueriesAt at_ e,
    (q.2.nodes true).length < (optionNodes true e).length + 1 := by
  cases e with
  | none => nofun
  | some e => exact fun q hq => Nat.lt_succ_of_lt (length_nodes_lt at_ e q hq)

theorem length_columnNodes (cs : List ResultColumn) :
    (listNodes true (cs.map ResultColumn.expression)).length ≤
      (ResultColumn.listNodes true cs).length := by
  induction cs with
  | nil => exact Nat.le_refl 0
  | cons c cs ih =>
      obtain ⟨e, a, l⟩ := c
      simp only [List.map_cons, listNodes, ResultColumn.listNodes, ResultColumn.nodes,
        ResultColumn.expression, List.length_append, List.length_cons]
      omega

theorem length_orderNodes (ts : List OrderTerm) :
    (listNodes true (ts.map OrderTerm.expression)).length ≤
      (OrderTerm.listNodes true ts).length := by
  induction ts with
  | nil => exact Nat.le_refl 0
  | cons t ts ih =>
      obtain ⟨e, d⟩ := t
      simp only [List.map_cons, listNodes, OrderTerm.listNodes, OrderTerm.nodes,
        OrderTerm.expression, List.length_append, List.length_cons]
      omega

end Expr

/-- **A subquery has fewer nodes** than the SELECT that it stands in. -/
theorem Select.length_nodes_lt (s : Select) {p : Place} {q : Select} (h : (p, q) ∈ s.subqueries) :
    (q.nodes true).length < (s.nodes true).length := by
  obtain ⟨t, cs, w, os, l, o⟩ := s
  have hcolumns := Expr.length_columnNodes cs
  have horder := Expr.length_orderNodes os
  simp only [Select.nodes, List.length_cons, List.length_append]
  simp only [Select.subqueries, List.mem_append] at h
  rcases h with h | h | h | h | h
  · have := Expr.length_listNodes_lt _ _ _ _ h
    dsimp only [Select.columns] at this
    omega
  · have := Expr.length_optionNodes_lt _ _ _ h
    dsimp only [Select.condition] at this
    omega
  · have := Expr.length_listNodes_lt _ _ _ _ h
    dsimp only [Select.orderBy] at this
    omega
  · have := Expr.length_optionNodes_lt _ _ _ h
    dsimp only [Select.limit] at this
    omega
  · have := Expr.length_optionNodes_lt _ _ _ h
    dsimp only [Select.offset] at this
    omega

/-! ## §B — subqueries that are carried out in two ways -/

namespace Running
open Database

section
variable {db : Database} {place : Nat} {run run' : Select → Run Database (List Record)}
  {subs : List (Place × Select)}

/-- The values of a subquery that answers the same in two ways. -/
theorem agree_members {p : Place} {q : Select} (hrun : Agree db.Alike (run q) (run' q))
    (htold : ToldApart subs) (hq : (p, q) ∈ subs) :
    Agree (Amid db place (Answered db run subs)) (members run p q) (members run' p q) := by
  obtain ⟨truth, htruth, htruth'⟩ := hrun
  have hknown : ∀ answers d, Answered db run subs answers → (p, d) ∈ answers →
      ∃ rows, truth = .ok rows ∧ d = remembered q rows :=
    fun answers d hgood hd => hgood.known hq htruth hd
  have hremember : ∀ answers rows, Answered db run subs answers → truth = .ok rows →
      Answered db run subs ((p, remembered q rows) :: answers.filter (·.1 != p)) := by
    rintro answers rows hgood rfl
    exact hgood.remember htold hq htruth
  exact agree_settled (settles_members htruth hknown hremember)
    (settles_members htruth' hknown hremember)

/-- The values that a subquery is known to have settle. -/
theorem settles_members_known {p : Place} {q : Select} {rows : List Record}
    (hrun : Settles db.Alike (run q) (.ok rows)) (htold : ToldApart subs) (hq : (p, q) ∈ subs) :
    Settles (Amid db place (Answered db run subs)) (members run p q)
      (.ok (rows.map (Value.contributed (contributing q)))) := by
  refine settles_members hrun (fun answers d hgood hd => hgood.known hq hrun hd) ?_
  intro answers rows' hgood hrows
  obtain rfl := Except.ok.inj hrows
  exact hgood.remember htold hq hrun

/-- Two readings that go together do the same from the beginning in every alike database. -/
theorem together_settles {good : List (Place × Deferred) → Prop} (hgood : good []) {α : Type}
    {x y : StateM Running α} (h : Together (Amid db place good) (liftM x) (liftM y)) :
    ∃ a, ∀ db', db.Alike () db' →
      (∃ r, x.run { db := db', place } = (a, r) ∧ db.Alike () r.db) ∧
        ∃ r, y.run { db := db', place } = (a, r) ∧ db.Alike () r.db := by
  obtain ⟨answer, source, hx, hy⟩ := h .closed
  have hstart : ∀ db', db.Alike () db' → Amid db place good .closed { db := db', place } :=
    fun _ halike => ⟨halike, rfl, rfl, hgood⟩
  have hself := (hx _ (hstart db (alike_self db))).1
  refine ⟨(x.run { db, place }).1, fun db' halike => ?_⟩
  obtain ⟨hanswer, hafter⟩ := hx _ (hstart db' halike)
  obtain ⟨hanswer', hafter'⟩ := hy _ (hstart db' halike)
  have hsame : (x.run { db := db', place }).1 = (x.run { db, place }).1 :=
    Except.ok.inj (hanswer.trans hself.symm)
  have hsame' : (y.run { db := db', place }).1 = (x.run { db, place }).1 :=
    Except.ok.inj (hanswer'.trans hself.symm)
  exact ⟨⟨(x.run { db := db', place }).2, Prod.ext hsame rfl, hafter.database⟩,
    (y.run { db := db', place }).2, Prod.ext hsame' rfl, hafter'.database⟩

end
end Running

/-! ## §C — a SELECT and the SELECT with values written down -/

/-- **The SELECT with known values written down** in its condition. -/
def Select.settled (known : Known) : Select → Select
  | .mk table columns condition orderBy limit offset =>
    .mk table columns (condition.map (·.settled known false [1])) orderBy limit offset

theorem Select.settled_nothing (s : Select) : s.settled .nothing = s := by
  obtain ⟨t, cs, w | w, os, l, o⟩ := s
  · rfl
  · rw [Select.settled, Option.map_some, Expr.settled_nothing]

theorem Select.subqueries_settled_subset (known : Known) (s : Select) :
    (s.settled known).subqueries ⊆ s.subqueries := by
  obtain ⟨t, cs, w, os, l, o⟩ := s
  refine Expr.append_subset_append (List.Subset.refl _)
    (Expr.append_subset_append ?_ (List.Subset.refl _))
  cases w with
  | none => exact List.Subset.refl _
  | some w => exact Expr.subqueriesAt_settled_subset known false [1] w

namespace Database

section
variable {db : Database} {run run' : Select → Run Database (List Record)} {s : Select}
  {known : Known}

/-- **What is known is true** — the values of a subquery are those of the rows that it answers. -/
def Knows (db : Database) (run : Select → Run Database (List Record)) (known : Known)
    (subs : List (Place × Select)) : Prop :=
  ∀ p q, (p, q) ∈ subs → ∀ values, known p q = some values →
    ∃ rows, Settles db.Alike (run q) (.ok rows) ∧
      values = rows.map (Value.contributed (contributing q))

/-- Whether the table of a SELECT begins its reading alike for both SELECTs. -/
def ReadsAlike (db : Database) (s s' : Select) : Prop :=
  ∀ place, db.find s.table = .ok place →
    ((db.table place).read (collationOf db place) s').1 =
      ((db.table place).read (collationOf db place) s).1

/-- A table that is not scripted takes every SELECT alike. -/
theorem readsAlike_of_unscripted
    (h : ∀ place, db.find s.table = .ok place → ∀ sc, (db.table place).content ≠ .script sc)
    (s' : Select) : db.ReadsAlike s s' := by
  intro place hfind
  have hscript := h place hfind
  rcases hcontent : (db.table place).content with _ | k | rows | f | sc
  case script => exact absurd hcontent (hscript sc)
  all_goals simp only [Table.read, hcontent]

/-- **Beside** — a SELECT and the SELECT with known values written down, the subqueries of the one
carried out by `run` and those of the other by `run'`. -/
theorem beside_settled {place : Nat} (hsteady : ∀ q, Steady db.Alike (run q))
    (hrun : ∀ p q, (p, q) ∈ (s.settled known).subqueries → Agree db.Alike (run q) (run' q))
    (hknown : db.Knows run known s.subqueries)
    (hread : ((db.table place).read (collationOf db place) (s.settled known)).1 =
      ((db.table place).read (collationOf db place) s).1) :
    (host s.table (evaluator run (collationOf db place))).Beside (members run')
      (Amid db place (Answered db run s.subqueries)) s (s.settled known) where
  toGuided := host_guided s.table (evaluator_answers place hsteady s.toldApart_subqueries _)
  columns_eq := by cases s; rfl
  orderBy_eq := by cases s; rfl
  limit_eq := by cases s; rfl
  offset_eq := by cases s; rfl
  begins source := by
    refine ⟨_, _, fun _ hr => hr.read (collationOf db place) s, fun _ hr => ?_⟩
    rw [← hread]
    exact hr.read (collationOf db place) (s.settled known)
  agrees p hp :=
    agree_members (hrun p.1 p.2 hp) s.toldApart_subqueries (s.subqueries_settled_subset known hp)
  holds row := by
    have hcondition : (s.settled known).condition =
        s.condition.map (·.settled known false [1]) := by cases s; rfl
    have hsub (e : Expr) (he : s.condition = some e) : e.subqueriesAt [1] ⊆ s.subqueries := by
      have hcondition := s.condition_subset
      rwa [he] at hcondition
    rw [hcondition]
    -- A value that is written down is what the subquery would have; every other subquery is still
    -- there, and both runs agree on it.
    refine Evaluator.agree_holds row [1] s.condition (fun e he p hp values hvalues => ?_)
      fun e he p hp => ?_
    · obtain ⟨rows, hrows, rfl⟩ := hknown p.1 p.2 (hsub e he hp) values hvalues
      exact settles_members_known hrows s.toldApart_subqueries (hsub e he hp)
    · have hleft : p ∈ (s.settled known).subqueries := by
        refine (s.settled known).condition_subset ?_
        rw [hcondition, he]
        exact hp
      exact agree_members (hrun p.1 p.2 hleft) s.toldApart_subqueries
        (s.subqueries_settled_subset known hleft)

/-- **A SELECT and the SELECT with values written down agree** in every database alike, when each
subquery answers the same in the two ways in which it is carried out. -/
theorem agree_resultsBy (hsteady : ∀ q, Steady db.Alike (run q))
    (hrun : ∀ p q, (p, q) ∈ (s.settled known).subqueries → Agree db.Alike (run q) (run' q))
    (hknown : db.Knows run known s.subqueries) (hread : db.ReadsAlike s (s.settled known)) :
    Agree db.Alike (resultsBy run s) (resultsBy run' (s.settled known)) := by
  have htable : (s.settled known).table = s.table := by cases s; rfl
  -- Without its table both fail alike; both name the same one.
  rcases hfind : db.find s.table with e | place
  · refine ⟨.error e, fun _ db' halike => ?_, fun _ db' halike => ?_⟩
    · rw [outcome_resultsBy_missing ((halike.find s.table).trans hfind)]
      exact ⟨rfl, halike⟩
    · rw [outcome_resultsBy_missing ((congrArg db'.find htable).trans
        ((halike.find s.table).trans hfind))]
      exact ⟨rfl, halike⟩
  · have hbeside := beside_settled hsteady hrun hknown (hread place hfind)
    obtain ⟨result, hresults⟩ :=
      together_settles (answered_nil db run s.subqueries) hbeside.results
    refine ⟨result.2.elim (.ok result.1) .error, fun _ db' halike => ?_, fun _ db' halike => ?_⟩
    · obtain ⟨⟨r, hr, hafter⟩, -⟩ := hresults db' halike
      rw [← halike.collationOf place] at hr
      rw [outcome_resultsBy ((halike.find s.table).trans hfind) hr]
      exact ⟨rfl, hafter⟩
    · obtain ⟨-, r, hr, hafter⟩ := hresults db' halike
      rw [← halike.collationOf place, ← htable] at hr
      rw [outcome_resultsBy ((congrArg db'.find htable).trans
        ((halike.find s.table).trans hfind)) hr]
      exact ⟨rfl, hafter⟩

end

/-- **The depth has no part in the answer** of a SELECT, as long as it is enough for its nodes. -/
theorem agree_resultsTo (db : Database) {depth depth' : Nat} {s : Select}
    (h : (s.nodes true).length ≤ depth) (h' : (s.nodes true).length ≤ depth') :
    Agree db.Alike (resultsTo depth s) (resultsTo depth' s) := by
  have hpos : 0 < (s.nodes true).length := by
    cases s
    exact Nat.succ_pos _
  induction depth generalizing depth' s with
  | zero => omega
  | succ depth ih =>
    cases depth' with
    | zero => omega
    | succ depth' =>
      have hagree : Agree db.Alike (resultsBy (resultsTo depth) s)
          (resultsBy (resultsTo depth') (s.settled .nothing)) := by
        refine agree_resultsBy (steady_resultsTo db depth) (fun p q hq => ?_)
          (fun _ _ _ _ => nofun) fun _ _ => ?_
        · -- A subquery has fewer nodes, so that one depth less is enough for it.
          rw [s.settled_nothing] at hq
          have hlt := s.length_nodes_lt hq
          refine ih (by omega) (by omega) ?_
          cases q
          exact Nat.succ_pos _
        · rw [s.settled_nothing]
      rwa [s.settled_nothing] at hagree

/-! ## §D — rows of a query -/

/-- **The values of the subqueries of a tree** in a database, as far as they run without a failure:
what a deferred set holds once it is filled. -/
def valuesOf (db : Database) (n : Node) : Known := fun _ q =>
  match ((({ column := contributing q } : Deferred).fill (subqueries n q)).outcome db).1 with
  | .ok filled => filled.values
  | .error _ => none

theorem knows_valuesOf (db : Database) (n : Node) (subs : List (Place × Select)) :
    db.Knows (subqueries n) (db.valuesOf n) subs := by
  intro p q _ values hvalues
  obtain ⟨truth, htruth⟩ := steady_resultsTo db ((n.nodes true).length + 1) q
  have hself : ((subqueries n q).outcome db).1 = truth := (htruth () db (alike_self db)).1
  rw [valuesOf, Deferred.fill, outcome_bind] at hvalues
  rcases hout : (subqueries n q).outcome db with ⟨e | rows, db'⟩
  · rw [hout] at hvalues
    cases hvalues
  · rw [hout] at hvalues hself
    subst hself
    exact ⟨rows, htruth, (Option.some.inj hvalues).symm⟩

end Database

/-- **Values in the place of their subqueries change no row.**  Where the subqueries of a condition
run without a failure, writing their values down, as lists behind IN and as single values of operands,
leaves what the query answers as it was. -/
theorem Selection.all_settled (db : Database) (s : Select)
    (hread : db.ReadsAlike s (s.settled (db.valuesOf (.statement (.select s))))) :
    ((Selection.all
        { statement := s.settled (db.valuesOf (.statement (.select s))) }).outcome db).1 =
      ((Selection.all { statement := s }).outcome db).1 := by
  have hdepth : ∀ p q,
      (p, q) ∈ (s.settled (db.valuesOf (.statement (.select s)))).subqueries →
      Agree db.Alike (Database.subqueries (.statement (.select s)) q)
        (Database.subqueries (.statement (.select
          (s.settled (db.valuesOf (.statement (.select s)))))) q) := by
    intro p q hq
    have hlt := s.length_nodes_lt (s.subqueries_settled_subset _ hq)
    have hlt' := (s.settled _).length_nodes_lt hq
    exact db.agree_resultsTo (Nat.le_succ_of_le hlt.le) (Nat.le_succ_of_le hlt'.le)
  obtain ⟨answer, hself, hsettled⟩ := Database.agree_resultsBy
    (Database.steady_resultsTo db _) hdepth (db.knows_valuesOf (.statement (.select s)) _) hread
  rw [answer_all, answer_all]
  exact (hsettled () db (Database.alike_self db)).1.trans (hself () db (Database.alike_self db)).1.symm

/-- A database of two tables of numbers. -/
def numbersDatabase : Database where
  tables := [
    { name := "t", content := .kept (.ofRows (Kept.numbered
        [[(.name "a", .int 1)], [(.name "a", .int 2)], [(.name "a", .int 3)]])) },
    { name := "u", content := .kept (.ofRows (Kept.numbered
        [[(.name "b", .int 2)], [(.name "b", .int 3)], [(.name "b", .int 4)]])) }]
  names := [("t", 0), ("u", 1)]

/-- `SELECT b FROM u WHERE b IN (SELECT a FROM t)`. -/
def commonNumbers : Select :=
  .mk "u" [.mk (.column "b") none "b"]
    (some (.member (.column "b") []
      (some (.mk "t" [.mk (.column "a") none "a"] none [] none none)) false)) [] none none

/-- `SELECT b FROM u LIMIT 1`. -/
def firstNumber : Select :=
  .mk "u" [.mk (.column "b") none "b"] none [] (some (.literal (.int 1))) none

/-- The numbers of the one table that are in both and above the first one of the other. -/
def furtherCommon : Select :=
  .mk "t" [.all]
    (some (.binary .and (.member (.column "a") [] (some commonNumbers) false)
      (.binary .gt (.column "a") (.subquery firstNumber)))) [] none none

/-- `a IN (2, 3) AND a > 2`. -/
def furtherCommonSettled : Select :=
  .mk "t" [.all]
    (some (.binary .and
      (.member (.column "a") [.literal (.int 2), .literal (.int 3)] none false)
      (.binary .gt (.column "a") (.literal (.int 2))))) [] none none

/-- The whole number that a value is. -/
def Value.whole? : Value → Option Int
  | .int i => some i
  | _ => none

theorem Value.eq_ints_of_whole {values : Option (List Value)} (is : List Int)
    (h : values.map (·.map Value.whole?) = some (is.map some)) : values = some (is.map .int) := by
  obtain ⟨vs, rfl, hvs⟩ := Option.map_eq_some_iff.mp h
  refine congrArg some ?_
  clear h
  induction vs generalizing is with
  | nil =>
      cases is with
      | nil => rfl
      | cons i is => cases hvs
  | cons v vs ih =>
      cases is with
      | nil => cases hvs
      | cons i is =>
          obtain ⟨hv, hvs⟩ := List.cons.inj hvs
          rw [ih is hvs, List.map_cons]
          cases v
          case int j =>
            obtain rfl := Option.some.inj hv
            rfl
          all_goals cases hv

theorem settled_furtherCommon :
    furtherCommon.settled (numbersDatabase.valuesOf (.statement (.select furtherCommon))) =
      furtherCommonSettled := by
  have hcommon : numbersDatabase.valuesOf (.statement (.select furtherCommon)) [1, 0, 1]
      commonNumbers = some [.int 2, .int 3] :=
    Value.eq_ints_of_whole [2, 3] (by decide +kernel)
  have hfirst : numbersDatabase.valuesOf (.statement (.select furtherCommon)) [1, 1, 1]
      firstNumber = some [.int 2] :=
    Value.eq_ints_of_whole [2] (by decide +kernel)
  unfold furtherCommon at hcommon hfirst ⊢
  simp only [Select.settled, Option.map_some, Expr.settled, Expr.settledOperand, hcommon, hfirst]
  rfl

/-- Both subqueries have values, one of them a subquery of its own, and the same row is left. -/
theorem Selection.all_furtherCommon :
    numbersDatabase.ReadsAlike furtherCommon
        (furtherCommon.settled (numbersDatabase.valuesOf (.statement (.select furtherCommon)))) ∧
      ((Selection.all { statement := furtherCommonSettled }).outcome numbersDatabase).1 =
        ((Selection.all { statement := furtherCommon }).outcome numbersDatabase).1 := by
  have hread : numbersDatabase.ReadsAlike furtherCommon
      (furtherCommon.settled (numbersDatabase.valuesOf (.statement (.select furtherCommon)))) := by
    refine Database.readsAlike_of_unscripted (fun place hfind sc => ?_) _
    obtain rfl : 0 = place := Except.ok.inj hfind
    nofun
  refine ⟨hread, ?_⟩
  rw [← settled_furtherCommon]
  exact Selection.all_settled numbersDatabase furtherCommon hread

end TableQuery
