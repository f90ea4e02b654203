/-
# TableQuery.Proofs.Sql.Subqueries — the queries that are written in a text.

A statement holds a SELECT for each query of its text, and one phrase is written once and meant twice:
the subject of BETWEEN is compared with both bounds, and each comparison has a subject of its own.
`Phrase.queries` lists the queries in a phrase as they are written or, `copied`, with those of such a
subject for each bound; the SELECTs of a statement stand for queries of the second list
(`Statement.selects_ofText`).

## §A — queries in a phrase.
## §B — results with a property.
## §C — SELECTs for queries.
## §D — expressions and queries.
## §E — texts.
-/
import TableQuery.Proofs.Evaluation.Selects
import TableQuery.Proofs.Sql.Numbering

namespace TableQuery
namespace Sql

/-! ## §A — queries in a phrase -/

mutual

/-- **The queries in a phrase**; if `copied`, those in the subject of a BETWEEN once for each bound. -/
def Phrase.queries (copied : Bool) : Phrase → List Query
  | .query q => q.queries copied
  | .within s l h =>
    s.queries copied ++ (l.queries copied ++
      ((if copied then s.queries copied else []) ++ h.queries copied))
  | .paren p | .leading _ p | .cast p _ => p.queries copied
  | .column ps | .tuple ps | .call _ ps | .userCall _ _ ps | .aggregate _ ps | .distinct ps
  | .rows ps | .other _ _ ps => Phrase.listQueries copied ps
  | .between _ l r | .memberOfQuery l r | .escape l r | .renamed l r | .collate l r | .dot l r
  | .combined _ l r => l.queries copied ++ r.queries copied
  | .memberOf s ps | .renamedAll s ps => s.queries copied ++ Phrase.listQueries copied ps
  | .memberOfField s p | .subquery s p => s.queries copied ++ Phrase.optionQueries copied p
  | .choice s bs d =>
    Phrase.optionQueries copied s ++
      (Phrase.branchQueries copied bs ++ Phrase.optionQueries copied d)
  | .parameter p => Phrase.optionQueries copied p
  | .table ps n => Phrase.listQueries copied ps ++ Phrase.optionQueries copied n
  | .number _ | .string _ | .null | .boolean _ | .star | .name .. | .question _ | .marker _ => []

/-- The queries in phrases beside each other. -/
def Phrase.listQueries (copied : Bool) : List Phrase → List Query
  | [] => []
  | p :: ps => p.queries copied ++ Phrase.listQueries copied ps

/-- The queries in a phrase that may be absent. -/
def Phrase.optionQueries (copied : Bool) : Option Phrase → List Query
  | none => []
  | some p => p.queries copied

/-- The queries in the branches of a choice. -/
def Phrase.branchQueries (copied : Bool) : List (Phrase × Phrase) → List Query
  | [] => []
  | (c, v) :: rest => c.queries copied ++ (v.queries copied ++ Phrase.branchQueries copied rest)

/-- The queries in an item of an ORDER BY list. -/
def Ordered.queries (copied : Bool) : Ordered → List Query
  | .mk p _ _ => p.queries copied

/-- The queries in an ORDER BY list. -/
def Ordered.listQueries (copied : Bool) : List Ordered → List Query
  | [] => []
  | o :: os => o.queries copied ++ Ordered.listQueries copied os

/-- A query and the queries in it, clause by clause. -/
def Query.queries (copied : Bool) : Query → List Query
  | .mk common distinct cs s js lateral w g h os l o dropped =>
    .mk common distinct cs s js lateral w g h os l o dropped ::
      (Phrase.listQueries copied cs ++ (Phrase.optionQueries copied s ++
        (Phrase.listQueries copied js ++ (Phrase.optionQueries copied w ++
          (Phrase.groupQueries copied g ++ (Phrase.optionQueries copied h ++
            (Ordered.listQueries copied os ++ (Phrase.optionQueries copied l ++
              Phrase.optionQueries copied o))))))))

/-- The queries in what is grouped by. -/
def Phrase.groupQueries (copied : Bool) : Option (List Phrase) → List Query
  | none => []
  | some ps => Phrase.listQueries copied ps

end

/-! ## §B — results with a property -/

section
variable {α β : Type} {P : α → Prop} {Q : β → Prop}

/-- **Always** — every result of a meaning has a property. -/
def Always (P : α → Prop) (x : Meaning Nat α) : Prop := ∀ a, Gives x a → P a

theorem always_pure {a : α} (h : P a) : Always P (pure a) := by
  intro b hb
  obtain rfl := hb.eq
  exact h

theorem always_throw (e : Error) : Always P (throw e) :=
  fun a ha => absurd ha (not_gives_throw e a)

theorem Always.bind {x : Meaning Nat α} {f : α → Meaning Nat β} (hx : Always P x)
    (hf : ∀ a, P a → Always Q (f a)) : Always Q (x >>= f) := by
  intro b hb
  obtain ⟨a, ha, hb⟩ := hb.of_bind
  exact hf a (hx a ha) b hb

theorem Always.returning {x : Meaning Nat α} {f : α → β} (hx : Always P x)
    (hf : ∀ a, P a → Q (f a)) : Always Q (x >>= fun a => pure (f a)) :=
  hx.bind fun a ha => always_pure (hf a ha)

end

section
variable {P Q R : Expr → Prop} {x y : Meaning Nat Expr}

theorem Always.opposed (hx : Always P x) (h : ∀ e, P e → P (.unary .not e)) (negative : Bool) :
    Always P (opposed negative x) := by
  cases negative with
  | false => exact hx
  | true => exact hx.returning h

theorem Always.orText (hx : Always P x) {written : String} (h : P (.literal (.text written))) :
    Always P (orText written x) := by
  rintro e ⟨n, hn⟩
  rw [outcome_orText] at hn
  rcases hout : Run.outcome x n with ⟨fault | e', m⟩
  · rw [hout] at hn
    cases fault with
    | parse fault =>
      obtain rfl := Except.ok.inj hn
      exact h
    | _ => cases hn
  · rw [hout] at hn
    exact hx e ⟨n, by rw [hout, ← hn]⟩

theorem always_joined (hx : Always P x) (hy : Always Q y)
    (h : ∀ op l r, P l → Q r → R (.binary op l r)) (op : Infix) : Always R (joined op x y) := by
  unfold joined
  split
  · exact hx.bind fun l hl => hy.bind fun r hr => always_pure (h _ l r hl hr)
  · exact always_throw _

theorem always_identityTest (hx : Always P x) (h : ∀ l negative, P l → Q (.isNull l negative))
    (written : String) (right : Phrase) (negative : Bool) :
    Always Q (identityTest x written right negative) := by
  unfold identityTest
  split
  · exact hx.returning fun l hl => h l negative hl
  · exact hx.returning fun l hl => h l (!negative) hl
  · exact always_throw _

theorem always_memberOfField (hx : Always P x)
    (h : ∀ l negative, P l → Q (.member l [] none negative)) (hasField negative : Bool) :
    Always Q (memberOfField x hasField negative) := by
  cases hasField with
  | false => exact hx.returning fun l hl => h l negative hl
  | true => exact hx.bind fun _ _ => always_throw _

theorem always_resultColumn {S : ResultColumn → Prop} {p : Phrase} {aliasName : Option String}
    (hx : Always P x) (hstar : S (.mk .star aliasName "*"))
    (h : ∀ e label, P e → S (.mk e aliasName label)) : Always S (resultColumn p aliasName x) := by
  unfold resultColumn
  split
  · exact always_pure hstar
  · exact hx.returning fun e he => h e _ he

end

/-! ## §C — SELECTs for queries -/

/-- **SELECTs that stand for queries**: one for each of some of the queries, in their order. -/
abbrev StandFor (selects : List Select) (queries : List Query) : Prop :=
  List.SublistForall₂ (fun s q => q.RepresentedBy s) selects queries

section
variable {α β : Type} {selects more : List Select} {queries others : List Query}

theorem StandFor.append (h : StandFor selects queries) (h' : StandFor more others) :
    StandFor (selects ++ more) (queries ++ others) := by
  obtain ⟨qs, hqs, hsub⟩ := List.sublistForall₂_iff.mp h
  obtain ⟨qs', hqs', hsub'⟩ := List.sublistForall₂_iff.mp h'
  exact List.sublistForall₂_iff.mpr ⟨qs ++ qs', List.rel_append hqs hqs', hsub.append hsub'⟩

theorem StandFor.within (h : StandFor selects queries) (hsub : queries.Sublist others) :
    StandFor selects others := by
  obtain ⟨qs, hqs, hqs'⟩ := List.sublistForall₂_iff.mp h
  exact List.sublistForall₂_iff.mpr ⟨qs, hqs, hqs'.trans hsub⟩

theorem StandFor.left (h : StandFor selects queries) : StandFor selects (queries ++ others) :=
  h.within (List.sublist_append_left _ _)

theorem StandFor.right (h : StandFor selects queries) : StandFor selects (others ++ queries) :=
  h.within (List.sublist_append_right _ _)

/-- The end of a list of expressions holds no SELECT. -/
theorem StandFor.ended (h : StandFor selects queries) : StandFor (selects ++ []) queries := by
  rwa [List.append_nil]

/-- A meaning whose results have SELECTs for some queries. -/
def Means (of : α → List Select) (queries : List Query) (x : Meaning Nat α) : Prop :=
  Always (fun a => StandFor (of a) queries) x

variable {of : α → List Select} {of' : β → List Select} {x : Meaning Nat α}

theorem means_pure {a : α} (h : StandFor (of a) queries) : Means of queries (pure a) :=
  always_pure h

theorem means_throw (e : Error) : Means of queries (throw e) := always_throw e

theorem Means.bind {f : α → Meaning Nat β} (hx : Means of queries x)
    (hf : ∀ a, StandFor (of a) queries → Means of' others (f a)) : Means of' others (x >>= f) :=
  Always.bind hx hf

/-- What is made of a result and holds the same SELECTs. -/
theorem Means.returning {f : α → β} (hx : Means of queries x) (hf : ∀ a, of' (f a) = of a) :
    Means of' queries (x >>= fun a => pure (f a)) :=
  hx.bind fun a ha => means_pure ((hf a).symm ▸ ha)

end

section
variable {queries others : List Query} {x y : Meaning Nat Expr}

theorem Means.opposed (hx : Means Expr.selects queries x) (negative : Bool) :
    Means Expr.selects queries (opposed negative x) :=
  Always.opposed hx (fun _ he => he) negative

/-- A text that stands in for a phrase holds no SELECT. -/
theorem Means.orText (hx : Means Expr.selects queries x) (written : String) :
    Means Expr.selects queries (orText written x) :=
  Always.orText hx .nil

theorem means_joined (hx : Means Expr.selects queries x) (hy : Means Expr.selects others y)
    (op : Infix) : Means Expr.selects (queries ++ others) (joined op x y) :=
  always_joined hx hy (fun _ _ _ hl hr => hl.append hr) op

/-- A call of two arguments. -/
theorem Means.called (hx : Means Expr.selects queries x) (hy : Means Expr.selects others y)
    (name : String) : Means Expr.selects (queries ++ others)
      (x >>= fun a => y >>= fun b => pure (.call name [a, b])) := by
  refine hx.bind fun a ha => hy.bind fun b hb => means_pure ?_
  exact ha.append hb.ended

theorem means_identityTest (hx : Means Expr.selects queries x) (written : String) (right : Phrase)
    (negative : Bool) : Means Expr.selects queries (identityTest x written right negative) :=
  always_identityTest hx (fun _ _ hl => hl) written right negative

theorem means_memberOfField (hx : Means Expr.selects queries x) (hasField negative : Bool) :
    Means Expr.selects queries (memberOfField x hasField negative) :=
  always_memberOfField hx (fun _ _ hl => hl.ended) hasField negative

/-- The SELECTs in an item of a select list are those of its expression. -/
theorem means_resultColumn (hx : Means Expr.selects queries x) (p : Phrase)
    (aliasName : Option String) :
    Means ResultColumn.selects queries (resultColumn p aliasName x) :=
  always_resultColumn hx .nil fun _ _ he => he

end

/-! ## §D — expressions and queries -/

mutual

theorem Phrase.means_expression : ∀ (negative : Bool) (p : Phrase),
    Means Expr.selects (p.queries true) (p.expression .counting negative)
  | negative, .paren p => p.means_expression negative
  | negative, .memberOf l ps =>
    (l.means_expression false).bind fun l hl =>
      (Phrase.means_expressions ps).bind fun vs hvs => means_pure (hl.append hvs.ended)
  | negative, .memberOfQuery l q =>
    (l.means_expression false).bind fun l hl => q.means_asQuery.bind fun s hs =>
      means_pure (hl.append hs)
  | negative, .memberOfField l f =>
    fun e he => (means_memberOfField (l.means_expression false) f.isSome negative e he).left
  | negative, .between op l r => by
    have hl := l.means_expression false
    have hr := r.means_expression false
    cases op with
    | is => exact fun e he => (means_identityTest hl _ r negative e he).left
    | like => exact hl.bind fun l hl => hr.bind fun r hr => means_pure (hl.append hr)
    | regexp => exact ((hl.orText _).called (hr.orText _) _).opposed negative
    | _ => exact (means_joined hl hr _).opposed negative
  | negative, .within s low high => by
    -- The subject stands before the lower bound and again before the upper one.
    refine Means.opposed ((s.means_expression false).bind fun subject hsubject =>
      (low.means_expression false).bind fun lower hlower =>
        (high.means_expression false).bind fun upper hupper => means_pure ?_) negative
    have hboth := (hsubject.append hlower).append (hsubject.append hupper)
    rwa [List.append_assoc (s.queries true)] at hboth
  | negative, .leading .not p => (p.means_expression true).opposed negative
  | negative, .leading .neg p => by
    refine Means.opposed ((p.means_expression false).returning fun e => ?_) negative
    unfold withMinus
    split <;> rfl
  | negative, .leading .bitNot p => means_throw _
  | negative, .column parts => by
    refine Means.opposed ?_ negative
    split
    · exact means_throw _
    · exact means_pure .nil
  | negative, .number text => by
    refine Means.opposed (fun e he => ?_) negative
    obtain ⟨v, -, rfl⟩ := he.of_returning
    exact .nil
  | negative, .string _ | negative, .null | negative, .boolean _ | negative, .marker _ =>
    (means_pure .nil).opposed negative
  | negative, .question place => by
    refine Means.opposed (fun e he => ?_) negative
    obtain ⟨n, -, rfl⟩ := he.of_returning
    exact .nil
  | negative, .subquery p aliasName => by
    refine Means.opposed ?_ negative
    exact p.means_asQuery.bind fun s hs => means_pure hs.left
  | negative, .query q => by
    refine Means.opposed ?_ negative
    exact q.means_select.returning fun _ => rfl
  | negative, .aggregate _ _ => (means_throw _).opposed negative
  | negative, .call _ ps | negative, .userCall _ _ ps => by
    refine Means.opposed ?_ negative
    exact (Phrase.means_arguments ps).returning fun _ => rfl
  | negative, .choice s bs d => by
    refine Means.opposed ((Phrase.means_optionArgument s).bind fun subject hsubject =>
      (Phrase.means_branchArguments bs).bind fun branches hbranches =>
        (Phrase.means_optionArgument d).bind fun default hdefault => means_pure ?_) negative
    have hall := hsubject.append (hbranches.append hdefault)
    rwa [← Expr.listSelects_append, ← Expr.listSelects_append, ← List.append_assoc] at hall
  | negative, .cast p type => by
    refine Means.opposed ?_ negative
    exact ((p.means_expression false).orText _).returning fun e => List.append_nil e.selects
  | negative, .collate p name =>
    (((p.means_expression false).orText _).called ((name.means_expression false).orText _) _).opposed
      negative
  | _, .star | _, .name .. | _, .tuple _ | _, .escape .. | _, .renamed .. | _, .renamedAll ..
  | _, .distinct _ | _, .dot .. | _, .parameter _ | _, .combined .. | _, .rows _ | _, .table ..
  | _, .other .. => means_throw _

theorem Phrase.means_asQuery (p : Phrase) :
    Means Select.selects (p.queries true) (p.asQuery .counting) := by
  cases p with
  | query q => exact q.means_select
  | _ => exact means_throw _

theorem Phrase.means_expressions : ∀ ps : List Phrase,
    Means Expr.listSelects (Phrase.listQueries true ps) (Phrase.expressions .counting ps)
  | [] => means_pure .nil
  | p :: ps =>
    (p.means_expression false).bind fun _ he =>
      (Phrase.means_expressions ps).bind fun _ hes => means_pure (he.append hes)

theorem Phrase.means_arguments : ∀ ps : List Phrase,
    Means Expr.listSelects (Phrase.listQueries true ps) (Phrase.arguments .counting ps)
  | [] => means_pure .nil
  | p :: ps =>
    ((p.means_expression false).orText _).bind fun _ he =>
      (Phrase.means_arguments ps).bind fun _ hes => means_pure (he.append hes)

theorem Phrase.means_optionArgument : ∀ p : Option Phrase,
    Means Expr.listSelects (Phrase.optionQueries true p) (Phrase.optionArgument .counting p)
  | none => means_pure .nil
  | some p => ((p.means_expression false).orText _).returning fun e => List.append_nil e.selects

theorem Phrase.means_branchArguments : ∀ bs : List (Phrase × Phrase),
    Means Expr.listSelects (Phrase.branchQueries true bs) (Phrase.branchArguments .counting bs)
  | [] => means_pure .nil
  | (c, v) :: rest => by
    refine ((c.means_expression false).orText _).bind fun condition hcondition =>
      ((v.means_expression false).orText _).bind fun value hvalue =>
        (Phrase.means_branchArguments rest).bind fun es hes => means_pure ?_
    have hall := (hcondition.append hvalue.ended).append hes
    rwa [List.append_assoc (c.queries true)] at hall

theorem Ordered.means_terms : ∀ os : List Ordered,
    Means OrderTerm.listSelects (Ordered.listQueries true os) (Ordered.terms .counting os)
  | [] => means_pure .nil
  | .mk p desc nulls :: os => by
    have hterm : Means OrderTerm.selects (p.queries true)
        ((Ordered.mk p desc nulls).term .counting) :=
      (p.means_expression false).returning fun _ => rfl
    exact hterm.bind fun t ht => (Ordered.means_terms os).bind fun ts hts =>
      means_pure (ht.append hts)

theorem Phrase.means_resultColumns : ∀ ps : List Phrase,
    Means ResultColumn.listSelects (Phrase.listQueries true ps) (Phrase.resultColumns .counting ps)
  | [] => means_pure .nil
  | p :: ps => by
    have hps := Phrase.means_resultColumns ps
    have hp := p.means_expression false
    have hcons {column : Meaning Nat ResultColumn}
        (hcolumn : Means ResultColumn.selects (p.queries true) column) :
        Means ResultColumn.listSelects (Phrase.listQueries true (p :: ps))
          (column >>= fun c => Phrase.resultColumns .counting ps >>= fun cs => pure (c :: cs)) :=
      hcolumn.bind fun c hc => hps.bind fun cs hcs => means_pure (hc.append hcs)
    cases p with
    | renamed p name =>
      exact hcons fun c hc => (means_resultColumn (p.means_expression false) p _ c hc).left
    | _ => exact hcons (means_resultColumn hp _ none)

theorem Phrase.means_optionExpression : ∀ p : Option Phrase,
    Means Expr.optionSelects (Phrase.optionQueries true p) (Phrase.optionExpression .counting p)
  | none => means_pure .nil
  | some p => (p.means_expression false).returning fun _ => rfl

theorem Query.means_select : ∀ q : Query,
    Means Select.selects (q.queries true) (q.select .counting)
  | .mk common distinct columns source joins lateral condition grouping having order limit offset
      dropped => by
    intro s hs
    have hself := Query.representedBy_of_gives hs
    rw [Query.select_eq] at hs
    split at hs
    · exact absurd hs (not_gives_throw _ _)
    · obtain ⟨table, -, hs⟩ := hs.of_bind
      obtain ⟨cs, hcs, hs⟩ := hs.of_bind
      obtain ⟨w, hw, hs⟩ := hs.of_bind
      obtain ⟨os, hos, hs⟩ := hs.of_bind
      obtain ⟨l, hl, hs⟩ := hs.of_bind
      obtain ⟨o, ho, rfl⟩ := hs.of_returning
      have hcolumns := Phrase.means_resultColumns columns cs hcs
      have hcondition := Phrase.means_optionExpression condition w hw
      have horder := Ordered.means_terms order os hos
      have hlimit := Phrase.means_optionExpression limit l hl
      have hoffset := Phrase.means_optionExpression offset o ho
      -- Between the clauses that have a place in the statement stand the source and joins, and then
      -- GROUP BY and HAVING.
      exact .cons hself (hcolumns.append (StandFor.right (StandFor.right (hcondition.append
        (StandFor.right (StandFor.right (horder.append (hlimit.append hoffset))))))))

end

/-! ## §E — texts -/

end Sql

open Sql in
/-- **The SELECTs of a text.**  The text of a SELECT is a query, and the SELECTs of the one stand for
queries of the other, where the queries in the subject of a BETWEEN count once for each bound. -/
theorem Statement.selects_ofText {text : String} {s : Select}
    (h : ofText text = .ok (.select s)) :
    ∃ q, sentence? text = some (.phrase (.query q)) ∧ StandFor s.selects (q.queries true) := by
  obtain ⟨sentence, hsentence⟩ := sentence?_of_ofText h
  rw [ofText_eq hsentence] at h
  have hgives : Gives (sentence.statement .counting) (.select s) := ⟨0, h⟩
  have hshape := Sentence.representedBy_of_gives hgives
  unfold Sentence.RepresentedBy at hshape
  split at hshape
  · rename_i q s' hs'
    obtain rfl := Statement.select.inj hs'
    obtain ⟨s'', hs'', heq⟩ := Gives.of_returning hgives
    obtain rfl := Statement.select.inj heq
    exact ⟨q, hsentence, q.means_select _ hs''⟩
  all_goals contradiction

end TableQuery
