/-
# TableQuery.Proofs.Sql.Proper — texts are proper trees.

What the grammar reads is turned into expressions of the language and nothing else.  A star is refused
wherever it does not stand in a select list, and a phrase that is no expression is refused or, as an
argument, stands for its text.  So the expression of a text is proper (`Expr.proper_ofText`), with
every subquery in it.

## §A — expressions and queries.
## §B — texts.
-/
import TableQuery.Proofs.Evaluation.Proper
import TableQuery.Proofs.Sql.Subqueries

namespace TableQuery
namespace Sql

/-! ## §A — expressions and queries -/

theorem proper_withMinus {e : Expr} (h : e.Proper) : (withMinus e).Proper := by
  unfold withMinus
  split
  · trivial
  · trivial
  · trivial
  · exact h

section
variable {x y : Meaning Nat Expr}

theorem proper_opposed (hx : Always Expr.Proper x) (negative : Bool) :
    Always Expr.Proper (opposed negative x) :=
  hx.opposed (fun _ he => he) negative

theorem proper_orText (hx : Always Expr.Proper x) (written : String) :
    Always Expr.Proper (orText written x) :=
  hx.orText trivial

/-- A call of two arguments. -/
theorem proper_called (hx : Always Expr.Proper x) (hy : Always Expr.Proper y) (name : String) :
    Always Expr.Proper (x >>= fun a => y >>= fun b => pure (.call name [a, b])) :=
  hx.bind fun _ ha => hy.bind fun _ hb => always_pure ⟨ha, hb, trivial⟩

end

mutual

theorem Phrase.proper_expression : ∀ (negative : Bool) (p : Phrase),
    Always Expr.Proper (p.expression .counting negative)
  | negative, .paren p => p.proper_expression negative
  | _, .memberOf l ps =>
    (l.proper_expression false).bind fun _ hl =>
      (Phrase.proper_expressions ps).bind fun _ hvs => always_pure ⟨hl, hvs, trivial⟩
  | _, .memberOfQuery l q =>
    (l.proper_expression false).bind fun _ hl => q.proper_asQuery.bind fun _ hs =>
      always_pure ⟨hl, trivial, hs⟩
  | negative, .memberOfField l f =>
    always_memberOfField (l.proper_expression false) (fun _ _ hl => ⟨hl, trivial, trivial⟩) f.isSome
      negative
  | negative, .between op l r => by
    have hl := l.proper_expression false
    have hr := r.proper_expression false
    cases op with
    | is => exact always_identityTest hl (fun _ _ hl => hl) _ r negative
    | like => exact hl.bind fun _ hl => hr.bind fun _ hr => always_pure ⟨hl, hr⟩
    | regexp => exact proper_opposed (proper_called (proper_orText hl _) (proper_orText hr _) _) _
    | _ => exact proper_opposed (always_joined hl hr (fun _ _ _ hl hr => ⟨hl, hr⟩) _) _
  | negative, .within s low high => by
    refine proper_opposed ?_ negative
    exact (s.proper_expression false).bind fun _ hs =>
      (low.proper_expression false).bind fun _ hlow =>
        (high.proper_expression false).bind fun _ hhigh => always_pure ⟨⟨hs, hlow⟩, hs, hhigh⟩
  | negative, .leading .not p => proper_opposed (p.proper_expression true) negative
  | negative, .leading .neg p =>
    proper_opposed ((p.proper_expression false).returning fun _ he => proper_withMinus he) negative
  | _, .leading .bitNot _ => always_throw _
  | negative, .column _ => by
    refine proper_opposed ?_ negative
    split
    · exact always_throw _
    · exact always_pure trivial
  | negative, .number text => by
    refine proper_opposed (fun e he => ?_) negative
    obtain ⟨v, -, rfl⟩ := he.of_returning
    trivial
  | negative, .string _ | negative, .null | negative, .boolean _ | negative, .marker _ => by
    refine proper_opposed ?_ negative
    exact always_pure trivial
  | negative, .question place => by
    refine proper_opposed (fun e he => ?_) negative
    obtain ⟨n, -, rfl⟩ := he.of_returning
    trivial
  | negative, .subquery p _ => by
    refine proper_opposed ?_ negative
    exact p.proper_asQuery.returning fun _ hs => hs
  | negative, .query q => by
    refine proper_opposed ?_ negative
    exact q.proper_select.returning fun _ hs => hs
  | negative, .aggregate _ _ => proper_opposed (always_throw _) negative
  | negative, .call _ ps | negative, .userCall _ _ ps => by
    refine proper_opposed ?_ negative
    exact (Phrase.proper_arguments ps).returning fun _ hes => hes
  | negative, .choice s bs d => by
    refine proper_opposed ?_ negative
    exact (Phrase.proper_optionArgument s).bind fun _ hs =>
      (Phrase.proper_branchArguments bs).bind fun _ hbs =>
        (Phrase.proper_optionArgument d).bind fun _ hd =>
          always_pure (Expr.listProper_append (Expr.listProper_append hs hbs) hd)
  | negative, .cast p _ => by
    refine proper_opposed ?_ negative
    exact (proper_orText (p.proper_expression false) _).returning fun _ he => ⟨he, trivial, trivial⟩
  | negative, .collate p name =>
    proper_opposed (proper_called (proper_orText (p.proper_expression false) _)
      (proper_orText (name.proper_expression false) _) _) negative
  -- What has no value of its own is refused as an expression.
  | _, .star | _, .name .. | _, .tuple _ | _, .escape .. | _, .renamed .. | _, .renamedAll ..
  | _, .distinct _ | _, .dot .. | _, .parameter _ | _, .combined .. | _, .rows _ | _, .table ..
  | _, .other .. => always_throw _

theorem Phrase.proper_asQuery (p : Phrase) : Always Select.Proper (p.asQuery .counting) := by
  cases p with
  | query q => exact q.proper_select
  | _ => exact always_throw _

theorem Phrase.proper_expressions : ∀ ps : List Phrase,
    Always Expr.ListProper (Phrase.expressions .counting ps)
  | [] => always_pure trivial
  | p :: ps =>
    (p.proper_expression false).bind fun _ he =>
      (Phrase.proper_expressions ps).bind fun _ hes => always_pure ⟨he, hes⟩

theorem Phrase.proper_arguments : ∀ ps : List Phrase,
    Always Expr.ListProper (Phrase.arguments .counting ps)
  | [] => always_pure trivial
  | p :: ps =>
    (proper_orText (p.proper_expression false) _).bind fun _ he =>
      (Phrase.proper_arguments ps).bind fun _ hes => always_pure ⟨he, hes⟩

theorem Phrase.proper_optionArgument : ∀ p : Option Phrase,
    Always Expr.ListProper (Phrase.optionArgument .counting p)
  | none => always_pure trivial
  | some p => (proper_orText (p.proper_expression false) _).returning fun _ he => ⟨he, trivial⟩

theorem Phrase.proper_branchArguments : ∀ bs : List (Phrase × Phrase),
    Always Expr.ListProper (Phrase.branchArguments .counting bs)
  | [] => always_pure trivial
  | (c, v) :: rest =>
    (proper_orText (c.proper_expression false) _).bind fun _ hc =>
      (proper_orText (v.proper_expression false) _).bind fun _ hv =>
        (Phrase.proper_branchArguments rest).bind fun _ hes =>
          always_pure ⟨⟨hc, hv, trivial⟩, hes⟩

theorem Ordered.proper_terms : ∀ os : List Ordered,
    Always OrderTerm.ListProper (Ordered.terms .counting os)
  | [] => always_pure trivial
  | .mk p desc nulls :: os => by
    have hterm : Always OrderTerm.Proper ((Ordered.mk p desc nulls).term .counting) :=
      (p.proper_expression false).returning fun _ he => he
    exact hterm.bind fun _ ht => (Ordered.proper_terms os).bind fun _ hts => always_pure ⟨ht, hts⟩

theorem Phrase.proper_resultColumns : ∀ ps : List Phrase,
    Always ResultColumn.ListProper (Phrase.resultColumns .counting ps)
  | [] => always_pure trivial
  | p :: ps => by
    have hps := Phrase.proper_resultColumns ps
    have hp := p.proper_expression false
    have hcons {column : Meaning Nat ResultColumn} (hcolumn : Always ResultColumn.Proper column) :
        Always ResultColumn.ListProper
          (column >>= fun c => Phrase.resultColumns .counting ps >>= fun cs => pure (c :: cs)) :=
      hcolumn.bind fun _ hc => hps.bind fun _ hcs => always_pure ⟨hc, hcs⟩
    -- A star that is no expression may be an item.
    cases p with
    | renamed p name =>
      exact hcons (always_resultColumn (p.proper_expression false) (.inl rfl) fun _ _ => .inr)
    | _ => exact hcons (always_resultColumn hp (.inl rfl) fun _ _ => .inr)

theorem Phrase.proper_optionExpression : ∀ p : Option Phrase,
    Always Expr.OptionProper (Phrase.optionExpression .counting p)
  | none => always_pure trivial
  | some p => (p.proper_expression false).returning fun _ he => he

theorem Query.proper_select : ∀ q : Query, Always Select.Proper (q.select .counting)
  | .mk _ _ columns source _ _ condition _ _ order limit offset _ => by
    rw [Query.select_eq]
    split
    · exact always_throw _
    · intro s hs
      obtain ⟨table, -, hs⟩ := hs.of_bind
      obtain ⟨cs, hcs, hs⟩ := hs.of_bind
      obtain ⟨w, hw, hs⟩ := hs.of_bind
      obtain ⟨os, hos, hs⟩ := hs.of_bind
      obtain ⟨l, hl, hs⟩ := hs.of_bind
      obtain ⟨o, ho, rfl⟩ := hs.of_returning
      exact ⟨Phrase.proper_resultColumns columns cs hcs, Phrase.proper_optionExpression condition w hw,
        Ordered.proper_terms order os hos, Phrase.proper_optionExpression limit l hl,
        Phrase.proper_optionExpression offset o ho⟩

end

end Sql

/-! ## §B — texts -/

open Sql in
/-- **The expression of a text is proper.** -/
theorem Expr.proper_ofText {text : String} {e : Expr} (h : ofText text = .ok e) : e.Proper := by
  unfold ofText at h
  split at h
  · split at h
    · next p _ => exact p.proper_expression false e ⟨0, h⟩
    · cases h
  · cases h

end TableQuery
