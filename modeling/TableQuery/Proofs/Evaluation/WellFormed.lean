/-
# TableQuery.Proofs.Evaluation.WellFormed — conditions and values that are well formed.

What an expression is refused for is plain from the tree (`Misfit`), and there are two answers to
which trees are refused for nothing.  Well-formed conditions and values, which are built of each other
without functions and subqueries, have no misfits at all: they fail only where an operation is given
values at a limit.  Proper expressions may be refused, but not for having no value; such a failure can
only be that of a subquery (`Evaluator.subqueryFails_of_proper`).

## §A — well-formed trees.
## §B — what they are not refused for.
## §C — failures that are left.
-/
import TableQuery.Proofs.Evaluation.Limits
import TableQuery.Proofs.Evaluation.Proper

namespace TableQuery

/-! ## §A — well-formed trees -/

mutual

/-- **A well-formed condition** — a comparison or a test of values, a truth value, or conditions
joined. -/
inductive Expr.IsCondition : Expr → Prop where
  | comparison {op : BinaryOp} {l r : Expr} (hop : op.family = .comparison) :
      l.IsValue → r.IsValue → IsCondition (.binary op l r)
  | member {l : Expr} {vs : List Expr} (negated : Bool) :
      l.IsValue → (∀ v ∈ vs, v.IsValue) → IsCondition (.member l vs none negated)
  | isNull {e : Expr} (negated : Bool) : e.IsValue → IsCondition (.isNull e negated)
  | like {l p : Expr} (negated : Bool) : l.IsValue → p.IsValue → IsCondition (.like l p negated)
  | truth (b : Bool) : IsCondition (.literal (.bool b))
  | logical {op : BinaryOp} {l r : Expr} (hop : op.family = .logical) :
      l.IsCondition → r.IsCondition → IsCondition (.binary op l r)
  | not {e : Expr} : e.IsCondition → IsCondition (.unary .not e)

/-- **A well-formed value** — a literal, a column or a marker, arithmetic on values, or a condition. -/
inductive Expr.IsValue : Expr → Prop where
  | literal (v : Value) : IsValue (.literal v)
  | column (name : String) : IsValue (.column name)
  | marker (m : Marker) : IsValue (.marker m)
  | neg {e : Expr} : e.IsValue → IsValue (.unary .neg e)
  | arithmetic {op : BinaryOp} {l r : Expr} (hop : op.family = .arithmetic) :
      l.IsValue → r.IsValue → IsValue (.binary op l r)
  | condition {e : Expr} : e.IsCondition → IsValue e

end

/-! ## §B — what they are not refused for -/

namespace Expr

/-- Refused for nothing as a value, and without subqueries. -/
structure Fits (e : Expr) : Prop where
  misfits : e.valueMisfits = []
  subqueries (at_ : Place) : e.subqueriesAt at_ = []

/-- Refused for nothing as a condition or as a value, and without subqueries. -/
structure FitsCondition (e : Expr) : Prop extends e.Fits where
  conditionMisfits : e.conditionMisfits = []

section
variable {l r : Expr}

/-- A test that is refused for nothing as a condition is refused for nothing as a value. -/
theorem fits_of_isTest {e : Expr} (h : e.isTest = true) (hmisfits : e.conditionMisfits = [])
    (hsubqueries : ∀ at_, e.subqueriesAt at_ = []) : e.FitsCondition where
  misfits := (valueMisfits_of_isTest h).trans hmisfits
  subqueries := hsubqueries
  conditionMisfits := hmisfits

theorem Fits.comparison {op : BinaryOp} (hop : op.family = .comparison) (hl : l.Fits) (hr : r.Fits) :
    (Expr.binary op l r).FitsCondition := by
  refine fits_of_isTest (by rw [isTest, hop]; rfl) ?_ fun at_ => ?_
  · simp only [Expr.conditionMisfits, hop, hl.misfits, hr.misfits, List.append_nil]
  · simp only [subqueriesAt, hl.subqueries, hr.subqueries, List.append_nil]

theorem FitsCondition.logical {op : BinaryOp} (hop : op.family = .logical) (hl : l.FitsCondition)
    (hr : r.FitsCondition) : (Expr.binary op l r).FitsCondition := by
  refine fits_of_isTest (by rw [isTest, hop]; rfl) ?_ fun at_ => ?_
  · simp only [Expr.conditionMisfits, hop, hl.conditionMisfits, hr.conditionMisfits, List.append_nil]
  · simp only [subqueriesAt, hl.subqueries, hr.subqueries, List.append_nil]

theorem Fits.like (negated : Bool) (hl : l.Fits) (hr : r.Fits) :
    (Expr.like l r negated).FitsCondition := by
  refine fits_of_isTest rfl ?_ fun at_ => ?_
  · simp only [Expr.conditionMisfits, hl.misfits, hr.misfits, List.append_nil]
  · simp only [subqueriesAt, hl.subqueries, hr.subqueries, List.append_nil]

theorem Fits.list {vs : List Expr} (h : ∀ v ∈ vs, v.Fits) :
    listMisfits vs = [] ∧ ∀ n at_, listSubqueriesAt n at_ vs = [] := by
  induction vs with
  | nil => exact ⟨rfl, fun _ _ => rfl⟩
  | cons v vs ih =>
      obtain ⟨hv, hvs⟩ := List.forall_mem_cons.mp h
      obtain ⟨hmisfits, hsubqueries⟩ := ih hvs
      refine ⟨?_, fun n at_ => ?_⟩
      · rw [listMisfits, hv.misfits, hmisfits, List.append_nil]
      · rw [listSubqueriesAt, hv.subqueries, hsubqueries, List.append_nil]

theorem Fits.member {vs : List Expr} (negated : Bool) (hl : l.Fits) (hvs : ∀ v ∈ vs, v.Fits) :
    (Expr.member l vs none negated).FitsCondition := by
  obtain ⟨hmisfits, hsubqueries⟩ := Fits.list hvs
  refine fits_of_isTest rfl ?_ fun at_ => ?_
  · simp only [Expr.conditionMisfits, hl.misfits, hmisfits, List.append_nil]
  · simp only [subqueriesAt, hl.subqueries, hsubqueries, List.append_nil]

end

mutual

/-- **A well-formed condition fits.** -/
theorem IsCondition.fits {e : Expr} : e.IsCondition → e.FitsCondition
  | .comparison hop hl hr => hl.fits.comparison hop hr.fits
  | .member negated hl hvs => hl.fits.member negated fun v hv => (hvs v hv).fits
  | .isNull _ he => ⟨⟨he.fits.misfits, fun _ => he.fits.subqueries _⟩, he.fits.misfits⟩
  | .like negated hl hp => hl.fits.like negated hp.fits
  | .truth _ => ⟨⟨rfl, fun _ => rfl⟩, rfl⟩
  | .logical hop hl hr => hl.fits.logical hop hr.fits
  | .not he => ⟨⟨he.fits.conditionMisfits, fun _ => he.fits.subqueries _⟩, he.fits.conditionMisfits⟩

/-- **A well-formed value fits.** -/
theorem IsValue.fits {e : Expr} : e.IsValue → e.Fits
  | .literal _ | .column _ | .marker _ => ⟨rfl, fun _ => rfl⟩
  | .neg he => ⟨he.fits.misfits, fun _ => he.fits.subqueries _⟩
  | .arithmetic hop hl hr => {
      misfits := by
        simp only [valueMisfits, hop, hl.fits.misfits, hr.fits.misfits, List.append_nil]
      subqueries at_ := by
        simp only [subqueriesAt, hl.fits.subqueries, hr.fits.subqueries, List.append_nil] }
  | .condition he => he.fits.toFits

end

end Expr

/-! ## §C — failures that are left -/

namespace Evaluator
variable {σ : Type} {ev : Evaluator σ} {row : Record} {at_ : Place} {e : Expr} {s t : σ}
  {error : Error} {misfits : List Misfit} {nodes : List Node} {subqueries : List (Place × Select)}

/-- Where there is nothing to be refused and no subquery there are failures of numbers only. -/
theorem permits_numbers (hmisfits : misfits = []) (hsubqueries : subqueries = []) :
    ev.Permits row (.failures fun error => ∃ fault, error = .number fault) misfits nodes
      subqueries := by
  subst hmisfits hsubqueries
  exact {
    misfit m hm := absurd hm List.not_mem_nil
    arity _ _ hp := absurd hp List.not_mem_nil
    overflow _ fault _ _ _ := ⟨fault, rfl⟩
    members _ hp := absurd hp List.not_mem_nil }

/-- **A well-formed condition fails only at a limit** of its operations. -/
theorem number_of_isCondition (he : e.IsCondition)
    (hout : (ev.holds row at_ (some e)).outcome s = (.error error, t)) :
    ∃ fault, error = .number fault :=
  failure_of_holds (permits_numbers he.fits.conditionMisfits (he.fits.subqueries at_)) hout

/-- **A well-formed value fails only at a limit** of its operations. -/
theorem number_of_isValue (he : e.IsValue)
    (hout : (ev.evaluate row at_ e).outcome s = (.error error, t)) :
    ∃ fault, error = .number fault :=
  failure_of_evaluate (permits_numbers he.fits.misfits (he.fits.subqueries at_)) hout

/-- Where everything has a value, a failure that something has none is that of a subquery. -/
theorem permits_subqueries (hmisfits : HaveValues misfits) :
    ev.Permits row (.failures fun error => error.isValueless = true → ev.SubqueryFails subqueries error)
      misfits nodes subqueries where
  misfit m hm _ hvalueless := absurd hvalueless (by rw [hmisfits m hm]; decide)
  arity _ _ _ _ hvalueless := absurd hvalueless Bool.false_ne_true
  overflow _ _ _ _ _ hvalueless := absurd hvalueless Bool.false_ne_true
  members p hp s := ⟨fun _ _ _ => trivial, fun _ t hout _ => ⟨p, hp, s, t, hout⟩⟩

/-- **In a proper expression** nothing has no value, but for what the expression asks for outside. -/
theorem subqueryFails_of_proper (he : e.Proper)
    (hout : (ev.holds row at_ (some e)).outcome s = (.error error, t) ∨
      (ev.evaluate row at_ e).outcome s = (.error error, t))
    (hvalueless : error.isValueless = true) : ev.SubqueryFails (e.subqueriesAt at_) error := by
  rcases hout with hout | hout
  · exact failure_of_holds (permits_subqueries he.misfits.1) hout hvalueless
  · exact failure_of_evaluate (permits_subqueries he.misfits.2) hout hvalueless

end Evaluator
end TableQuery
