/-
# TableQuery.Proofs.Evaluation.Steady — when evaluation depends on nothing but the row.

Evaluation asks the outside for one thing: the values of the subqueries that stand in the
expression.  `Expr.subqueriesAt` lists them with their places.  If each of them is answered alike
from every state of some kind, then so are the condition and the value of the expression
(`Evaluator.steady_holds`, `Evaluator.steady_evaluate`): it does not matter which rows came before, or
how often an expression was evaluated.

Nor does it matter whether the values of a subquery are asked for or written down.  `Expr.settled` puts
values that are known in the place of their subqueries, and an evaluation that asks for what is left
agrees with the evaluation of the expression as it was (`Evaluator.agree_holds`).  Steadiness is the
case in which nothing is known and both evaluations are the same one.

## §A — the subqueries of an expression.
## §B — values in the place of subqueries.
## §C — connectives.
## §D — two readings side by side.
## §E — one reading.
-/
import TableQuery.Evaluation.Basic
import TableQuery.Proofs.Run

namespace TableQuery

/-! ## §A — the subqueries of an expression -/

mutual

/-- The subqueries that an evaluation of the expression may ask for, with their places; `at_` is the
place of the expression. -/
def Expr.subqueriesAt : Place → Expr → List (Place × Select)
  | at_, .binary _ l r => l.subqueriesAt (0 :: at_) ++ r.subqueriesAt (1 :: at_)
  | at_, .unary _ e => e.subqueriesAt (0 :: at_)
  | at_, .member l vs q _ =>
    l.subqueriesAt (0 :: at_) ++
      match q with
      | some s => [(1 :: at_, s)]
      | none => Expr.listSubqueriesAt 1 at_ vs
  | at_, .isNull e _ => e.subqueriesAt (0 :: at_)
  | at_, .like l p _ => l.subqueriesAt (0 :: at_) ++ p.subqueriesAt (1 :: at_)
  | at_, .subquery s => [(at_, s)]
  | _, _ => []

/-- The subqueries of expressions, the first of them the `n`-th child of its parent. -/
def Expr.listSubqueriesAt (n : Nat) (at_ : Place) : List Expr → List (Place × Select)
  | [] => []
  | e :: es => e.subqueriesAt (n :: at_) ++ Expr.listSubqueriesAt (n + 1) at_ es

end

/-! ## §B — values in the place of subqueries -/

/-- The values of the subqueries at their places, as far as they are known. -/
abbrev Known := Place → Select → Option (List Value)

/-- Nothing is known. -/
def Known.nothing : Known := fun _ _ => none

/-- A subquery in the place of an operand: its value as a literal, when it is known to have one. -/
def Expr.settledOperand (known : Known) (at_ : Place) (s : Select) : Expr :=
  match known at_ s with
  | some [v] => .literal v
  | _ => .subquery s

mutual

/-- **The expression with known values written down** — a list of literals in the place of every
subquery after IN whose values are known, a literal in the place of every subquery that is an operand
and has a single known value.  The operands of AND, OR and NOT are conditions and keep what they are;
`operand` says whether the expression is itself the operand of something else. -/
def Expr.settled (known : Known) (operand : Bool) : Place → Expr → Expr
  | at_, .binary op l r =>
    .binary op (l.settled known (op.family != .logical) (0 :: at_))
      (r.settled known (op.family != .logical) (1 :: at_))
  | at_, .unary op e => .unary op (e.settled known (op == .neg) (0 :: at_))
  | at_, .member l vs none negated =>
    .member (l.settled known true (0 :: at_)) (Expr.listSettled known 1 at_ vs) none negated
  | at_, .member l vs (some s) negated =>
    match known (1 :: at_) s with
    | some values => .member (l.settled known true (0 :: at_)) (values.map .literal) none negated
    | none => .member (l.settled known true (0 :: at_)) vs (some s) negated
  | at_, .isNull e negated => .isNull (e.settled known true (0 :: at_)) negated
  | at_, .like l p negated =>
    .like (l.settled known true (0 :: at_)) (p.settled known true (1 :: at_)) negated
  | at_, .subquery s => if operand then Expr.settledOperand known at_ s else .subquery s
  | _, e => e

/-- The items of a list after IN with known values written down. -/
def Expr.listSettled (known : Known) (n : Nat) (at_ : Place) : List Expr → List Expr
  | [] => []
  | e :: es => e.settled known true (n :: at_) :: Expr.listSettled known (n + 1) at_ es

end

namespace Expr

mutual

/-- Where nothing is known, nothing is written down. -/
theorem settled_nothing (operand : Bool) :
    ∀ (at_ : Place) (e : Expr), e.settled .nothing operand at_ = e
  | at_, .binary op l r => by
      rw [settled, settled_nothing _ (0 :: at_) l, settled_nothing _ (1 :: at_) r]
  | at_, .unary op e => by rw [settled, settled_nothing _ (0 :: at_) e]
  | at_, .member l vs none negated => by
      rw [settled, settled_nothing _ (0 :: at_) l, listSettled_nothing 1 at_ vs]
  | at_, .member l vs (some s) negated => by
      rw [settled]
      show Expr.member (l.settled .nothing true (0 :: at_)) vs (some s) negated = _
      rw [settled_nothing _ (0 :: at_) l]
  | at_, .isNull e negated => by rw [settled, settled_nothing _ (0 :: at_) e]
  | at_, .like l p negated => by
      rw [settled, settled_nothing _ (0 :: at_) l, settled_nothing _ (1 :: at_) p]
  | at_, .subquery s => by
      rw [settled]
      exact ite_self _
  | at_, .literal _ | at_, .column _ | at_, .marker _ | at_, .call .. | at_, .star
  | at_, .misplaced _ => by rw [settled] <;> simp

theorem listSettled_nothing (n : Nat) (at_ : Place) :
    ∀ es : List Expr, listSettled .nothing n at_ es = es
  | [] => by rw [listSettled]
  | e :: es => by
      rw [listSettled, settled_nothing _ (n :: at_) e, listSettled_nothing (n + 1) at_ es]

end

/-- A test is settled the same wherever it stands: it is no subquery. -/
theorem settled_of_isTest (known : Known) (operand : Bool) (at_ : Place) {e : Expr}
    (h : e.isTest = true) : e.settled known operand at_ = e.settled known true at_ := by
  cases e with
  | member l vs q negated => cases q <;> rw [settled, settled]
  | binary op l r => rw [settled, settled]
  | unary op e => rw [settled, settled]
  | isNull e negated => rw [settled, settled]
  | like l p negated => rw [settled, settled]
  | _ => cases h

/-- What a test is settled to is a test. -/
theorem isTest_settled (known : Known) (operand : Bool) (at_ : Place) {e : Expr}
    (h : e.isTest = true) : (e.settled known operand at_).isTest = true := by
  cases e with
  | member l vs q negated =>
    cases q with
    | none => rfl
    | some s =>
      rw [settled]
      split <;> rfl
  | binary op l r => exact h
  | unary op e => exact h
  | isNull e negated => rfl
  | like l p negated => rfl
  | _ => cases h

theorem listSubqueriesAt_literals (n : Nat) (at_ : Place) (values : List Value) :
    listSubqueriesAt n at_ (values.map .literal) = [] := by
  induction values generalizing n with
  | nil => rfl
  | cons v values ih =>
      rw [List.map_cons, listSubqueriesAt, ih, subqueriesAt] <;> simp

theorem append_subset_append {α : Type} {ps ps' qs qs' : List α} (hp : ps' ⊆ ps) (hq : qs' ⊆ qs) :
    ps' ++ qs' ⊆ ps ++ qs :=
  List.append_subset.mpr
    ⟨List.subset_append_of_subset_left _ hp, List.subset_append_of_subset_right _ hq⟩

variable (known : Known)

mutual

/-- **Writing values down adds no subqueries.** -/
theorem subqueriesAt_settled_subset (operand : Bool) : ∀ (at_ : Place) (e : Expr),
    (e.settled known operand at_).subqueriesAt at_ ⊆ e.subqueriesAt at_
  | at_, .binary op l r => by
      rw [settled, subqueriesAt, subqueriesAt]
      exact append_subset_append (subqueriesAt_settled_subset _ _ l)
        (subqueriesAt_settled_subset _ _ r)
  | at_, .unary op e => by
      rw [settled, subqueriesAt, subqueriesAt]
      exact subqueriesAt_settled_subset _ _ e
  | at_, .member l vs none negated => by
      rw [settled, subqueriesAt, subqueriesAt]
      exact append_subset_append (subqueriesAt_settled_subset _ _ l)
        (listSubqueriesAt_settled_subset 1 at_ vs)
  | at_, .member l vs (some s) negated => by
      rw [settled]
      split
      · -- The subquery is written down as its values, which have none.
        rw [subqueriesAt, subqueriesAt, listSubqueriesAt_literals]
        exact append_subset_append (subqueriesAt_settled_subset _ _ l) (List.nil_subset _)
      · rw [subqueriesAt, subqueriesAt]
        exact append_subset_append (subqueriesAt_settled_subset _ _ l) (List.Subset.refl _)
  | at_, .isNull e negated => by
      rw [settled, subqueriesAt, subqueriesAt]
      exact subqueriesAt_settled_subset _ _ e
  | at_, .like l p negated => by
      rw [settled, subqueriesAt, subqueriesAt]
      exact append_subset_append (subqueriesAt_settled_subset _ _ l)
        (subqueriesAt_settled_subset _ _ p)
  | at_, .subquery s => by
      rw [settled, settledOperand]
      split
      · split
        · simp [subqueriesAt]
        · exact List.Subset.refl _
      · exact List.Subset.refl _
  | at_, .literal _ | at_, .column _ | at_, .marker _ | at_, .call .. | at_, .star
  | at_, .misplaced _ => by
      rw [settled] <;> simp

theorem listSubqueriesAt_settled_subset (n : Nat) (at_ : Place) : ∀ es : List Expr,
    listSubqueriesAt n at_ (listSettled known n at_ es) ⊆ listSubqueriesAt n at_ es
  | [] => by rw [listSettled]; exact List.Subset.refl _
  | e :: es => by
      rw [listSettled, listSubqueriesAt, listSubqueriesAt]
      exact append_subset_append (subqueriesAt_settled_subset _ _ e)
        (listSubqueriesAt_settled_subset (n + 1) at_ es)

end

end Expr

/-! ## §C — connectives -/

namespace Evaluation
open Run

variable {σ ι : Type} {kind : ι → σ → Prop}

/-- Two evaluations that agree wherever their cursor stands. -/
def Agree (kind : ι → σ → Prop) {α : Type} (x y : Evaluation σ α) : Prop :=
  ∀ cursor, Run.Agree kind (x.run cursor) (y.run cursor)

variable {α β : Type}

theorem agree_pure (a : α) : Agree kind (pure a : Evaluation σ α) (pure a) :=
  fun _ => (Run.steady_pure _).agree

theorem Agree.bind {x y : Evaluation σ α} {f g : α → Evaluation σ β} (h : Agree kind x y)
    (hf : ∀ a, Agree kind (f a) (g a)) : Agree kind (x >>= f) (y >>= g) := by
  intro cursor
  rw [StateT.run_bind, StateT.run_bind]
  exact (h cursor).bind fun p => hf p.1 p.2

theorem Agree.map (f : α → β) {x y : Evaluation σ α} (h : Agree kind x y) :
    Agree kind (f <$> x) (f <$> y) := by
  intro cursor
  rw [StateT.run_map, StateT.run_map]
  exact (h cursor).map _

theorem agree_lift {x y : Run σ α} (h : Run.Agree kind x y) :
    Agree kind (StateT.lift x : Evaluation σ α) (StateT.lift y) := by
  intro cursor
  exact h.bind fun a => (Run.steady_pure (a, cursor)).agree

theorem agree_throw (e : Error) : Agree kind (throw e : Evaluation σ α) (throw e) :=
  fun _ => (Run.steady_throw e).agree

theorem agree_fail (fault : EvaluationFault) :
    Agree kind (fail fault : Evaluation σ α) (fail fault) := agree_throw _

theorem agree_noFunction (name : String) :
    Agree kind (noFunction name : Evaluation σ α) (noFunction name) := agree_throw _

theorem agree_ofNumber (x : Except NumberError α) :
    Agree kind (Evaluation.ofNumber x : Evaluation σ α) (Evaluation.ofNumber x) :=
  agree_lift (Run.steady_ofNumber x).agree

theorem agree_parameter (params : Parameters) (m : Marker) :
    Agree kind (parameter params m : Evaluation σ Value) (parameter params m) := by
  unfold parameter
  split
  · intro cursor
    exact (Run.steady_pure (params.lookup m (some (cursor : Int)), cursor + 1)).agree
  · exact agree_pure _

variable {a b a' b' : Evaluation σ Bool} {v w v' w' : Evaluation σ Value}

theorem agree_both (ha : Agree kind a a') (hb : Agree kind b b') :
    Agree kind (both a b) (both a' b') := by
  refine ha.bind fun x => ?_
  cases x
  · exact agree_pure false
  · exact hb

theorem agree_either (ha : Agree kind a a') (hb : Agree kind b b') :
    Agree kind (either a b) (either a' b') := by
  refine ha.bind fun x => ?_
  cases x
  · exact hb
  · exact agree_pure true

theorem agree_opposite (ha : Agree kind a a') : Agree kind (opposite a) (opposite a') :=
  ha.bind fun _ => agree_pure _

theorem agree_compared (c : Collation) (op : BinaryOp) (hv : Agree kind v v')
    (hw : Agree kind w w') : Agree kind (compared c op v w) (compared c op v' w') :=
  hv.bind fun _ => hw.bind fun _ => agree_pure _

theorem agree_nullTest (negated : Bool) (hv : Agree kind v v') :
    Agree kind (nullTest negated v) (nullTest negated v') :=
  hv.bind fun _ => agree_pure _

theorem agree_likeTest (negated : Bool) (hv : Agree kind v v') (hw : Agree kind w w') :
    Agree kind (likeTest negated v w) (likeTest negated v' w') := by
  refine hv.bind fun x => hw.bind fun y => ?_
  split
  · exact agree_pure false
  · exact (agree_ofNumber _).bind fun _ => agree_pure _

theorem agree_memberTest (negated : Bool) {set set' : Evaluation σ (List Value)}
    (hv : Agree kind v v') (hset : Agree kind set set') :
    Agree kind (memberTest negated v set) (memberTest negated v' set') := by
  refine hv.bind fun x => ?_
  split
  · exact agree_pure false
  · exact hset.bind fun vs => (agree_ofNumber _).bind fun _ => agree_pure _

theorem agree_computed (op : BinaryOp) (hv : Agree kind v v') (hw : Agree kind w w') :
    Agree kind (computed op v w) (computed op v' w') :=
  hv.bind fun _ => hw.bind fun _ => agree_ofNumber _

end Evaluation

/-! ## §D — two readings side by side -/

namespace Evaluator
open Evaluation

variable {σ ι : Type} {kind : ι → σ → Prop}

/-- The evaluator with other values of subqueries. -/
def asking (ev : Evaluator σ) (members : Place → Select → Run σ (List Value)) : Evaluator σ :=
  { ev with members }

variable (ev : Evaluator σ) (members : Place → Select → Run σ (List Value))

/-- Whether every subquery of a list is answered alike in two ways. -/
def Agrees (kind : ι → σ → Prop) (subqueries : List (Place × Select)) : Prop :=
  ∀ p ∈ subqueries, Run.Agree kind (ev.members p.1 p.2) (members p.1 p.2)

/-- Whether what is known of the subqueries of a list is what they answer. -/
def Knows (kind : ι → σ → Prop) (known : Known) (subqueries : List (Place × Select)) : Prop :=
  ∀ p ∈ subqueries, ∀ values, known p.1 p.2 = some values →
    Run.Settles kind (ev.members p.1 p.2) (.ok values)

variable {ev members} {known : Known}

theorem knows_nothing (subqueries : List (Place × Select)) :
    ev.Knows kind .nothing subqueries :=
  fun _ _ _ h => nomatch h

theorem Knows.left {ps qs : List (Place × Select)} (h : ev.Knows kind known (ps ++ qs)) :
    ev.Knows kind known ps :=
  fun p hp => h p (List.mem_append_left qs hp)

theorem Knows.right {ps qs : List (Place × Select)} (h : ev.Knows kind known (ps ++ qs)) :
    ev.Knows kind known qs :=
  fun p hp => h p (List.mem_append_right ps hp)

theorem Agrees.left {ps qs : List (Place × Select)} (h : ev.Agrees members kind (ps ++ qs)) :
    ev.Agrees members kind ps :=
  fun p hp => h p (List.mem_append_left qs hp)

theorem Agrees.right {ps qs : List (Place × Select)} (h : ev.Agrees members kind (ps ++ qs)) :
    ev.Agrees members kind qs :=
  fun p hp => h p (List.mem_append_right ps hp)

theorem Agrees.valuesOf {at_ : Place} {s : Select} (h : ev.Agrees members kind [(at_, s)]) :
    Agree kind (ev.valuesOf at_ s) ((ev.asking members).valuesOf at_ s) :=
  agree_lift (h (at_, s) (List.mem_singleton_self _))

/-- Literals have their values. -/
theorem values_literals (row : Record) (n : Nat) (at_ : Place) (vs : List Value) :
    ev.values row n at_ (vs.map .literal) = pure vs := by
  induction vs generalizing n with
  | nil => rw [List.map_nil, values]
  | cons v vs ih => rw [List.map_cons, values, value, ih, pure_bind, pure_bind]

/-- Known values are what asking for them answers. -/
theorem Knows.settles {at_ : Place} {s : Select} (h : ev.Knows kind known [(at_, s)])
    {vs : List Value} (hvs : known at_ s = some vs) (cursor : Nat) :
    Run.Settles kind ((ev.valuesOf at_ s).run cursor) (.ok (vs, cursor)) :=
  fun i => (h (at_, s) (List.mem_singleton_self _) vs hvs i).bind (Run.leads_pure _)

/-- The values of a subquery, asked for and written down. -/
theorem Knows.valuesOf {at_ : Place} {s : Select} (h : ev.Knows kind known [(at_, s)])
    {vs : List Value} (hvs : known at_ s = some vs) (row : Record) (n : Nat) (place : Place)
    (ev' : Evaluator σ) :
    Agree kind (ev.valuesOf at_ s) (ev'.values row n place (vs.map .literal)) := by
  rw [values_literals]
  exact fun cursor => Run.agree_settled (h.settles hvs cursor) fun _ => Run.leads_pure _

/-- The value of a subquery in the place of an operand, asked for and written down. -/
theorem agree_operand (row : Record) {at_ : Place} {s : Select}
    (hk : ev.Knows kind known [(at_, s)])
    (ha : ev.Agrees members kind ((Expr.settledOperand known at_ s).subqueriesAt at_)) :
    Agree kind (ev.value row at_ (.subquery s))
      ((ev.asking members).value row at_ (Expr.settledOperand known at_ s)) := by
  unfold Expr.settledOperand at ha ⊢
  rw [value]
  split
  · rename_i v hv
    intro cursor
    rw [value, StateT.run_bind]
    exact Run.agree_settled (fun i => (hk.settles hv cursor i).bind (Run.leads_pure (v, cursor)))
      fun _ => Run.leads_pure _
  · rename_i hv
    have hs : ev.Agrees members kind [(at_, s)] := by
      split at ha
      · exact absurd ‹_› (hv _)
      · rwa [Expr.subqueriesAt] at ha
    rw [value]
    exact hs.valuesOf.bind fun vs => agree_lift (Run.steady_liftExcept _).agree

/-- Where a test and the test with known values written down state the same, they have the same
value. -/
theorem agree_of_isTest {row : Record} {at_ : Place} {e : Expr} (h : e.isTest = true)
    (hcondition : ev.Agrees members kind ((e.settled known true at_).subqueriesAt at_) →
      Agree kind (ev.condition row at_ e)
        ((ev.asking members).condition row at_ (e.settled known true at_))) :
    (ev.Agrees members kind ((e.settled known false at_).subqueriesAt at_) →
      Agree kind (ev.condition row at_ e)
        ((ev.asking members).condition row at_ (e.settled known false at_))) ∧
    (ev.Agrees members kind ((e.settled known true at_).subqueriesAt at_) →
      Agree kind (ev.value row at_ e)
        ((ev.asking members).value row at_ (e.settled known true at_))) := by
  rw [Expr.settled_of_isTest known false at_ h]
  refine ⟨hcondition, fun ha => ?_⟩
  rw [value_of_isTest _ row at_ h, value_of_isTest _ row at_ (Expr.isTest_settled known true at_ h)]
  exact (hcondition ha).map _

mutual

/-- **A condition and a value agree** with the same where known values are written down. -/
theorem agree_readings (row : Record) : ∀ (at_ : Place) (e : Expr),
    ev.Knows kind known (e.subqueriesAt at_) →
    (ev.Agrees members kind ((e.settled known false at_).subqueriesAt at_) →
      Agree kind (ev.condition row at_ e)
        ((ev.asking members).condition row at_ (e.settled known false at_))) ∧
    (ev.Agrees members kind ((e.settled known true at_).subqueriesAt at_) →
      Agree kind (ev.value row at_ e)
        ((ev.asking members).value row at_ (e.settled known true at_)))
  | at_, .binary op l r, hk => by
      rw [Expr.subqueriesAt] at hk
      obtain ⟨cl, vl⟩ := agree_readings row (0 :: at_) l hk.left
      obtain ⟨cr, vr⟩ := agree_readings row (1 :: at_) r hk.right
      -- An operand of a connective is asked as a condition, one of a comparison for its value.
      cases op with
      | and =>
          refine agree_of_isTest rfl fun ha => ?_
          rw [Expr.settled, Expr.subqueriesAt] at ha
          rw [Expr.settled, condition, condition]
          exact agree_both (cl ha.left) (cr ha.right)
      | or =>
          refine agree_of_isTest rfl fun ha => ?_
          rw [Expr.settled, Expr.subqueriesAt] at ha
          rw [Expr.settled, condition, condition]
          exact agree_either (cl ha.left) (cr ha.right)
      | eq | ne | lt | le | gt | ge =>
          refine agree_of_isTest rfl fun ha => ?_
          rw [Expr.settled, Expr.subqueriesAt] at ha
          rw [Expr.settled]
          simp only [condition, BinaryOp.family, if_true]
          exact agree_compared _ _ (vl ha.left) (vr ha.right)
      | add | sub | mul | div | mod | concat =>
          rw [Expr.settled, Expr.settled]
          simp only [condition, value, BinaryOp.family, reduceCtorEq, if_false]
          refine ⟨fun _ => agree_fail _, fun ha => ?_⟩
          rw [Expr.subqueriesAt] at ha
          exact agree_computed _ (vl ha.left) (vr ha.right)
  | at_, .unary op e, hk => by
      rw [Expr.subqueriesAt] at hk
      obtain ⟨ce, ve⟩ := agree_readings row (0 :: at_) e hk
      cases op with
      | not =>
          refine agree_of_isTest rfl fun ha => ?_
          rw [Expr.settled, Expr.subqueriesAt] at ha
          rw [Expr.settled, condition, condition]
          exact agree_opposite (ce ha)
      | neg =>
          rw [Expr.settled, Expr.settled, condition, condition, value, value]
          refine ⟨fun _ => agree_fail _, fun ha => ?_⟩
          rw [Expr.subqueriesAt] at ha
          exact (ve ha).map _
  | at_, .member l vs (some s) negated, hk => by
      rw [Expr.subqueriesAt] at hk
      obtain ⟨-, vl⟩ := agree_readings row (0 :: at_) l hk.left
      refine agree_of_isTest rfl fun ha => ?_
      rw [Expr.settled] at ha ⊢
      split
      · rename_i values hvalues
        rw [hvalues, Expr.subqueriesAt] at ha
        rw [condition, condition]
        exact agree_memberTest negated (vl ha.left) (hk.right.valuesOf hvalues row 1 at_ _)
      · rename_i hvalues
        rw [hvalues, Expr.subqueriesAt] at ha
        rw [condition, condition]
        exact agree_memberTest negated (vl ha.left) ha.right.valuesOf
  | at_, .member l vs none negated, hk => by
      rw [Expr.subqueriesAt] at hk
      obtain ⟨-, vl⟩ := agree_readings row (0 :: at_) l hk.left
      refine agree_of_isTest rfl fun ha => ?_
      rw [Expr.settled, Expr.subqueriesAt] at ha
      rw [Expr.settled, condition, condition]
      exact agree_memberTest negated (vl ha.left) (agree_values row 1 at_ vs hk.right ha.right)
  | at_, .isNull e negated, hk => by
      rw [Expr.subqueriesAt] at hk
      obtain ⟨-, ve⟩ := agree_readings row (0 :: at_) e hk
      refine agree_of_isTest rfl fun ha => ?_
      rw [Expr.settled, Expr.subqueriesAt] at ha
      rw [Expr.settled, condition, condition]
      exact agree_nullTest negated (ve ha)
  | at_, .like l p negated, hk => by
      rw [Expr.subqueriesAt] at hk
      obtain ⟨-, vl⟩ := agree_readings row (0 :: at_) l hk.left
      obtain ⟨-, vp⟩ := agree_readings row (1 :: at_) p hk.right
      refine agree_of_isTest rfl fun ha => ?_
      rw [Expr.settled, Expr.subqueriesAt] at ha
      rw [Expr.settled, condition, condition]
      exact agree_likeTest negated (vl ha.left) (vp ha.right)
  | at_, .subquery s, hk => by
      rw [Expr.subqueriesAt] at hk
      rw [Expr.settled, Expr.settled, if_neg (by decide), if_pos rfl]
      refine ⟨fun _ => agree_fail _, fun ha => agree_operand row hk ha⟩
  | at_, .literal v, _ => by
      refine ⟨fun _ => ?_, fun _ => agree_pure v⟩
      cases v with
      | bool b => exact agree_pure b
      | _ => exact agree_fail _
  | at_, .marker m, _ => ⟨fun _ => agree_fail _, fun _ => agree_parameter _ m⟩
  | at_, .column name, _ => ⟨fun _ => agree_fail _, fun _ => agree_pure _⟩
  | at_, .call name _, _ => ⟨fun _ => agree_noFunction name, fun _ => agree_noFunction name⟩
  | at_, .star, _ | at_, .misplaced _, _ => ⟨fun _ => agree_fail _, fun _ => agree_fail _⟩

/-- The values of a list agree with those of the list with known values written down. -/
theorem agree_values (row : Record) (n : Nat) (at_ : Place) : ∀ es : List Expr,
    ev.Knows kind known (Expr.listSubqueriesAt n at_ es) →
    ev.Agrees members kind (Expr.listSubqueriesAt n at_ (Expr.listSettled known n at_ es)) →
    Agree kind (ev.values row n at_ es)
      ((ev.asking members).values row n at_ (Expr.listSettled known n at_ es))
  | [], _, _ => by
      rw [Expr.listSettled, values, values]
      exact agree_pure []
  | e :: es, hk, ha => by
      rw [Expr.listSubqueriesAt] at hk
      rw [Expr.listSettled, Expr.listSubqueriesAt] at ha
      rw [Expr.listSettled, values, values]
      exact ((agree_readings row (n :: at_) e hk.left).2 ha.left).bind fun v =>
        (agree_values row (n + 1) at_ es hk.right ha.right).bind fun vs => agree_pure _

end

/-- **Whether a row satisfies a condition** does not hang on whether the values of its subqueries are
asked for or written down. -/
theorem agree_holds (row : Record) (at_ : Place) (condition : Option Expr)
    (hk : ∀ e, condition = some e → ev.Knows kind known (e.subqueriesAt at_))
    (ha : ∀ e, condition = some e →
      ev.Agrees members kind ((e.settled known false at_).subqueriesAt at_)) :
    Run.Agree kind (ev.holds row at_ condition)
      ((ev.asking members).holds row at_ (condition.map (·.settled known false at_))) := by
  cases condition with
  | none => exact (Run.steady_pure true).agree
  | some e =>
      exact ((agree_readings row at_ e (hk e rfl)).1 (ha e rfl) 0).bind fun p =>
        (Run.steady_pure p.1).agree

/-- The value of an expression on a row does not hang on how its subqueries are answered. -/
theorem agree_evaluate (row : Record) (at_ : Place) (e : Expr)
    (h : ev.Agrees members kind (e.subqueriesAt at_)) :
    Run.Agree kind (ev.evaluate row at_ e) ((ev.asking members).evaluate row at_ e) := by
  have hvalue : Agree kind (ev.value row at_ e)
      ((ev.asking members).value row at_ (e.settled .nothing true at_)) :=
    (agree_readings row at_ e (knows_nothing _)).2 (by rwa [Expr.settled_nothing])
  rw [Expr.settled_nothing] at hvalue
  exact (hvalue 0).bind fun p => (Run.steady_pure p.1).agree

/-! ## §E — one reading -/

/-- Whether every subquery of a list is answered alike from the states of all kinds. -/
def Answers (ev : Evaluator σ) (kind : ι → σ → Prop) (subqueries : List (Place × Select)) : Prop :=
  ∀ p ∈ subqueries, Run.Steady kind (ev.members p.1 p.2)

theorem Answers.left {ps qs : List (Place × Select)} (h : ev.Answers kind (ps ++ qs)) :
    ev.Answers kind ps :=
  fun p hp => h p (List.mem_append_left qs hp)

theorem Answers.right {ps qs : List (Place × Select)} (h : ev.Answers kind (ps ++ qs)) :
    ev.Answers kind qs :=
  fun p hp => h p (List.mem_append_right ps hp)

/-- Subqueries that are answered alike agree with themselves. -/
theorem Answers.agrees {subqueries : List (Place × Select)} (h : ev.Answers kind subqueries) :
    ev.Agrees ev.members kind subqueries :=
  fun p hp => (h p hp).agree

/-- **Whether a row satisfies a condition** depends on the row alone, as long as the subqueries in
the condition are answered alike. -/
theorem steady_holds (row : Record) (at_ : Place) (condition : Option Expr)
    (h : ∀ e, condition = some e → ev.Answers kind (e.subqueriesAt at_)) :
    Run.Steady kind (ev.holds row at_ condition) := by
  have hagrees (e : Expr) (he : condition = some e) :
      ev.Agrees ev.members kind ((e.settled .nothing false at_).subqueriesAt at_) := by
    rw [Expr.settled_nothing]
    exact (h e he).agrees
  exact (agree_holds row at_ condition (fun e _ => knows_nothing _) hagrees).steady

/-- **The value of an expression on a row** depends on the row alone, as long as the subqueries in
the expression are answered alike. -/
theorem steady_evaluate (row : Record) (at_ : Place) (e : Expr)
    (h : ev.Answers kind (e.subqueriesAt at_)) : Run.Steady kind (ev.evaluate row at_ e) :=
  (agree_evaluate row at_ e h.agrees).steady

end Evaluator
end TableQuery
