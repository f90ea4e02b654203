/-
# TableQuery.Proofs.Evaluation.Bounded — what evaluation does besides answering.

An evaluation touches the outside through the subqueries that it asks for, and nowhere else: as long
as these keep to some bounds, so does the whole evaluation.  It fails in two ways of its own.  Either
a part of the expression is in a place that is none for it (`Misfit`); or an operation of the
expression is given values with which its arithmetic has no result (`Evaluator.Overflows`).  Bounds
that allow for both are kept (`Evaluator.within_value`).

## §A — operations without a result.
## §B — connectives.
## §C — what the bounds have to allow.
## §D — the two readings.
-/
import TableQuery.Proofs.Evaluation.Misfits
import TableQuery.Proofs.Evaluation.Steady
import TableQuery.Statement.Nodes
import Mathlib.Data.List.Forall2

namespace TableQuery

/-! ## §A — operations without a result -/

/-- A value that an evaluation gives from some state. -/
def Evaluation.MayAnswer {σ α : Type} (x : Evaluation σ α) (a : α) : Prop :=
  ∃ cursor after, Run.MayAnswer (x.run cursor) (a, after)

namespace Evaluator
variable {σ : Type}

/-- A value that an expression has on a row. -/
def Gives (ev : Evaluator σ) (row : Record) (e : Expr) (v : Value) : Prop :=
  ∃ at_, Evaluation.MayAnswer (ev.value row at_ e) v

/-- Values that a set after IN has on a row. -/
def GivesSet (ev : Evaluator σ) (row : Record) (listed : List Expr) :
    Option Select → List Value → Prop
  | none, vs => List.Forall₂ (ev.Gives row) listed vs
  | some s, vs => ∃ at_, Run.MayAnswer (ev.members at_ s) vs

/-- **An operation without a result** — arithmetic, a pattern test or a test of membership that fails
on values which its operands have on the row. -/
def Overflows (ev : Evaluator σ) (row : Record) (fault : NumberError) : Expr → Prop
  | .binary op l r => op.family = .arithmetic ∧ ∃ v w, ev.Gives row l v ∧ ev.Gives row r w ∧
      Evaluation.arithmetic op v w = .error fault
  | .like l p _ => ∃ v w, ev.Gives row l v ∧ ev.Gives row p w ∧ Like.test v w = .error fault
  | .member l vs q _ => ∃ v ws, ev.Gives row l v ∧ ev.GivesSet row vs q ws ∧
      v.memberOf ws = .error fault
  | _ => False

/-- The values of expressions are values of each of them. -/
theorem forall₂_gives {ev : Evaluator σ} {row : Record} {n : Nat} {at_ : Place} {es : List Expr}
    {vs : List Value} (h : Evaluation.MayAnswer (ev.values row n at_ es) vs) :
    List.Forall₂ (ev.Gives row) es vs := by
  induction es generalizing n vs with
  | nil =>
      obtain ⟨cursor, after, s, t, h⟩ := h
      rw [values] at h
      obtain rfl := congrArg Prod.fst (Except.ok.inj (congrArg Prod.fst h))
      exact .nil
  | cons e es ih =>
      obtain ⟨cursor, after, s, t, h⟩ := h
      rw [values, StateT.run_bind] at h
      obtain ⟨⟨v, c⟩, u, hv, h⟩ := Run.outcome_bind_eq_ok.mp h
      rw [StateT.run_bind] at h
      obtain ⟨⟨ws, c'⟩, u', hws, h⟩ := Run.outcome_bind_eq_ok.mp h
      obtain rfl := congrArg Prod.fst (Except.ok.inj (congrArg Prod.fst h))
      exact .cons ⟨_, _, _, _, _, hv⟩ (ih ⟨_, _, _, _, hws⟩)

end Evaluator

/-- Values that are not a single one say how many they are. -/
theorem Value.error_of_single {vs : List Value} {e : Error} (h : Value.single vs = .error e) :
    e = .arity vs.length := by
  unfold single at h
  split at h <;> cases h
  rfl

/-! ## §B — connectives -/

namespace Evaluation
open Run

variable {σ : Type} {b : Bounds σ} {α β : Type}

/-- An evaluation that keeps to the bounds wherever its cursor stands. -/
def Within (b : Bounds σ) (x : Evaluation σ α) : Prop := ∀ cursor, Run.Within b (x.run cursor)

theorem within_pure (a : α) : Within b (pure a : Evaluation σ α) := fun _ => Run.within_pure _

theorem within_throw {e : Error} (h : ∀ s, b.failing e s s) :
    Within b (throw e : Evaluation σ α) :=
  fun _ => Run.within_throw h

theorem Within.bind {x : Evaluation σ α} {f : α → Evaluation σ β} (hx : Within b x)
    (hf : ∀ a, MayAnswer x a → Within b (f a)) : Within b (x >>= f) := by
  intro cursor
  rw [StateT.run_bind]
  exact (hx cursor).bind fun p hp => hf p.1 ⟨cursor, p.2, hp⟩ p.2

theorem Within.map (f : α → β) {x : Evaluation σ α} (hx : Within b x) : Within b (f <$> x) := by
  intro cursor
  rw [StateT.run_map]
  exact (hx cursor).map _

theorem within_lift {x : Run σ α} (h : Run.Within b x) :
    Within b (StateT.lift x : Evaluation σ α) :=
  fun cursor => h.bind fun a _ => Run.within_pure (a, cursor)

theorem within_ofNumber (x : Except NumberError α)
    (h : ∀ fault, x = .error fault → ∀ s, b.failing (.number fault) s s) :
    Within b (Evaluation.ofNumber x : Evaluation σ α) :=
  within_lift (Run.within_ofNumber x h)

/-- Looking a marker up moves the cursor and nothing else. -/
theorem within_parameter (params : Parameters) (m : Marker) :
    Within b (parameter params m : Evaluation σ Value) := by
  unfold parameter
  split
  · exact fun cursor => Run.within_pure (params.lookup m (some (cursor : Int)), cursor + 1)
  · exact within_pure _

variable {x y : Evaluation σ Bool} {v w : Evaluation σ Value}

theorem within_both (hx : Within b x) (hy : Within b y) : Within b (both x y) := by
  refine hx.bind fun holds _ => ?_
  cases holds
  · exact within_pure false
  · exact hy

theorem within_either (hx : Within b x) (hy : Within b y) : Within b (either x y) := by
  refine hx.bind fun holds _ => ?_
  cases holds
  · exact hy
  · exact within_pure true

theorem within_opposite (hx : Within b x) : Within b (opposite x) :=
  hx.bind fun _ _ => within_pure _

theorem within_compared (c : Collation) (op : BinaryOp) (hv : Within b v) (hw : Within b w) :
    Within b (compared c op v w) :=
  hv.bind fun _ _ => hw.bind fun _ _ => within_pure _

theorem within_nullTest (negated : Bool) (hv : Within b v) : Within b (nullTest negated v) :=
  hv.bind fun _ _ => within_pure _

theorem within_likeTest (negated : Bool) (hv : Within b v) (hw : Within b w)
    (h : ∀ a p fault, MayAnswer v a → MayAnswer w p → Like.test a p = .error fault →
      ∀ s, b.failing (.number fault) s s) : Within b (likeTest negated v w) := by
  refine hv.bind fun a ha => hw.bind fun p hp => ?_
  split
  · exact within_pure false
  · exact (within_ofNumber _ fun fault => h a p fault ha hp).bind fun _ _ => within_pure _

theorem within_memberTest (negated : Bool) {set : Evaluation σ (List Value)} (hv : Within b v)
    (hset : Within b set) (h : ∀ a vs fault, MayAnswer v a → MayAnswer set vs →
      a.memberOf vs = .error fault → ∀ s, b.failing (.number fault) s s) :
    Within b (memberTest negated v set) := by
  refine hv.bind fun a ha => ?_
  split
  · exact within_pure false
  · refine hset.bind fun vs hvs => ?_
    exact (within_ofNumber _ fun fault => h a vs fault ha hvs).bind fun _ _ => within_pure _

theorem within_computed (op : BinaryOp) (hv : Within b v) (hw : Within b w)
    (h : ∀ a c fault, MayAnswer v a → MayAnswer w c → arithmetic op a c = .error fault →
      ∀ s, b.failing (.number fault) s s) : Within b (computed op v w) :=
  hv.bind fun a ha => hw.bind fun c hc => within_ofNumber _ fun fault => h a c fault ha hc

end Evaluation

/-! ## §C — what the bounds have to allow -/

namespace Evaluator
open Evaluation

variable {σ : Type} {b : Run.Bounds σ} {ev : Evaluator σ} {row : Record}

/-- **What bounds have to allow** for an evaluation with some misfits, some nodes and some subqueries —
the failures of the misfits, those of the operations among the nodes, what the subqueries do, and
that they may have another number of values than one. -/
structure Permits (ev : Evaluator σ) (row : Record) (b : Run.Bounds σ) (misfits : List Misfit)
    (nodes : List Node) (subqueries : List (Place × Select)) : Prop where
  misfit (m : Misfit) : m ∈ misfits → ∀ s, b.failing m.error s s
  arity (p : Place × Select) (count : Nat) : p ∈ subqueries → ∀ s, b.failing (.arity count) s s
  overflow (e : Expr) (fault : NumberError) : .expr e ∈ nodes → ev.Overflows row fault e →
    ∀ s, b.failing (.number fault) s s
  members (p : Place × Select) : p ∈ subqueries → Run.Within b (ev.members p.1 p.2)

variable {ms ms' : List Misfit} {nodes nodes' : List Node} {ps ps' : List (Place × Select)}

theorem Permits.mono (h : ev.Permits row b ms nodes ps) (hms : ms' ⊆ ms) (hnodes : nodes' ⊆ nodes)
    (hps : ps' ⊆ ps) : ev.Permits row b ms' nodes' ps' where
  misfit m hm := h.misfit m (hms hm)
  arity p count hp := h.arity p count (hps hp)
  overflow e fault he := h.overflow e fault (hnodes he)
  members p hp := h.members p (hps hp)

/-- The first of two operands. -/
theorem Permits.left {n : Node}
    (h : ev.Permits row b (ms ++ ms') (n :: (nodes ++ nodes')) (ps ++ ps')) :
    ev.Permits row b ms nodes ps :=
  h.mono (List.subset_append_left ms ms')
    (List.subset_cons_of_subset n (List.subset_append_left nodes nodes'))
    (List.subset_append_left ps ps')

/-- The second of two operands. -/
theorem Permits.right {n : Node}
    (h : ev.Permits row b (ms ++ ms') (n :: (nodes ++ nodes')) (ps ++ ps')) :
    ev.Permits row b ms' nodes' ps' :=
  h.mono (List.subset_append_right ms ms')
    (List.subset_cons_of_subset n (List.subset_append_right nodes nodes'))
    (List.subset_append_right ps ps')

/-- The only operand. -/
theorem Permits.operand {n : Node} (h : ev.Permits row b ms (n :: nodes) ps) :
    ev.Permits row b ms nodes ps :=
  h.mono (List.Subset.refl ms) (List.subset_cons_self n nodes) (List.Subset.refl ps)

theorem Permits.valuesOf {at_ : Place} {s : Select} (h : ev.Permits row b ms nodes [(at_, s)]) :
    Within b (ev.valuesOf at_ s) :=
  within_lift (h.members (at_, s) (List.mem_singleton_self _))

theorem Permits.fail {α : Type} {fault : EvaluationFault}
    (h : ev.Permits row b [.fault fault] nodes ps) : Within b (fail fault : Evaluation σ α) :=
  within_throw (h.misfit (.fault fault) (List.mem_singleton_self _))

theorem Permits.noFunction {α : Type} {name : String}
    (h : ev.Permits row b [.function name] nodes ps) :
    Within b (noFunction name : Evaluation σ α) :=
  within_throw (h.misfit (.function name) (List.mem_singleton_self _))

/-- An operation among the nodes may fail for want of a result. -/
theorem Permits.operation {e : Expr} (h : ev.Permits row b ms (.expr e :: nodes) ps)
    {fault : NumberError} (he : ev.Overflows row fault e) (s : σ) :
    b.failing (.number fault) s s :=
  h.overflow e fault List.mem_cons_self he s

theorem mayAnswer_valuesOf {at_ : Place} {s : Select} {vs : List Value}
    (h : MayAnswer (ev.valuesOf at_ s) vs) : Run.MayAnswer (ev.members at_ s) vs := by
  obtain ⟨cursor, after, st, u, h⟩ := h
  obtain ⟨ws, t, hws, h⟩ := Run.outcome_bind_eq_ok.mp h
  obtain rfl : ws = vs := congrArg Prod.fst (Except.ok.inj (congrArg Prod.fst h))
  exact ⟨st, t, hws⟩

/-! ## §D — the two readings -/

section
variable {at_ : Place} {l : Expr} {vs : List Expr} {negated : Bool}

theorem Permits.memberLeft {q : Option Select}
    (h : ev.Permits row b (Expr.member l vs q negated).conditionMisfits
      ((Expr.member l vs q negated).nodes false) ((Expr.member l vs q negated).subqueriesAt at_)) :
    ev.Permits row b l.valueMisfits (l.nodes false) (l.subqueriesAt (0 :: at_)) := by
  rw [Expr.conditionMisfits.eq_def, Expr.nodes, Expr.subqueriesAt.eq_def] at h
  exact h.left

theorem Permits.memberValues
    (h : ev.Permits row b (Expr.member l vs none negated).conditionMisfits
      ((Expr.member l vs none negated).nodes false)
      ((Expr.member l vs none negated).subqueriesAt at_)) :
    ev.Permits row b (Expr.listMisfits vs) (Expr.listNodes false vs)
      (Expr.listSubqueriesAt 1 at_ vs) := by
  rw [Expr.conditionMisfits, Expr.nodes, Expr.subqueriesAt] at h
  exact h.right.mono (List.Subset.refl _) (List.subset_append_left _ _) (List.Subset.refl _)

/-- Membership in what a subquery answers. -/
theorem Permits.member_some {s : Select}
    (h : ev.Permits row b (Expr.member l vs (some s) negated).conditionMisfits
      ((Expr.member l vs (some s) negated).nodes false)
      ((Expr.member l vs (some s) negated).subqueriesAt at_))
    (hleft : Within b (ev.value row (0 :: at_) l)) :
    Within b (ev.condition row at_ (.member l vs (some s) negated)) := by
  rw [Expr.conditionMisfits, Expr.nodes, Expr.subqueriesAt] at h
  rw [condition]
  refine within_memberTest negated hleft h.right.valuesOf fun v ws fault hv hws hfault => ?_
  exact h.operation ⟨v, ws, ⟨_, hv⟩, ⟨_, mayAnswer_valuesOf hws⟩, hfault⟩

/-- Membership in a list. -/
theorem Permits.member_none
    (h : ev.Permits row b (Expr.member l vs none negated).conditionMisfits
      ((Expr.member l vs none negated).nodes false)
      ((Expr.member l vs none negated).subqueriesAt at_))
    (hleft : Within b (ev.value row (0 :: at_) l)) (hvalues : Within b (ev.values row 1 at_ vs)) :
    Within b (ev.condition row at_ (.member l vs none negated)) := by
  rw [Expr.nodes, Expr.subqueriesAt] at h
  rw [condition]
  refine within_memberTest negated hleft hvalues fun v ws fault hv hws hfault => ?_
  exact h.operation ⟨v, ws, ⟨_, hv⟩, forall₂_gives hws, hfault⟩

/-- A pattern test. -/
theorem Permits.like {p : Expr} (h : ev.Permits row b ms (.expr (.like l p negated) :: nodes) ps)
    (hleft : Within b (ev.value row (0 :: at_) l)) (hright : Within b (ev.value row (1 :: at_) p)) :
    Within b (likeTest negated (ev.value row (0 :: at_) l) (ev.value row (1 :: at_) p)) :=
  within_likeTest negated hleft hright fun v w _ hv hw hfault =>
    h.operation ⟨v, w, ⟨_, hv⟩, ⟨_, hw⟩, hfault⟩

/-- A test keeps to the bounds in both readings when it does as a condition. -/
theorem within_of_isTest {e : Expr} (h : e.isTest = true)
    (hcondition : ev.Permits row b e.conditionMisfits (e.nodes false) (e.subqueriesAt at_) →
      Within b (ev.condition row at_ e)) :
    (ev.Permits row b e.conditionMisfits (e.nodes false) (e.subqueriesAt at_) →
      Within b (ev.condition row at_ e)) ∧
    (ev.Permits row b e.valueMisfits (e.nodes false) (e.subqueriesAt at_) →
      Within b (ev.value row at_ e)) := by
  rw [Expr.valueMisfits_of_isTest h, value_of_isTest ev row at_ h]
  exact ⟨hcondition, fun hp => (hcondition hp).map _⟩

end

mutual

/-- **A condition and a value keep to the bounds** that allow for them. -/
theorem within_readings : ∀ (at_ : Place) (e : Expr),
    (ev.Permits row b e.conditionMisfits (e.nodes false) (e.subqueriesAt at_) →
      Within b (ev.condition row at_ e)) ∧
    (ev.Permits row b e.valueMisfits (e.nodes false) (e.subqueriesAt at_) →
      Within b (ev.value row at_ e))
  | at_, .binary op l r => by
      obtain ⟨cl, vl⟩ := within_readings (0 :: at_) l
      obtain ⟨cr, vr⟩ := within_readings (1 :: at_) r
      cases op with
      | and =>
          refine within_of_isTest rfl fun h => ?_
          rw [Expr.conditionMisfits, Expr.nodes, Expr.subqueriesAt] at h
          rw [condition]
          exact within_both (cl h.left) (cr h.right)
      | or =>
          refine within_of_isTest rfl fun h => ?_
          rw [Expr.conditionMisfits, Expr.nodes, Expr.subqueriesAt] at h
          rw [condition]
          exact within_either (cl h.left) (cr h.right)
      | eq | ne | lt | le | gt | ge =>
          refine within_of_isTest rfl fun h => ?_
          rw [Expr.conditionMisfits, Expr.nodes, Expr.subqueriesAt] at h
          simp only [condition, BinaryOp.family, if_true]
          exact within_compared _ _ (vl h.left) (vr h.right)
      | add | sub | mul | div | mod | concat =>
          simp only [condition, value, BinaryOp.family, reduceCtorEq, if_false]
          constructor
          · intro h
            rw [Expr.conditionMisfits] at h
            exact h.fail
          · intro h
            rw [Expr.valueMisfits, Expr.nodes, Expr.subqueriesAt] at h
            refine within_computed _ (vl h.left) (vr h.right) fun v w fault hv hw hfault => ?_
            exact h.operation ⟨rfl, v, w, ⟨_, hv⟩, ⟨_, hw⟩, hfault⟩
  | at_, .unary op e => by
      obtain ⟨ce, ve⟩ := within_readings (0 :: at_) e
      cases op with
      | not =>
          refine within_of_isTest rfl fun h => ?_
          rw [Expr.conditionMisfits, Expr.nodes, Expr.subqueriesAt] at h
          rw [condition]
          exact within_opposite (ce h.operand)
      | neg =>
          rw [condition, value]
          constructor
          · intro h
            rw [Expr.conditionMisfits] at h
            exact h.fail
          · intro h
            rw [Expr.valueMisfits, Expr.nodes, Expr.subqueriesAt] at h
            exact (ve h.operand).map _
  | at_, .member l vs (some s) negated =>
      within_of_isTest rfl fun h => h.member_some ((within_readings (0 :: at_) l).2 h.memberLeft)
  | at_, .member l vs none negated =>
      within_of_isTest rfl fun h => h.member_none ((within_readings (0 :: at_) l).2 h.memberLeft)
        (within_values 1 at_ vs h.memberValues)
  | at_, .isNull e negated => by
      refine within_of_isTest rfl fun h => ?_
      rw [Expr.conditionMisfits, Expr.nodes, Expr.subqueriesAt] at h
      rw [condition]
      exact within_nullTest negated ((within_readings (0 :: at_) e).2 h.operand)
  | at_, .like l p negated => by
      refine within_of_isTest rfl fun h => ?_
      rw [Expr.conditionMisfits, Expr.nodes, Expr.subqueriesAt] at h
      rw [condition]
      exact h.like ((within_readings (0 :: at_) l).2 h.left) ((within_readings (1 :: at_) p).2 h.right)
  | at_, .subquery s => by
      rw [condition, value, Expr.subqueriesAt]
      · refine ⟨fun h => h.fail, fun h => ?_⟩
        -- A subquery that is an operand may also have another number of values than one.
        refine h.valuesOf.bind fun vs _ => within_lift (Run.within_liftExcept _ fun e he => ?_)
        obtain rfl := Value.error_of_single he
        exact h.arity (at_, s) _ (List.mem_singleton_self _)
      all_goals simp
  | at_, .literal v => by
      refine ⟨fun h => ?_, fun _ => within_pure v⟩
      cases v with
      | bool truth => exact within_pure truth
      | _ => exact h.fail
  | at_, .call name _ => ⟨fun h => h.noFunction, fun h => h.noFunction⟩
  | at_, .column _ => ⟨fun h => h.fail, fun _ => within_pure _⟩
  | at_, .marker m => ⟨fun h => h.fail, fun _ => within_parameter _ m⟩
  | at_, .star | at_, .misplaced _ => ⟨fun h => h.fail, fun h => h.fail⟩

/-- The values of a list keep to the bounds. -/
theorem within_values (n : Nat) (at_ : Place) : ∀ es : List Expr,
    ev.Permits row b (Expr.listMisfits es) (Expr.listNodes false es)
      (Expr.listSubqueriesAt n at_ es) →
    Within b (ev.values row n at_ es)
  | [], _ => by
      rw [values]
      exact within_pure []
  | e :: es, h => by
      rw [Expr.listMisfits, Expr.listNodes, Expr.listSubqueriesAt] at h
      have hfirst : ev.Permits row b e.valueMisfits (e.nodes false) (e.subqueriesAt (n :: at_)) :=
        h.mono (List.subset_append_left _ _) (List.subset_append_left _ _)
          (List.subset_append_left _ _)
      have hrest : ev.Permits row b (Expr.listMisfits es) (Expr.listNodes false es)
          (Expr.listSubqueriesAt (n + 1) at_ es) :=
        h.mono (List.subset_append_right _ _) (List.subset_append_right _ _)
          (List.subset_append_right _ _)
      rw [values]
      exact ((within_readings (n :: at_) e).2 hfirst).bind fun v _ =>
        (within_values (n + 1) at_ es hrest).bind fun vs _ => within_pure (v :: vs)

end

/-- Whether a row satisfies a condition is found out within the bounds. -/
theorem within_holds (at_ : Place) (condition : Option Expr)
    (h : ∀ e, condition = some e →
      ev.Permits row b e.conditionMisfits (e.nodes false) (e.subqueriesAt at_)) :
    Run.Within b (ev.holds row at_ condition) := by
  cases condition with
  | none => exact Run.within_pure true
  | some e => exact ((within_readings at_ e).1 (h e rfl) 0).bind fun p _ => Run.within_pure p.1

/-- The value of an expression on a row is found out within the bounds. -/
theorem within_evaluate (at_ : Place) (e : Expr)
    (h : ev.Permits row b e.valueMisfits (e.nodes false) (e.subqueriesAt at_)) :
    Run.Within b (ev.evaluate row at_ e) :=
  ((within_readings at_ e).2 h 0).bind fun p _ => Run.within_pure p.1

section
variable {P : Error → Prop} {at_ : Place} {e : Expr} {s t : σ} {error : Error}

/-- Finding out whether a row satisfies a condition fails as is allowed for. -/
theorem failure_of_holds (h : ev.Permits row (.failures P) e.conditionMisfits (e.nodes false)
    (e.subqueriesAt at_)) (hout : (ev.holds row at_ (some e)).outcome s = (.error error, t)) :
    P error := by
  have hwithin : Run.Within (.failures P) (ev.holds row at_ (some e)) :=
    within_holds at_ (some e) fun x hx => by
      obtain rfl := Option.some.inj hx
      exact h
  exact (hwithin s).2 error t hout

/-- The value of an expression fails as is allowed for. -/
theorem failure_of_evaluate (h : ev.Permits row (.failures P) e.valueMisfits (e.nodes false)
    (e.subqueriesAt at_)) (hout : (ev.evaluate row at_ e).outcome s = (.error error, t)) :
    P error :=
  (within_evaluate at_ e h s).2 error t hout

end

end Evaluator
end TableQuery
