/-
# TableQuery.Proofs.Evaluation.Limits — failures that are none of the query language.

Evaluation fails with a failure of the query language, with a failure of a subquery, or because one of
its operations is given values at a limit: an integer beyond the range of binary64 where it has to
become a binary64 number, a quotient of integers beyond that range, an infinite dividend of a
remainder, or an integer with more digits than a text may have where a text is asked for.  At each of
these limits the operation does fail (`Evaluation.arithmetic_eq_error_iff`, `Value.refuses_operand`),
and there is no other way to fail (`Evaluator.failure_cases`).

## §A — texts of values.
## §B — arithmetic on values.
## §C — operations at their limits.
## §D — failures of evaluation.
-/
import TableQuery.Proofs.Evaluation.Bounded
import TableQuery.Proofs.Number.Range
import TableQuery.Sql.Meaning

namespace TableQuery
open Number

/-! ## §A — texts of values -/

namespace Value

mutual

/-- Whether a value holds an integer with too many digits. -/
def HoldsLong : Value → Prop
  | .int i => IsLong i
  | .list items => ItemsHoldLong items
  | .record fields => FieldsHoldLong fields
  | _ => False

/-- Whether one of the items does. -/
def ItemsHoldLong : List Value → Prop
  | [] => False
  | v :: rest => v.HoldsLong ∨ ItemsHoldLong rest

/-- Whether one of the fields does. -/
def FieldsHoldLong : List (String × Value) → Prop
  | [] => False
  | (_, v) :: rest => v.HoldsLong ∨ FieldsHoldLong rest

end

mutual

/-- **A value has no text exactly where it holds an integer with too many digits.** -/
theorem refuses_shown : ∀ v : Value, Refuses v.shown .tooManyDigits v.HoldsLong
  | .int i => by
      rw [shown, HoldsLong]
      exact refuses_intText i
  | .list items => by
      rw [shown, HoldsLong]
      exact (refuses_shownItems items).map _
  | .record fields => by
      rw [shown, HoldsLong]
      exact (refuses_shownFields fields).map _
  | .null | .bool _ | .float _ | .text _ | .blob _ => by
      rw [shown, HoldsLong] <;> first | exact refuses_ok _ _ id | simp

theorem refuses_shownItems : ∀ vs : List Value,
    Refuses (shownItems vs) .tooManyDigits (ItemsHoldLong vs)
  | [] => refuses_ok _ _ id
  | v :: rest => (refuses_shown v).both (refuses_shownItems rest) _

theorem refuses_shownFields : ∀ fields : List (String × Value),
    Refuses (shownFields fields) .tooManyDigits (FieldsHoldLong fields)
  | [] => refuses_ok _ _ id
  | (_, v) :: rest => (refuses_shown v).both (refuses_shownFields rest) _

end

theorem refuses_printed (v : Value) : Refuses v.printed .tooManyDigits v.HoldsLong := by
  cases v with
  | text s => exact refuses_ok _ _ id
  | _ => exact refuses_shown _

/-- The text operators refuse just these values. -/
theorem refuses_operand (v : Value) : Refuses v.operand .tooManyDigits v.HoldsLong := by
  cases v with
  | text | blob | bool => exact refuses_ok _ _ id
  | _ => exact (refuses_printed _).map _

/-- And so does the comparison of texts. -/
theorem refuses_points (v : Value) : Refuses v.points .tooManyDigits v.HoldsLong := by
  cases v with
  | blob bytes => exact refuses_ok _ _ id
  | _ => exact (refuses_printed _).map _

variable {v w : Value} {e : NumberError}

/-- NULL holds nothing. -/
theorem HoldsLong.isNull (h : v.HoldsLong) : v.isNull = false := by
  cases v <;> first | rfl | exact h.elim

/-- **Loose equality** refuses to compare a text with an integer of too many digits. -/
theorem refuses_looseEqual (v w : Value) : Refuses (v.looseEqual w) .tooManyDigits
    ((v.isNull || w.isNull) = false ∧ (v.number? = none ∨ w.number? = none) ∧
      (v.HoldsLong ∨ w.HoldsLong)) := by
  unfold looseEqual
  split
  · rename_i hnull
    exact refuses_ok _ _ fun h => by simp [hnull] at h
  · rename_i hnull
    split
    · rename_i hv hw
      exact refuses_ok _ _ fun h => by simp [hv, hw] at h
    · rename_i hnumbers
      refine ((refuses_points v).both (refuses_points w) _).congr ?_
      have hnone : v.number? = none ∨ w.number? = none := by
        cases hv : v.number? with
        | none => exact .inl rfl
        | some m => exact .inr (Option.eq_none_iff_forall_ne_some.mpr fun n hn => hnumbers m n hv hn)
      simp [hnull, hnone]

/-- **Membership** fails where the comparison with a member does. -/
theorem memberOf_eq_error {vs : List Value} (h : v.memberOf vs = .error e) :
    ∃ w ∈ vs, v.looseEqual w = .error e := by
  induction vs with
  | nil => cases h
  | cons w rest ih =>
      rw [memberOf] at h
      cases hw : v.looseEqual w with
      | error e' =>
          rw [hw] at h
          exact ⟨w, List.mem_cons_self, hw.trans h⟩
      | ok found =>
          rw [hw] at h
          cases found
          · obtain ⟨w', hmem, hfail⟩ := ih h
            exact ⟨w', List.mem_cons_of_mem w hmem, hfail⟩
          · cases h

end Value

/-- **A pattern test** refuses values without a text. -/
theorem Like.refuses_test (v p : Value) : Refuses (Like.test v p) .tooManyDigits
    ((v.isNull || p.isNull) = false ∧ (v.HoldsLong ∨ p.HoldsLong)) := by
  unfold Like.test
  split
  · rename_i hnull
    exact refuses_ok _ _ fun h => by simp [hnull] at h
  · rename_i hnull
    refine (p.refuses_operand.both v.refuses_operand _).congr ?_
    simp [hnull, or_comm]

/-! ## §B — arithmetic on values -/

/-- **Where two numbers have no result** under an operator. -/
def Number.NoResult (e : NumberError) (m n : Number) : BinaryOp → Prop
  | .add | .sub | .mul =>
    (m.isInt && n.isInt) = false ∧ e = .integerTooLarge ∧ (m.IsHuge ∨ n.IsHuge)
  | .div => n.isZero = false ∧ NoQuotient e m n
  | .mod => n.isZero = false ∧ (e = .integerTooLarge ∧ (m.IsHuge ∨ n.IsHuge) ∨
      e = .remainderUndefined ∧ m.IsInfinite ∧ ¬n.IsHuge ∧ n.isNaN = false)
  | _ => False

namespace Evaluation
variable {op : BinaryOp} {e : NumberError}

theorem calculate_eq_error_iff {m n : Number} :
    calculate op m n = .error e ↔ Number.NoResult e m n op := by
  have hmap (x : Except NumberError Number) : some <$> x = .error e ↔ x = .error e := by
    cases x <;> simp [Functor.map, Except.map]
  cases op <;> simp only [calculate, Number.NoResult]
  case add | sub | mul => exact (hmap _).trans combine_eq_error_iff
  case div => exact div?_eq_error_iff
  case mod => exact mod?_eq_error_iff
  all_goals exact iff_of_false (fun h => by cases h) id

/-- **Where two values have no result** under an operator — no text for one of them, or no result for
the numbers that they count as. -/
def NoResult (e : NumberError) (v w : Value) (op : BinaryOp) : Prop :=
  (v.isNull || w.isNull) = false ∧
    if op = .concat then e = .tooManyDigits ∧ (v.HoldsLong ∨ w.HoldsLong)
    else ∃ m n, v.number? = some m ∧ w.number? = some n ∧ Number.NoResult e m n op

/-- **Arithmetic fails exactly where there is no result.** -/
theorem arithmetic_eq_error_iff {v w : Value} :
    arithmetic op v w = .error e ↔ NoResult e v w op := by
  unfold arithmetic NoResult
  split
  · rename_i hnull
    simp [hnull]
  · rename_i hnull
    rw [and_iff_right (Bool.not_eq_true _ ▸ hnull)]
    split
    · exact v.refuses_operand.both w.refuses_operand _ e
    · split
      · rename_i m n hv hw
        simp only [hv, hw, Option.some.injEq, exists_eq_left', exists_and_left]
        rw [← calculate_eq_error_iff]
        rcases calculate op m n with e' | r | r <;>
          simp [bind, Except.bind, pure, Except.pure]
      · rename_i hnumbers
        refine iff_of_false (fun h => by cases h) ?_
        rintro ⟨m, n, hv, hw, -⟩
        exact hnumbers m n hv hw

end Evaluation

/-! ## §C — operations at their limits -/

namespace Evaluator
variable {σ : Type} {ev : Evaluator σ} {row : Record} {e : NumberError}

/-- **An operation at its limit** — its operands have values on the row with which it has no
result. -/
def AtLimit (ev : Evaluator σ) (row : Record) (e : NumberError) : Expr → Prop
  | .binary op l r => op.family = .arithmetic ∧
      ∃ v w, ev.Gives row l v ∧ ev.Gives row r w ∧ Evaluation.NoResult e v w op
  | .like l p _ => e = .tooManyDigits ∧
      ∃ v w, ev.Gives row l v ∧ ev.Gives row p w ∧ (v.HoldsLong ∨ w.HoldsLong)
  | .member l vs q _ => e = .tooManyDigits ∧
      ∃ v ws, ev.Gives row l v ∧ ev.GivesSet row vs q ws ∧
        ∃ w ∈ ws, (v.number? = none ∨ w.number? = none) ∧ (v.HoldsLong ∨ w.HoldsLong)
  | _ => False

/-- An operation that fails is at its limit. -/
theorem Overflows.atLimit {x : Expr} (h : ev.Overflows row e x) : ev.AtLimit row e x := by
  cases x with
  | binary op l r =>
      obtain ⟨hop, v, w, hv, hw, h⟩ := h
      exact ⟨hop, v, w, hv, hw, Evaluation.arithmetic_eq_error_iff.mp h⟩
  | like l p negated =>
      obtain ⟨v, w, hv, hw, h⟩ := h
      obtain ⟨he, -, hlong⟩ := (Like.refuses_test v w e).mp h
      exact ⟨he, v, w, hv, hw, hlong⟩
  | member l vs q negated =>
      obtain ⟨v, ws, hv, hws, h⟩ := h
      obtain ⟨w, hw, h⟩ := Value.memberOf_eq_error h
      obtain ⟨he, -, hlong⟩ := (Value.refuses_looseEqual v w e).mp h
      exact ⟨he, v, ws, hv, hws, w, hw, hlong⟩
  | _ => exact h.elim

/-! ## §D — failures of evaluation -/

/-- A failure that one of the subqueries ends with from some state. -/
def SubqueryFails (ev : Evaluator σ) (subqueries : List (Place × Select)) (error : Error) : Prop :=
  ∃ p ∈ subqueries, ∃ s t, (ev.members p.1 p.2).outcome s = (.error error, t)

/-- **What an evaluation may fail with**, from the nodes and the subqueries of the expression. -/
def MayFail (ev : Evaluator σ) (row : Record) (nodes : List Node)
    (subqueries : List (Place × Select)) (error : Error) : Prop :=
  error.isQueryError ∨
    (∃ e x, error = .number e ∧ .expr x ∈ nodes ∧ ev.AtLimit row e x) ∨
    ev.SubqueryFails subqueries error

/-- Failing in one of these ways as bounds. -/
def failureBounds (ev : Evaluator σ) (row : Record) (nodes : List Node)
    (subqueries : List (Place × Select)) : Run.Bounds σ :=
  .failures (ev.MayFail row nodes subqueries)

theorem permits_failureBounds (ev : Evaluator σ) (row : Record) (misfits : List Misfit)
    (nodes : List Node) (subqueries : List (Place × Select)) :
    ev.Permits row (ev.failureBounds row nodes subqueries) misfits nodes subqueries where
  misfit m _ _ := .inl m.isQueryError_error
  arity _ _ _ _ := .inl rfl
  overflow x e hx h _ := .inr (.inl ⟨e, x, rfl, hx, h.atLimit⟩)
  members p hp s := ⟨fun _ _ _ => trivial, fun _ t h => .inr (.inr ⟨p, hp, s, t, h⟩)⟩

/-- **Evaluation fails only with failures of the query language**, with those of its subqueries, or
because an operation is given values at a limit; so as a value and so as a condition. -/
theorem failure_cases (ev : Evaluator σ) (row : Record) (at_ : Place) (x : Expr) (error : Error)
    (hfails : (∃ s t, (ev.evaluate row at_ x).outcome s = (.error error, t)) ∨
      ∃ s t, (ev.holds row at_ (some x)).outcome s = (.error error, t)) :
    ev.MayFail row (x.nodes false) (x.subqueriesAt at_) error := by
  have hpermits (misfits : List Misfit) :=
    ev.permits_failureBounds row misfits (x.nodes false) (x.subqueriesAt at_)
  rcases hfails with ⟨s, t, h⟩ | ⟨s, t, h⟩
  · exact failure_of_evaluate (hpermits _) h
  · exact failure_of_holds (hpermits _) h

/-- A row with an integer beyond the range of binary64. -/
def hugeRow : Record := [(.name "a", .int (Nat.pow 10 309))]

/-- The remainder of the integer, which is taken on binary64 numbers. -/
def hugeRemainder : Expr := .binary .mod (.column "a") (.literal (.int 3))

/-- Whether an answer is that an integer rounds to no finite number. -/
def isTooLarge (answer : Except Error Value) : Bool :=
  match answer with
  | .error (.number e) => e == .integerTooLarge
  | _ => false

theorem eq_of_isTooLarge {answer : Except Error Value} (h : isTooLarge answer = true) :
    answer = .error (.number .integerTooLarge) := by
  rcases answer with e | v
  · cases e with
    | number e => rw [eq_of_beq h]
    | _ => cases h
  · cases h

theorem outcome_hugeRemainder :
    (({} : Evaluator Unit).evaluate hugeRow [] hugeRemainder).outcome () =
      (.error (.number .integerTooLarge), ()) := by
  have hanswer : isTooLarge ((({} : Evaluator Unit).evaluate hugeRow [] hugeRemainder).outcome ()).1 =
      true := by decide +kernel
  exact Prod.ext (eq_of_isTooLarge hanswer) (Subsingleton.elim _ _)

/-- The failure is that of the remainder, the one operation there is. -/
theorem failure_hugeRemainder :
    (({} : Evaluator Unit).evaluate hugeRow [] hugeRemainder).outcome () =
      (.error (.number .integerTooLarge), ()) ∧
    ({} : Evaluator Unit).MayFail hugeRow (hugeRemainder.nodes false)
      (hugeRemainder.subqueriesAt []) (.number .integerTooLarge) :=
  ⟨outcome_hugeRemainder,
    failure_cases {} hugeRow [] hugeRemainder _ (.inl ⟨(), (), outcome_hugeRemainder⟩)⟩

/-- **An expression of the language fails with a failure that is none of it.** -/
theorem evaluate_hugeRemainder : Expr.ofText "a % 3" = .ok hugeRemainder ∧
    (({} : Evaluator Unit).evaluate hugeRow [] hugeRemainder).outcome () =
      (.error (.number .integerTooLarge), ()) ∧
    (Error.number .integerTooLarge).isQueryError = false :=
  ⟨by rfl, outcome_hugeRemainder, rfl⟩

end Evaluator
end TableQuery
