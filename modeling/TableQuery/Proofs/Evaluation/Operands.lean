/-
# TableQuery.Proofs.Evaluation.Operands — what an operator makes of the values of its operands.

An evaluation begins at a cursor over the markers and in a state of the outside, and comes to
others. Whatever the operands do on the way, an operator takes their values from left to right and
does its own part with them; so a statement on the operator is a statement on two values (§B).  §C
is that statement for the remainder and the quotient of two integers: the remainder is exact
wherever the integers are binary64 numbers, and elsewhere it is that of the binary64 numbers next to
them.

## §A — evaluations from where they begin.
## §B — operators on values.
## §C — remainders and quotients of integers.
-/
import TableQuery.Evaluation.Basic
import TableQuery.Proofs.Number.Remainder
import TableQuery.Proofs.Run
import TableQuery.Sql.Meaning

namespace TableQuery
namespace Evaluation
open Run

variable {σ α : Type}

/-! ## §A — evaluations from where they begin -/

/-- Where an evaluation stands: at a cursor and in a state. -/
abbrev Standing (σ : Type) := Nat × σ

/-- **Returning** — from where it begins the evaluation answers `a` and comes to `t`. -/
def Returns (x : Evaluation σ α) (s : Standing σ) (a : α) (t : Standing σ) : Prop :=
  (x.run s.1).outcome s.2 = (.ok (a, t.1), t.2)

/-- **Failing** — from where it begins the evaluation fails with `e` and leaves a state. -/
def Fails (x : Evaluation σ α) (s : Standing σ) (e : Error) (after : σ) : Prop :=
  (x.run s.1).outcome s.2 = (.error e, after)

/-! ## §B — operators on values -/

variable {v w : Evaluation σ Value} {a b : Value} {s s₁ s₂ : Standing σ}

/-- **Arithmetic** does its part with the values of its operands. -/
theorem outcome_computed (op : BinaryOp) (hv : Returns v s a s₁) (hw : Returns w s₁ b s₂) :
    ((computed op v w).run s.1).outcome s.2 =
      (((arithmetic op a b).mapError .number).map (·, s₂.1), s₂.2) := by
  rw [computed, StateT.run_bind, outcome_bind, hv, resume_ok, StateT.run_bind, outcome_bind, hw,
    resume_ok]
  cases arithmetic op a b <;> rfl

/-- A comparison looks at the order of the values. -/
theorem returns_compared (c : Collation) (op : BinaryOp) (hv : Returns v s a s₁)
    (hw : Returns w s₁ b s₂) : Returns (compared c op v w) s (verdict op (c.compare a b)) s₂ := by
  unfold Returns
  rw [compared, StateT.run_bind, outcome_bind, hv, resume_ok, StateT.run_bind, outcome_bind, hw,
    resume_ok]
  rfl

end Evaluation

/-! ## §C — remainders and quotients of integers -/

namespace Evaluation

variable {a b : Int}

/-- Integers are calculated with as numbers. -/
theorem arithmetic_ints {op : BinaryOp} (hop : op ≠ .concat) (a b : Int) :
    arithmetic op (.int a) (.int b) =
      (calculate op (.int a) (.int b)).map fun r => (r.map Value.ofNumber).getD .null := by
  have hnumber (i : Int) : (Value.int i).number? = some (.int i) := rfl
  rw [arithmetic, if_neg (by exact Bool.false_ne_true), if_neg hop, hnumber, hnumber]
  dsimp only
  rcases calculate op (.int a) (.int b) with e | _ | r <;> rfl

theorem arithmetic_mod_huge (hb : b ≠ 0) (h : Double.range ≤ a.natAbs ∨ Double.range ≤ b.natAbs) :
    arithmetic .mod (.int a) (.int b) = .error .integerTooLarge := by
  have hfails : (Number.int a).mod? (.int b) = .error .integerTooLarge :=
    Number.mod?_eq_error_iff.mpr ⟨beq_false_of_ne hb, .inl ⟨rfl, h⟩⟩
  rw [arithmetic_ints (by decide), calculate, hfails]
  rfl

theorem arithmetic_mod (hb : b ≠ 0) (ha' : a.natAbs < Double.range)
    (hb' : b.natAbs < Double.range) : arithmetic .mod (.int a) (.int b) =
      .ok (.int ((Double.nearest a).tmod (Double.nearest b))) := by
  rw [arithmetic_ints (by decide), calculate, Number.mod?_int hb ha' hb']
  rfl

theorem arithmetic_div_eq_int_iff {q : Int} (hb : b ≠ 0) :
    arithmetic .div (.int a) (.int b) = .ok (.int q) ↔ q * b = a := by
  rw [← Number.div?_int_eq_int_iff hb, arithmetic_ints (by decide), calculate]
  rcases (Number.int a).div? (.int b) with e | _ | i | x <;> simp [Except.map, Value.ofNumber]

end Evaluation

namespace Evaluator
open Evaluation Number

variable {σ : Type} {ev : Evaluator σ} {row : Record} {at_ : Place} {l r : Expr} {a b : Int}
  {s s₁ s₂ : Standing σ}

/-- An arithmetic expression evaluates its operands from left to right and then does its part. -/
theorem outcome_arithmetic (op : BinaryOp) {v w : Value} (hop : op.family = .arithmetic)
    (hl : Returns (ev.value row (0 :: at_) l) s v s₁)
    (hr : Returns (ev.value row (1 :: at_) r) s₁ w s₂) :
    ((ev.value row at_ (.binary op l r)).run s.1).outcome s.2 =
      (((arithmetic op v w).mapError .number).map (·, s₂.1), s₂.2) := by
  have hcomputed : ev.value row at_ (.binary op l r) =
      computed op (ev.value row (0 :: at_) l) (ev.value row (1 :: at_) r) := by
    cases op <;> first
      | exact absurd hop (by decide)
      | rw [value] <;> first | rfl | (intro h; cases h)
  rw [hcomputed]
  exact outcome_computed op hl hr

/-- **The remainder of two integers**, whatever expressions they are the values of.  With an integer
beyond the range of binary64 there is none; otherwise it is the truncated remainder of the binary64
numbers next to the integers, and where the integers are binary64 numbers it is their own: it is
zero exactly where their quotient is an integer.  A quotient that is an integer is always exact. -/
theorem remainder_ofIntegers (hb : b ≠ 0) (hl : Returns (ev.value row (0 :: at_) l) s (.int a) s₁)
    (hr : Returns (ev.value row (1 :: at_) r) s₁ (.int b) s₂) :
    (Double.range ≤ a.natAbs ∨ Double.range ≤ b.natAbs →
      Fails (ev.value row at_ (.binary .mod l r)) s (.number .integerTooLarge) s₂.2) ∧
    (a.natAbs < Double.range → b.natAbs < Double.range → ∃ m,
      Returns (ev.value row at_ (.binary .mod l r)) s (.int m) s₂ ∧
        IsRemainder (Double.nearest a) (Double.nearest b) m) ∧
    (Double.Representable a → Double.Representable b → ∃ m,
      Returns (ev.value row at_ (.binary .mod l r)) s (.int m) s₂ ∧ IsRemainder a b m ∧
        (m = 0 ↔ ∃ q, Returns (ev.value row at_ (.binary .div l r)) s (.int q) s₂)) ∧
    ∀ q, Returns (ev.value row at_ (.binary .div l r)) s (.int q) s₂ → q * b = a := by
  have hmod := outcome_arithmetic .mod rfl hl hr
  have hdiv := outcome_arithmetic .div rfl hl hr
  have hquotient (q : Int) :
      Returns (ev.value row at_ (.binary .div l r)) s (.int q) s₂ ↔ q * b = a := by
    rw [Returns, hdiv, ← arithmetic_div_eq_int_iff hb]
    cases arithmetic .div (.int a) (.int b) <;> simp [Except.mapError, Except.map]
  refine ⟨fun hhuge => ?_, fun ha' hb' => ?_, fun ha hb' => ?_, fun q hq => (hquotient q).mp hq⟩
  · rw [Fails, hmod, arithmetic_mod_huge hb hhuge]
    rfl
  · refine ⟨_, ?_, isRemainder_tmod _ (Double.nearest_ne_zero hb hb')⟩
    rw [Returns, hmod, arithmetic_mod hb ha' hb']
    rfl
  -- Integers that are binary64 numbers are next to themselves, so that the remainder is theirs.
  · refine ⟨a.tmod b, ?_, isRemainder_tmod a hb, ?_⟩
    · rw [Returns, hmod, arithmetic_mod hb (Double.lt_range_of_representable ha)
        (Double.lt_range_of_representable hb'), Double.nearest_of_representable ha,
        Double.nearest_of_representable hb']
      rfl
    · rw [← Int.dvd_iff_tmod_eq_zero]
      constructor
      · rintro ⟨q, hq⟩
        exact ⟨q, (hquotient q).mpr (by rw [hq, mul_comm])⟩
      · rintro ⟨q, hq⟩
        exact Dvd.intro_left q ((hquotient q).mp hq)

/-- Minus seven by three, with the signs and the quotient of the dividend. -/
theorem remainder_minusSeven : (3 : Int) ≠ 0 ∧ ∃ m,
    Returns (({} : Evaluator Unit).value [] [] (.binary .mod (.literal (.int (-7)))
      (.literal (.int 3)))) (0, ()) (.int m) (0, ()) ∧ IsRemainder (-7) 3 m := by
  have hliteral (place : Place) (i : Int) :
      Returns (({} : Evaluator Unit).value [] place (.literal (.int i))) (0, ()) (.int i) (0, ()) :=
    rfl
  obtain ⟨-, -, hrepresentable, -⟩ :=
    remainder_ofIntegers (by decide) (hliteral [0] (-7)) (hliteral [1] 3)
  obtain ⟨m, hm, hremainder, -⟩ := hrepresentable
    (Double.representable_of_le (by decide)) (Double.representable_of_le (by decide))
  exact ⟨by decide, m, hm, hremainder⟩

/-- A row with the least positive integer that is no binary64 number. -/
def oddRow : Record := [(.name "a", .int (2 ^ 53 + 1))]

/-- The remainder of that integer by two. -/
def oddRemainder : Expr := .binary .mod (.column "a") (.literal (.int 2))

theorem mod?_oddRow : (Number.int (2 ^ 53 + 1)).mod? (.int 2) = .ok (some (.int 0)) := by
  decide +kernel

/-- **Beyond `2 ^ 53` a remainder may be that of another integer**: an odd integer is even there. -/
theorem remainder_oddRow : Expr.ofText "a % 2" = .ok oddRemainder ∧
    Returns (({} : Evaluator Unit).value oddRow [] oddRemainder) (0, ()) (.int 0) (0, ()) ∧
    ¬IsRemainder (2 ^ 53 + 1) 2 0 := by
  refine ⟨by rfl, ?_, fun h => ?_⟩
  · have hodd : Returns (({} : Evaluator Unit).value oddRow [0] (.column "a")) (0, ())
        (.int (2 ^ 53 + 1)) (0, ()) := rfl
    have htwo : Returns (({} : Evaluator Unit).value oddRow [1] (.literal (.int 2))) (0, ())
        (.int 2) (0, ()) := rfl
    have houtcome := outcome_arithmetic .mod rfl hodd htwo
    rw [arithmetic_ints (by decide), calculate, mod?_oddRow] at houtcome
    exact houtcome
  · exact absurd ((isRemainder_iff (by decide)).mp h) (by decide)

end Evaluator
end TableQuery
