/-
# TableQuery.Proofs.Sql.Operators — operators take what they hold from the tokens.

A chain of operators is run with its left side in hand: what is held so far, together with the tokens
left, never grows.  A test that turns out to be none is given back with its tokens.

## §A — chains of operators.
## §B — tight operators.
## §C — tests.
## §D — loose operators and new names.
-/
import TableQuery.Proofs.Sql.Operand

set_option mvcgen.warning false

namespace TableQuery
namespace Sql
namespace Operators

open Std.Do Reader Operand

theorem questions_collationName (p : Phrase) : (collationName p).questions = p.questions := by
  unfold collationName
  split <;> simp

variable [Watched] {g : Readers} [g.Taking] {s : List Token}

theorem held_le_getD (a : Option Phrase) (p : Phrase) :
    held (Phrase.optionQuestions a) ≤ held (a.getD p).questions := by
  cases a <;> simp

grind_pattern held_le_getD => (a.getD p).questions

/-! ## §A — chains of operators -/

section Chain
variable {operand : Reader (Option Phrase)} {next : Reader (Option Infix)}

theorem chainFrom_spec (hoperand : ∀ s, ⦃starts s⦄ operand ⦃keeps Phrase.optionQuestions (left s)⦄)
    (hnext : ∀ s, ⦃starts s⦄ next ⦃passes s⦄) (fuel : Nat) (p : Phrase) :
    ⦃starts s⦄ chainFrom operand next fuel p ⦃keeps Phrase.questions (held p.questions + left s)⦄ := by
  induction fuel generalizing s p with
  | zero =>
    mvcgen [chainFrom]
    grind
  | succ fuel ih =>
    refine keeps_of_bound fun bound hbound => ?_
    mvcgen [chainFrom, need, hoperand, hnext, ih] with grind

theorem chain_spec (hoperand : ∀ s, ⦃starts s⦄ operand ⦃keeps Phrase.optionQuestions (left s)⦄)
    (hnext : ∀ s, ⦃starts s⦄ next ⦃passes s⦄) :
    ⦃starts s⦄ chain operand next ⦃keeps Phrase.optionQuestions (left s)⦄ := by
  have hfrom : ∀ fuel p s, ⦃starts s⦄ chainFrom operand next fuel p
      ⦃keeps Phrase.questions (held p.questions + left s)⦄ :=
    fun fuel p s => chainFrom_spec hoperand hnext fuel p
  mvcgen [chain, need, hoperand, hnext, hfrom] with grind

end Chain

@[spec]
theorem signOf_spec (signs : List (String × Infix)) : ⦃starts s⦄ signOf signs ⦃passes s⦄ := by
  rw [passes_iff]
  intro a rest h
  unfold signOf at h
  grind

@[spec]
theorem wordOf_spec (key : String) (op : Infix) : ⦃starts s⦄ wordOf key op ⦃passes s⦄ := by
  mvcgen [wordOf] with grind

/-! ## §B — tight operators -/

@[spec]
theorem unary_spec : ⦃starts s⦄ unary g ⦃keeps Phrase.optionQuestions (left s)⦄ := by
  refine keeps_of_bound fun bound hbound => ?_
  mvcgen [unary, need, orM] with grind

@[spec]
theorem withZone_spec (p : Phrase) :
    ⦃starts s⦄ withZone g p ⦃keeps Phrase.questions (held p.questions + left s)⦄ := by
  mvcgen [withZone, need] with grind

@[spec]
theorem productsFrom_spec (fuel : Nat) (p : Phrase) :
    ⦃starts s⦄ productsFrom g fuel p ⦃keeps Phrase.questions (held p.questions + left s)⦄ := by
  induction fuel generalizing s p with
  | zero =>
    mvcgen [productsFrom]
    grind
  | succ fuel ih =>
    refine keeps_of_bound fun bound hbound => ?_
    mvcgen [productsFrom, need, ih] with grind

@[spec]
theorem factor_spec : ⦃starts s⦄ factor g ⦃keeps Phrase.optionQuestions (left s)⦄ := by
  mvcgen [factor, orM] with grind

@[spec]
theorem sumsFrom_spec (fuel : Nat) (p : Phrase) :
    ⦃starts s⦄ sumsFrom g fuel p ⦃keeps Phrase.questions (held p.questions + left s)⦄ := by
  induction fuel generalizing s p with
  | zero =>
    mvcgen [sumsFrom]
    grind
  | succ fuel ih =>
    refine keeps_of_bound fun bound hbound => ?_
    mvcgen [sumsFrom, need, ih] with grind [questions_collationName]

@[spec]
theorem term_spec : ⦃starts s⦄ term g ⦃keeps Phrase.optionQuestions (left s)⦄ := by
  mvcgen [term] with grind

@[spec]
theorem doubled_spec (sign : String) (op : Infix) : ⦃starts s⦄ doubled sign op ⦃passes s⦄ := by
  rw [passes_iff]
  intro a rest h
  unfold doubled at h
  grind

@[spec]
theorem bitsFrom_spec (fuel : Nat) (p : Phrase) :
    ⦃starts s⦄ bitsFrom g fuel p ⦃keeps Phrase.questions (held p.questions + left s)⦄ := by
  induction fuel generalizing s p with
  | zero =>
    mvcgen [bitsFrom]
    grind
  | succ fuel ih =>
    refine keeps_of_bound fun bound hbound => ?_
    mvcgen [bitsFrom, need, orElse, ih] with grind

@[spec]
theorem bitwise_spec : ⦃starts s⦄ bitwise g ⦃keeps Phrase.optionQuestions (left s)⦄ := by
  mvcgen [bitwise] with grind

/-! ## §C — tests -/

@[spec]
theorem testWord_spec : ⦃starts s⦄ testWord ⦃passes s⦄ := by
  rw [passes_iff]
  intro a rest h
  unfold testWord at h
  grind

@[spec]
theorem withEscape_spec (p : Phrase) :
    ⦃starts s⦄ withEscape g p ⦃keeps Phrase.questions (held p.questions + left s)⦄ := by
  mvcgen [withEscape, need] with grind

@[spec]
theorem membership_spec (p : Phrase) :
    ⦃starts s⦄ membership g p ⦃keeps Phrase.questions (held p.questions + left s)⦄ := by
  mvcgen [membership] with grind

/-- Where IS is no test, its operand is still in hand. -/
@[spec]
theorem identity_spec (p : Phrase) :
    ⦃starts s⦄ identity g p ⦃keeps (fun a => (a.getD p).questions) (held p.questions + left s)⦄ := by
  mvcgen [identity, need] with grind

@[spec]
theorem bounds_spec (p : Phrase) :
    ⦃starts s⦄ bounds g p ⦃keeps Phrase.questions (held p.questions + left s)⦄ := by
  mvcgen [bounds, need] with grind

/-- Where no test follows, the operand is still in hand. -/
@[spec]
theorem test_spec (p : Option Phrase) (negative : Bool) :
    ⦃starts s⦄ test g p negative
      ⦃keeps (fun a => Phrase.optionQuestions (a.or p))
        (held (Phrase.optionQuestions p) + left s)⦄ := by
  mvcgen [test, need, orM] with grind

@[spec]
theorem rest_spec (p : Phrase) (negative : Bool) :
    ⦃starts s⦄ range.rest g p negative
      ⦃keeps Phrase.optionQuestions (held p.questions + left s)⦄ := by
  refine keeps_of_bound fun bound hbound => ?_
  mvcgen [range.rest] with grind

@[spec]
theorem range_spec : ⦃starts s⦄ range g ⦃keeps Phrase.optionQuestions (left s)⦄ := by
  refine keeps_of_bound fun bound hbound => ?_
  mvcgen [range] with grind

/-! ## §D — loose operators and new names -/

@[spec]
theorem comparison_spec : ⦃starts s⦄ comparison g ⦃keeps Phrase.optionQuestions (left s)⦄ :=
  chain_spec (fun _ => range_spec) fun _ => signOf_spec _

@[spec]
theorem equality_spec : ⦃starts s⦄ equality g ⦃keeps Phrase.optionQuestions (left s)⦄ :=
  chain_spec (fun _ => comparison_spec) fun _ => signOf_spec _

@[spec]
theorem conjunction_spec : ⦃starts s⦄ conjunction g ⦃keeps Phrase.optionQuestions (left s)⦄ :=
  chain_spec (fun _ => equality_spec) fun _ => wordOf_spec _ _

@[spec]
theorem condition_spec : ⦃starts s⦄ condition g ⦃keeps Phrase.optionQuestions (left s)⦄ :=
  chain_spec (fun _ => conjunction_spec) fun _ => wordOf_spec _ _

@[spec]
theorem assignment_spec : ⦃starts s⦄ assignment g ⦃keeps Phrase.optionQuestions (left s)⦄ :=
  chain_spec (fun _ => condition_spec) fun _ => signOf_spec _

@[spec]
theorem withName_spec (p : Option Phrase) :
    ⦃starts s⦄ withName p
      ⦃keeps Phrase.optionQuestions (held (Phrase.optionQuestions p) + left s)⦄ := by
  refine keeps_of_bound fun bound hbound => ?_
  mvcgen [withName, orElse] with grind

@[spec]
theorem phrase_spec : ⦃starts s⦄ phrase g ⦃keeps Phrase.optionQuestions (left s)⦄ := by
  refine keeps_of_bound fun bound hbound => ?_
  mvcgen [phrase] with grind

end Operators
end Sql
end TableQuery
