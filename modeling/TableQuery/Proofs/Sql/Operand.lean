/-
# TableQuery.Proofs.Sql.Operand — operands take what they hold from the tokens.

Every reader of operands is run through its triple, the rules inside taken at their word.  A function
may put its arguments in another order, or give some of them to a call inside, but it keeps each of
them at most once.

## §A — functions and their arguments.
## §B — values and parentheses.
## §C — functions.
## §D — names, fields and operands.
-/
import TableQuery.Proofs.Sql.Reader

set_option mvcgen.warning false

namespace TableQuery
namespace Sql

open Std.Do Reader

/-! ## §A — functions and their arguments -/

@[grind =]
theorem questions_getD_number (p : Option Phrase) (text : String) :
    (p.getD (.number text)).questions = Phrase.optionQuestions p := by
  cases p <;> simp

theorem questions_enclosed (p : Phrase) : (enclosed p).questions = p.questions := by
  unfold enclosed
  split <;> simp

theorem questions_ofKnown {key : String} {args : List Phrase} {p : Phrase}
    (h : ofKnown key args = some (some p)) : p.questions = Phrase.listQuestions args := by
  unfold ofKnown at h
  grind

variable [Watched]

theorem held_documentPath (p : Phrase) : held (documentPath p).questions ≤ held p.questions := by
  unfold documentPath
  split <;> simp

grind_pattern held_documentPath => (documentPath p).questions

@[grind →]
theorem held_head? {ps : List Phrase} {p : Phrase} (h : ps.head? = some p) :
    held p.questions ≤ held (Phrase.listQuestions ps) := by
  obtain ⟨rest, rfl⟩ := List.head?_eq_some_iff.mp h
  simp

/-- A function keeps each argument at most once. -/
@[grind →]
theorem held_ofFunction {text : String} {quoted : Bool} {args : List Phrase} {p : Phrase}
    (h : Phrase.ofFunction text quoted args = some p) :
    held p.questions ≤ held (Phrase.listQuestions args) := by
  unfold Phrase.ofFunction at h
  split at h
  all_goals try cases h
  case h_16 known =>
    split at h
    next hknown =>
      cases h
      rw [questions_ofKnown hknown]
    next =>
      cases h
      simp
  all_goals simp only [Phrase.questions, Phrase.listQuestions, questions_enclosed]
  all_goals grind

namespace Operand

variable {g : Readers} [g.Taking] {s : List Token}

/-! ## §B — values and parentheses -/

@[spec]
theorem strings_spec (fuel : Nat) : ⦃starts s⦄ strings fuel ⦃keeps Phrase.listQuestions (left s)⦄ := by
  induction fuel generalizing s with
  | zero =>
    mvcgen [strings]
    grind
  | succ fuel ih =>
    mvcgen [strings, ih] with grind

@[spec]
theorem wrapped_spec {item : Reader (Option Phrase)}
    (hitem : ∀ s, ⦃starts s⦄ item ⦃keeps Phrase.optionQuestions (left s)⦄) :
    ⦃starts s⦄ wrapped item ⦃keeps Phrase.listQuestions (left s)⦄ := by
  mvcgen [wrapped, hitem] with grind

@[spec]
theorem namedBehindAs_spec (p : Option Phrase) :
    ⦃starts s⦄ namedBehindAs p
      ⦃keeps Phrase.optionQuestions (held (Phrase.optionQuestions p) + left s)⦄ := by
  mvcgen [namedBehindAs, orElse] with grind

@[spec]
theorem starItem_spec (keys : List String) : ⦃starts s⦄ starItem g keys ⦃passes s⦄ := by
  mvcgen [starItem] with grind

@[spec]
theorem value_spec : ⦃starts s⦄ value g ⦃keeps Phrase.optionQuestions (left s)⦄ := by
  mvcgen [value] with grind

@[spec]
theorem openList_spec {item : Reader (Option Phrase)}
    (hitem : ∀ s, ⦃starts s⦄ item ⦃keeps Phrase.optionQuestions (left s)⦄) (fuel : Nat) :
    ⦃starts s⦄ openList item fuel ⦃keeps (fun a => Phrase.listQuestions a.1) (left s)⦄ := by
  induction fuel generalizing s with
  | zero =>
    mvcgen [openList]
  | succ fuel ih =>
    mvcgen [openList, hitem, ih] with grind

@[spec]
theorem setOperationsFrom_spec (fuel : Nat) (p : Phrase) :
    ⦃starts s⦄ setOperationsFrom g fuel p ⦃keeps Phrase.questions (held p.questions + left s)⦄ := by
  induction fuel generalizing s p with
  | zero =>
    mvcgen [setOperationsFrom]
    grind
  | succ fuel ih =>
    refine keeps_of_bound fun bound hbound => ?_
    mvcgen [setOperationsFrom, need, ih] with grind

@[spec]
theorem setOperations_spec (p : Phrase) :
    ⦃starts s⦄ setOperations g p ⦃keeps Phrase.questions (held p.questions + left s)⦄ := by
  mvcgen [setOperations]

@[spec]
theorem ordered_spec : ⦃starts s⦄ ordered g ⦃keeps Ordered.optionQuestions (left s)⦄ := by
  mvcgen [ordered] with grind

@[spec]
theorem orderList_spec : ⦃starts s⦄ orderList g ⦃keeps Ordered.listQuestions (left s)⦄ := by
  have hlist : ∀ s, ⦃starts s⦄ list (ordered g) ⦃keeps Ordered.listQuestions (left s)⦄ :=
    fun s => list_spec (fun s => ordered_spec) (by simp) fun a as => by cases a <;> simp
  mvcgen [orderList, hlist] with grind

/-! ## §C — functions -/

@[spec]
theorem windowed_spec (p : Phrase) :
    ⦃starts s⦄ windowed p ⦃keeps Phrase.questions (held p.questions + left s)⦄ := by
  mvcgen [windowed, need] with grind

@[spec]
theorem queryOr_spec {r : Reader (Option Phrase)}
    (hr : ∀ s bound, left s ≤ bound → ⦃starts s⦄ r ⦃keeps Phrase.optionQuestions bound⦄) :
    ⦃starts s⦄ queryOr g r ⦃keeps Phrase.optionQuestions (left s)⦄ := by
  have hr : ∀ s, ⦃starts s⦄ r ⦃keeps Phrase.optionQuestions (left s)⦄ :=
    fun s => hr s (left s) (Nat.le_refl _)
  mvcgen [queryOr, hr] with grind

@[spec]
theorem arrow_spec : ⦃starts s⦄ arrow g ⦃keeps Phrase.optionQuestions (left s)⦄ := by
  refine keeps_of_bound fun bound hbound => ?_
  mvcgen [arrow, need] with grind

@[spec]
theorem argument_spec (named : Bool) :
    ⦃starts s⦄ argument g named ⦃keeps Phrase.optionQuestions (left s)⦄ := by
  mvcgen [argument] with grind

@[spec]
theorem castArguments_spec (strict : Bool) :
    ⦃starts s⦄ castArguments g strict ⦃keeps Phrase.questions (left s)⦄ := by
  mvcgen [castArguments, need] with grind

/-- What is known of the two bounds of a part of a text. -/
@[spec]
theorem partBounds_spec (fuel : Nat) (start count : Option Phrase) :
    ⦃starts s⦄ partBounds g fuel start count
      ⦃keeps (fun a => Phrase.optionQuestions a.1 ++ Phrase.optionQuestions a.2)
        (held (Phrase.optionQuestions start) + held (Phrase.optionQuestions count) + left s)⦄ := by
  induction fuel generalizing s start count with
  | zero =>
    mvcgen [partBounds]
    grind
  | succ fuel ih =>
    refine keeps_of_bound fun bound hbound => ?_
    mvcgen [partBounds, ih] with grind

@[spec]
theorem partArguments_spec : ⦃starts s⦄ partArguments g ⦃keeps Phrase.questions (left s)⦄ := by
  mvcgen [partArguments] with grind

@[spec]
theorem trimArguments_spec : ⦃starts s⦄ trimArguments g ⦃keeps Phrase.questions (left s)⦄ := by
  mvcgen [trimArguments, need] with grind

@[spec]
theorem application_spec (text : String) (quoted known : Bool) :
    ⦃starts s⦄ application g text quoted known ⦃keeps Phrase.questions (left s)⦄ := by
  refine keeps_of_bound fun bound hbound => ?_
  mvcgen [application, need] with grind

@[spec]
theorem branches_spec (fuel : Nat) :
    ⦃starts s⦄ branches g fuel ⦃keeps Phrase.branchQuestions (left s)⦄ := by
  induction fuel generalizing s with
  | zero =>
    mvcgen [branches]
    grind
  | succ fuel ih =>
    mvcgen [branches, need, ih] with grind

@[spec]
theorem choice_spec : ⦃starts s⦄ choice g ⦃keeps Phrase.questions (left s)⦄ := by
  mvcgen [choice] with grind

@[spec]
theorem ifChoice_spec : ⦃starts s⦄ ifChoice g ⦃keeps Phrase.optionQuestions (left s)⦄ := by
  mvcgen [ifChoice, need] with grind

@[spec]
theorem function_spec (field : Bool) :
    ⦃starts s⦄ function g field ⦃keeps Phrase.optionQuestions (left s)⦄ := by
  mvcgen [function, need] with grind

/-! ## §D — names, fields and operands -/

@[spec]
theorem enclosure_spec : ⦃starts s⦄ enclosure g ⦃keeps Phrase.optionQuestions (left s)⦄ := by
  mvcgen [enclosure] with grind

@[spec]
theorem parameter_spec : ⦃starts s⦄ parameter g ⦃keeps Phrase.optionQuestions (left s)⦄ := by
  mvcgen [parameter, orElse, need] with grind

@[spec]
theorem simple_spec (field : Bool) :
    ⦃starts s⦄ simple g field ⦃keeps Phrase.optionQuestions (left s)⦄ := by
  refine keeps_of_bound fun bound hbound => ?_
  mvcgen [simple, orElse] with grind

@[spec]
theorem reference_spec : ⦃starts s⦄ reference g ⦃keeps Phrase.optionQuestions (left s)⦄ := by
  mvcgen [reference] with grind

theorem held_withField (p field : Phrase) :
    held (withField p field).questions = held p.questions + held field.questions := by
  unfold withField
  split
  · split <;> simp
  · simp

grind_pattern held_withField => (withField p field).questions

@[spec]
theorem fieldsFrom_spec (fuel : Nat) (p : Phrase) :
    ⦃starts s⦄ fieldsFrom g fuel p ⦃keeps Phrase.questions (held p.questions + left s)⦄ := by
  induction fuel generalizing s p with
  | zero =>
    mvcgen [fieldsFrom]
    grind
  | succ fuel ih =>
    refine keeps_of_bound fun bound hbound => ?_
    mvcgen [fieldsFrom, need, orElse, ih] with grind

@[spec]
theorem withFields_spec (p : Phrase) :
    ⦃starts s⦄ withFields g p ⦃keeps Phrase.questions (held p.questions + left s)⦄ := by
  mvcgen [withFields]

@[spec]
theorem typed_spec : ⦃starts s⦄ typed g ⦃keeps Phrase.optionQuestions (left s)⦄ := by
  mvcgen [typed] with grind

@[spec]
theorem span_spec : ⦃starts s⦄ span g ⦃keeps Phrase.optionQuestions (left s)⦄ := by
  mvcgen [span] with grind

@[spec]
theorem operand_spec : ⦃starts s⦄ operand g ⦃keeps Phrase.optionQuestions (left s)⦄ := by
  mvcgen [operand] with grind

end Operand
end Sql
end TableQuery
