/-
# TableQuery.Proofs.Sql.Queries — queries take what they hold from the tokens.

The clauses of a query are collected in any order, each once: what is in hand is then all that the
clauses so far hold.  A clause that is read and dropped takes its question marks with it.

## §A — tables.
## §B — clauses.
## §C — joins.
## §D — queries.
-/
import TableQuery.Proofs.Sql.Operators

set_option mvcgen.warning false

namespace TableQuery
namespace Sql
namespace Queries

open Std.Do Reader Operand Operators

/-- The question marks in the clauses of a query. -/
@[simp, grind =]
def Clauses.questions (c : Clauses) : List Nat :=
  Phrase.listQuestions c.joins ++ (Phrase.optionQuestions c.condition ++
    (Phrase.groupQuestions c.grouping ++ (Phrase.optionQuestions c.having ++
      (Ordered.listQuestions c.order ++ (Phrase.optionQuestions c.limit ++
        Phrase.optionQuestions c.offset)))))

/-- The question marks in the clauses of a query that may be absent. -/
@[simp, grind =]
def Clauses.optionQuestions : Option Clauses → List Nat
  | none => []
  | some c => c.questions

theorem questions_withCommon (q : Query) : q.withCommon.questions = q.questions := by
  cases q
  simp [Query.withCommon]

theorem withClauses_clausesOf (q : Query) :
    withClauses q.hasCommon q.hasDistinct q.columns q.source (clausesOf q) = q := by
  cases q
  rfl

variable [Watched] {g : Readers} [g.Taking] {s : List Token}

theorem held_or_le (p q : Option Phrase) :
    held (Phrase.optionQuestions (p.or q)) ≤
      held (Phrase.optionQuestions p) + held (Phrase.optionQuestions q) := by
  cases p <;> simp

grind_pattern held_or_le => Phrase.optionQuestions (p.or q)

/-! ## §A — tables -/

@[spec]
theorem typedName_spec : ⦃starts s⦄ typedName ⦃keeps Phrase.optionQuestions (left s)⦄ := by
  mvcgen [typedName] with grind

@[spec]
theorem aliasColumns_spec : ⦃starts s⦄ aliasColumns ⦃passes s⦄ := by
  mvcgen [aliasColumns] with grind

@[spec]
theorem tableAlias_spec (can : String → Bool) :
    ⦃starts s⦄ tableAlias can ⦃keeps Phrase.optionQuestions (left s)⦄ := by
  mvcgen [tableAlias, orElse] with grind

@[spec]
theorem tableFunction_spec : ⦃starts s⦄ tableFunction g ⦃keeps Phrase.optionQuestions (left s)⦄ := by
  mvcgen [tableFunction] with grind

@[spec]
theorem tablePart_spec (schema : Bool) :
    ⦃starts s⦄ tablePart g schema ⦃keeps Phrase.optionQuestions (left s)⦄ := by
  refine keeps_of_bound fun bound hbound => ?_
  mvcgen [tablePart, orElse] with grind

@[spec]
theorem tablePartsFrom_spec (schema : Bool) (fuel : Nat) :
    ⦃starts s⦄ tablePartsFrom g schema fuel ⦃keeps Phrase.listQuestions (left s)⦄ := by
  induction fuel generalizing s with
  | zero =>
    mvcgen [tablePartsFrom]
    grind
  | succ fuel ih =>
    mvcgen [tablePartsFrom, need, ih] with grind

@[spec]
theorem tableName_spec (schema : Bool) :
    ⦃starts s⦄ tableName g schema ⦃keeps Phrase.listQuestions (left s)⦄ := by
  mvcgen [tableName, need] with grind

@[spec]
theorem row_spec : ⦃starts s⦄ row g ⦃keeps Phrase.optionQuestions (left s)⦄ := by
  mvcgen [row] with grind

@[spec]
theorem valueRows_spec : ⦃starts s⦄ valueRows g ⦃keeps Phrase.optionQuestions (left s)⦄ := by
  mvcgen [valueRows, orM] with grind

@[spec]
theorem lateral_spec : ⦃starts s⦄ lateral g ⦃keeps Phrase.optionQuestions (left s)⦄ := by
  mvcgen [lateral, need, orElse] with grind

@[spec]
theorem tableHints_spec : ⦃starts s⦄ tableHints g ⦃passes s⦄ := by
  refine passes_of_bound fun bound hbound => ?_
  mvcgen [tableHints] with grind

theorem table_spec (can : String → Bool) {query : Reader (Option Phrase)}
    (hquery : ∀ s, ⦃starts s⦄ query ⦃keeps Phrase.optionQuestions (left s)⦄) :
    ⦃starts s⦄ table g can query ⦃keeps Phrase.questions (left s)⦄ := by
  mvcgen [table, hquery] with grind

/-! ## §B — clauses -/

@[spec]
theorem grouping_spec : ⦃starts s⦄ grouping g ⦃keeps Phrase.listQuestions (left s)⦄ := by
  mvcgen [grouping, orM] with grind

@[spec]
theorem limitOptions_spec : ⦃starts s⦄ limitOptions ⦃passes s⦄ := by
  mvcgen [limitOptions, orM] with grind

@[spec]
theorem limitValue_spec : ⦃starts s⦄ limitValue g ⦃keeps Phrase.optionQuestions (left s)⦄ := by
  refine keeps_of_bound fun bound hbound => ?_
  mvcgen [limitValue] with grind

@[spec]
theorem limit_spec :
    ⦃starts s⦄ limit g
      ⦃keeps (fun a => a.1.questions ++ Phrase.optionQuestions a.2.1) (left s)⦄ := by
  mvcgen [limit, need] with grind

@[spec]
theorem ignoring_spec (c : Clauses) (key : String) (parts : List Phrase) :
    ⦃starts s⦄ c.ignoring key parts ⦃keeps Clauses.questions (held c.questions + left s)⦄ := by
  mvcgen [Clauses.ignoring] with grind

theorem held_limited (c : Clauses) (count : Phrase) (start : Option Phrase)
    (ignored : List Phrase) :
    held ({ c with limit := some count, offset := start.or c.offset, ignored } : Clauses).questions ≤
      held c.questions + held count.questions + held (Phrase.optionQuestions start) := by
  have hoffset := held_or_le start c.offset
  simp only [Clauses.questions, held_append, Phrase.optionQuestions] at *
  omega

grind_pattern held_limited =>
  ({ c with limit := some count, offset := start.or c.offset, ignored } : Clauses)

@[spec]
theorem clause_spec (c : Clauses) :
    ⦃starts s⦄ clause g c
      ⦃keeps (fun a => (a.getD c).questions) (held c.questions + left s)⦄ := by
  mvcgen [clause, need, orM] with grind

@[spec]
theorem clausesFrom_spec (fuel : Nat) (c : Clauses) :
    ⦃starts s⦄ clausesFrom g fuel c ⦃keeps Clauses.questions (held c.questions + left s)⦄ := by
  induction fuel generalizing s c with
  | zero =>
    mvcgen [clausesFrom]
    grind
  | succ fuel ih =>
    refine keeps_of_bound fun bound hbound => ?_
    mvcgen [clausesFrom, ih] with grind

/-! ## §C — joins -/

@[spec]
theorem joinCondition_spec : ⦃starts s⦄ joinCondition g ⦃passes s⦄ := by
  mvcgen [joinCondition] with grind

@[spec]
theorem joinWords_spec : ⦃starts s⦄ joinWords ⦃passes s⦄ := by
  mvcgen [joinWords] with grind

section Join
variable {table : Reader Phrase}

theorem join_spec (htable : ∀ s, ⦃starts s⦄ table ⦃keeps Phrase.questions (left s)⦄) :
    ⦃starts s⦄ join g table ⦃keeps Phrase.optionQuestions (left s)⦄ := by
  refine keeps_of_bound fun bound hbound => ?_
  mvcgen [join, htable] with grind

theorem joinsFrom_spec (htable : ∀ s, ⦃starts s⦄ table ⦃keeps Phrase.questions (left s)⦄)
    (fuel : Nat) : ⦃starts s⦄ joinsFrom g table fuel ⦃keeps Phrase.listQuestions (left s)⦄ := by
  have hjoin : ∀ s, ⦃starts s⦄ join g table ⦃keeps Phrase.optionQuestions (left s)⦄ :=
    fun s => join_spec htable
  induction fuel generalizing s with
  | zero =>
    mvcgen [joinsFrom]
    grind
  | succ fuel ih =>
    mvcgen [joinsFrom, hjoin, ih] with grind

theorem joins_spec (htable : ∀ s, ⦃starts s⦄ table ⦃keeps Phrase.questions (left s)⦄) :
    ⦃starts s⦄ joins g table ⦃keeps Phrase.listQuestions (left s)⦄ := by
  have hfrom : ∀ fuel s, ⦃starts s⦄ joinsFrom g table fuel ⦃keeps Phrase.listQuestions (left s)⦄ :=
    fun fuel s => joinsFrom_spec htable fuel
  mvcgen [joins, hfrom]

end Join

@[spec]
theorem lateralsFrom_spec (fuel : Nat) : ⦃starts s⦄ lateralsFrom g fuel ⦃passes s⦄ := by
  induction fuel generalizing s with
  | zero =>
    mvcgen [lateralsFrom]
    grind
  | succ fuel ih =>
    mvcgen [lateralsFrom, ih] with grind

section Table
variable {table : Reader Phrase}

theorem clauses_spec (htable : ∀ s, ⦃starts s⦄ table ⦃keeps Phrase.questions (left s)⦄)
    (c : Clauses) :
    ⦃starts s⦄ clauses g table c ⦃keeps Clauses.questions (held c.questions + left s)⦄ := by
  have hjoins : ∀ s, ⦃starts s⦄ joins g table ⦃keeps Phrase.listQuestions (left s)⦄ :=
    fun s => joins_spec htable
  refine keeps_of_bound fun bound hbound => ?_
  mvcgen [clauses, hjoins] with grind

/-! ## §D — queries -/

theorem questions_withClauses (common distinct : Bool) (columns : List Phrase)
    (source : Option Phrase) (c : Clauses) :
    held (withClauses common distinct columns source c).questions =
      held (Phrase.listQuestions columns) + held (Phrase.optionQuestions source) +
        held c.questions := by
  simp [withClauses]
  omega

grind_pattern questions_withClauses => withClauses common distinct columns source c

theorem held_query (q : Query) :
    held q.questions = held (Phrase.listQuestions q.columns) +
      held (Phrase.optionQuestions q.source) + held (clausesOf q).questions := by
  rw [← questions_withClauses q.hasCommon q.hasDistinct, withClauses_clausesOf]

grind_pattern held_query => clausesOf q

@[spec]
theorem furtherClauses_spec (htable : ∀ s, ⦃starts s⦄ table ⦃keeps Phrase.questions (left s)⦄)
    (p : Phrase) :
    ⦃starts s⦄ furtherClauses g table p
      ⦃keeps Phrase.questions (held p.questions + left s)⦄ := by
  have hclauses : ∀ c s, ⦃starts s⦄ clauses g table c
      ⦃keeps Clauses.questions (held c.questions + left s)⦄ :=
    fun c s => clauses_spec htable c
  mvcgen [furtherClauses, hclauses] with grind

@[spec]
theorem quantifier_spec : ⦃starts s⦄ quantifier ⦃passes s⦄ := by
  mvcgen [quantifier] with grind

theorem select_spec (htable : ∀ s, ⦃starts s⦄ table ⦃keeps Phrase.questions (left s)⦄)
    (source : Option Phrase) :
    ⦃starts s⦄ select g table source
      ⦃keeps Phrase.questions (held (Phrase.optionQuestions source) + left s)⦄ := by
  have hclauses : ∀ c s, ⦃starts s⦄ clauses g table c
      ⦃keeps Clauses.questions (held c.questions + left s)⦄ :=
    fun c s => clauses_spec htable c
  mvcgen [select, htable, hclauses] with grind

end Table

@[spec]
theorem heldQuery_spec (place : QueryPlace) :
    ⦃starts s⦄ heldQuery g place ⦃keeps Phrase.optionQuestions (left s)⦄ := by
  mvcgen [heldQuery] with grind

@[spec]
theorem common_spec : ⦃starts s⦄ common g ⦃passes s⦄ := by
  mvcgen [common, need, orM] with grind

@[spec]
theorem commons_spec : ⦃starts s⦄ commons g ⦃passes s⦄ := by
  have hlist : ∀ s, ⦃starts s⦄ list (common g) ⦃passes s⦄ :=
    fun s => list_passes fun s => common_spec
  mvcgen [commons, hlist] with grind

theorem held_withCommon? {x y : Sentence} (h : Sentence.withCommon? x = some y) :
    held y.questions = held x.questions := by
  unfold Sentence.withCommon? at h
  grind [questions_withCommon]

@[spec]
theorem withCommon_spec : ⦃starts s⦄ withCommon g ⦃keeps Sentence.questions (left s)⦄ := by
  mvcgen [withCommon, need] with grind [→ held_withCommon?]

@[spec]
theorem query_spec (place : QueryPlace) :
    ⦃starts s⦄ query g place ⦃keeps Phrase.optionQuestions (left s)⦄ := by
  have htable : ∀ s, ⦃starts s⦄ table g Words.canRenameTable (g.query ⟨false, true, true⟩)
      ⦃keeps Phrase.questions (left s)⦄ :=
    fun s => table_spec _ fun s => Readers.Taking.query _ s
  have hselect : ∀ source s, ⦃starts s⦄
      select g (table g Words.canRenameTable (g.query ⟨false, true, true⟩)) source
      ⦃keeps Phrase.questions (held (Phrase.optionQuestions source) + left s)⦄ :=
    fun source s => select_spec htable source
  have hclauses : ∀ c s, ⦃starts s⦄
      clauses g (table g Words.canRenameTable (g.query ⟨false, true, true⟩)) c
      ⦃keeps Clauses.questions (held c.questions + left s)⦄ :=
    fun c s => clauses_spec htable c
  mvcgen [query, htable, hselect, hclauses] with grind

end Queries
end Sql
end TableQuery
