/-
# TableQuery.Proofs.Sql.Sentences — statements take what they hold from the tokens.

The parts of an UPDATE come in any order, a later one in the place of an earlier one; what an INSERT
says about rows in the way, what is returned, and the order and limit of a change are read and
dropped.  Of a statement that is no SELECT and no change only the kind is kept, so nothing is held.

## §A — statements that change rows.
## §B — statements of other kinds.
## §C — any statement.
## §D — texts.
-/
import TableQuery.Proofs.Sql.Queries

set_option mvcgen.warning false

namespace TableQuery
namespace Sql
namespace Sentences

open Std.Do Reader Operand Operators Queries

variable [Watched] {g : Readers} [g.Taking] {s : List Token}

/-! ## §A — statements that change rows -/

@[spec]
theorem tableNamed_spec (can : String → Bool) :
    ⦃starts s⦄ tableNamed g can ⦃keeps Phrase.questions (left s)⦄ :=
  table_spec can fun s => Readers.Taking.query _ s

@[spec]
theorem usualTable_spec : ⦃starts s⦄ usualTable g ⦃keeps Phrase.questions (left s)⦄ :=
  tableNamed_spec _

@[spec]
theorem usualJoins_spec :
    ⦃starts s⦄ joins g (usualTable g) ⦃keeps Phrase.listQuestions (left s)⦄ :=
  joins_spec fun _ => usualTable_spec

@[spec]
theorem usualFurtherClauses_spec (p : Phrase) :
    ⦃starts s⦄ furtherClauses g (usualTable g) p
      ⦃keeps Phrase.questions (held p.questions + left s)⦄ :=
  furtherClauses_spec (fun _ => usualTable_spec) p

@[spec]
theorem droppedWord_spec (keyword : String) : ⦃starts s⦄ droppedWord keyword ⦃passes s⦄ := by
  mvcgen [droppedWord] with grind

@[spec]
theorem returning_spec : ⦃starts s⦄ returning g ⦃passes s⦄ := by
  mvcgen [returning] with grind

@[spec]
theorem whereClause_spec : ⦃starts s⦄ whereClause g ⦃keeps Phrase.optionQuestions (left s)⦄ := by
  mvcgen [whereClause, need] with grind

@[spec]
theorem droppedOrder_spec : ⦃starts s⦄ droppedOrder g ⦃passes s⦄ := by
  mvcgen [droppedOrder] with grind

@[spec]
theorem droppedLimit_spec : ⦃starts s⦄ droppedLimit g ⦃passes s⦄ := by
  mvcgen [droppedLimit] with grind

@[spec]
theorem orderAndLimit_spec : ⦃starts s⦄ orderAndLimit g ⦃passes s⦄ := by
  mvcgen [orderAndLimit] with grind

theorem joinedTable_spec {table : Reader Phrase}
    (htable : ∀ s, ⦃starts s⦄ table ⦃keeps Phrase.questions (left s)⦄) :
    ⦃starts s⦄ joinedTable g table ⦃keeps (fun a => a.1.questions) (left s)⦄ := by
  mvcgen [joinedTable, htable] with grind

@[spec]
theorem joinedUsualTable_spec :
    ⦃starts s⦄ joinedTable g (usualTable g) ⦃keeps (fun a => a.1.questions) (left s)⦄ :=
  joinedTable_spec fun _ => usualTable_spec

@[spec]
theorem insertColumns_spec : ⦃starts s⦄ insertColumns g ⦃keeps Phrase.listQuestions (left s)⦄ := by
  have hahead : ∀ (r : Reader (Option Unit)) s, ⦃starts s⦄ attempt r ⦃⇓? _ _ => ⌜True⌝⦄ :=
    fun r s => ahead_spec (attempt r)
  mvcgen [insertColumns, hahead, orElse] with grind

@[spec]
theorem conflictAction_spec : ⦃starts s⦄ conflictAction g ⦃passes s⦄ := by
  mvcgen [conflictAction, orM, need] with grind

@[spec]
theorem onConflict_spec : ⦃starts s⦄ onConflict g ⦃passes s⦄ := by
  mvcgen [onConflict, orM] with grind

@[spec]
theorem alternative_spec : ⦃starts s⦄ alternative ⦃passes s⦄ := by
  mvcgen [alternative] with grind

@[spec]
theorem insert_spec : ⦃starts s⦄ insert g ⦃keeps Sentence.questions (left s)⦄ := by
  mvcgen [insert] with grind

/-- The question marks in the parts of an UPDATE. -/
@[simp, grind =]
def UpdateParts.questions (u : UpdateParts) : List Nat :=
  Phrase.listQuestions u.assignments ++ Phrase.optionQuestions u.condition

@[spec]
theorem updateParts_spec (fuel : Nat) (u : UpdateParts) :
    ⦃starts s⦄ updateParts g fuel u
      ⦃keeps UpdateParts.questions (held u.questions + left s)⦄ := by
  induction fuel generalizing s u with
  | zero =>
    mvcgen [updateParts]
    grind
  | succ fuel ih =>
    refine keeps_of_bound fun bound hbound => ?_
    mvcgen [updateParts, need, ih] with grind

@[spec]
theorem update_spec : ⦃starts s⦄ update g ⦃keeps Sentence.questions (left s)⦄ := by
  have htable : ∀ s, ⦃starts s⦄
      joinedTable g (tableNamed g fun key => Words.canRenameTable key && key != "SET")
      ⦃keeps (fun a => a.1.questions) (left s)⦄ :=
    fun s => joinedTable_spec fun s => tableNamed_spec _
  mvcgen [update, htable] with grind

@[spec]
theorem deleteTarget_spec :
    ⦃starts s⦄ deleteTarget g ⦃keeps (fun a => Phrase.optionQuestions a.1) (left s)⦄ := by
  mvcgen [deleteTarget] with grind

@[spec]
theorem deleteUsing_spec : ⦃starts s⦄ deleteUsing g ⦃passes s⦄ := by
  have hlist : ∀ s, ⦃starts s⦄ list ((some ·.1) <$> joinedTable g (usualTable g)) ⦃passes s⦄ := by
    intro s
    refine list_passes fun s => ?_
    mvcgen with grind
  mvcgen [deleteUsing, hlist] with grind

@[spec]
theorem delete_spec : ⦃starts s⦄ delete g ⦃keeps Sentence.questions (left s)⦄ := by
  mvcgen [delete] with grind

/-! ## §B — statements of other kinds -/

@[spec]
theorem existence_spec : ⦃starts s⦄ existence ⦃passes s⦄ := by
  mvcgen [existence] with grind

@[spec]
theorem command_spec : ⦃starts s⦄ command ⦃keeps Sentence.questions (left s)⦄ := by
  mvcgen [command] with grind

@[spec]
theorem orCommand_spec (kind : String) :
    ⦃starts s⦄ orCommand kind ⦃keeps Sentence.questions (left s)⦄ := by
  refine keeps_of_bound fun bound hbound => ?_
  mvcgen [orCommand] with grind

@[spec]
theorem create_spec : ⦃starts s⦄ create g ⦃keeps Sentence.questions (left s)⦄ := by
  refine keeps_of_bound fun bound hbound => ?_
  mvcgen [create, orM] with grind

@[spec]
theorem drop_spec : ⦃starts s⦄ drop g ⦃keeps Sentence.questions (left s)⦄ := by
  refine keeps_of_bound fun bound hbound => ?_
  mvcgen [drop] with grind

@[spec]
theorem alter_spec : ⦃starts s⦄ alter g ⦃keeps Sentence.questions (left s)⦄ := by
  refine keeps_of_bound fun bound hbound => ?_
  mvcgen [alter] with grind

@[spec]
theorem truncate_spec : ⦃starts s⦄ truncate g ⦃keeps Sentence.questions (left s)⦄ := by
  have hlist : ∀ s, ⦃starts s⦄ list (some <$> Queries.tableName g true) ⦃passes s⦄ := by
    intro s
    refine list_passes fun s => ?_
    mvcgen with grind
  refine keeps_of_bound fun bound hbound => ?_
  mvcgen [truncate, hlist] with grind

@[spec]
theorem modes_spec (fuel : Nat) : ⦃starts s⦄ modes fuel ⦃passes s⦄ := by
  induction fuel generalizing s with
  | zero =>
    mvcgen [modes]
    grind
  | succ fuel ih =>
    refine passes_of_bound fun bound hbound => ?_
    mvcgen [modes, ih] with grind

@[spec]
theorem transaction_spec : ⦃starts s⦄ transaction ⦃keeps Sentence.questions (left s)⦄ := by
  mvcgen [transaction] with grind

@[spec]
theorem transactionEnd_spec (kind : String) :
    ⦃starts s⦄ transactionEnd kind ⦃keeps Sentence.questions (left s)⦄ := by
  mvcgen [transactionEnd] with grind

@[spec]
theorem setting_spec : ⦃starts s⦄ setting g ⦃passes s⦄ := by
  mvcgen [setting, orM, need] with grind

theorem starting_spec {key : String} {r : Reader Sentence} (h : starting g key = some r) :
    ⦃starts s⦄ r ⦃keeps Sentence.questions (left s)⦄ := by
  have hsettings : ∀ s, ⦃starts s⦄ list (setting g) ⦃passes s⦄ :=
    fun s => list_passes fun s => setting_spec
  refine keeps_of_bound fun bound hbound => ?_
  unfold starting at h
  split at h <;> cases h
  all_goals mvcgen [need, hsettings] with grind

/-! ## §C — any statement -/

@[spec]
theorem plain_spec : ⦃starts s⦄ plain g ⦃keeps Sentence.optionQuestions (left s)⦄ := by
  mvcgen [plain] with grind

@[spec]
theorem sentence_spec : ⦃starts s⦄ sentence g ⦃keeps Sentence.optionQuestions (left s)⦄ := by
  refine keeps_of_bound fun bound hbound => ?_
  mvcgen [sentence]
  case vc3 rest hkey _ _ _ _ _ =>
    have hrest : ∀ s, ⦃starts s⦄ rest ⦃keeps Sentence.questions (left s)⦄ :=
      fun s => starting_spec hkey
    mvcgen [hrest] with grind
  all_goals grind

@[spec]
theorem first_spec : ⦃starts s⦄ first g ⦃keeps Sentence.optionQuestions (left s)⦄ := by
  refine keeps_of_bound fun bound hbound => ?_
  mvcgen [first] with grind

end Sentences
end Sql
end TableQuery
