/-
# TableQuery.Proofs.Names — names without dots.

A dot parts a name where the name is quoted, and only the last part counts where the column of a row
is read.  A name without a dot is one name in both places.
-/
import Mathlib.Data.List.TakeWhile
import TableQuery.Sql.Quote
import TableQuery.Statement.Basic

namespace TableQuery

/-- A name without a dot is its own last part. -/
theorem Expr.lastPart_eq {name : String} (h : '.' ∉ name.toList) : Expr.lastPart name = name := by
  have hall : name.toList.reverse.takeWhile (· ≠ '.') = name.toList.reverse := by
    refine List.takeWhile_eq_self_iff.mpr fun c hc => ?_
    have hne : c ≠ '.' := by
      rintro rfl
      exact h (List.mem_reverse.mp hc)
    simpa using hne
  rw [Expr.lastPart, hall, List.reverse_reverse, String.ofList_toList]

/-- A text without a dot has one part. -/
theorem Text.dotParts_eq {s : List Char} (h : '.' ∉ s) : Text.dotParts s = [s] := by
  induction s with
  | nil => rfl
  | cons c s ih =>
    have hc : c ≠ '.' := by
      rintro rfl
      exact h List.mem_cons_self
    rw [Text.dotParts, ih fun hs => h (List.mem_cons_of_mem c hs)]
    exact hc

/-- A name without a dot is quoted as one name. -/
theorem quoteName_eq {name : String} (h : '.' ∉ name.toList) :
    quoteName name = String.ofList (Text.enclosed '"' name.toList) := by
  rw [quoteName, Text.dotParts_eq h]
  simp [List.intercalate]

end TableQuery
