/-
# TableQuery.Proofs.Sql.Questions — the question marks of a phrase.

A question mark keeps its place among the question marks of the text.  `questions` lists the places
that stand in a phrase, in the order in which its parts are gone through: for a query the select
list, the source, WHERE, ORDER BY, LIMIT and OFFSET.  So the list is in the order of the text only
where the text has its clauses in that order.

## §A — tokens.
## §B — phrases and queries.
## §C — sentences.
-/
import TableQuery.Sql.Grammar

namespace TableQuery
namespace Sql

/-! ## §A — tokens -/

/-- The places of the question marks among tokens. -/
def Token.questions : List Token → List Nat
  | [] => []
  | .question place :: rest => place :: questions rest
  | _ :: rest => questions rest

/-! ## §B — phrases and queries -/

mutual

/-- **The question marks in a phrase**, by their places. -/
def Phrase.questions : Phrase → List Nat
  | .question place => [place]
  | .paren p | .leading _ p | .cast p _ => p.questions
  | .column ps | .tuple ps | .call _ ps | .userCall _ _ ps | .aggregate _ ps | .distinct ps
  | .rows ps | .other _ _ ps => Phrase.listQuestions ps
  | .between _ l r | .memberOfQuery l r | .escape l r | .renamed l r | .collate l r | .dot l r
  | .combined _ l r => l.questions ++ r.questions
  | .within s l h => s.questions ++ (l.questions ++ h.questions)
  | .memberOf s ps | .renamedAll s ps => s.questions ++ Phrase.listQuestions ps
  | .memberOfField s p | .subquery s p => s.questions ++ Phrase.optionQuestions p
  | .choice s bs d =>
    Phrase.optionQuestions s ++ (Phrase.branchQuestions bs ++ Phrase.optionQuestions d)
  | .parameter p => Phrase.optionQuestions p
  | .query q => q.questions
  | .table ps n => Phrase.listQuestions ps ++ Phrase.optionQuestions n
  | .number _ | .string _ | .null | .boolean _ | .star | .name .. | .marker _ => []

/-- The question marks in phrases beside each other. -/
def Phrase.listQuestions : List Phrase → List Nat
  | [] => []
  | p :: ps => p.questions ++ Phrase.listQuestions ps

/-- The question marks in a phrase that may be absent. -/
def Phrase.optionQuestions : Option Phrase → List Nat
  | none => []
  | some p => p.questions

/-- The question marks in the branches of a choice. -/
def Phrase.branchQuestions : List (Phrase × Phrase) → List Nat
  | [] => []
  | (c, v) :: rest => c.questions ++ (v.questions ++ Phrase.branchQuestions rest)

/-- The question marks in an item of an ORDER BY list. -/
def Ordered.questions : Ordered → List Nat
  | .mk p _ _ => p.questions

/-- The question marks in an ORDER BY list. -/
def Ordered.listQuestions : List Ordered → List Nat
  | [] => []
  | o :: os => o.questions ++ Ordered.listQuestions os

/-- The question marks in a query, clause by clause. -/
def Query.questions : Query → List Nat
  | .mk _ _ cs s js _ w g h os l o _ =>
    Phrase.listQuestions cs ++ (Phrase.optionQuestions s ++ (Phrase.listQuestions js ++
      (Phrase.optionQuestions w ++ (Phrase.groupQuestions g ++ (Phrase.optionQuestions h ++
        (Ordered.listQuestions os ++ (Phrase.optionQuestions l ++ Phrase.optionQuestions o)))))))

/-- The question marks in what is grouped by. -/
def Phrase.groupQuestions : Option (List Phrase) → List Nat
  | none => []
  | some ps => Phrase.listQuestions ps

end

attribute [simp, grind =] Phrase.questions Phrase.listQuestions
  Phrase.optionQuestions Phrase.branchQuestions Ordered.questions Ordered.listQuestions
  Query.questions Phrase.groupQuestions

@[simp, grind =]
theorem Phrase.listQuestions_append (ps qs : List Phrase) :
    Phrase.listQuestions (ps ++ qs) = Phrase.listQuestions ps ++ Phrase.listQuestions qs := by
  induction ps with
  | nil => rfl
  | cons p ps ih => simp [ih]

@[simp, grind =]
theorem Phrase.listQuestions_toList (p : Option Phrase) :
    Phrase.listQuestions p.toList = Phrase.optionQuestions p := by
  cases p <;> simp

/-- The question marks in an item of an ORDER BY list that may be absent. -/
@[simp, grind =]
def Ordered.optionQuestions : Option Ordered → List Nat
  | none => []
  | some o => o.questions

/-! ## §C — sentences -/

/-- The question marks in a sentence. -/
@[simp, grind =]
def Sentence.questions : Sentence → List Nat
  | .phrase p => p.questions
  | .insert target columns source _ =>
    target.questions ++ (Phrase.listQuestions columns ++ Phrase.optionQuestions source)
  | .update target assignments _ condition _ =>
    target.questions ++ (Phrase.listQuestions assignments ++ Phrase.optionQuestions condition)
  | .delete target condition _ => Phrase.optionQuestions target ++ Phrase.optionQuestions condition
  | .other _ => []

/-- The question marks in a sentence that may be absent. -/
@[simp, grind =]
def Sentence.optionQuestions : Option Sentence → List Nat
  | none => []
  | some s => s.questions

end Sql
end TableQuery
