/-
# TableQuery.Sql.Written — phrases written again.

A computed column without a name of its own is named by its text, and some messages quote a phrase.
The text is regular: keywords and function names in capitals, single spaces around operators, texts
and quoted names with their marks doubled, a quotient guarded against zero.  Parentheses stand where
they were written and nowhere else.
-/
import TableQuery.Sql.Phrase
import TableQuery.Text.Case
import TableQuery.Text.Quoted

namespace TableQuery
namespace Sql

/-- A text between two marks, the mark doubled inside. -/
def marked (mark : Char) (text : String) : String :=
  String.ofList
    (mark :: text.toList.flatMap (fun c => if c = mark then [mark, mark] else [c]) ++ [mark])

/-- Whether a text starts with a digit. -/
def startsWithDigit (text : String) : Bool :=
  match text.toList with
  | c :: _ => Text.isAnyDigit c
  | [] => false

/-- A name, in quotes where it was quoted or starts with a digit. -/
def nameText (text : String) (quoted : Bool) : String :=
  if quoted || startsWithDigit text then marked '"' text else text

/-- An operand behind a minus sign, kept apart from a minus sign of its own. -/
def negated (operand : String) : String :=
  if operand.startsWith "-" then "- " ++ operand else "-" ++ operand

/-- A text in capitals. -/
def capitals (text : String) : String := String.ofList (Text.upper text.toList)

/-- A function and its arguments. -/
def applied (function : String) (args : List String) : String :=
  match function, args with
  | "CURRENT_DATE", [] => function
  | "IF", [c, v] => "CASE WHEN " ++ c ++ " THEN " ++ v ++ " END"
  | "IF", [c, v, w] => "CASE WHEN " ++ c ++ " THEN " ++ v ++ " ELSE " ++ w ++ " END"
  | function, args => function ++ "(" ++ ", ".intercalate args ++ ")"

/-- The words for the place of the empty values, where it is not the usual one. -/
def nullsText (desc nullsFirst : Option Bool) : String :=
  match desc.getD false, nullsFirst with
  | true, some true => " NULLS FIRST"
  | false, some false => " NULLS LAST"
  | _, _ => ""

/-- A list clause with its keyword, nothing for an empty list. -/
def listClause (keyword : String) (items : List String) : String :=
  if items.isEmpty then "" else " " ++ keyword ++ " " ++ ", ".intercalate items

mutual

/-- **A phrase written again.** -/
def Phrase.written : Phrase → String
  | .number text => text
  | .string text => marked '\'' text
  | .null => "NULL"
  | .boolean b => if b then "TRUE" else "FALSE"
  | .star => "*"
  | .name text quoted => nameText text quoted
  | .column parts => ".".intercalate (Phrase.writtenList parts)
  | .question _ => "?"
  | .marker name => ":" ++ name
  | .paren p => "(" ++ p.written ++ ")"
  | .tuple ps => "(" ++ ", ".intercalate (Phrase.writtenList ps) ++ ")"
  | .leading .not p => "NOT " ++ p.written
  | .leading .neg p => negated p.written
  | .leading .bitNot p => "~" ++ p.written
  | .between .div l r => l.written ++ " / NULLIF(" ++ r.written ++ ", 0)"
  | .between .regexp l r => "REGEXP_LIKE(" ++ l.written ++ ", " ++ r.written ++ ")"
  | .between op l r => l.written ++ " " ++ op.sign ++ " " ++ r.written
  | .within s l h => s.written ++ " BETWEEN " ++ l.written ++ " AND " ++ h.written
  | .memberOf s ps => s.written ++ " IN (" ++ ", ".intercalate (Phrase.writtenList ps) ++ ")"
  | .memberOfQuery s q => s.written ++ " IN (" ++ q.written ++ ")"
  | .memberOfField s f =>
    s.written ++ " IN " ++ (match f with
      | some p => p.written
      | none => "()")
  | .escape t m => t.written ++ " ESCAPE " ++ m.written
  | .renamed p n => p.written ++ " AS " ++ n.written
  | .renamedAll p ns => p.written ++ " AS (" ++ ", ".intercalate (Phrase.writtenList ns) ++ ")"
  | .call f ps => applied f (Phrase.writtenList ps)
  | .userCall f quoted ps =>
    (if quoted then marked '"' f else capitals f) ++ "(" ++ ", ".intercalate (Phrase.writtenList ps) ++ ")"
  | .aggregate f ps =>
    (if f = "GROUPCONCAT" then "GROUP_CONCAT" else f) ++
      "(" ++ ", ".intercalate (Phrase.writtenList ps) ++ ")"
  | .choice s bs d =>
    "CASE" ++ (match s with
      | some p => " " ++ p.written
      | none => "") ++ Phrase.writtenBranches bs ++ (match d with
      | some p => " ELSE " ++ p.written
      | none => "") ++ " END"
  | .cast p type => "CAST(" ++ p.written ++ " AS " ++ type ++ ")"
  | .collate p b => p.written ++ " COLLATE " ++ b.written
  | .distinct ps => "DISTINCT " ++ ", ".intercalate (Phrase.writtenList ps)
  | .dot b f => b.written ++ "." ++ f.written
  | .parameter p => "@" ++ (match p with
      | some p => p.written
      | none => "")
  | .subquery p a => "(" ++ p.written ++ ")" ++ (match a with
      | some a => " AS " ++ a.written
      | none => "")
  | .query q => q.written
  | .combined op l r => l.written ++ " " ++ op.keyword ++ " " ++ r.written
  | .rows ps => "VALUES " ++ ", ".intercalate (Phrase.writtenList ps)
  | .table ps a => ".".intercalate (Phrase.writtenList ps) ++ (match a with
      | some a => " AS " ++ a.written
      | none => "")
  | .other _ text _ => text

/-- Each of some phrases written again. -/
def Phrase.writtenList : List Phrase → List String
  | [] => []
  | p :: ps => p.written :: Phrase.writtenList ps

/-- The branches of a choice written again. -/
def Phrase.writtenBranches : List (Phrase × Phrase) → String
  | [] => ""
  | (c, v) :: rest => " WHEN " ++ c.written ++ " THEN " ++ v.written ++ Phrase.writtenBranches rest

/-- An item of an ORDER BY list written again. -/
def Ordered.written : Ordered → String
  | .mk p desc nullsFirst =>
    p.written ++ (match desc with
      | some true => " DESC"
      | some false => " ASC"
      | none => "") ++ nullsText desc nullsFirst

/-- Each item of an ORDER BY list written again. -/
def Ordered.writtenList : List Ordered → List String
  | [] => []
  | o :: os => o.written :: Ordered.writtenList os

/-- A query written again. -/
def Query.written : Query → String
  | .mk _ distinct cs s js _ w g h os l o _ =>
    "SELECT" ++ (if distinct then " DISTINCT" else "") ++
      (if cs.isEmpty then "" else " " ++ ", ".intercalate (Phrase.writtenList cs)) ++
      (match s with
        | some p => " FROM " ++ p.written
        | none => "") ++
      String.join ((Phrase.writtenList js).map (", " ++ ·)) ++
      (match w with
        | some p => " WHERE " ++ p.written
        | none => "") ++
      (match g with
        | some ps => " GROUP BY " ++ ", ".intercalate (Phrase.writtenList ps)
        | none => "") ++
      (match h with
        | some p => " HAVING " ++ p.written
        | none => "") ++
      listClause "ORDER BY" (Ordered.writtenList os) ++
      (match l with
        | some p => " LIMIT " ++ p.written
        | none => "") ++
      (match o with
        | some p => " OFFSET " ++ p.written
        | none => "")

end

end Sql
end TableQuery
