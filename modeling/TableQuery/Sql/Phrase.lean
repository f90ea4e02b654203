/-
# TableQuery.Sql.Phrase — what a text says, as it is written.

A phrase keeps the shape of the text: parentheses, spellings, clauses that are not carried out; a
question mark keeps its place among the question marks of the text.
Only the next stage decides what is a statement of the engine.  Every phrase has a kind, by which
messages call it.

## §A — operators.
## §B — phrases and queries.
## §C — kinds.
## §D — aggregates by depth.
-/
namespace TableQuery
namespace Sql

/-! ## §A — operators -/

/-- Operators between two phrases. -/
inductive Infix where
  | or | and
  | eq | ne | nullSafeEq
  | lt | le | gt | ge
  | like | ilike | glob | matching | regexp | overlaps | similar
  | isDistinct | isNotDistinct | is
  | bitAnd | bitOr | bitXor | shiftLeft | shiftRight | concat
  | add | sub | mod
  | mul | div | intDiv
  | assign
  deriving DecidableEq, Repr

/-- How an operator is written again. -/
def Infix.sign : Infix → String
  | or => "OR"
  | and => "AND"
  | eq => "="
  | ne => "<>"
  | nullSafeEq => "IS NOT DISTINCT FROM"
  | lt => "<"
  | le => "<="
  | gt => ">"
  | ge => ">="
  | like => "LIKE"
  | ilike => "ILIKE"
  | glob => "GLOB"
  | matching => "MATCH"
  | regexp => "RLIKE"
  | overlaps => "OVERLAPS"
  | similar => "SIMILAR TO"
  | isDistinct => "IS DISTINCT FROM"
  | isNotDistinct => "IS NOT DISTINCT FROM"
  | is => "IS"
  | bitAnd => "&"
  | bitOr => "|"
  | bitXor => "^"
  | shiftLeft => "<<"
  | shiftRight => ">>"
  | concat => "||"
  | add => "+"
  | sub => "-"
  | mod => "%"
  | mul => "*"
  | div => "/"
  | intDiv => "DIV"
  | assign => ":="

/-- What messages call the phrase of an operator. -/
def Infix.kindName : Infix → String
  | or => "Or"
  | and => "And"
  | eq => "EQ"
  | ne => "NEQ"
  | nullSafeEq => "NullSafeEQ"
  | lt => "LT"
  | le => "LTE"
  | gt => "GT"
  | ge => "GTE"
  | like => "Like"
  | ilike => "ILike"
  | glob => "Glob"
  | matching => "Match"
  | regexp => "RegexpLike"
  | overlaps => "Overlaps"
  | similar => "SimilarTo"
  | isDistinct => "NullSafeNEQ"
  | isNotDistinct => "NullSafeEQ"
  | is => "Is"
  | bitAnd => "BitwiseAnd"
  | bitOr => "BitwiseOr"
  | bitXor => "BitwiseXor"
  | shiftLeft => "BitwiseLeftShift"
  | shiftRight => "BitwiseRightShift"
  | concat => "DPipe"
  | add => "Add"
  | sub => "Sub"
  | mod => "Mod"
  | mul => "Mul"
  | div => "Div"
  | intDiv => "IntDiv"
  | assign => "PropertyEQ"

/-- Operators before a phrase. -/
inductive Leading where
  | not
  | neg
  | bitNot
  deriving DecidableEq, Repr

/-- What joins the results of two queries. -/
inductive SetOperation where
  | union
  | intersect
  | except
  deriving DecidableEq, Repr

/-- How a set operation is written. -/
def SetOperation.keyword : SetOperation → String
  | union => "UNION"
  | intersect => "INTERSECT"
  | except => "EXCEPT"

/-- What messages call a set operation. -/
def SetOperation.kindName : SetOperation → String
  | union => "Union"
  | intersect => "Intersect"
  | except => "Except"

/-! ## §B — phrases and queries -/

mutual

/-- A phrase. -/
inductive Phrase where
  | number (text : String)
  | string (text : String)
  | null
  | boolean (value : Bool)
  | star
  | name (text : String) (quoted : Bool)
  | column (parts : List Phrase)
  | question (place : Nat)
  | marker (name : String)
  | paren (inner : Phrase)
  | tuple (items : List Phrase)
  | leading (op : Leading) (operand : Phrase)
  | between (op : Infix) (left right : Phrase)
  | within (subject low high : Phrase)
  | memberOf (subject : Phrase) (items : List Phrase)
  | memberOfQuery (subject query : Phrase)
  | memberOfField (subject : Phrase) (field : Option Phrase)
  | escape (test mark : Phrase)
  | renamed (inner name : Phrase)
  | renamedAll (inner : Phrase) (names : List Phrase)
  | call (function : String) (args : List Phrase)
  | userCall (function : String) (quoted : Bool) (args : List Phrase)
  | aggregate (function : String) (args : List Phrase)
  | choice (subject : Option Phrase) (branches : List (Phrase × Phrase)) (default : Option Phrase)
  | cast (inner : Phrase) (type : String)
  | collate (inner by_ : Phrase)
  | distinct (items : List Phrase)
  | dot (base : Phrase) (field : Phrase)
  | parameter (name : Option Phrase)
  | subquery (inner : Phrase) (aliasName : Option Phrase)
  | query (q : Query)
  | combined (op : SetOperation) (left right : Phrase)
  | rows (rows : List Phrase)
  | table (parts : List Phrase) (aliasName : Option Phrase)
  | other (kind text : String) (parts : List Phrase)

/-- An item of an ORDER BY list: what is ordered by, which direction is written, and where the
empty values are said to go. -/
inductive Ordered where
  | mk (phrase : Phrase) (desc nullsFirst : Option Bool)

/-- A SELECT as it is written; `dropped` are the clauses that no statement of the engine has a place
for. -/
inductive Query where
  | mk (hasCommon hasDistinct : Bool) (columns : List Phrase) (source : Option Phrase)
      (joins : List Phrase) (hasLateral : Bool) (condition : Option Phrase)
      (grouping : Option (List Phrase)) (having : Option Phrase) (order : List Ordered)
      (limit : Option Phrase) (offset : Option Phrase) (dropped : List Phrase)

end

instance : Inhabited Phrase := ⟨.null⟩

/-- A clause or modifier that has no effect, by its keyword. -/
def Phrase.clause (keyword : String) (parts : List Phrase) : Phrase := .other "Clause" keyword parts

/-- The keyword of a clause that has no effect; empty for any other phrase. -/
def Phrase.keyword : Phrase → String
  | .other "Clause" text _ => text
  | _ => ""

/-- What is ordered by. -/
def Ordered.phrase : Ordered → Phrase
  | mk p _ _ => p

namespace Query

/-- Whether common table expressions stand before the query. -/
def hasCommon : Query → Bool
  | mk w _ _ _ _ _ _ _ _ _ _ _ _ => w

/-- Whether repeated rows are to be left out. -/
def hasDistinct : Query → Bool
  | mk _ d _ _ _ _ _ _ _ _ _ _ _ => d

/-- The select list. -/
def columns : Query → List Phrase
  | mk _ _ c _ _ _ _ _ _ _ _ _ _ => c

/-- What is read. -/
def source : Query → Option Phrase
  | mk _ _ _ s _ _ _ _ _ _ _ _ _ => s

/-- What is joined to it. -/
def joins : Query → List Phrase
  | mk _ _ _ _ j _ _ _ _ _ _ _ _ => j

/-- Whether something lateral is joined. -/
def hasLateral : Query → Bool
  | mk _ _ _ _ _ l _ _ _ _ _ _ _ => l

/-- The WHERE condition. -/
def condition : Query → Option Phrase
  | mk _ _ _ _ _ _ w _ _ _ _ _ _ => w

/-- What is grouped by. -/
def grouping : Query → Option (List Phrase)
  | mk _ _ _ _ _ _ _ g _ _ _ _ _ => g

/-- The HAVING condition. -/
def having : Query → Option Phrase
  | mk _ _ _ _ _ _ _ _ h _ _ _ _ => h

/-- The ORDER BY list. -/
def order : Query → List Ordered
  | mk _ _ _ _ _ _ _ _ _ o _ _ _ => o

/-- The LIMIT. -/
def limit : Query → Option Phrase
  | mk _ _ _ _ _ _ _ _ _ _ l _ _ => l

/-- The OFFSET. -/
def offset : Query → Option Phrase
  | mk _ _ _ _ _ _ _ _ _ _ _ o _ => o

/-- The clauses that have no effect. -/
def dropped : Query → List Phrase
  | mk _ _ _ _ _ _ _ _ _ _ _ _ k => k

/-- The query with common table expressions before it. -/
def withCommon : Query → Query
  | mk _ d c s j l w g h o m n k => mk true d c s j l w g h o m n k

end Query

/-- A whole statement as it is written; `dropped` are the clauses and modifiers that no statement of
the engine has a place for. -/
inductive Sentence where
  | phrase (phrase : Phrase)
  | insert (table : Phrase) (columns : List Phrase) (source : Option Phrase)
      (dropped : List Phrase)
  | update (table : Phrase) (assignments : List Phrase) (hasSource : Bool)
      (condition : Option Phrase) (dropped : List Phrase)
  | delete (table : Option Phrase) (condition : Option Phrase) (dropped : List Phrase)
  | other (kind : String)

/-! ## §C — kinds -/

/-- A name in capitals and underscores with only the first letter of each word a capital. -/
def camelCase (name : String) : String :=
  String.join ((name.splitOn "_").map fun word =>
    match word.toList with
    | [] => ""
    | c :: rest => String.ofList (c :: rest.map Char.toLower))

/-- What messages call a phrase. -/
def Phrase.kindName : Phrase → String
  | number _ | string _ => "Literal"
  | null => "Null"
  | boolean _ => "Boolean"
  | star => "Star"
  | name .. => "Identifier"
  | column _ => "Column"
  | question _ | marker _ => "Placeholder"
  | paren _ => "Paren"
  | tuple _ => "Tuple"
  | leading .not _ => "Not"
  | leading .neg _ => "Neg"
  | leading .bitNot _ => "BitwiseNot"
  | between op .. => op.kindName
  | within .. => "Between"
  | memberOf .. | memberOfQuery .. | memberOfField .. => "In"
  | escape .. => "Escape"
  | renamed .. => "Alias"
  | renamedAll .. => "Aliases"
  | call function _ => camelCase function
  | userCall .. => "Anonymous"
  | aggregate function _ => camelCase function
  | choice .. => "Case"
  | cast .. => "Cast"
  | collate .. => "Collate"
  | distinct _ => "Distinct"
  | dot .. => "Dot"
  | parameter _ => "Parameter"
  | subquery .. => "Subquery"
  | query _ => "Select"
  | combined op .. => op.kindName
  | rows _ => "Values"
  | table .. => "Table"
  | other kind .. => kind

/-- What messages call a sentence. -/
def Sentence.kindName : Sentence → String
  | phrase p => p.kindName
  | insert .. => "Insert"
  | update .. => "Update"
  | delete .. => "Delete"
  | other kind => kind

/-! ## §D — aggregates by depth -/

/-- Joins two layered lists layer by layer. -/
def mergeLayers : List (List String) → List (List String) → List (List String)
  | [], b => b
  | a, [] => a
  | x :: a, y :: b => (x ++ y) :: mergeLayers a b

mutual

/-- The aggregate functions in a phrase, by their depth in it. -/
def Phrase.aggregates : Phrase → List (List String)
  | .column parts => [] :: Phrase.listAggregates parts
  | .paren p => [] :: p.aggregates
  | .tuple ps => [] :: Phrase.listAggregates ps
  | .leading _ p => [] :: p.aggregates
  | .between _ l r => [] :: mergeLayers l.aggregates r.aggregates
  | .within s l h => [] :: mergeLayers s.aggregates (mergeLayers l.aggregates h.aggregates)
  | .memberOf s ps => [] :: mergeLayers s.aggregates (Phrase.listAggregates ps)
  | .memberOfQuery s q => [] :: mergeLayers s.aggregates q.aggregates
  | .memberOfField s f => [] :: mergeLayers s.aggregates (Phrase.optionAggregates f)
  | .escape t m => [] :: mergeLayers t.aggregates m.aggregates
  | .renamed p _ => [] :: p.aggregates
  | .renamedAll p _ => [] :: p.aggregates
  | .call _ ps => [] :: Phrase.listAggregates ps
  | .userCall _ _ ps => [] :: Phrase.listAggregates ps
  | .aggregate f ps => [f] :: Phrase.listAggregates ps
  | .choice s bs d =>
    [] :: mergeLayers (Phrase.optionAggregates s)
      (mergeLayers (Phrase.branchAggregates bs) (Phrase.optionAggregates d))
  | .cast p _ => [] :: p.aggregates
  | .collate p b => [] :: mergeLayers p.aggregates b.aggregates
  | .distinct ps => [] :: Phrase.listAggregates ps
  | .dot b f => [] :: mergeLayers b.aggregates f.aggregates
  | .subquery p _ => [] :: p.aggregates
  | .query q => q.aggregates
  | .combined _ l r => [] :: mergeLayers l.aggregates r.aggregates
  | .rows ps => [] :: Phrase.listAggregates ps
  | .table ps _ => [] :: Phrase.listAggregates ps
  | .other _ _ ps => [] :: Phrase.listAggregates ps
  | _ => []

/-- The aggregate functions in phrases beside each other. -/
def Phrase.listAggregates : List Phrase → List (List String)
  | [] => []
  | p :: ps => mergeLayers p.aggregates (Phrase.listAggregates ps)

/-- The aggregate functions in a phrase that may be absent. -/
def Phrase.optionAggregates : Option Phrase → List (List String)
  | none => []
  | some p => p.aggregates

/-- The aggregate functions in the branches of a choice. -/
def Phrase.branchAggregates : List (Phrase × Phrase) → List (List String)
  | [] => []
  | (c, v) :: rest =>
    mergeLayers ([] :: mergeLayers c.aggregates v.aggregates) (Phrase.branchAggregates rest)

/-- The aggregate functions in an item of an ORDER BY list. -/
def Ordered.aggregates : Ordered → List (List String)
  | .mk p _ _ => [] :: p.aggregates

/-- The aggregate functions in an ORDER BY list. -/
def Ordered.listAggregates : List Ordered → List (List String)
  | [] => []
  | o :: os => mergeLayers o.aggregates (Ordered.listAggregates os)

/-- The aggregate functions in a query, a clause being one deeper than the query. -/
def Query.aggregates : Query → List (List String)
  | .mk _ _ cs s js _ w g h os l o ks =>
    [] :: mergeLayers (Phrase.listAggregates cs)
      (mergeLayers ([] :: Phrase.optionAggregates l)
        (mergeLayers ([] :: Phrase.optionAggregates s)
          (mergeLayers ([] :: Phrase.listAggregates js)
            (mergeLayers ([] :: Phrase.optionAggregates w)
              (mergeLayers ([] :: Phrase.groupAggregates g)
                (mergeLayers ([] :: Phrase.optionAggregates h)
                  (mergeLayers ([] :: Ordered.listAggregates os)
                    (mergeLayers ([] :: Phrase.optionAggregates o)
                      (Phrase.listAggregates ks)))))))))

/-- The aggregate functions in what is grouped by. -/
def Phrase.groupAggregates : Option (List Phrase) → List (List String)
  | none => []
  | some ps => Phrase.listAggregates ps

end

/-- The aggregate function nearest to the query itself. -/
def Query.aggregate? (q : Query) : Option String := q.aggregates.flatten.head?

end Sql
end TableQuery
