/-
# TableQuery.Proofs.Sql.Naming — texts in which a name in quotes stands for a column.

A column is named where it is written, by an INSERT or an UPDATE, and where it is read, by a query: in
its select list, in its condition, and in the order of its rows.  Each of these texts is read as the
statement that was meant, whatever characters the name holds.  The condition of an UPDATE may be any
text that is read as a condition.

## §A — an INSERT.
## §B — an UPDATE.
## §C — queries.
-/
import TableQuery.Proofs.Sql.Changes

namespace TableQuery
namespace Sql

open Reader Operand Operators

/-- A name in quotes, as one name: a dot does not part it. -/
def identifier (name : String) : String := String.ofList (Text.enclosed '"' name.toList)

/-- A name in quotes with a blank behind it is one token. -/
theorem gives_identifier (name : String) (rest : List Char) :
    Scan.Gives (Text.enclosed '"' name.toList ++ ' ' :: rest) [.quoted name] rest := by
  have hname := (Scan.gives_quoted name.toList (' ' :: rest) (by simp)).append (.space rest)
  rwa [String.ofList_toList] at hname

/-! ## §A — an INSERT -/

end Sql

/-- An INSERT that writes one column is read as that INSERT. -/
theorem Statement.ofText_insertNamed (column : String) :
    Statement.ofText ("INSERT INTO t (" ++ Sql.identifier column ++ ") VALUES (?)") =
      .ok (.insert (Sql.insertOfMarkers "t" [column])) := by
  have htext : "INSERT INTO t (" ++ Sql.identifier column ++ ") VALUES (?)" =
      String.ofList (Sql.insertChars .bare [column]) := by
    refine String.toList_inj.mp ?_
    rw [Sql.identifier]
    simp [Sql.insertChars, Sql.TableToken.chars, List.intercalate]
  rw [htext, Statement.ofText, Sql.sentences?_insertChars _ (List.cons_ne_nil column [])]
  exact Sql.statement_insertSentence .bare (List.length_range' ..)

namespace Sql

/-! ## §B — an UPDATE -/

/-- **A text that is read as a condition**, to its end and wherever in a statement it stands, and means
the expression when one marker stands before it. -/
def IsCondition (text : String) (e : Expr) : Prop :=
  ∃ ts p n, Token.ofText? text = some ts ∧ Token.Plain ts ∧
    (∀ depth, 2 * ts.length + 2 ≤ depth →
      Operators.condition (Readers.upTo depth) (Scan.placed 1 ts) = some (some p, [])) ∧
    (p.expression .counting false).outcome 1 = (.ok e, n)

/-- The tokens of an UPDATE of one column. -/
def updateTokens (column : String) (mark : Nat) (ts : List Token) : List Token :=
  .word "UPDATE" "UPDATE" :: .word "t" "T" :: .word "SET" "SET" :: .quoted column :: .sign "=" ::
    .question mark :: .word "WHERE" "WHERE" :: ts

/-- The UPDATE as it is written. -/
def updateSentence (column : String) (p : Phrase) : Sentence :=
  .update (.table [.name "t" false] none)
    [.between .eq (.column [.name column true]) (.question 0)] false (some p) []

theorem updateParts_updateTokens {g : Readers} {p : Phrase} {ts : List Token}
    (hts : Operators.condition g ts = some (some p, [])) (column : String) (fuel : Nat)
    (u : Sentences.UpdateParts) :
    Sentences.updateParts (Readers.tied g) (fuel + 3) u
        (.word "SET" "SET" :: .quoted column :: .sign "=" :: .question 0 :: .word "WHERE" "WHERE" :: ts) =
      some ({ u with
        assignments := [.between .eq (.column [.name column true]) (.question 0)]
        condition := some p }, []) := by
  have hequality : (Readers.tied g).equality
      (.quoted column :: .sign "=" :: .question 0 :: .word "WHERE" "WHERE" :: ts) =
        some (some (.between .eq (.column [.name column true]) (.question 0)),
          .word "WHERE" "WHERE" :: ts) := by
    refine Reader.bind_eq (comparison_of_unary (unary_quoted column (.equals _)) (.equals _)) ?_
    refine Reader.bind_eq (a := some .eq) rfl ?_
    refine Reader.bind_eq
      (Reader.bind_eq (comparison_of_unary (unary_question 0 (.condition ts)) (.condition ts)) rfl) ?_
    exact Reader.bind_eq rfl (Reader.bind_eq rfl rfl)
  have hlist : Reader.list (Readers.tied g).equality
      (.quoted column :: .sign "=" :: .question 0 :: .word "WHERE" "WHERE" :: ts) =
        some ([.between .eq (.column [.name column true]) (.question 0)],
          .word "WHERE" "WHERE" :: ts) :=
    Reader.bind_eq rfl (Reader.bind_eq hequality rfl)
  refine Reader.bind_eq (a := some "SET") rfl (Reader.bind_eq hlist ?_)
  refine Reader.bind_eq (a := some "WHERE") rfl (Reader.bind_eq (Reader.bind_eq hts rfl) ?_)
  rfl

theorem joinedTable_t (g : Readers) (column : String) (ts : List Token) :
    Sentences.joinedTable (Readers.tied (Readers.tied g))
        (Sentences.tableNamed (Readers.tied (Readers.tied g))
          fun key => Words.canRenameTable key && key != "SET")
        (.word "t" "T" :: .word "SET" "SET" :: .quoted column :: ts) =
      some ((.table [.name "t" false] none, []), .word "SET" "SET" :: .quoted column :: ts) := by
  rfl

/-- **The tokens are read as the UPDATE.** -/
theorem first_updateTokens {g : Readers} {p : Phrase} {ts : List Token}
    (hts : Operators.condition (Readers.tied g) ts = some (some p, [])) (column : String) :
    Sentences.first (Readers.tied (Readers.tied g)) (updateTokens column 0 ts) =
      some (some (updateSentence column p), []) := by
  have hupdate : Sentences.update (Readers.tied (Readers.tied g)) (updateTokens column 0 ts).tail =
      some (updateSentence column p, []) := by
    refine Reader.bind_eq (joinedTable_t g column _) (Reader.bind_eq rfl ?_)
    exact Reader.bind_eq (updateParts_updateTokens hts column (ts.length + 3) _) rfl
  exact Reader.bind_eq rfl (Reader.bind_eq rfl (Reader.bind_eq rfl (Reader.bind_eq hupdate rfl)))

/-- The text of the UPDATE has its tokens. -/
theorem gives_updatingText (column : String) {w : List Char} {ts : List Token}
    (hw : Scan.Gives w ts []) :
    Scan.Gives ("UPDATE t SET ".toList ++
        (Text.enclosed '"' column.toList ++ (" = ? WHERE ".toList ++ w)))
      (updateTokens column 0 ts) [] := by
  have hequals (rest : List Char) : Scan.Gives ('=' :: ' ' :: rest) [.sign "="] rest :=
    (Scan.Gives.token rfl (by simp) rfl (by simp)).append (.space rest)
  have hquestion (rest : List Char) : Scan.Gives ('?' :: ' ' :: rest) [.question 0] rest :=
    (Scan.Gives.token rfl (by simp) rfl (by simp)).append (.space rest)
  have hcondition :=
    (Scan.gives_keyword (c := 'W') (w := "HERE".toList) (fun _ => rfl) rfl rfl w).append hw
  have hassignment :=
    (gives_identifier column _).append ((hequals _).append ((hquestion _).append hcondition))
  have htable := (Scan.gives_keyword (c := 't') (w := []) (fun _ => rfl) rfl rfl _).append
    ((Scan.gives_keyword (c := 'S') (w := "ET".toList) (fun _ => rfl) rfl rfl _).append hassignment)
  exact (Scan.gives_keyword (c := 'U') (w := "PDATE".toList) (fun _ => rfl) rfl rfl _).append htable

theorem placed_placed (m n : Nat) (ts : List Token) :
    Scan.placed m (Scan.placed n ts) = Scan.placed m ts := by
  induction ts generalizing m n with
  | nil => rfl
  | cons t ts ih => cases t <;> simp [Scan.placed, ih]

theorem length_placed (n : Nat) (ts : List Token) : (Scan.placed n ts).length = ts.length := by
  induction ts generalizing n with
  | nil => rfl
  | cons t ts ih => cases t <;> simp [Scan.placed, ih]

/-- The UPDATE of one column to the value of a marker. -/
def updateOfMarker (column : String) (condition : Expr) : Update where
  table := "t"
  assignments := [(column, .marker { index := some 0 })]
  condition := some condition

/-- The sentence states the UPDATE, if its condition means an expression. -/
theorem statement_updateSentence (column : String) {p : Phrase} {e : Expr} {n : Nat}
    (hp : (p.expression .counting false).outcome 1 = (.ok e, n)) :
    Sql.outcome (fun number => (updateSentence column p).statement number) =
      .ok (.update (updateOfMarker column e)) := by
  have hassignments : ([.between .eq (.column [.name column true]) (.question 0)].mapM
      (assignment .counting)).outcome 0 =
        (.ok [(column, .marker { index := some 0 })], 1) := rfl
  have hcondition : (Phrase.optionExpression .counting (some p)).outcome 1 = (.ok (some e), n) := by
    rw [Phrase.optionExpression, Run.outcome_bind, hp]
    rfl
  have htable : (tableName "UPDATE" (some (.table [.name "t" false] none)) : Meaning Nat String) =
      pure "t" := rfl
  simp only [updateSentence, Sentence.statement, htable, pure_bind, Bool.false_eq_true, if_false]
  rw [Sql.outcome, Run.outcome_bind, hassignments, Run.resume_ok]
  simp only [List.isEmpty_cons, Bool.false_eq_true, if_false]
  rw [Run.outcome_bind, hcondition]
  rfl

end Sql

/-- **The text of an UPDATE** of one column is read as that UPDATE, whatever its condition is. -/
theorem Statement.ofText_updateNamed (column : String) {w : String} {e : Expr}
    (hw : Sql.IsCondition w e) :
    Statement.ofText ("UPDATE t SET " ++ Sql.identifier column ++ " = ? WHERE " ++ w) =
      .ok (.update (Sql.updateOfMarker column e)) := by
  obtain ⟨us, p, n, hus, hplain, hread, hmeans⟩ := hw
  obtain ⟨ts, hts, rfl⟩ := Sql.Scan.gives_of_ofText? hus hplain
  rw [Sql.Scan.plain_placed] at hplain
  simp only [Sql.placed_placed, Sql.length_placed] at hread
  have htext : "UPDATE t SET " ++ Sql.identifier column ++ " = ? WHERE " ++ w =
      String.ofList ("UPDATE t SET ".toList ++ (Text.enclosed '"' column.toList ++
        (" = ? WHERE ".toList ++ w.toList))) := by
    refine String.toList_inj.mp ?_
    rw [Sql.identifier]
    simp
  have hplain' : Sql.Token.Plain (Sql.updateTokens column 0 ts) := by
    simp [Sql.updateTokens, Sql.Token.isSemicolon, hplain]
  -- The marker of the value stands first, so that those of the condition come one place later.
  have hplaced : Sql.Scan.placed 0 (Sql.updateTokens column 0 ts) =
      Sql.updateTokens column 0 (Sql.Scan.placed 1 ts) := rfl
  have hsentence : Sql.sentenceOf (Sql.updateTokens column 0 (Sql.Scan.placed 1 ts)) =
      some (some (Sql.updateSentence column p)) := by
    obtain ⟨d, hd, hdepth⟩ : ∃ d, 2 * (Sql.updateTokens column 0 (Sql.Scan.placed 1 ts)).length + 2 =
        d + 2 ∧ 2 * ts.length + 2 ≤ d + 1 :=
      ⟨_, rfl, by simp [Sql.updateTokens, Sql.length_placed]; omega⟩
    rw [Sql.sentenceOf, hd, Sql.Readers.upTo, Sql.Readers.upTo,
      Sql.first_updateTokens (hread (d + 1) hdepth) column]
  rw [htext, Statement.ofText, Sql.Scan.sentences?_of_gives (Sql.gives_updatingText column hts) hplain',
    hplaced, hsentence, Option.map_some]
  exact Sql.statement_updateSentence column hmeans

namespace Sql

/-! ## §C — queries -/

/-- The tokens of a query for a column of all rows. -/
def listingTokens (column : String) : List Token :=
  [.word "SELECT" "SELECT", .quoted column, .word "FROM" "FROM", .word "t" "T"]

/-- The query for a column of all rows. -/
def listing (column : String) : Query :=
  .mk false false [.column [.name column true]] (some (.table [.name "t" false] none)) [] false none
    none none [] none none []

/-- The tokens of a query for a column of the rows that have a value in it, in the order of the
values. -/
def sortingTokens (column : String) : List Token :=
  listingTokens column ++ [.word "WHERE" "WHERE", .quoted column, .word "IS" "IS", .word "NOT" "NOT",
    .word "NULL" "NULL", .word "ORDER BY" "ORDER BY", .quoted column]

/-- The query for a column of the rows that have a value in it, in the order of the values. -/
def sorting (column : String) : Query :=
  .mk false false [.column [.name column true]] (some (.table [.name "t" false] none)) [] false
    (some (.leading .not (.between .is (.column [.name column true]) .null))) none none
    [.mk (.column [.name column true]) none none] none none []

theorem first_listingTokens (g : Readers) (column : String) :
    Sentences.first (Readers.tied (Readers.tied (Readers.tied g))) (listingTokens column) =
      some (some (.phrase (.query (listing column))), []) := rfl

set_option maxRecDepth 4000 in
theorem first_sortingTokens (g : Readers) (column : String) :
    Sentences.first (Readers.tied (Readers.tied (Readers.tied g))) (sortingTokens column) =
      some (some (.phrase (.query (sorting column))), []) := rfl

/-- What every one of the queries begins with. -/
theorem gives_select (column : String) (rest : List Char) :
    Scan.Gives ("SELECT ".toList ++ (Text.enclosed '"' column.toList ++ (" FROM ".toList ++ rest)))
      [.word "SELECT" "SELECT", .quoted column, .word "FROM" "FROM"] rest :=
  (Scan.gives_keyword (c := 'S') (w := "ELECT".toList) (fun _ => rfl) rfl rfl _).append
    ((gives_identifier column _).append
      (Scan.gives_keyword (c := 'F') (w := "ROM".toList) (fun _ => rfl) rfl rfl rest))

theorem gives_listing (column : String) :
    Scan.Gives ("SELECT ".toList ++ (Text.enclosed '"' column.toList ++ (" FROM ".toList ++ ['t'])))
      (listingTokens column) [] := by
  have htable : Scan.Gives ('t' :: [] ++ []) [.word "t" "T"] [] :=
    Scan.gives_word (fun _ => rfl) rfl (by simp) rfl
  exact (gives_select column ['t']).append htable

/-- The two words of an order are one keyword. -/
theorem word_orderBy (rest : List Char) :
    Scan.word ("ORDER BY ".toList ++ rest) = (.word "ORDER BY" "ORDER BY", ' ' :: rest) := by
  have hlonger : decide (('B' :: 'Y' :: ' ' :: rest).length <
      (' ' :: 'B' :: 'Y' :: ' ' :: rest).length) = true := by simp
  have hpair : Words.pairs.contains "ORDER BY" = true := by decide +kernel
  unfold Scan.word
  show (if (decide (('B' :: 'Y' :: ' ' :: rest).length < (' ' :: 'B' :: 'Y' :: ' ' :: rest).length) &&
    Words.pairs.contains "ORDER BY") = true then _ else _) = _
  rw [hlonger, hpair]
  rfl

theorem gives_sorting (column : String) :
    Scan.Gives ("SELECT ".toList ++ (Text.enclosed '"' column.toList ++ (" FROM ".toList ++
      ("t WHERE ".toList ++ (Text.enclosed '"' column.toList ++ (" IS NOT NULL ORDER BY ".toList ++
        Text.enclosed '"' column.toList))))))
      (sortingTokens column) [] := by
  have hlast : Scan.Gives (Text.enclosed '"' column.toList) [.quoted column] [] := by
    have hname := Scan.gives_quoted column.toList [] (by simp)
    rwa [List.append_nil, String.ofList_toList] at hname
  have horder : Scan.Gives ("ORDER BY ".toList ++ Text.enclosed '"' column.toList)
      [.word "ORDER BY" "ORDER BY", .quoted column] [] := by
    have htoken : Scan.token? ('O' :: ("RDER BY ".toList ++ Text.enclosed '"' column.toList)) =
        some (.word "ORDER BY" "ORDER BY", ' ' :: Text.enclosed '"' column.toList) :=
      congrArg some (word_orderBy _)
    exact (Scan.Gives.token rfl ⟨.inl (by decide), .inl (by decide)⟩ htoken (by simp)).append
      ((Scan.Gives.space _).append hlast)
  have htest := (Scan.gives_keyword (c := 'I') (w := "S".toList) (fun _ => rfl) rfl rfl _).append
    ((Scan.gives_keyword (c := 'N') (w := "OT".toList) (fun _ => rfl) rfl rfl _).append
      ((Scan.gives_keyword (c := 'N') (w := "ULL".toList) (fun _ => rfl) rfl rfl _).append horder))
  have hwhere := (Scan.gives_keyword (c := 'W') (w := "HERE".toList) (fun _ => rfl) rfl rfl _).append
    ((gives_identifier column _).append htest)
  exact (gives_select column _).append
    ((Scan.gives_keyword (c := 't') (w := []) (fun _ => rfl) rfl rfl _).append hwhere)

/-- A name in quotes means the column. -/
theorem expression_quoted {σ : Type} (number : Numbering σ) (column : String) :
    (Phrase.column [.name column true]).expression number false = pure (.column column) :=
  congrArg (fun s => pure (Expr.column s)) (by rfl : ".".intercalate [column] = column)

/-- The SELECT of a column of all rows. -/
def selectColumn (column : String) : Select :=
  .mk "t" [.mk (.column column) none column] none [] none none

/-- The SELECT of a column of the rows that have a value in it, in the order of the values. -/
def selectSorted (column : String) : Select :=
  .mk "t" [.mk (.column column) none column] (some (.isNull (.column column) true))
    [.mk (.column column) false] none none

end Sql

/-- A text whose tokens are read as a query states the SELECT that the query means. -/
theorem Statement.ofText_query {s : List Char} {ts : List Sql.Token} {q : Sql.Query} {select : Select}
    (hgives : Sql.Scan.Gives s ts []) (hplain : Sql.Token.Plain ts)
    (hplaced : Sql.Scan.placed 0 ts = ts) (hts : ts ≠ [])
    (hfirst : ∀ g, Sql.Sentences.first (Sql.Readers.tied (Sql.Readers.tied (Sql.Readers.tied g))) ts =
      some (some (.phrase (.query q)), []))
    (hselect : ∀ number : Sql.Numbering Nat, q.select number = pure select) :
    Statement.ofText (String.ofList s) = .ok (.select select) := by
  rw [Statement.ofText, Sql.Scan.sentences?_of_gives hgives hplain, hplaced,
    Sql.Scan.sentenceOf_of_first hts hfirst, Option.map_some]
  show Sql.outcome (fun number => (Sql.Sentence.phrase (.query q)).statement number) = _
  simp only [Sql.outcome, Sql.Sentence.statement, hselect]
  rfl

namespace Sql

theorem select_listing {σ : Type} (number : Numbering σ) {column : String}
    (hdot : '.' ∉ column.toList) : (listing column).select number = pure (selectColumn column) := by
  have haggregate : (listing column).aggregate? = none := rfl
  rw [listing, Query.select, ← listing, haggregate]
  simp only [Phrase.resultColumns, Phrase.optionExpression, resultColumn, expression_quoted]
  show (pure (Select.mk "t" [.mk (.column column) none (Expr.lastPart column)] none [] none none) :
    Meaning σ Select) = _
  rw [Expr.lastPart_eq hdot, selectColumn]

theorem select_sorting {σ : Type} (number : Numbering σ) {column : String}
    (hdot : '.' ∉ column.toList) : (sorting column).select number = pure (selectSorted column) := by
  have haggregate : (sorting column).aggregate? = none := rfl
  have hcondition : (Phrase.leading .not (.between .is (.column [.name column true]) .null)).expression
      number false = pure (.isNull (.column column) true) := by
    show opposed false (identityTest ((Phrase.column [.name column true]).expression number false)
      _ .null true) = _
    rw [expression_quoted]
    rfl
  have horder : Ordered.terms number [.mk (.column [.name column true]) none none] =
      pure [.mk (.column column) false] := by
    simp only [Ordered.terms, Ordered.term, expression_quoted, pure_bind]
    rfl
  rw [sorting, Query.select, ← sorting, haggregate]
  simp only [Phrase.resultColumns, Phrase.optionExpression, hcondition, horder, resultColumn,
    expression_quoted]
  show (pure (Select.mk "t" [.mk (.column column) none (Expr.lastPart column)] _ _ none none) :
    Meaning σ Select) = _
  rw [Expr.lastPart_eq hdot, selectSorted]

end Sql

/-- **A query for a column** is read as that query, if the name has no dot. -/
theorem Statement.ofText_selectNamed {column : String} (hdot : '.' ∉ column.toList) :
    Statement.ofText ("SELECT " ++ Sql.identifier column ++ " FROM t") =
      .ok (.select (Sql.selectColumn column)) := by
  have htext : "SELECT " ++ Sql.identifier column ++ " FROM t" = String.ofList ("SELECT ".toList ++
      (Text.enclosed '"' column.toList ++ (" FROM ".toList ++ ['t']))) := by
    refine String.toList_inj.mp ?_
    rw [Sql.identifier]
    simp
  rw [htext]
  exact ofText_query (Sql.gives_listing column) (by simp [Sql.listingTokens, Sql.Token.isSemicolon])
    rfl (List.cons_ne_nil _ _) (fun g => Sql.first_listingTokens g column)
    (fun number => Sql.select_listing number hdot)

/-- A query for a column that tests and sorts by the column is read as that query, if the name has no
dot. -/
theorem Statement.ofText_sortNamed {column : String} (hdot : '.' ∉ column.toList) :
    Statement.ofText ("SELECT " ++ Sql.identifier column ++ " FROM t WHERE " ++
        Sql.identifier column ++ " IS NOT NULL ORDER BY " ++ Sql.identifier column) =
      .ok (.select (Sql.selectSorted column)) := by
  have htext : "SELECT " ++ Sql.identifier column ++ " FROM t WHERE " ++ Sql.identifier column ++
      " IS NOT NULL ORDER BY " ++ Sql.identifier column = String.ofList ("SELECT ".toList ++
        (Text.enclosed '"' column.toList ++ (" FROM ".toList ++ ("t WHERE ".toList ++
          (Text.enclosed '"' column.toList ++ (" IS NOT NULL ORDER BY ".toList ++
            Text.enclosed '"' column.toList)))))) := by
    refine String.toList_inj.mp ?_
    rw [Sql.identifier]
    simp
  rw [htext]
  exact ofText_query (Sql.gives_sorting column)
    (by simp [Sql.sortingTokens, Sql.listingTokens, Sql.Token.isSemicolon]) rfl
    (List.cons_ne_nil _ _) (fun g => Sql.first_sortingTokens g column)
    (fun number => Sql.select_sorting number hdot)

end TableQuery
