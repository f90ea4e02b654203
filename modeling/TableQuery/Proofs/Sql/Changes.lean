/-
# TableQuery.Proofs.Sql.Changes — changes that name their columns in quotes, read back.

The text of an INSERT of one row of markers is read as that INSERT, whatever the names of its table and
of its columns are, and the text of an UPDATE of one column as that UPDATE.  Both are read from left to
right: what a reader takes is computed where the tokens are known, and a list of columns is taken
apart by induction (`commaList_separated`).

## §A — items between commas.
## §B — the tokens of an INSERT.
## §C — an INSERT.
-/
import TableQuery.Database.Change
import TableQuery.Proofs.Names
import TableQuery.Proofs.Run
import TableQuery.Proofs.Sql.Scanning
import TableQuery.Sql.Meaning

namespace TableQuery
namespace Sql

/-! ## §A — items between commas -/

/-- One reader behind the other. -/
theorem Reader.bind_eq {α β : Type} {r : Reader α} {f : α → Reader β} {ts us vs : List Token} {a : α}
    {b : β} (h : r ts = some (a, us)) (h' : f a us = some (b, vs)) :
    (r >>= f) ts = some (b, vs) := by
  show (r ts).bind (fun p => f p.1 p.2) = _
  rw [h]
  exact h'

/-- Tokens with commas between them. -/
def separated (ts : List Token) : List Token := ts.intersperse (.sign ",")

/-- What stands behind an item of a list in parentheses. -/
inductive EndsItem : List Token → Prop where
  | comma (rest : List Token) : EndsItem (.sign "," :: rest)
  | close (rest : List Token) : EndsItem (.sign ")" :: rest)

/-- **Items between commas** up to a closing parenthesis are read one by one. -/
theorem commaList_separated {α β : Type} {item : Reader (Option α)} {token : β → Token}
    {answer : β → α} (hitem : ∀ b after, EndsItem after →
      item (token b :: after) = some (some (answer b), after)) {bs : List β} (hbs : bs ≠ [])
    (rest : List Token) {fuel : Nat} (hfuel : bs.length ≤ fuel) :
    Reader.commaList item fuel (separated (bs.map token) ++ .sign ")" :: rest) =
      some (bs.map answer, .sign ")" :: rest) := by
  induction bs generalizing fuel with
  | nil => exact absurd rfl hbs
  | cons b bs ih =>
    obtain ⟨fuel, rfl⟩ : ∃ k, fuel = k + 1 := ⟨fuel - 1, by simp at hfuel; omega⟩
    cases bs with
    | nil => exact Reader.bind_eq (hitem b _ (.close rest)) rfl
    | cons c bs =>
      have hrest := ih (List.cons_ne_nil c bs) (Nat.le_of_succ_le_succ hfuel)
      refine Reader.bind_eq (hitem b _ (.comma _)) ?_
      refine Reader.bind_eq (a := true) rfl ?_
      exact Reader.bind_eq hrest rfl

theorem list_separated {α β : Type} {item : Reader (Option α)} {token : β → Token}
    {answer : β → α} (hitem : ∀ b after, EndsItem after →
      item (token b :: after) = some (some (answer b), after)) {bs : List β} (hbs : bs ≠ [])
    (rest : List Token) :
    Reader.list item (separated (bs.map token) ++ .sign ")" :: rest) =
      some (bs.map answer, .sign ")" :: rest) := by
  refine Reader.bind_eq rfl (commaList_separated hitem hbs rest ?_)
  simp [separated]
  omega

/-- Items that are tokens each are tokens between commas. -/
theorem gives_separated {β : Type} (chars : β → List Char) {token : β → Token}
    (hitem : ∀ b after, after.head? = some ',' ∨ after.head? = some ')' →
      Scan.Gives (chars b ++ after) [token b] after) (bs : List β) (rest : List Char) :
    Scan.Gives ([',', ' '].intercalate (bs.map chars) ++ ')' :: rest) (separated (bs.map token))
      (')' :: rest) := by
  induction bs with
  | nil => exact .nil _
  | cons b bs ih =>
    cases bs with
    | nil =>
      have hone : [',', ' '].intercalate ([b].map chars) ++ ')' :: rest = chars b ++ ')' :: rest := by
        simp [List.intercalate]
      rw [hone]
      exact hitem b _ (.inr rfl)
    | cons c bs =>
      have hmore : [',', ' '].intercalate ((b :: c :: bs).map chars) ++ ')' :: rest =
          chars b ++ ',' :: ' ' :: ([',', ' '].intercalate ((c :: bs).map chars) ++ ')' :: rest) := by
        simp [List.intercalate_cons_cons]
      have hcomma (after : List Char) : Scan.Gives (',' :: ' ' :: after) [.sign ","] after :=
        (Scan.Gives.token rfl (by simp) rfl (by simp)).append (.space after)
      rw [hmore]
      exact (hitem b _ (.inl rfl)).append ((hcomma _).append ih)

/-- Question marks between commas are counted one after the other. -/
theorem placed_questions (n : Nat) {β : Type} (bs : List β) (rest : List Token) :
    Scan.placed n (separated (bs.map fun _ => .question 0) ++ rest) =
      separated ((List.range' n bs.length).map .question) ++ Scan.placed (n + bs.length) rest := by
  induction bs generalizing n with
  | nil => rfl
  | cons b bs ih =>
    cases bs with
    | nil => rfl
    | cons c bs =>
      have hrest := ih (n + 1)
      rw [Nat.add_assoc, Nat.add_comm 1] at hrest
      exact congrArg (fun ts => .question n :: .sign "," :: ts) hrest

theorem plain_separated {ts : List Token} (h : Token.Plain ts) : Token.Plain (separated ts) := by
  induction ts with
  | nil => exact Token.plain_nil
  | cons t ts ih =>
    obtain ⟨ht, hts⟩ := Token.plain_cons.mp h
    cases ts with
    | nil => exact h
    | cons u us => exact Token.plain_cons.mpr ⟨ht, Token.plain_cons.mpr ⟨rfl, ih hts⟩⟩

/-- Names between commas are counted as nothing. -/
theorem placed_quoted (n : Nat) (columns : List String) (rest : List Token) :
    Scan.placed n (separated (columns.map .quoted) ++ rest) =
      separated (columns.map .quoted) ++ Scan.placed n rest := by
  induction columns with
  | nil => rfl
  | cons c cs ih =>
    cases cs with
    | nil => rfl
    | cons d ds => exact congrArg (fun ts => .quoted c :: .sign "," :: ts) ih

/-! ## §B — operands of one token -/

namespace Reader

variable {α β : Type}

theorem bind_apply (r : Reader α) (f : α → Reader β) (ts : List Token) :
    (r >>= f) ts = (r ts).bind fun p => f p.1 p.2 := rfl

theorem pure_apply (a : α) (ts : List Token) : (pure a : Reader α) ts = some (a, ts) := rfl

theorem get_apply (ts : List Token) : (get : Reader (List Token)) ts = some (ts, ts) := rfl

theorem peek_apply (ts : List Token) : peek ts = some (ts.head?, ts) := rfl

end Reader

/-- What stands behind an operand and belongs to no operator that binds tighter than `=`. -/
inductive EndsOperand : List Token → Prop where
  | item {rest : List Token} (h : EndsItem rest) : EndsOperand rest
  | equals (rest : List Token) : EndsOperand (.sign "=" :: rest)
  | condition (rest : List Token) : EndsOperand (.word "WHERE" "WHERE" :: rest)

open Reader Operand Operators

namespace EndsOperand

variable {rest : List Token} (h : EndsOperand rest)
include h

theorem word_eq {key : String} (hkey : key ≠ "WHERE") : word key rest = some (false, rest) := by
  rcases h with (_ | _) | _ | _ <;> simp [word, Token.isWord, hkey.symm]

theorem words_eq {key : String} {keys : List String} (hkey : key ≠ "WHERE") :
    words (key :: keys) rest = some (false, rest) := by
  rcases h with (_ | _) | _ | _ <;> simp [words, Token.isWord, hkey.symm]

theorem seesWord_eq {key : String} (hkey : key ≠ "WHERE") :
    seesWord key rest = some (false, rest) := by
  rcases h with (_ | _) | _ | _ <;>
    simp [seesWord, bind_apply, peek_apply, pure_apply, Token.isWord, hkey.symm]

/-- Signs that do not stand behind an operand of one token. -/
def Other (text : String) : Prop := text ≠ "," ∧ text ≠ ")" ∧ text ≠ "="

omit h in
instance (text : String) : Decidable (Other text) := by unfold Other; infer_instance

theorem sign_eq (text : String) (htext : Other text) : sign text rest = some (false, rest) := by
  obtain ⟨hcomma, hclose, hequals⟩ := htext
  rcases h with (_ | _) | _ | _ <;>
    simp [sign, Token.isSign, hcomma.symm, hclose.symm, hequals.symm]

theorem signOf_eq (signs : List (String × Infix)) (hsigns : ∀ s ∈ signs, Other s.1) :
    signOf signs rest = some (none, rest) := by
  have hnone : ∀ text, ¬ Other text → signs.lookup text = none := by
    intro text htext
    rw [List.lookup_eq_none_iff]
    intro s hs
    rw [bne_iff_ne]
    rintro rfl
    exact htext (hsigns s hs)
  rcases h with (_ | _) | _ | _
  · simp [signOf, hnone "," (by decide)]
  · simp [signOf, hnone ")" (by decide)]
  · simp [signOf, hnone "=" (by decide)]
  · rfl

theorem doubled_eq (s : String) (op : Infix) (hs : Other s) :
    doubled s op rest = some (none, rest) := by
  obtain ⟨hcomma, hclose, hequals⟩ := hs
  rcases h with (rest | rest) | rest | rest
  all_goals
    rcases rest with _ | ⟨t, rest⟩
    · rfl
    · cases t <;> simp [doubled, hcomma.symm, hclose.symm, hequals.symm]

theorem testWord_eq : testWord rest = some (none, rest) := by
  rcases h with (_ | _) | _ | _ <;> rfl

theorem fieldsFrom_eq (g : Readers) (p : Phrase) (fuel : Nat) :
    fieldsFrom g fuel p rest = some (p, rest) := by
  cases fuel with
  | zero => rfl
  | succ fuel => rcases h with (_ | _) | _ | _ <;> rfl

end EndsOperand

section
variable {g : Readers} {p : Phrase} {ts rest : List Token}

theorem factor_of_unary (h : unary g ts = some (some p, rest)) (hrest : EndsOperand rest) :
    factor g ts = some (some p, rest) := by
  have hsigns := hrest.signOf_eq [("*", .mul), ("/", .div)] (by decide)
  simp [factor, h, bind_apply, pure_apply, get_apply, withZone, productsFrom, hrest.words_eq,
    hrest.word_eq, hsigns]

theorem term_of_factor (h : factor g ts = some (some p, rest)) (hrest : EndsOperand rest) :
    term g ts = some (some p, rest) := by
  have hsigns := hrest.signOf_eq [("+", .add), ("-", .sub), ("%", .mod)] (by decide)
  simp [term, h, bind_apply, pure_apply, get_apply, sumsFrom, hrest.word_eq, hsigns]

theorem bitwise_of_term (h : term g ts = some (some p, rest)) (hrest : EndsOperand rest) :
    bitwise g ts = some (some p, rest) := by
  have hsigns := hrest.signOf_eq
    [("&", .bitAnd), ("^", .bitXor), ("|", .bitOr), ("||", .concat)] (by decide)
  have hleft := hrest.doubled_eq "<" .shiftLeft (by decide)
  have hright := hrest.doubled_eq ">" .shiftRight (by decide)
  have hcoalesce := hrest.sign_eq "??" (by decide)
  simp [bitwise, h, bind_apply, pure_apply, get_apply, bitsFrom, orElse, hsigns, hleft, hright,
    hcoalesce]

theorem range_of_bitwise (h : bitwise g ts = some (some p, rest)) (hrest : EndsOperand rest) :
    range g ts = some (some p, rest) := by
  simp [range, h, bind_apply, pure_apply, test, range.rest, orM, toBool, hrest.word_eq,
    hrest.seesWord_eq, hrest.testWord_eq]

theorem comparison_of_range (h : range g ts = some (some p, rest)) (hrest : EndsOperand rest) :
    comparison g ts = some (some p, rest) := by
  have hsigns := hrest.signOf_eq
    [("<", .lt), ("<=", .le), (">", .gt), (">=", .ge)] (by decide)
  simp [comparison, chain, h, bind_apply, pure_apply, hsigns]

/-- Behind an operand that stands alone, no operator up to the level of `<` follows. -/
theorem comparison_of_unary (h : unary g ts = some (some p, rest)) (hrest : EndsOperand rest) :
    comparison g ts = some (some p, rest) :=
  comparison_of_range (range_of_bitwise (bitwise_of_term
    (term_of_factor (factor_of_unary h hrest) hrest) hrest) hrest) hrest

/-- A question mark is an operand. -/
theorem unary_question (place : Nat) (hrest : EndsOperand rest) :
    unary g (.question place :: rest) = some (some (.question place), rest) := by
  have hfields := hrest.fieldsFrom_eq g (.question place) (rest.length + 1)
  refine Reader.bind_eq rfl (Reader.bind_eq rfl (Reader.bind_eq rfl (Reader.bind_eq rfl ?_)))
  refine Reader.bind_eq (a := none) rfl (Reader.bind_eq (a := none) rfl ?_)
  exact Reader.bind_eq rfl (Reader.bind_eq (Reader.bind_eq rfl hfields) rfl)

/-- A quoted name is an operand. -/
theorem unary_quoted (text : String) (hrest : EndsOperand rest) :
    unary g (.quoted text :: rest) = some (some (.column [.name text true]), rest) := by
  have hfields := hrest.fieldsFrom_eq g (.column [.name text true]) (rest.length + 1)
  have hreference : reference g (.quoted text :: rest) =
      some (some (.column [.name text true]), rest) := by
    rcases hrest with (_ | _) | _ | _ <;> rfl
  refine Reader.bind_eq rfl (Reader.bind_eq rfl (Reader.bind_eq rfl (Reader.bind_eq rfl ?_)))
  refine Reader.bind_eq (a := none) rfl (Reader.bind_eq (a := none) rfl ?_)
  exact Reader.bind_eq hreference (Reader.bind_eq (Reader.bind_eq rfl hfields) rfl)

/-- A question mark in a list is a phrase. -/
theorem phrase_question (place : Nat) (hrest : EndsItem rest) :
    phrase g (.question place :: rest) = some (some (.question place), rest) := by
  have hends := EndsOperand.item hrest
  have hcomparison := comparison_of_unary (g := g) (unary_question place hends) hends
  have hequality : equality g (.question place :: rest) = some (some (.question place), rest) :=
    Reader.bind_eq hcomparison (by rcases hrest with _ | _ <;> rfl)
  have hcondition : condition g (.question place :: rest) = some (some (.question place), rest) := by
    simp [condition, conjunction, chain, hequality, bind_apply, pure_apply, wordOf, hends.word_eq]
  have hassignment : Operators.assignment g (.question place :: rest) =
      some (some (.question place), rest) :=
    Reader.bind_eq hcondition (by rcases hrest with _ | _ <;> rfl)
  exact Reader.bind_eq hassignment (by rcases hrest with _ | _ <;> rfl)

end

/-! ## §C — the tokens of an INSERT -/

/-- How a table is named in a text: in quotes, or by the word `t`. -/
inductive TableToken where
  | quoted (name : String)
  | bare

namespace TableToken

/-- The name of the table. -/
def name : TableToken → String
  | quoted name => name
  | bare => "t"

/-- The characters. -/
def chars : TableToken → List Char
  | quoted name => Text.enclosed '"' name.toList
  | bare => ['t']

/-- The token. -/
def token : TableToken → Token
  | quoted name => .quoted name
  | bare => .word "t" "T"

/-- The phrase. -/
def part : TableToken → Phrase
  | quoted name => .name name true
  | bare => .name "t" false

theorem gives_chars (t : TableToken) (rest : List Char) :
    Scan.Gives (t.chars ++ ' ' :: rest) [t.token] rest := by
  cases t with
  | quoted name =>
    have hname := (Scan.gives_quoted name.toList (' ' :: rest) (by simp)).append (.space rest)
    rwa [String.ofList_toList] at hname
  | bare => exact Scan.gives_keyword (c := 't') (w := []) (fun _ => rfl) rfl rfl rest

end TableToken

/-- The tokens of an INSERT of a row of question marks. -/
def insertTokens (t : TableToken) (columns : List String) (marks : List Token) : List Token :=
  .word "INSERT" "INSERT" :: .word "INTO" "INTO" :: t.token :: .sign "(" ::
    (separated (columns.map .quoted) ++ .sign ")" :: .word "VALUES" "VALUES" :: .sign "(" ::
      (separated marks ++ [.sign ")"]))

/-- The text of an INSERT of a row of question marks. -/
def insertChars (t : TableToken) (columns : List String) : List Char :=
  "INSERT".toList ++ ' ' :: ("INTO".toList ++ ' ' :: (t.chars ++ ' ' :: '(' ::
    ([',', ' '].intercalate (columns.map fun c => Text.enclosed '"' c.toList) ++ ')' :: ' ' ::
      ("VALUES".toList ++ ' ' :: '(' ::
        ([',', ' '].intercalate (columns.map fun _ => ['?']) ++ [')'])))))

/-- A question mark before a comma or a parenthesis is a marker. -/
theorem gives_question {after : List Char} (h : after.head? = some ',' ∨ after.head? = some ')') :
    Scan.Gives ('?' :: after) [.question 0] after := by
  cases after with
  | nil => simp at h
  | cons d more =>
    rcases h with hd | hd <;> cases hd
    · exact .token rfl (by simp) rfl (by simp)
    · exact .token rfl (by simp) rfl (by simp)

/-- A quoted name before a comma or a parenthesis is a name. -/
theorem gives_column (column : String) {after : List Char}
    (h : after.head? = some ',' ∨ after.head? = some ')') :
    Scan.Gives (Text.enclosed '"' column.toList ++ after) [.quoted column] after := by
  have hname := Scan.gives_quoted column.toList after (by rcases h with h | h <;> simp [h])
  rwa [String.ofList_toList] at hname

theorem gives_insertChars (t : TableToken) (columns : List String) :
    Scan.Gives (insertChars t columns) (insertTokens t columns (columns.map fun _ => .question 0))
      [] := by
  have hopen (rest : List Char) : Scan.Gives ('(' :: rest) [.sign "("] rest :=
    .token rfl (by simp) rfl (by simp)
  have hclose (rest : List Char) : Scan.Gives (')' :: rest) [.sign ")"] rest :=
    .token rfl (by simp) rfl (by simp)
  have hmarks := (gives_separated (fun _ : String => ['?'])
    (fun _ _ hafter => gives_question hafter) columns []).append (hclose [])
  have hvalues :=
    (Scan.gives_keyword (c := 'V') (w := "ALUES".toList) (fun _ => rfl) rfl rfl _).append
      ((hopen _).append hmarks)
  have hcolumns := (gives_separated (fun c : String => Text.enclosed '"' c.toList)
    (fun c _ hafter => gives_column c hafter) columns _).append
      ((hclose _).append ((Scan.Gives.space _).append hvalues))
  have hinto :=
    (Scan.gives_keyword (c := 'I') (w := "NTO".toList) (fun _ => rfl) rfl rfl _).append
      ((t.gives_chars _).append ((hopen _).append hcolumns))
  exact (Scan.gives_keyword (c := 'I') (w := "NSERT".toList) (fun _ => rfl) rfl rfl _).append hinto

/-! ## §D — an INSERT -/

/-- The markers of some places. -/
def questions (places : List Nat) : List Phrase := places.map .question

/-- The columns in parentheses are read as names. -/
theorem insertColumns_separated (g : Readers) {columns : List String} (hcolumns : columns ≠ [])
    (rest : List Token) :
    Sentences.insertColumns (Readers.tied g)
        (.sign "(" :: (separated (columns.map .quoted) ++ .sign ")" :: rest)) =
      some (columns.map fun c => .name c true, rest) := by
  obtain ⟨c, cs, rfl⟩ := List.exists_cons_of_ne_nil hcolumns
  obtain ⟨more, hmore⟩ : ∃ more, separated ((c :: cs).map .quoted) ++ .sign ")" :: rest =
      .quoted c :: more := by
    cases cs <;> exact ⟨_, rfl⟩
  refine Reader.bind_eq rfl (Reader.bind_eq (?_ : _ = some (none,
    .sign "(" :: (separated ((c :: cs).map .quoted) ++ .sign ")" :: rest))) (Reader.bind_eq rfl ?_))
  · -- No query stands in the parentheses, as they begin with a name.
    rw [hmore]
    rfl
  · refine Reader.bind_eq (a := true) rfl (Reader.bind_eq
      (list_separated ?_ (List.cons_ne_nil c cs) rest) rfl)
    rintro b after (rest | rest)
    · rfl
    · rfl

/-- The row of markers is read as a row. -/
theorem valueRows_separated (g : Readers) {places : List Nat} (hplaces : places ≠ []) :
    Queries.valueRows (Readers.tied g)
        (.word "VALUES" "VALUES" :: .sign "(" :: (separated (places.map .question) ++ [.sign ")"])) =
      some (some (.rows [.tuple (questions places)]), []) := by
  have hitem : ∀ (n : Nat) (after : List Token), EndsItem after → (do
        if ← Reader.seesWord "DEFAULT" then
          Reader.skip
          return some (.other "Var" "DEFAULT" [])
        (Readers.tied g).phrase : Reader (Option Phrase)) (.question n :: after) =
      some (some (.question n), after) := by
    intro n after hafter
    exact Reader.bind_eq rfl (phrase_question n hafter)
  have hrow : Queries.row (Readers.tied g)
      (.sign "(" :: (separated (places.map .question) ++ [.sign ")"])) =
        some (some (.tuple (questions places)), []) := by
    refine Reader.bind_eq (a := true) rfl ?_
    exact Reader.bind_eq (list_separated hitem hplaces []) rfl
  have hrows : Reader.list (Queries.row (Readers.tied g))
      (.sign "(" :: (separated (places.map .question) ++ [.sign ")"])) =
        some ([.tuple (questions places)], []) :=
    Reader.bind_eq rfl (Reader.bind_eq hrow rfl)
  refine Reader.bind_eq rfl (Reader.bind_eq (a := false) rfl ?_)
  refine Reader.bind_eq (a := true) rfl ?_
  exact Reader.bind_eq hrows rfl

/-- The INSERT as it is written. -/
def insertSentence (t : TableToken) (columns : List String) (places : List Nat) : Sentence :=
  .insert (.table [t.part] none) (columns.map fun c => .name c true)
    (some (.rows [.tuple (questions places)])) []

set_option maxRecDepth 2000 in
/-- **The tokens are read as the INSERT.** -/
theorem first_insertTokens (g : Readers) (t : TableToken) {columns : List String}
    (hcolumns : columns ≠ []) {places : List Nat} (hplaces : places ≠ []) :
    Sentences.first (Readers.tied (Readers.tied g)) (insertTokens t columns (places.map .question)) =
      some (some (insertSentence t columns places), []) := by
  have hinsert : Sentences.insert (Readers.tied (Readers.tied g))
      (.word "INTO" "INTO" :: t.token :: .sign "(" ::
        (separated (columns.map .quoted) ++ .sign ")" :: .word "VALUES" "VALUES" :: .sign "(" ::
          (separated (places.map .question) ++ [.sign ")"]))) =
        some (insertSentence t columns places, []) := by
    have hparts (rest : List Token) : Queries.tableName (Readers.tied (Readers.tied g)) true
        (t.token :: .sign "(" :: rest) = some ([t.part], .sign "(" :: rest) := by
      cases t <;> rfl
    have htable (rest : List Token) : Reader.word "TABLE" (t.token :: rest) =
        some (false, t.token :: rest) := by
      cases t <;> rfl
    -- Neither OVERWRITE nor IGNORE nor OR stands behind the word, and no alias behind the columns.
    refine Reader.bind_eq (a := []) rfl ?_
    refine Reader.bind_eq (a := []) rfl ?_
    refine Reader.bind_eq (a := []) rfl ?_
    refine Reader.bind_eq (a := true) rfl ?_
    refine Reader.bind_eq (htable _) ?_
    refine Reader.bind_eq (hparts _) ?_
    refine Reader.bind_eq (insertColumns_separated (Readers.tied g) hcolumns _) ?_
    refine Reader.bind_eq (a := false) rfl ?_
    simp only [Bool.and_false, Bool.false_eq_true, if_false]
    refine Reader.bind_eq (a := []) rfl ?_
    refine Reader.bind_eq (a := false) rfl ?_
    exact Reader.bind_eq (valueRows_separated (Readers.tied g) hplaces) rfl
  exact Reader.bind_eq rfl (Reader.bind_eq rfl (Reader.bind_eq rfl (Reader.bind_eq hinsert rfl)))

/-- The markers of the places from one on, each under its own number. -/
def markersFrom (n count : Nat) : List Expr :=
  (List.range' n count).map fun i => .marker { index := some (Int.ofNat i) }

/-- Counting numbers the markers of a row one after the other, wherever they stand. -/
theorem outcome_expressions_questions (n : Nat) (places : List Nat) :
    (Phrase.expressions .counting (questions places)).outcome n =
      (.ok (markersFrom n places.length), n + places.length) := by
  induction places generalizing n with
  | nil => rfl
  | cons place places ih =>
    have hfirst : ((Phrase.question place).expression .counting false).outcome n =
        (.ok (.marker { index := some (Int.ofNat n) }), n + 1) := rfl
    have hrest := ih (n + 1)
    rw [Nat.add_assoc, Nat.add_comm 1] at hrest
    show Run.outcome (do
      let e ← (Phrase.question place).expression .counting false
      return e :: (← Phrase.expressions .counting (questions places))) n = _
    rw [Run.outcome_bind, hfirst, Run.resume_ok, Run.outcome_bind, hrest]
    rfl

/-- The INSERT of a row of markers. -/
def insertOfMarkers (table : String) (columns : List String) : Insert where
  table := table
  columns := columns
  rows := [markersFrom 0 columns.length]

/-- A table is known by its name, unless the name is empty. -/
theorem tableName_part {σ : Type} (keyword : String) (t : TableToken) :
    tableName keyword (some (.table [t.part] none)) =
      (if t.name = "" then refuse (.noTable keyword) else pure t.name : Meaning σ String) := by
  cases t with
  | bare => rfl
  | quoted name =>
    by_cases hname : name = ""
    · subst hname
      rfl
    · simp [tableName, TableToken.part, TableToken.name, hname]

/-- The sentence states the INSERT, if its table has a name. -/
theorem statement_insertSentence (t : TableToken) {columns : List String} {places : List Nat}
    (hlength : places.length = columns.length) :
    Sql.outcome (fun number => (insertSentence t columns places).statement number) =
      if t.name = "" then .error (.parse (.noTable "INSERT"))
      else .ok (.insert (insertOfMarkers t.name columns)) := by
  have hcolumns : (columns.map fun c => Phrase.name c true).map Phrase.plainName = columns := by
    rw [List.map_map]
    exact List.map_id columns
  have hrow : (rowValues .counting columns.length (.tuple (questions places))).outcome 0 =
      (.ok (markersFrom 0 columns.length), columns.length) := by
    have hitems := outcome_expressions_questions 0 places
    rw [hlength, Nat.zero_add] at hitems
    have hcount : ¬ (columns.length ≠ 0 ∧ (markersFrom 0 columns.length).length ≠ columns.length) := by
      simp [markersFrom]
    simp only [rowValues]
    rw [Run.outcome_bind, hitems, Run.resume_ok, if_neg hcount]
    rfl
  simp only [insertSentence, Sentence.statement, hcolumns, tableName_part, List.mapM_cons,
    List.mapM_nil]
  by_cases hname : t.name = ""
  · rw [if_pos hname, if_pos hname]
    rfl
  · rw [if_neg hname, if_neg hname, Sql.outcome, pure_bind, Run.outcome_bind, Run.outcome_bind, hrow]
    rfl

theorem plain_insertTokens (t : TableToken) (columns : List String) {marks : List Token}
    (hmarks : Token.Plain marks) : Token.Plain (insertTokens t columns marks) := by
  have htable : t.token.isSemicolon = false := by cases t <;> rfl
  have hcolumns : Token.Plain (separated (columns.map .quoted)) := by
    refine plain_separated fun u hu => ?_
    obtain ⟨c, -, rfl⟩ := List.mem_map.mp hu
    rfl
  simp only [insertTokens, Token.plain_cons, Token.plain_append]
  exact ⟨rfl, rfl, htable, rfl, hcolumns, rfl, rfl, rfl, plain_separated hmarks, rfl, Token.plain_nil⟩

theorem placed_insertTokens (t : TableToken) (columns : List String) :
    Scan.placed 0 (insertTokens t columns (columns.map fun _ => .question 0)) =
      insertTokens t columns ((List.range' 0 columns.length).map .question) := by
  cases t <;>
    simp only [insertTokens, TableToken.token, Scan.placed, placed_quoted, placed_questions]

/-- The text of the INSERT is one statement. -/
theorem sentences?_insertChars (t : TableToken) {columns : List String} (hcolumns : columns ≠ []) :
    sentences? (String.ofList (insertChars t columns)) =
      some [some (insertSentence t columns (List.range' 0 columns.length))] := by
  have hplaces : List.range' 0 columns.length ≠ [] := by
    simpa using hcolumns
  have hplain : Token.Plain (insertTokens t columns (columns.map fun _ => .question 0)) := by
    refine plain_insertTokens t columns fun u hu => ?_
    obtain ⟨c, -, rfl⟩ := List.mem_map.mp hu
    rfl
  have hread : sentenceOf (insertTokens t columns ((List.range' 0 columns.length).map .question)) = _ :=
    Scan.sentenceOf_of_first (List.cons_ne_nil _ _)
      fun g => first_insertTokens (Readers.tied g) t hcolumns hplaces
  rw [Scan.sentences?_of_gives (gives_insertChars t columns) hplain, placed_insertTokens, hread,
    Option.map_some]

end Sql

/-- **The text of an INSERT** of some columns is read as that INSERT, if its table has a name. -/
theorem Statement.ofText_insertText {table : String} (htable : '.' ∉ table.toList)
    {columns : List String} (hcolumns : columns ≠ []) (hdots : ∀ c ∈ columns, '.' ∉ c.toList) :
    Statement.ofText (Database.insertText table columns) =
      if table = "" then .error (.parse (.noTable "INSERT"))
      else .ok (.insert (Sql.insertOfMarkers table columns)) := by
  have hquoted : columns.map quoteName =
      columns.map fun c => String.ofList (Text.enclosed '"' c.toList) :=
    List.map_congr_left fun c hc => quoteName_eq (hdots c hc)
  have htext : Database.insertText table columns =
      String.ofList (Sql.insertChars (.quoted table) columns) := by
    refine String.toList_inj.mp ?_
    -- `rw` would end in comparing the two sides character by character.
    unfold Database.insertText Sql.insertChars
    simp only [quoteName_eq htable, hquoted, String.toList_append, String.toList_ofList,
      String.toList_intercalate, List.map_map]
    simp [Sql.TableToken.chars, Function.comp_def]
  rw [htext, Statement.ofText, Sql.sentences?_insertChars _ hcolumns]
  exact Sql.statement_insertSentence (.quoted table) (List.length_range' ..)

end TableQuery
