/-
# TableQuery.Proofs.Sql.Quoting — what is quoted is read back.

A value that can be written as a literal, and a column name, are put into the text of a query and the
text is read.  The query has the shape that was meant whatever characters the name and the value hold,
and its literal is the value again, or one that compares equal to it: truth values are written as
numbers and bytes as the text that they spell.

A literal is one of four kinds (`Literal`); what the scanner, the grammar and the meaning make of a
literal is said once for each kind.

## §A — literals.
## §B — values as literals.
## §C — the query of a quoted name and a quoted value.
-/
import TableQuery.Proofs.Names
import TableQuery.Proofs.Run
import TableQuery.Proofs.Sql.Scanning
import TableQuery.Proofs.ValueOrder
import TableQuery.Sql.Meaning

namespace TableQuery
namespace Sql

/-! ## §A — literals -/

/-- A literal as it is written: a decimal, a decimal behind a minus sign, a text in quotes, NULL. -/
inductive Literal where
  | number (d : Decimal)
  | negative (d : Decimal)
  | text (s : List Char)
  | null

namespace Literal

/-- The characters of a literal. -/
def chars : Literal → List Char
  | number d => d.chars
  | negative d => '-' :: d.chars
  | text s => Text.enclosed '\'' s
  | null => "NULL".toList

/-- The tokens of a literal. -/
def tokens : Literal → List Token
  | number d => [.number (String.ofList d.chars)]
  | negative d => [.sign "-", .number (String.ofList d.chars)]
  | text s => [.string (String.ofList s)]
  | null => [.word "NULL" "NULL"]

/-- The phrase of a literal. -/
def phrase : Literal → Phrase
  | number d => .number (String.ofList d.chars)
  | negative d => .leading .neg (.number (String.ofList d.chars))
  | text s => .string (String.ofList s)
  | null => .null

/-- The value of a literal; none where its numeral has none. -/
def value? : Literal → Option Value
  | number d => (Number.readTrimmed? d.chars).map .ofNumber
  | negative d => (Number.readTrimmed? d.chars).map fun n => .ofNumber n.neg
  | text s => some (.text (String.ofList s))
  | null => some .null

theorem plain_tokens (l : Literal) : Token.Plain l.tokens := by
  cases l <;> simp [tokens, Token.isSemicolon]

/-- A minus sign before a digit is a sign of its own. -/
theorem token?_minus {c : Char} (hc : c.isDigit) (s : List Char) :
    Scan.token? ('-' :: c :: s) = some (.sign "-", c :: s) := by
  have hangle : ('>' == c) = false := by
    rw [beq_eq_false_iff_ne]
    rintro rfl
    exact absurd hc (by decide)
  have hbar : ('|' == c) = false := by
    rw [beq_eq_false_iff_ne]
    rintro rfl
    exact absurd hc (by decide)
  have hlong : Scan.longSigns.find? (fun p => p.1.toList.isPrefixOf ('-' :: c :: s)) = none := by
    simp [Scan.longSigns, List.isPrefixOf, hangle, hbar]
  have hsign : Scan.sign? ('-' :: c :: s) = some (.sign "-", c :: s) := by
    unfold Scan.sign?
    rw [hlong]
    rfl
  unfold Scan.token?
  simp only [hsign]
  rfl

/-- The characters of a literal are its tokens. -/
theorem gives_chars (l : Literal) : Scan.Gives l.chars l.tokens [] := by
  cases l with
  | number d => exact Scan.gives_decimal d
  | negative d =>
    obtain ⟨c, ds, hwhole⟩ := List.exists_cons_of_ne_nil d.whole_ne_nil
    have hc : c.isDigit := d.whole_isDigit c (by rw [hwhole]; exact List.mem_cons_self)
    have hchars : d.chars = c :: (ds ++ (Decimal.point d.fraction ++ Decimal.power d.exponent)) := by
      rw [Decimal.chars, hwhole, List.cons_append]
    have hminus : Scan.Gives ('-' :: d.chars) [.sign "-"] d.chars := by
      rw [hchars]
      refine .token (by decide) ⟨.inr ?_, .inl (by decide)⟩ (token?_minus hc _) (Nat.le_refl _)
      rintro hd
      obtain rfl : c = '-' := by simpa using hd
      exact absurd hc (by decide)
    exact hminus.append (Scan.gives_decimal d)
  | text s =>
    have htext := Scan.gives_string s [] (by decide)
    rwa [List.append_nil] at htext
  | null =>
    have hnull : Scan.token? "NULL".toList = some (.word "NULL" "NULL", []) := by rfl
    exact .token (by decide) (by decide) hnull (by decide)

/-- A literal means its value. -/
theorem expression_phrase {σ : Type} (number : Numbering σ) {l : Literal} {w : Value}
    (h : l.value? = some w) : l.phrase.expression number false = pure (.literal w) := by
  cases l with
  | number d =>
    obtain ⟨n, hn, rfl⟩ := Option.map_eq_some_iff.mp h
    simp only [phrase, Phrase.expression, opposed, numeral, String.toList_ofList, hn]
    rfl
  | negative d =>
    obtain ⟨n, hn, rfl⟩ := Option.map_eq_some_iff.mp h
    have hminus : withMinus (.literal (.ofNumber n)) = .literal (.ofNumber n.neg) := by
      cases n <;> rfl
    simp only [phrase, Phrase.expression, opposed, numeral, String.toList_ofList, hn, ← hminus]
    rfl
  | text s =>
    cases h
    rfl
  | null =>
    cases h
    rfl

end Literal

/-! ## §B — values as literals -/

end Sql

/-- The values that a literal can write: NULL, truth values, integers within the digit limit, finite
numbers, texts, and bytes that are a text. -/
def Value.Quotable : Value → Prop
  | .null | .bool _ | .text _ => True
  | .int i => i.natAbs < 10 ^ digitLimit
  | .float x => x.isFinite = true
  | .blob bytes => (Utf8.decode? bytes).isSome = true
  | _ => False

theorem Number.intText_of_lt {i : Int} (h : i.natAbs < 10 ^ digitLimit) :
    intText i = .ok (toString i) := by
  have hpow (limit : Nat) : 10 ^ limit = Nat.pow 10 limit := rfl
  rw [hpow] at h
  rw [intText, if_pos h]

/-- Bytes that are a text read the same with and without replacement characters. -/
theorem Utf8.decode_agree {bytes : List UInt8} {s : List Char} (h : decode? bytes = some s) :
    decodeLossy bytes = s ∧ decodePoints bytes = s.map Char.toNat := by
  unfold decode? at h
  unfold decodeLossy decodePoints
  generalize pieces bytes = ps at h ⊢
  induction ps generalizing s with
  | nil =>
    cases h
    exact ⟨rfl, rfl⟩
  | cons p ps ih =>
    cases p with
    | bad bs => simp at h
    | char c =>
      simp only [List.mapM_cons, Option.bind_eq_bind, Option.bind_some,
        Option.bind_eq_some_iff] at h
      obtain ⟨t, ht, hs⟩ := h
      cases hs
      obtain ⟨hlossy, hpoints⟩ := ih ht
      exact ⟨congrArg (c :: ·) hlossy, congrArg (c.toNat :: ·) hpoints⟩

namespace Collation

/-- Values that count as the same number have one place in the order. -/
theorem compare_eq_of_number (c : Collation) {v w : Value} {n : Number} (hv : v.number? = some n)
    (hw : w.number? = some n) : c.compare v w = .eq := by
  have hself := (compare_isValueOrder c).refl v
  have hv' : v.isNull = false := isNull_eq_false_of_number (by rw [hv]; rfl)
  have hw' : w.isNull = false := isNull_eq_false_of_number (by rw [hw]; rfl)
  simpa [compare, hv', hw', hv, hw] using hself

/-- Bytes that are a text have the place of the text. -/
theorem compare_blob (c : Collation) {bytes : List UInt8} {s : List Char}
    (h : Utf8.decode? bytes = some s) : c.compare (.blob bytes) (.text (String.ofList s)) = .eq := by
  have hself := (compare_isValueOrder c).refl (.text (String.ofList s))
  have hnumber : (Value.blob bytes).number? = (Value.text (String.ofList s)).number? := by
    simp [Value.number?, h]
  have hpoints : (Value.blob bytes).orderPoints = (Value.text (String.ofList s)).orderPoints := by
    simp [Value.orderPoints, Value.points, Value.printed, (Utf8.decode_agree h).2]
  unfold compare at hself ⊢
  rw [hnumber, hpoints]
  exact hself

end Collation

namespace Sql

/-- **The literal of a value**, which has the value or one that compares equal to it. -/
theorem exists_literal {v : Value} (h : v.Quotable) : ∃ (l : Literal) (w : Value),
    v.sqlLiteral = .ok (String.ofList l.chars) ∧ l.value? = some w ∧
      ((v = .null ∧ w = .null) ∨ Collation.binary.compare v w = .eq) := by
  have hrefl := (Collation.compare_isValueOrder .binary).refl
  cases v with
  | null => exact ⟨.null, .null, rfl, rfl, .inl ⟨rfl, rfl⟩⟩
  | bool b =>
    -- Truth is written as a number, which compares equal to it and is not the same value.
    refine ⟨.number (.ofNat (if b then 1 else 0)), .int (if b then 1 else 0), ?_, ?_, .inr ?_⟩
    · cases b <;> rfl
    · cases b <;> rfl
    · exact Collation.compare_eq_of_number _ rfl rfl
  | int i =>
    have hlimit : i.natAbs < 10 ^ digitLimit := h
    rw [Value.sqlLiteral, Number.intText_of_lt hlimit]
    -- A negative number is written as the negation of a positive one.
    cases i with
    | ofNat n =>
      have hreads := Decimal.readTrimmed?_ofNat (n := n) hlimit
      have htext : toString (Int.ofNat n) = String.ofList (Decimal.ofNat n).chars := by
        rw [Decimal.chars_ofNat, String.ofList_toList]
        rfl
      refine ⟨.number (.ofNat n), .int n, congrArg Except.ok htext, ?_, .inr (hrefl _)⟩
      rw [Literal.value?, hreads]
      rfl
    | negSucc n =>
      have hreads := Decimal.readTrimmed?_ofNat (n := n + 1) hlimit
      have htext : toString (Int.negSucc n) =
          String.ofList ('-' :: (Decimal.ofNat (n + 1)).chars) := by
        rw [Decimal.chars_ofNat, String.ofList_cons, String.ofList_toList]
        rfl
      refine ⟨.negative (.ofNat (n + 1)), .int (.negSucc n), congrArg Except.ok htext, ?_,
        .inr (hrefl _)⟩
      rw [Literal.value?, hreads]
      rfl
  | float x =>
    cases x with
    | nan => cases h
    | infinity negative => cases h
    | finite negative m e hcanonical =>
      -- The text of a double reads back as that double.
      obtain ⟨d, hchars, hreads⟩ := Double.exists_text negative hcanonical
      have htext : (Double.finite negative m e hcanonical).text =
          String.ofList ((if negative then ['-'] else []) ++ d.chars) := by
        rw [← hchars, String.ofList_toList]
      cases negative with
      | false =>
        refine ⟨.number d, .float (.finite false m e hcanonical), congrArg Except.ok htext, ?_,
          .inr (hrefl _)⟩
        rw [Literal.value?, hreads]
        rfl
      | true =>
        refine ⟨.negative d, .float (.finite true m e hcanonical), congrArg Except.ok htext, ?_,
          .inr (hrefl _)⟩
        rw [Literal.value?, hreads]
        rfl
  | text s =>
    refine ⟨.text s.toList, .text s, rfl, ?_, .inr (hrefl _)⟩
    rw [Literal.value?, String.ofList_toList]
  | blob bytes =>
    -- Bytes are written as the text that they encode.
    obtain ⟨s, hs⟩ := Option.isSome_iff_exists.mp h
    refine ⟨.text s, .text (String.ofList s), ?_, rfl, .inr (Collation.compare_blob _ hs)⟩
    rw [Value.sqlLiteral, (Utf8.decode_agree hs).1, Literal.chars]
  | list items => cases h
  | record fields => cases h

/-! ## §C — the query of a quoted name and a quoted value -/

/-- The text of a query for the rows in which a column has a value, both quoted already. -/
def comparingText (name value : List Char) : List Char :=
  "SELECT".toList ++ ' ' :: (Text.enclosed '"' name ++ ' ' :: ("FROM".toList ++ ' ' ::
    ("t".toList ++ ' ' :: ("WHERE".toList ++ ' ' :: (Text.enclosed '"' name ++ ' ' :: '=' :: ' ' ::
      value)))))

/-- The tokens of the query. -/
def comparingTokens (name : String) (l : Literal) : List Token :=
  [.word "SELECT" "SELECT", .quoted name, .word "FROM" "FROM", .word "t" "T", .word "WHERE" "WHERE",
    .quoted name, .sign "="] ++ l.tokens

/-- The query as it is written. -/
def comparing (name : String) (p : Phrase) : Query :=
  .mk false false [.column [.name name true]] (some (.table [.name "t" false] none)) [] false
    (some (.between .eq (.column [.name name true]) p)) none none [] none none []

/-- The text of the query has its tokens. -/
theorem gives_comparingText (name : List Char) (l : Literal) :
    Scan.Gives (comparingText name l.chars) (comparingTokens (String.ofList name) l) [] := by
  have hname (rest : List Char) :
      Scan.Gives (Text.enclosed '"' name ++ ' ' :: rest) [.quoted (String.ofList name)] rest :=
    (Scan.gives_quoted name _ (by simp)).append (.space rest)
  have hequal (rest : List Char) : Scan.Gives ('=' :: ' ' :: rest) [.sign "="] rest :=
    (Scan.Gives.token rfl (by simp) rfl (by simp)).append (.space rest)
  have hwhere := ((Scan.gives_keyword (c := 'W') (w := "HERE".toList) (fun _ => rfl) rfl rfl _).append
    ((hname _).append ((hequal _).append l.gives_chars)))
  have hfrom := ((Scan.gives_keyword (c := 'F') (w := "ROM".toList) (fun _ => rfl) rfl rfl _).append
    ((Scan.gives_keyword (c := 't') (w := []) (fun _ => rfl) rfl rfl _).append hwhere))
  exact (Scan.gives_keyword (c := 'S') (w := "ELECT".toList) (fun _ => rfl) rfl rfl _).append
    ((hname _).append hfrom)

set_option maxRecDepth 4000 in
/-- **The tokens are read as the query**, whatever the name and the literal are. -/
theorem first_comparingTokens (g : Readers) (name : String) (l : Literal) :
    Sentences.first (Readers.tied (Readers.tied (Readers.tied g))) (comparingTokens name l) =
      some (some (.phrase (.query (comparing name l.phrase))), []) := by
  cases l <;> rfl

/-- The query as the engine carries it out. -/
theorem select_comparing {σ : Type} (number : Numbering σ) {name : String}
    (hdot : '.' ∉ name.toList) {l : Literal} {w : Value} (hvalue : l.value? = some w) :
    (comparing name l.phrase).select number =
      pure (.mk "t" [.mk (.column name) none name]
        (some (.binary .eq (.column name) (.literal w))) [] none none) := by
  have hjoin : ".".intercalate [name] = name := by rfl
  have hcolumn : (Phrase.column [.name name true]).expression number false = pure (.column name) :=
    congrArg (fun s => pure (Expr.column s)) hjoin
  have hwhere : (Phrase.between .eq (.column [.name name true]) l.phrase).expression number false =
      pure (.binary .eq (.column name) (.literal w)) := by
    show opposed false (joined .eq ((Phrase.column [.name name true]).expression number false)
      (l.phrase.expression number false)) = _
    rw [hcolumn, Literal.expression_phrase number hvalue]
    rfl
  have haggregate : (comparing name l.phrase).aggregate? = none := by
    cases l <;> rfl
  rw [comparing, Query.select, ← comparing, haggregate]
  simp only [Phrase.resultColumns, Phrase.optionExpression, hwhere, resultColumn, hcolumn]
  show (pure (Select.mk "t" [.mk (.column name) none (Expr.lastPart name)] _ [] none none) :
    Meaning σ Select) = _
  rw [Expr.lastPart_eq hdot]

/-- The text of the query is one statement. -/
theorem sentences?_comparingText (name : List Char) (l : Literal) :
    sentences? (String.ofList (comparingText name l.chars)) =
      some [some (.phrase (.query (comparing (String.ofList name) l.phrase)))] := by
  have hplain : Token.Plain (comparingTokens (String.ofList name) l) := by
    simp [comparingTokens, Token.isSemicolon, l.plain_tokens]
  have hplaced : Scan.placed 0 (comparingTokens (String.ofList name) l) =
      comparingTokens (String.ofList name) l := by
    cases l <;> rfl
  have hread : sentenceOf (comparingTokens (String.ofList name) l) = _ :=
    Scan.sentenceOf_of_first (List.cons_ne_nil _ _)
      fun g => first_comparingTokens g (String.ofList name) l
  rw [Scan.sentences?_of_gives (gives_comparingText name l) hplain, hplaced, hread, Option.map_some]

end Sql

namespace Statement

open Sql

/-- **Quoting is exact.** The query for the rows in which a column has a value, both quoted, is read as
that query: it names the column, and its literal has the value or one that compares equal to it. -/
theorem ofText_quoted {name : String} (hdot : '.' ∉ name.toList) {v : Value} (hv : v.Quotable) :
    ∃ (literal : String) (w : Value), v.sqlLiteral = .ok literal ∧
      Statement.ofText ("SELECT " ++ quoteName name ++ " FROM t WHERE " ++ quoteName name ++ " = " ++
          literal) =
        .ok (.select (.mk "t" [.mk (.column name) none name]
          (some (.binary .eq (.column name) (.literal w))) [] none none)) ∧
      ((v = .null ∧ w = .null) ∨ Collation.binary.compare v w = .eq) := by
  obtain ⟨l, w, hliteral, hvalue, hequal⟩ := exists_literal hv
  refine ⟨String.ofList l.chars, w, hliteral, ?_, hequal⟩
  have htext : "SELECT " ++ quoteName name ++ " FROM t WHERE " ++ quoteName name ++ " = " ++
      String.ofList l.chars = String.ofList (comparingText name.toList l.chars) := by
    refine String.toList_inj.mp ?_
    rw [quoteName_eq hdot]
    -- `rw [comparingText]` would end in comparing the two sides character by character.
    unfold comparingText
    simp only [String.toList_append, String.toList_ofList]
    simp
  have hselect : ∀ number : Numbering Nat,
      (Sentence.phrase (.query (comparing name l.phrase))).statement number =
        pure (.select (.mk "t" [.mk (.column name) none name]
          (some (.binary .eq (.column name) (.literal w))) [] none none)) := by
    intro number
    rw [Sentence.statement, select_comparing number hdot hvalue]
    rfl
  rw [htext, Statement.ofText, sentences?_comparingText, String.ofList_toList]
  show Sql.outcome (fun number =>
    (Sentence.phrase (.query (comparing name l.phrase))).statement number) = _
  rw [Sql.outcome, hselect]
  rfl

/-- A name with quotes and a keyword in it, and a text with a quote. -/
theorem ofText_quoted_keyword :
    '.' ∉ "a \" FROM b".toList ∧ (Value.text "it's").Quotable ∧
      ∃ (literal : String) (w : Value), (Value.text "it's").sqlLiteral = .ok literal ∧
        Statement.ofText ("SELECT " ++ quoteName "a \" FROM b" ++ " FROM t WHERE " ++
            quoteName "a \" FROM b" ++ " = " ++ literal) =
          .ok (.select (.mk "t" [.mk (.column "a \" FROM b") none "a \" FROM b"]
            (some (.binary .eq (.column "a \" FROM b") (.literal w))) [] none none)) ∧
        ((Value.text "it's" = .null ∧ w = .null) ∨
          Collation.binary.compare (.text "it's") w = .eq) :=
  ⟨by decide, trivial, ofText_quoted (by decide) trivial⟩

end Statement
end TableQuery
