/-
# TableQuery.Proofs.Sql.Scanning — texts put together scan as their tokens do.

`Scan.Gives s ts rest` says that the text `s` starts with the tokens `ts` and leaves `rest`, with
blanks and comments between the tokens.  Each step looks at what really follows, so the relation can be
composed (`Gives.append`) without cutting a token in two.  A text that it holds of scans as the tokens
(`ofText?_of_gives`), and it holds of every text that scans without a semicolon (`gives_of_ofText?`):
what comments do to semicolons is all that the relation leaves out.

A mark written twice inside a quoted text is read back as one mark (`gives_quoted`,
`gives_string`), whatever else the text holds, and a decimal is one token (`gives_decimal`), as is a
keyword with a blank behind it (`gives_keyword`).

## §A — texts and their tokens.
## §B — quoted texts.
## §C — numbers.
## §D — words.
-/
import TableQuery.Proofs.Number.Decimal
import TableQuery.Sql.Grammar
import TableQuery.Sql.Quote

namespace TableQuery
namespace Sql

/-! ## §A — texts and their tokens -/

namespace Token

/-- A semicolon, whatever comment belongs to it. -/
def isSemicolon : Token → Bool
  | .semicolon _ => true
  | _ => false

/-- No semicolon stands among the tokens. -/
def Plain (ts : List Token) : Prop := ∀ t ∈ ts, t.isSemicolon = false

@[simp]
theorem plain_nil : Plain [] := nofun

@[simp]
theorem plain_cons {t : Token} {ts : List Token} :
    Plain (t :: ts) ↔ t.isSemicolon = false ∧ Plain ts := List.forall_mem_cons

@[simp]
theorem plain_append {ts us : List Token} : Plain (ts ++ us) ↔ Plain ts ∧ Plain us :=
  List.forall_mem_append

@[simp]
theorem plain_reverse {ts : List Token} : Plain ts.reverse ↔ Plain ts := by
  simp [Plain]

end Token

namespace Scan

theorem run_nil (fuel : Nat) (place : Place) (done : List Token) :
    run fuel place done [] = some (if place.waiting then giveComment done else done).reverse := by
  cases fuel <;> rfl

section
variable {fuel : Nat} {place : Place} {done : List Token} {c : Char} {s after : List Char} {t : Token}

/-- One step of the scan. -/
theorem run_cons :
    run (fuel + 1) place done (c :: s) =
      if Text.isBlank c then
        run fuel (if isLineEnd c then { place with sameLine := false } else place) done s
      else
        match c, s with
        | '-', '-' :: more =>
          run fuel (afterComment place done).1 (afterComment place done).2
            (more.dropWhile fun d => !isLineEnd d)
        | '/', '*' :: more =>
          match afterBlock more with
          | none => none
          | some after => run fuel (afterComment place done).1 (afterComment place done).2 after
        | _, _ =>
          match token? (c :: s) with
          | none => none
          | some (t, after) => run fuel ⟨false, true⟩ (takeComment place t :: done) after := rfl

theorem run_blank (h : Text.isBlank c = true) :
    run (fuel + 1) place done (c :: s) =
      run fuel (if isLineEnd c then { place with sameLine := false } else place) done s := by
  rw [run_cons, if_pos h]

theorem run_line :
    run (fuel + 1) place done ('-' :: '-' :: s) =
      run fuel (afterComment place done).1 (afterComment place done).2
        (s.dropWhile fun d => !isLineEnd d) := by
  rw [run_cons, if_neg (by decide)]
  rfl

theorem run_block :
    run (fuel + 1) place done ('/' :: '*' :: s) =
      (afterBlock s).bind (run fuel (afterComment place done).1 (afterComment place done).2) := by
  rw [run_cons, if_neg (by decide)]
  show (match afterBlock s with
    | none => none
    | some after => run fuel (afterComment place done).1 (afterComment place done).2 after) = _
  cases afterBlock s <;> rfl

theorem run_token (hblank : ¬ Text.isBlank c = true)
    (hline : ∀ more, c = '-' → s = '-' :: more → False)
    (hblock : ∀ more, c = '/' → s = '*' :: more → False) :
    run (fuel + 1) place done (c :: s) =
      (token? (c :: s)).bind fun p => run fuel ⟨false, true⟩ (takeComment place p.1 :: done) p.2 := by
  rw [run_cons, if_neg hblank]
  split
  next => exact (hline _ rfl rfl).elim
  next => exact (hblock _ rfl rfl).elim
  next => cases token? (c :: s) <;> rfl

end

/-- In some steps the text gives the tokens and leaves the rest. -/
inductive Steps : Nat → List Char → List Token → List Char → Prop where
  | done (s : List Char) : Steps 0 s [] s
  | blank {n : Nat} {c : Char} {s rest : List Char} {ts : List Token}
      (hblank : Text.isBlank c = true) (h : Steps n s ts rest) : Steps (n + 1) (c :: s) ts rest
  | line {n : Nat} {s rest : List Char} {ts : List Token}
      (h : Steps n (s.dropWhile fun d => !isLineEnd d) ts rest) :
      Steps (n + 1) ('-' :: '-' :: s) ts rest
  | block {n : Nat} {s after rest : List Char} {ts : List Token}
      (hafter : afterBlock s = some after) (h : Steps n after ts rest) :
      Steps (n + 1) ('/' :: '*' :: s) ts rest
  | token {n : Nat} {c : Char} {s after rest : List Char} {t : Token} {ts : List Token}
      (hblank : ¬ Text.isBlank c = true)
      (hline : ∀ more, c = '-' → s = '-' :: more → False)
      (hblock : ∀ more, c = '/' → s = '*' :: more → False)
      (htoken : token? (c :: s) = some (t, after)) (h : Steps n after ts rest) :
      Steps (n + 1) (c :: s) (t :: ts) rest

theorem Steps.append {m n : Nat} {s middle rest : List Char} {ts us : List Token}
    (h : Steps m s ts middle) (h' : Steps n middle us rest) :
    Steps (m + n) s (ts ++ us) rest := by
  induction h with
  | done s => rwa [Nat.zero_add]
  | blank hblank _ ih => rw [Nat.add_right_comm]; exact .blank hblank (ih h')
  | line _ ih => rw [Nat.add_right_comm]; exact .line (ih h')
  | block hafter _ ih => rw [Nat.add_right_comm]; exact .block hafter (ih h')
  | token hblank hline hblock htoken _ ih =>
    rw [Nat.add_right_comm]
    exact .token hblank hline hblock htoken (ih h')

theorem giveComment_of_plain {done : List Token} (h : Token.Plain done) : giveComment done = done := by
  cases done with
  | nil => rfl
  | cons t done =>
    cases t with
    | semicolon commented => cases (Token.plain_cons.mp h).1
    | _ => rfl

/-- Giving a comment away leaves a semicolon where there was one. -/
theorem plain_giveComment {done : List Token} : Token.Plain (giveComment done) ↔ Token.Plain done := by
  cases done with
  | nil => rfl
  | cons t done => cases t <;> simp [giveComment, Token.isSemicolon]

theorem isSemicolon_takeComment (place : Place) (t : Token) :
    (takeComment place t).isSemicolon = t.isSemicolon := by
  cases t <;> rfl

theorem takeComment_of_plain {t : Token} (place : Place) (h : t.isSemicolon = false) :
    takeComment place t = t := by
  cases t with
  | semicolon commented => cases h
  | _ => rfl

theorem afterComment_of_plain {done : List Token} (place : Place) (h : Token.Plain done) :
    (afterComment place done).2 = done := by
  unfold afterComment
  split
  · exact giveComment_of_plain h
  · rfl

theorem plain_afterComment (place : Place) (done : List Token) :
    Token.Plain (afterComment place done).2 ↔ Token.Plain done := by
  unfold afterComment
  split
  · exact plain_giveComment
  · rfl

/-- **Scanning takes the steps**, wherever it stands. -/
theorem run_of_steps {n fuel : Nat} {s : List Char} {ts : List Token} (h : Steps n s ts [])
    (hfuel : n ≤ fuel) (place : Place) {done : List Token} (hplain : Token.Plain (done.reverse ++ ts)) :
    run fuel place done s = some (done.reverse ++ ts) := by
  have hdone : Token.Plain done := Token.plain_reverse.mp (Token.plain_append.mp hplain).1
  generalize hrest : ([] : List Char) = rest at h
  induction h generalizing fuel place done with
  | done s =>
    subst hrest
    rw [run_nil, giveComment_of_plain hdone, ite_self, List.append_nil]
  | blank hblank _ ih =>
    obtain ⟨fuel, rfl⟩ : ∃ k, fuel = k + 1 := ⟨fuel - 1, by omega⟩
    rw [run_blank hblank]
    exact ih (Nat.le_of_succ_le_succ hfuel) _ hplain hdone hrest
  | line _ ih =>
    obtain ⟨fuel, rfl⟩ : ∃ k, fuel = k + 1 := ⟨fuel - 1, by omega⟩
    rw [run_line, afterComment_of_plain place hdone]
    exact ih (Nat.le_of_succ_le_succ hfuel) _ hplain hdone hrest
  | block hafter _ ih =>
    obtain ⟨fuel, rfl⟩ : ∃ k, fuel = k + 1 := ⟨fuel - 1, by omega⟩
    rw [run_block, hafter, afterComment_of_plain place hdone]
    exact ih (Nat.le_of_succ_le_succ hfuel) _ hplain hdone hrest
  | @token n c s after rest t ts hblank hline hblock htoken _ ih =>
    obtain ⟨fuel, rfl⟩ : ∃ k, fuel = k + 1 := ⟨fuel - 1, by omega⟩
    have ht : t.isSemicolon = false :=
      (Token.plain_cons.mp (Token.plain_append.mp hplain).2).1
    -- What is done is kept in reverse, so that the token is the last one of it.
    have hassoc : done.reverse ++ t :: ts = (t :: done).reverse ++ ts := by simp
    rw [run_token hblank hline hblock, htoken, Option.bind_some, takeComment_of_plain place ht, hassoc]
    rw [hassoc] at hplain
    exact ih (Nat.le_of_succ_le_succ hfuel) _ hplain (Token.plain_cons.mpr ⟨ht, hdone⟩) hrest

theorem of_run_nil {fuel : Nat} {place : Place} {done out : List Token}
    (h : run fuel place done [] = some out) (hplain : Token.Plain out) :
    Token.Plain done ∧ out = done.reverse ++ [] := by
  rw [run_nil] at h
  cases h
  rw [Token.plain_reverse] at hplain
  have hdone : Token.Plain done := by
    split at hplain
    · exact plain_giveComment.mp hplain
    · exact hplain
  exact ⟨hdone, by rw [giveComment_of_plain hdone, ite_self, List.append_nil]⟩

theorem of_afterComment {place : Place} {done out ts : List Token}
    (h : Token.Plain out → Token.Plain (afterComment place done).2 ∧
      out = (afterComment place done).2.reverse ++ ts) (hplain : Token.Plain out) :
    Token.Plain done ∧ out = done.reverse ++ ts := by
  obtain ⟨hdone, hout⟩ := h hplain
  rw [plain_afterComment] at hdone
  rw [afterComment_of_plain place hdone] at hout
  exact ⟨hdone, hout⟩

/-- The tokens of a scan without a semicolon come from steps. -/
theorem steps_of_run {fuel : Nat} {place : Place} {done out : List Token} {s : List Char}
    (h : run fuel place done s = some out) : ∃ n ts, n ≤ fuel ∧ Steps n s ts [] ∧
      (Token.Plain out → Token.Plain done ∧ out = done.reverse ++ ts) := by
  induction fuel generalizing place done s with
  | zero =>
    cases s with
    | nil => exact ⟨0, [], Nat.le_refl _, .done [], of_run_nil h⟩
    | cons c s => cases h
  | succ fuel ih =>
    cases s with
    | nil => exact ⟨0, [], Nat.zero_le _, .done [], of_run_nil h⟩
    | cons c s =>
      -- The scan begins with a blank, with a comment of either kind, or with a token.
      by_cases hblank : Text.isBlank c = true
      · rw [run_blank hblank] at h
        obtain ⟨n, ts, hn, hsteps, hout⟩ := ih h
        exact ⟨n + 1, ts, Nat.succ_le_succ hn, .blank hblank hsteps, hout⟩
      by_cases hline : ∃ more, c = '-' ∧ s = '-' :: more
      · obtain ⟨more, rfl, rfl⟩ := hline
        rw [run_line] at h
        obtain ⟨n, ts, hn, hsteps, hout⟩ := ih h
        exact ⟨n + 1, ts, Nat.succ_le_succ hn, .line hsteps, of_afterComment hout⟩
      by_cases hblock : ∃ more, c = '/' ∧ s = '*' :: more
      · obtain ⟨more, rfl, rfl⟩ := hblock
        rw [run_block] at h
        obtain ⟨after, hafter, h⟩ := Option.bind_eq_some_iff.mp h
        obtain ⟨n, ts, hn, hsteps, hout⟩ := ih h
        exact ⟨n + 1, ts, Nat.succ_le_succ hn, .block hafter hsteps, of_afterComment hout⟩
      · have hline' : ∀ more, c = '-' → s = '-' :: more → False :=
          fun more hc hs => hline ⟨more, hc, hs⟩
        have hblock' : ∀ more, c = '/' → s = '*' :: more → False :=
          fun more hc hs => hblock ⟨more, hc, hs⟩
        rw [run_token hblank hline' hblock'] at h
        obtain ⟨⟨t, after⟩, htoken, h⟩ := Option.bind_eq_some_iff.mp h
        obtain ⟨n, ts, hn, hsteps, hout⟩ := ih h
        refine ⟨n + 1, t :: ts, Nat.succ_le_succ hn,
          .token hblank hline' hblock' htoken hsteps, fun hplain => ?_⟩
        obtain ⟨hdone, hout⟩ := hout hplain
        rw [Token.plain_cons, isSemicolon_takeComment] at hdone
        rw [takeComment_of_plain place hdone.1] at hout
        exact ⟨hdone.2, by simp [hout]⟩

/-- **A text gives tokens**, one behind the other, and leaves the rest. -/
def Gives (s : List Char) (ts : List Token) (rest : List Char) : Prop :=
  ∃ n, n + rest.length ≤ s.length ∧ Steps n s ts rest

namespace Gives

theorem nil (s : List Char) : Gives s [] s := ⟨0, by simp, .done s⟩

theorem append {s middle rest : List Char} {ts us : List Token} (h : Gives s ts middle)
    (h' : Gives middle us rest) : Gives s (ts ++ us) rest := by
  obtain ⟨m, hm, hs⟩ := h
  obtain ⟨n, hn, hs'⟩ := h'
  exact ⟨m + n, by omega, hs.append hs'⟩

theorem space (s : List Char) : Gives (' ' :: s) [] s :=
  ⟨1, by simp; omega, .blank (by decide) (.done s)⟩

/-- One token at the start of a text. -/
theorem token {c : Char} {s rest : List Char} {t : Token} (hblank : Text.isBlank c = false)
    (hcomment : (c ≠ '-' ∨ s.head? ≠ some '-') ∧ (c ≠ '/' ∨ s.head? ≠ some '*'))
    (htoken : token? (c :: s) = some (t, rest)) (hlen : rest.length ≤ s.length) :
    Gives (c :: s) [t] rest := by
  refine ⟨1, by simp; omega, .token (by simp [hblank]) ?_ ?_ htoken (.done rest)⟩
  · rintro more rfl rfl
    simp at hcomment
  · rintro more rfl rfl
    simp at hcomment

end Gives

/-- **The tokens of a text** are those that it gives. -/
theorem ofText?_of_gives {s : List Char} {ts : List Token} (h : Gives s ts [])
    (hplain : Token.Plain ts) : Token.ofText? (String.ofList s) = some (placed 0 ts) := by
  obtain ⟨n, hn, hsteps⟩ := h
  have hstart : Token.Plain ([].reverse ++ ts) := hplain
  have hrun : run s.length {} [] s = some ts := run_of_steps hsteps hn {} hstart
  simp [Token.ofText?, hrun]

@[simp]
theorem plain_placed {n : Nat} {ts : List Token} : Token.Plain (placed n ts) ↔ Token.Plain ts := by
  induction ts generalizing n with
  | nil => rfl
  | cons t ts ih => cases t <;> simp [placed, Token.isSemicolon, ih]

theorem cutFrom_of_plain {done ts : List Token} (h : Token.Plain ts) :
    cutFrom done ts = [done.reverse ++ ts] := by
  induction ts generalizing done with
  | nil => simp [cutFrom]
  | cons t ts ih =>
    obtain ⟨ht, hts⟩ := Token.plain_cons.mp h
    have hcut : cutFrom done (t :: ts) = cutFrom (t :: done) ts := by
      cases t with
      | semicolon commented => cases ht
      | _ => rfl
    rw [hcut, ih hts, List.reverse_cons, List.append_assoc]
    rfl

/-- **A text without a semicolon** is one statement, that of its tokens. -/
theorem sentences?_of_gives {s : List Char} {ts : List Token} (h : Gives s ts [])
    (hplain : Token.Plain ts) :
    sentences? (String.ofList s) = (sentenceOf (placed 0 ts)).map ([·]) := by
  rw [sentences?, ofText?_of_gives h hplain]
  show (cutFrom [] (placed 0 ts)).mapM sentenceOf = _
  rw [cutFrom_of_plain (plain_placed.mpr hplain), List.mapM_cons, List.mapM_nil, List.reverse_nil,
    List.nil_append]
  cases sentenceOf (placed 0 ts) <;> rfl

/-- Tokens that are read as a sentence, however deep the rules are tied, are that sentence. -/
theorem sentenceOf_of_first {ts : List Token} {s : Sentence} (hts : ts ≠ [])
    (h : ∀ g, Sentences.first (Readers.tied (Readers.tied (Readers.tied g))) ts = some (some s, [])) :
    sentenceOf ts = some (some s) := by
  obtain ⟨d, hd⟩ : ∃ d, 2 * ts.length + 2 = d + 3 := by
    have hlength := List.length_pos_of_ne_nil hts
    exact ⟨2 * ts.length - 1, by omega⟩
  rw [sentenceOf, hd, Readers.upTo, Readers.upTo, Readers.upTo, h]

/-- A text without a semicolon gives its tokens. -/
theorem gives_of_ofText? {s : String} {us : List Token} (h : Token.ofText? s = some us)
    (hplain : Token.Plain us) : ∃ ts, Gives s.toList ts [] ∧ us = placed 0 ts := by
  obtain ⟨out, hrun, rfl⟩ := Option.map_eq_some_iff.mp h
  obtain ⟨n, ts, hn, hsteps, hout⟩ := steps_of_run hrun
  obtain ⟨-, hts⟩ := hout (plain_placed.mp hplain)
  exact ⟨ts, ⟨n, by simpa using hn, hsteps⟩, congrArg (placed 0) hts⟩

/-! ## §B — quoted texts -/

/-- A text with its marks written twice, behind it the closing mark, is read up to the mark. -/
theorem closed_enclosed {mark : Char} (s : List Char) {rest : List Char}
    (hrest : rest.head? ≠ some mark) :
    closed mark (s.flatMap (fun c => if c = mark then [mark, mark] else [c]) ++ mark :: rest) =
      some (s, rest) := by
  induction s with
  | nil =>
    cases rest with
    | nil => simp [closed]
    | cons d more =>
      have hd : d ≠ mark := fun h => hrest (by rw [List.head?_cons, h])
      simp [closed, hd]
  | cons c s ih =>
    by_cases hc : c = mark
    · subst hc
      simp only [List.flatMap_cons, if_true, List.cons_append, List.nil_append, closed, ih,
        Option.map_some]
    · simp only [List.flatMap_cons, if_neg hc, List.cons_append, List.nil_append]
      unfold closed
      rw [if_neg hc, ih, Option.map_some]

/-- A text between marks is one token where the mark begins one. -/
theorem gives_enclosed {mark : Char} {kind : String → Token} (hblank : Text.isBlank mark = false)
    (hcomment : mark ≠ '-' ∧ mark ≠ '/')
    (htoken : ∀ s, token? (mark :: s) = (closed mark s).map fun p => (kind (String.ofList p.1), p.2))
    (s : List Char) {rest : List Char} (hrest : rest.head? ≠ some mark) :
    Gives (Text.enclosed mark s ++ rest) [kind (String.ofList s)] rest := by
  have htext : Text.enclosed mark s ++ rest = mark ::
      (s.flatMap (fun c => if c = mark then [mark, mark] else [c]) ++ mark :: rest) := by
    simp [Text.enclosed]
  rw [htext]
  refine .token hblank ⟨.inl hcomment.1, .inl hcomment.2⟩ ?_ (by simp; omega)
  rw [htoken, closed_enclosed s hrest, Option.map_some]

/-- **A quoted name** is one token, whatever is in it. -/
theorem gives_quoted (s rest : List Char) (hrest : rest.head? ≠ some '"') :
    Gives (Text.enclosed '"' s ++ rest) [.quoted (String.ofList s)] rest :=
  gives_enclosed (by decide) (by decide) (fun _ => rfl) s hrest

/-- **A text in quotes** is one token, whatever is in it. -/
theorem gives_string (s rest : List Char) (hrest : rest.head? ≠ some '\'') :
    Gives (Text.enclosed '\'' s ++ rest) [.string (String.ofList s)] rest :=
  gives_enclosed (by decide) (by decide) (fun _ => rfl) s hrest

/-! ## §C — numbers -/

theorem isAnyDigit_of_isDigit {c : Char} (h : c.isDigit) : Text.isAnyDigit c = true := by
  simp only [Char.isDigit, Bool.and_eq_true, decide_eq_true_eq] at h
  have hlow : '0' ≤ c := h.1
  have hhigh : c ≤ '9' := h.2
  have hascii : c.toNat < 0x80 := Nat.lt_of_le_of_lt (show c.toNat ≤ 57 from h.2) (by decide)
  unfold Text.isAnyDigit
  rw [if_pos hascii]
  simp [hlow, hhigh]

theorem numberTail_digit {c : Char} (hc : c.isDigit) (fuel : Nat) (point : Bool) (exponent : Nat)
    (rest : List Char) :
    numberTail (fuel + 1) point exponent (c :: rest) =
      (c :: (numberTail fuel point exponent rest).1, (numberTail fuel point exponent rest).2) := by
  rw [numberTail, if_pos (isAnyDigit_of_isDigit hc)]

/-- The tail of a number goes on over digits. -/
theorem numberTail_digits {ds : List Char} (h : ∀ c ∈ ds, c.isDigit) (fuel : Nat) (point : Bool)
    (exponent : Nat) (rest : List Char) :
    numberTail (ds.length + fuel) point exponent (ds ++ rest) =
      (ds ++ (numberTail fuel point exponent rest).1, (numberTail fuel point exponent rest).2) := by
  induction ds with
  | nil => simp
  | cons c ds ih =>
    rw [List.length_cons, Nat.add_right_comm, List.cons_append,
      numberTail_digit (h c List.mem_cons_self), ih fun d hd => h d (List.mem_cons_of_mem c hd)]
    rfl

theorem numberTail_nil (fuel : Nat) (point : Bool) (exponent : Nat) :
    numberTail fuel point exponent [] = ([], []) := by
  cases fuel <;> rfl

/-- The tail of a number goes to the end of its exponent. -/
theorem numberTail_power (d : Decimal) (point : Bool) :
    numberTail (Decimal.power d.exponent).length point 0 (Decimal.power d.exponent) =
      (Decimal.power d.exponent, []) := by
  cases hp : d.exponent with
  | none => rfl
  | some p =>
    obtain ⟨negative, ds⟩ := p
    obtain ⟨hne, hdigits⟩ := d.exponent_isDigit _ hp
    have htail := numberTail_digits hdigits 0 point 2 []
    rw [List.append_nil, numberTail_nil, List.append_nil, Nat.add_zero] at htail
    have hstarts : startsWithDigit ds = true := by
      cases ds with
      | nil => exact absurd rfl hne
      | cons c ds => exact isAnyDigit_of_isDigit (hdigits c List.mem_cons_self)
    cases negative <;>
      simp [Decimal.power, numberTail, hstarts, htail, Text.isAnyDigit]

/-- The tail of a number goes over its point. -/
theorem numberTail_point (d : Decimal) :
    numberTail (Decimal.point d.fraction ++ Decimal.power d.exponent).length false 0
        (Decimal.point d.fraction ++ Decimal.power d.exponent) =
      (Decimal.point d.fraction ++ Decimal.power d.exponent, []) := by
  cases hf : d.fraction with
  | none => exact numberTail_power d false
  | some ds =>
    have htail := numberTail_digits (d.fraction_isDigit ds hf) (Decimal.power d.exponent).length true 0
      (Decimal.power d.exponent)
    rw [numberTail_power, ← List.length_append] at htail
    have hpoint : ∀ (fuel : Nat) (s : List Char), numberTail (fuel + 1) false 0 ('.' :: s) =
        ('.' :: (numberTail fuel true 0 s).1, (numberTail fuel true 0 s).2) := fun _ _ => rfl
    rw [Decimal.point, List.cons_append, List.length_cons, hpoint, htail]

/-- A digit begins a number, unless it begins a hexadecimal one. -/
theorem token?_digit {c : Char} {s : List Char} (hc : c.isDigit) (hlower : s.head? ≠ some 'x')
    (hupper : s.head? ≠ some 'X') :
    token? (c :: s) = some (.number (String.ofList (c :: (numberTail s.length false 0 s).1)),
      (numberTail s.length false 0 s).2) := by
  have hdigit := isAnyDigit_of_isDigit hc
  unfold token?
  dsimp only
  rw [if_pos hdigit]
  split
  next => exact absurd rfl hlower
  next => exact absurd rfl hupper
  next => rfl

/-- **A decimal** is one token. -/
theorem gives_decimal (d : Decimal) : Gives d.chars [.number (String.ofList d.chars)] [] := by
  obtain ⟨c, ds, hwhole⟩ := List.exists_cons_of_ne_nil d.whole_ne_nil
  have hdigits := d.whole_isDigit
  rw [hwhole] at hdigits
  have hc : c.isDigit := hdigits c List.mem_cons_self
  have htail := numberTail_digits (fun e he => hdigits e (List.mem_cons_of_mem c he))
    (Decimal.point d.fraction ++ Decimal.power d.exponent).length false 0
    (Decimal.point d.fraction ++ Decimal.power d.exponent)
  rw [numberTail_point, ← List.length_append] at htail
  have hchars : d.chars = c :: (ds ++ (Decimal.point d.fraction ++ Decimal.power d.exponent)) := by
    rw [Decimal.chars, hwhole, List.cons_append]
  -- behind a digit stands a digit, a point, an exponent or nothing
  have hhead : ∀ x ∈ (ds ++ (Decimal.point d.fraction ++ Decimal.power d.exponent)).head?,
      x.isDigit ∨ x = '.' ∨ x = 'e' := by
    intro x hx
    cases ds with
    | cons y ds =>
      obtain rfl : y = x := by simpa using hx
      exact .inl (hdigits y (List.mem_cons_of_mem c List.mem_cons_self))
    | nil =>
      cases hf : d.fraction with
      | some fs =>
        obtain rfl : '.' = x := by simpa [hf, Decimal.point] using hx
        exact .inr (.inl rfl)
      | none =>
        cases hp : d.exponent with
        | none => simp [hf, hp, Decimal.point, Decimal.power] at hx
        | some p =>
          obtain rfl : 'e' = x := by simpa [hf, hp, Decimal.point, Decimal.power] using hx
          exact .inr (.inr rfl)
  have hne : ∀ x, x.isDigit = false → x ≠ '.' → x ≠ 'e' →
      (ds ++ (Decimal.point d.fraction ++ Decimal.power d.exponent)).head? ≠ some x := by
    intro x hdigit hdot he hx
    rcases hhead x hx with h | h | h
    · exact absurd (h.symm.trans hdigit) (by decide)
    · exact hdot h
    · exact he h
  rw [hchars]
  refine .token ?_ ⟨.inr ?_, .inr ?_⟩ ?_ (Nat.zero_le _)
  · exact Text.isBlank_of_isDigit hc
  · exact hne '-' (by decide) (by decide) (by decide)
  · exact hne '*' (by decide) (by decide) (by decide)
  · rw [token?_digit hc (hne 'x' (by decide) (by decide) (by decide))
      (hne 'X' (by decide) (by decide) (by decide)), htail]

/-! ## §D — words -/

/-- No keyword of two words begins with the word. -/
def StandsAlone (w : List Char) : Bool :=
  Words.pairs.all fun pair => !(Text.upper w ++ [' ']).isPrefixOf pair.toList

/-- A word that begins no longer keyword ends where its characters end. -/
theorem word_append {w rest : List Char} (hw : ∀ c ∈ w, isWordChar c = true)
    (hrest : ∀ c ∈ rest.head?, isWordChar c = false) (halone : StandsAlone w = true) :
    word (w ++ rest) = (.ofWord (String.ofList w), rest) := by
  have hstop : rest.takeWhile isWordChar = [] ∧ rest.dropWhile isWordChar = rest := by
    cases rest with
    | nil => exact ⟨rfl, rfl⟩
    | cons c rest => simp [hrest c rfl]
  have hpair : ∀ second : List Char,
      Words.pairs.contains (String.ofList (Text.upper w ++ ' ' :: second)) = false := by
    intro second
    rw [List.contains_eq_mem, decide_eq_false_iff_not]
    intro hmem
    have hprefix := List.all_eq_true.mp halone _ hmem
    have hbegins : (Text.upper w ++ [' ']).isPrefixOf (Text.upper w ++ ' ' :: second) = true :=
      List.isPrefixOf_iff_prefix.mpr ⟨second, by simp⟩
    simp [hbegins] at hprefix
  unfold word
  simp only [List.takeWhile_append_of_pos hw, List.dropWhile_append_of_pos hw, hstop.1, hstop.2,
    List.append_nil, hpair, Bool.and_false, Bool.false_eq_true, if_false]

/-- A word is one token, where its characters begin a word and nothing else. -/
theorem gives_word {c : Char} {w rest : List Char}
    (htoken : ∀ s, token? (c :: w ++ s) = some (word (c :: w ++ s)))
    (hw : (c :: w).all isWordChar = true) (hrest : ∀ d ∈ rest.head?, isWordChar d = false)
    (halone : StandsAlone (c :: w) = true) :
    Gives (c :: w ++ rest) [.ofWord (String.ofList (c :: w))] rest := by
  have hw' : ∀ d ∈ c :: w, isWordChar d = true := List.all_eq_true.mp hw
  have hc := hw' c List.mem_cons_self
  have hblank : Text.isBlank c = false := by
    simp only [isWordChar, Bool.and_eq_true, Bool.not_eq_true'] at hc
    exact hc.1
  refine .token hblank ⟨.inl ?_, .inl ?_⟩ ?_ (by simp)
  · rintro rfl
    exact absurd hc (by decide)
  · rintro rfl
    exact absurd hc (by decide)
  · exact (htoken rest).trans (congrArg some (word_append hw' hrest halone))

/-- **A word with a blank behind it** is one token. -/
theorem gives_keyword {c : Char} {w : List Char}
    (htoken : ∀ s, token? (c :: w ++ s) = some (word (c :: w ++ s)))
    (hw : (c :: w).all isWordChar = true) (halone : StandsAlone (c :: w) = true)
    (rest : List Char) :
    Gives (c :: w ++ ' ' :: rest) [.ofWord (String.ofList (c :: w))] rest := by
  have hrest : ∀ d ∈ (' ' :: rest).head?, isWordChar d = false := by
    intro d hd
    cases hd
    decide
  exact (gives_word htoken hw hrest halone).append (.space rest)

end Scan
end Sql
end TableQuery
