/-
# TableQuery.Proofs.Sql.Grammar — a text and the question marks in its sentence.

The rules are tied together by induction on how deep phrases nest, so whatever is read takes its
question marks from the tokens.  Question marks are counted from zero in the order of the text, so
each place occurs once among the tokens: in the sentence of a text no place stands twice, and none
that the text does not have.

## §A — the tied rules.
## §B — cutting a text into statements.
## §C — the places of a text.
-/
import TableQuery.Proofs.Sql.Sentences

set_option mvcgen.warning false

namespace TableQuery
namespace Sql

open Std.Do Reader

/-! ## §A — the tied rules -/

namespace Readers
variable [Watched]

theorem taking_none : Readers.none.Taking where
  phrase _ := failure_spec
  condition _ := failure_spec
  equality _ := failure_spec
  bitwise _ := failure_spec
  term _ := failure_spec
  unary _ := failure_spec
  reference _ := failure_spec
  query _ _ := failure_spec
  table _ := failure_spec
  joins _ := failure_spec
  clauses _ _ := failure_spec
  sentence _ := failure_spec

theorem taking_tied (g : Readers) [g.Taking] : (tied g).Taking where
  phrase _ := Operators.phrase_spec
  condition _ := Operators.condition_spec
  equality _ := Operators.equality_spec
  bitwise _ := Operators.bitwise_spec
  term _ := Operators.term_spec
  unary _ := Operators.unary_spec
  reference _ := Operand.reference_spec
  query place _ := Queries.query_spec place
  table _ := Sentences.usualTable_spec
  joins _ := Sentences.usualJoins_spec
  clauses p _ := Sentences.usualFurtherClauses_spec p
  sentence _ := Sentences.sentence_spec

/-- **The rules take what they hold from the tokens**, however deep phrases nest. -/
theorem taking_upTo (depth : Nat) : (upTo depth).Taking := by
  induction depth with
  | zero => exact taking_none
  | succ depth ih => exact taking_tied (upTo depth)

end Readers

/-- The question marks in a sentence stand among its tokens, each as often as there at most. -/
theorem subperm_of_sentenceOf {tokens : List Token} {s : Sentence}
    (h : sentenceOf tokens = some (some s)) : s.questions.Subperm (Token.questions tokens) := by
  rw [List.subperm_iff_count]
  intro place
  let hwatched : Watched := ⟨place⟩
  have htaking := Readers.taking_upTo (2 * tokens.length + 2)
  unfold sentenceOf at h
  split at h
  next read hread =>
    cases h
    have hheld := keeps_iff.mp (@Sentences.first_spec hwatched _ htaking tokens) _ _ hread
    exact (Nat.le_add_right _ _).trans hheld
  next => cases h

/-! ## §B — cutting a text into statements -/

theorem questions_append (a b : List Token) :
    Token.questions (a ++ b) = Token.questions a ++ Token.questions b := by
  induction a with
  | nil => rfl
  | cons t a ih => cases t <;> simp [Token.questions, ih]

/-- What stands between semicolons is part of the text. -/
theorem sublist_of_mem_cutFrom {done ts piece : List Token} (h : piece ∈ cutFrom done ts) :
    (Token.questions piece).Sublist (Token.questions (done.reverse ++ ts)) := by
  induction done, ts using cutFrom.induct with
  | case1 done =>
    rw [cutFrom, List.mem_singleton] at h
    simp [h]
  -- A semicolon with a comment leaves a piece for the comment, which asks nothing.
  | case2 done commented =>
    rw [questions_append]
    cases commented <;> simp [cutFrom] at h
    · simp [h]
    · rcases h with rfl | rfl <;> simp [Token.questions]
  | case3 done commented t more ih =>
    rw [questions_append]
    simp only [cutFrom, List.cons_append, List.mem_cons, List.mem_append] at h
    rcases h with rfl | h | h
    · exact List.sublist_append_left _ _
    · cases commented <;> simp at h
      subst h
      simp [Token.questions]
    · exact (ih h).trans (List.sublist_append_right _ _)
  | case4 done t rest hnone ih =>
    rw [cutFrom] at h
    · simpa using ih h
    · exact hnone

/-! ## §C — the places of a text -/

/-- How many question marks stand in a text, outside of quoted names, texts and comments. -/
def questionCount (text : String) : Nat :=
  match Token.ofText? text with
  | some tokens => (Token.questions tokens).length
  | none => 0

/-- The sentence of a text that is one statement. -/
def sentence? (text : String) : Option Sentence :=
  match sentences? text with
  | some sentences =>
    match sentences.filterMap id with
    | [s] => some s
    | _ => none
  | none => none

theorem questions_placed (n : Nat) (ts : List Token) :
    Token.questions (Scan.placed n ts) = List.range' n (Token.questions ts).length := by
  induction ts generalizing n with
  | nil => rfl
  | cons t ts ih =>
    cases t with
    | question place => simp [Scan.placed, Token.questions, ih, List.range'_succ]
    | _ => simpa [Scan.placed, Token.questions] using ih n

theorem questions_ofText? {text : String} {tokens : List Token}
    (h : Token.ofText? text = some tokens) :
    Token.questions tokens = List.range (questionCount text) := by
  have hcount : questionCount text = (Token.questions tokens).length := by
    simp [questionCount, h]
  obtain ⟨scanned, -, rfl⟩ := Option.map_eq_some_iff.mp h
  rw [hcount, questions_placed, List.length_range', List.range_eq_range']

theorem exists_of_mapM_eq_some {α β : Type} {f : α → Option β} {as : List α} {bs : List β}
    (h : as.mapM f = some bs) : ∀ b ∈ bs, ∃ a ∈ as, f a = some b := by
  induction as generalizing bs with
  | nil =>
    cases h
    exact fun b hb => absurd hb List.not_mem_nil
  | cons a as ih =>
    rw [List.mapM_cons] at h
    obtain ⟨c, hc, h⟩ := Option.bind_eq_some_iff.mp h
    obtain ⟨cs, hcs, h⟩ := Option.bind_eq_some_iff.mp h
    cases h
    intro b hb
    rcases List.mem_cons.mp hb with rfl | hb
    · exact ⟨a, List.mem_cons_self, hc⟩
    · obtain ⟨a', ha', hf⟩ := ih hcs b hb
      exact ⟨a', List.mem_cons_of_mem a ha', hf⟩

/-- **The places of a sentence** are places of its text, none of them twice. -/
theorem subperm_of_sentence? {text : String} {s : Sentence} (h : sentence? text = some s) :
    s.questions.Subperm (List.range (questionCount text)) := by
  unfold sentence? at h
  split at h
  next sentences hsentences =>
    have hs : some s ∈ sentences := by
      split at h
      next hone =>
        cases h
        have hmem : s ∈ sentences.filterMap id := by
          rw [hone]
          exact List.mem_singleton_self s
        simpa using hmem
      next => cases h
    unfold sentences? at hsentences
    obtain ⟨tokens, htokens, hcut⟩ := Option.bind_eq_some_iff.mp hsentences
    obtain ⟨piece, hpiece, hread⟩ := exists_of_mapM_eq_some hcut _ hs
    rw [← questions_ofText? htokens]
    exact (subperm_of_sentenceOf hread).trans (sublist_of_mem_cutFrom hpiece).subperm
  next => cases h

end Sql
end TableQuery
