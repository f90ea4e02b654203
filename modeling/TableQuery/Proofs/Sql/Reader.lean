/-
# TableQuery.Proofs.Sql.Reader — readers take what they hold from the tokens.

A question mark that stands in an answer has been taken from the tokens, once.  One place is watched
throughout: how often it stands in an answer and in the tokens that are left is together no more than
how often it stood in the tokens before.  A reader that looks ahead and turns back obeys this too, so
nothing has to be said about what it looked at.

## §A — the watched place.
## §B — readers and their triples.
## §C — readers of single tokens.
## §D — readers from readers.
## §E — names and types.
## §F — the rules inside.
-/
import Mathlib
import TableQuery.Proofs.Sql.Questions

set_option mvcgen.warning false

namespace TableQuery
namespace Sql

open Std.Do

/-! ## §A — the watched place -/

/-- The place that is watched. -/
class Watched where
  place : Nat

section Watched
variable [Watched]

/-- How often the watched place stands among some places. -/
def held (places : List Nat) : Nat := places.count Watched.place

@[simp, grind =]
theorem held_nil : held [] = 0 := List.count_nil

@[simp, grind =]
theorem held_append (a b : List Nat) : held (a ++ b) = held a + held b := List.count_append

theorem held_cons (place : Nat) (places : List Nat) :
    held (place :: places) = held [place] + held places := held_append [place] places

/-- How often the watched place stands among tokens. -/
def left (ts : List Token) : Nat := held (Token.questions ts)

@[simp, grind =]
theorem left_nil : left [] = 0 := held_nil

@[simp, grind =]
theorem left_question (place : Nat) (rest : List Token) :
    left (.question place :: rest) = held [place] + left rest := held_cons place _

theorem left_tail_le (ts : List Token) : left ts.tail ≤ left ts := by
  cases ts with
  | nil => exact Nat.le_refl _
  | cons t rest =>
    cases t with
    | question place => simp
    | _ => exact Nat.le_refl _

theorem left_rest_le (t : Token) (rest : List Token) : left rest ≤ left (t :: rest) :=
  left_tail_le (t :: rest)

theorem left_drop_le (i : Nat) (ts : List Token) : left (ts.drop i) ≤ left ts := by
  induction i generalizing ts with
  | zero => exact Nat.le_refl _
  | succ i ih =>
    rw [← List.drop_drop, List.drop_one]
    exact (left_tail_le _).trans (ih ts)

grind_pattern left_tail_le => left ts.tail
grind_pattern left_rest_le => left rest, t :: rest
grind_pattern left_drop_le => left (ts.drop i)

end Watched

/-! ## §B — readers and their triples -/

namespace Reader
variable {α : Type}

/-- What triples of readers speak of: tokens, and a reading that may fail. -/
abbrev Shape : PostShape := .arg (List Token) (.except PUnit .pure)

/-- The reading starts at the given tokens. -/
abbrev starts (s : List Token) : Assertion Shape := fun ts => ⌜ts = s⌝

theorem wp_eq (r : Reader α) (post : PostCond α Shape) (ts : List Token) :
    wp⟦r⟧ post ts = match r ts with
      | some (a, rest) => post.1 a rest
      | none => post.2.1 ⟨⟩ := by
  cases h : r ts <;> simp [wp, StateT.run, h] <;> rfl

variable [Watched] {s : List Token}

/-- The answer and the tokens left hold the watched place at most so often. -/
abbrev keeps (questions : α → List Nat) (bound : Nat) : PostCond α Shape :=
  ⇓? a ts => ⌜held (questions a) + left ts ≤ bound⌝

/-- The answer holds nothing. -/
abbrev passes (s : List Token) : PostCond α Shape := ⇓? _ ts => ⌜left ts ≤ left s⌝

/-- A triple is about what the reader answers. -/
theorem keeps_iff {r : Reader α} {questions : α → List Nat} {bound : Nat} :
    ⦃starts s⦄ r ⦃keeps questions bound⦄ ↔
      ∀ a rest, r s = some (a, rest) → held (questions a) + left rest ≤ bound := by
  constructor
  · intro h a rest hr
    have hs := h s rfl
    rw [wp_eq, hr] at hs
    exact hs
  · rintro h ts rfl
    rw [wp_eq]
    split
    next hr => exact h _ _ hr
    next => trivial

theorem keeps_nothing : (keeps (fun _ => []) (left s) : PostCond α Shape) = passes s := by
  simp

theorem passes_iff {r : Reader α} :
    ⦃starts s⦄ r ⦃passes s⦄ ↔ ∀ a rest, r s = some (a, rest) → left rest ≤ left s := by
  rw [← keeps_nothing, keeps_iff]
  simp

/-- With its bound kept apart from where it starts, a reading may end in a call. -/
theorem keeps_of_bound {r : Reader α} {questions : α → List Nat} {most : Nat}
    (h : ∀ bound, most ≤ bound → ⦃starts s⦄ r ⦃keeps questions bound⦄) :
    ⦃starts s⦄ r ⦃keeps questions most⦄ :=
  h most (Nat.le_refl _)

theorem passes_of_bound {r : Reader α}
    (h : ∀ bound, left s ≤ bound → ⦃starts s⦄ r ⦃⇓? _ ts => ⌜left ts ≤ bound⌝⦄) :
    ⦃starts s⦄ r ⦃passes s⦄ :=
  h (left s) (Nat.le_refl _)

omit [Watched] in
@[spec]
theorem failure_spec {pre : Assertion Shape} {post : α → Assertion Shape} :
    ⦃pre⦄ (failure : Reader α) ⦃⇓? a => post a⦄ := by
  intro ts _
  rw [wp_eq]
  trivial

/-! ## §C — readers of single tokens -/

@[spec]
theorem skip_spec : ⦃starts s⦄ skip ⦃passes s⦄ := by
  mvcgen [skip] with grind

@[spec]
theorem peek_spec : ⦃starts s⦄ peek ⦃passes s⦄ := by
  mvcgen [peek] with grind

@[spec]
theorem peekSecond_spec : ⦃starts s⦄ peekSecond ⦃passes s⦄ := by
  mvcgen [peekSecond] with grind

@[spec]
theorem atEnd_spec : ⦃starts s⦄ atEnd ⦃passes s⦄ := by
  mvcgen [atEnd] with grind

@[spec]
theorem seesWord_spec (key : String) : ⦃starts s⦄ seesWord key ⦃passes s⦄ := by
  mvcgen [seesWord] with grind

@[spec]
theorem seesOneOf_spec (keys : List String) : ⦃starts s⦄ seesOneOf keys ⦃passes s⦄ := by
  mvcgen [seesOneOf] with grind

@[spec]
theorem seesSign_spec (text : String) : ⦃starts s⦄ seesSign text ⦃passes s⦄ := by
  mvcgen [seesSign] with grind

@[spec]
theorem word_spec (key : String) : ⦃starts s⦄ word key ⦃passes s⦄ := by
  rw [passes_iff]
  intro a rest h
  unfold word at h
  grind

@[spec]
theorem oneOf_spec (keys : List String) : ⦃starts s⦄ oneOf keys ⦃passes s⦄ := by
  rw [passes_iff]
  intro a rest h
  unfold oneOf at h
  grind

@[spec]
theorem sign_spec (text : String) : ⦃starts s⦄ sign text ⦃passes s⦄ := by
  rw [passes_iff]
  intro a rest h
  unfold sign at h
  grind

@[spec]
theorem words_spec (keys : List String) : ⦃starts s⦄ words keys ⦃passes s⦄ := by
  rw [passes_iff]
  intro a rest h
  unfold words at h
  grind

@[spec]
theorem needSign_spec (text : String) : ⦃starts s⦄ needSign text ⦃passes s⦄ := by
  mvcgen [needSign] with grind

@[spec]
theorem needWord_spec (key : String) : ⦃starts s⦄ needWord key ⦃passes s⦄ := by
  mvcgen [needWord] with grind

@[spec]
theorem skipAll_spec : ⦃starts s⦄ skipAll ⦃passes s⦄ := by
  mvcgen [skipAll] with grind

theorem left_balanced_le {depth : Nat} {ts rest : List Token} (h : balanced depth ts = some rest) :
    left rest ≤ left ts := by
  induction ts generalizing depth with
  | nil => simp [balanced] at h
  | cons t ts ih =>
    have hrest := left_rest_le t ts
    unfold balanced at h
    grind

@[spec]
theorem skipBalanced_spec : ⦃starts s⦄ skipBalanced ⦃passes s⦄ := by
  rw [passes_iff]
  intro a rest h
  obtain ⟨after, hafter, hrest⟩ := Option.map_eq_some_iff.mp h
  cases hrest
  exact left_balanced_le hafter

/-! ## §D — readers from readers -/

/-- An attempt answers what it has read, or leaves the tokens as they were. -/
theorem attempt_spec {r : Reader (Option α)} {questions : Option α → List Nat}
    (hnone : questions none = []) (hr : ∀ s, ⦃starts s⦄ r ⦃keeps questions (left s)⦄) :
    ⦃starts s⦄ attempt r ⦃keeps questions (left s)⦄ := by
  rw [keeps_iff]
  intro a rest h
  unfold attempt at h
  split at h
  next hread =>
    cases h
    exact keeps_iff.mp (hr s) _ _ hread
  next =>
    cases h
    simp [hnone]

@[spec]
theorem attempt_phrase_spec {r : Reader (Option Phrase)}
    (hr : ∀ s bound, left s ≤ bound → ⦃starts s⦄ r ⦃keeps Phrase.optionQuestions bound⦄) :
    ⦃starts s⦄ attempt r ⦃keeps Phrase.optionQuestions (left s)⦄ :=
  attempt_spec rfl fun s => hr s (left s) (Nat.le_refl _)

theorem attempt_passes {r : Reader (Option α)} (hr : ∀ s, ⦃starts s⦄ r ⦃passes s⦄) :
    ⦃starts s⦄ attempt r ⦃passes s⦄ := by
  rw [passes_iff]
  intro a rest h
  unfold attempt at h
  split at h
  next hread =>
    cases h
    exact passes_iff.mp (hr s) _ _ hread
  next =>
    cases h
    exact Nat.le_refl _

omit [Watched] in
/-- Of a reading that only looks ahead nothing has to be known. -/
theorem ahead_spec (r : Reader α) : ⦃starts s⦄ r ⦃⇓? _ _ => ⌜True⌝⦄ := by
  intro ts _
  rw [wp_eq]
  split <;> trivial

section List
variable {item : Reader (Option α)} {questions : Option α → List Nat}
  {listQuestions : List α → List Nat}

/-- Items between commas hold what the items hold. -/
theorem list_spec (hitem : ∀ s, ⦃starts s⦄ item ⦃keeps questions (left s)⦄)
    (hnil : listQuestions [] = [])
    (happend : ∀ a as, listQuestions (a.toList ++ as) = questions a ++ listQuestions as) :
    ⦃starts s⦄ list item ⦃keeps listQuestions (left s)⦄ := by
  have hcomma : ∀ fuel s, ⦃starts s⦄ commaList item fuel ⦃keeps listQuestions (left s)⦄ := by
    intro fuel
    induction fuel with
    | zero =>
      intro s
      mvcgen [commaList]
    | succ fuel ih =>
      intro s
      mvcgen [commaList, hitem, ih] with grind
  mvcgen [list, hcomma]

end List

theorem list_passes {item : Reader (Option α)} (hitem : ∀ s, ⦃starts s⦄ item ⦃passes s⦄) :
    ⦃starts s⦄ list item ⦃passes s⦄ := by
  rw [← keeps_nothing]
  have hnothing : ∀ s, ⦃starts s⦄ item ⦃keeps (fun _ => []) (left s)⦄ := by
    intro s
    rw [keeps_nothing]
    exact hitem s
  exact list_spec hnothing rfl fun _ _ => rfl

@[spec]
theorem list_phrases_spec {item : Reader (Option Phrase)}
    (hitem : ∀ s bound, left s ≤ bound → ⦃starts s⦄ item ⦃keeps Phrase.optionQuestions bound⦄) :
    ⦃starts s⦄ list item ⦃keeps Phrase.listQuestions (left s)⦄ :=
  list_spec (fun s => hitem s (left s) (Nat.le_refl _)) rfl fun a as => by simp

/-! ## §E — names and types -/

@[spec]
theorem marker_spec : ⦃starts s⦄ marker ⦃keeps Phrase.optionQuestions (left s)⦄ := by
  rw [keeps_iff]
  intro a rest h
  unfold marker at h
  grind

@[spec]
theorem nameOf_spec (any : Bool) (can : String → Bool) :
    ⦃starts s⦄ nameOf any can ⦃keeps Phrase.optionQuestions (left s)⦄ := by
  rw [keeps_iff]
  intro a rest h
  have hmarker := keeps_iff.mp (@marker_spec _ s) a rest
  unfold nameOf at h
  grind

@[spec]
theorem stringName_spec : ⦃starts s⦄ stringName ⦃keeps Phrase.optionQuestions (left s)⦄ := by
  rw [keeps_iff]
  intro a rest h
  unfold stringName at h
  grind

@[spec]
theorem name_spec : ⦃starts s⦄ name ⦃keeps Phrase.optionQuestions (left s)⦄ :=
  nameOf_spec _ _

@[spec]
theorem plainText_spec : ⦃starts s⦄ plainText ⦃passes s⦄ := by
  rw [passes_iff]
  intro a rest h
  unfold plainText at h
  grind

@[spec]
theorem sizes_spec : ⦃starts s⦄ sizes ⦃passes s⦄ := by
  unfold sizes
  refine attempt_passes fun s => ?_
  have hlist : ∀ s, ⦃starts s⦄ list plainText ⦃passes s⦄ := fun s => list_passes fun s => plainText_spec
  mvcgen [hlist] with grind

@[spec]
theorem zoned_spec (type : String) : ⦃starts s⦄ zoned type ⦃passes s⦄ := by
  mvcgen [zoned] with grind

@[spec]
theorem knownType_spec : ⦃starts s⦄ knownType ⦃passes s⦄ := by
  mvcgen [knownType] with grind

@[spec]
theorem ownType_spec : ⦃starts s⦄ ownType ⦃passes s⦄ := by
  mvcgen [ownType] with grind

@[spec]
theorem type_spec : ⦃starts s⦄ type ⦃passes s⦄ := by
  refine passes_of_bound fun bound hbound => ?_
  mvcgen [type] with grind

end Reader

/-! ## §F — the rules inside -/

open Reader

/-- The rules inside take what they hold from the tokens. -/
class Readers.Taking [Watched] (g : Readers) : Prop where
  phrase : ∀ s, ⦃starts s⦄ g.phrase ⦃keeps Phrase.optionQuestions (left s)⦄
  condition : ∀ s, ⦃starts s⦄ g.condition ⦃keeps Phrase.optionQuestions (left s)⦄
  equality : ∀ s, ⦃starts s⦄ g.equality ⦃keeps Phrase.optionQuestions (left s)⦄
  bitwise : ∀ s, ⦃starts s⦄ g.bitwise ⦃keeps Phrase.optionQuestions (left s)⦄
  term : ∀ s, ⦃starts s⦄ g.term ⦃keeps Phrase.optionQuestions (left s)⦄
  unary : ∀ s, ⦃starts s⦄ g.unary ⦃keeps Phrase.optionQuestions (left s)⦄
  reference : ∀ s, ⦃starts s⦄ g.reference ⦃keeps Phrase.optionQuestions (left s)⦄
  query : ∀ place s, ⦃starts s⦄ g.query place ⦃keeps Phrase.optionQuestions (left s)⦄
  table : ∀ s, ⦃starts s⦄ g.table ⦃keeps Phrase.questions (left s)⦄
  joins : ∀ s, ⦃starts s⦄ g.joins ⦃keeps Phrase.listQuestions (left s)⦄
  clauses : ∀ p s, ⦃starts s⦄ g.clauses p ⦃keeps Phrase.questions (held p.questions + left s)⦄
  sentence : ∀ s, ⦃starts s⦄ g.sentence ⦃keeps Sentence.optionQuestions (left s)⦄

attribute [spec] Readers.Taking.phrase Readers.Taking.condition Readers.Taking.equality
  Readers.Taking.bitwise Readers.Taking.term Readers.Taking.unary Readers.Taking.reference
  Readers.Taking.query Readers.Taking.table Readers.Taking.joins Readers.Taking.clauses
  Readers.Taking.sentence

end Sql
end TableQuery
