/-
# TableQuery.Proofs.Evaluation.Pattern — what a pattern matches.

A text matches a pattern when it can be cut into pieces, one for each character of the pattern: any
run of characters for `%`, exactly one for `_`, and for any other character exactly one that is the
same letter (`Like.Cut`).  The test does not search for a cut.  It goes through the pattern from its
end and marks all suffixes of the text that the rest of the pattern matches; where it arrives at the
start of the pattern, the mark of the whole text is the answer (`Like.marks_suffixes`).

## §A — letters without case.
## §B — cuts.
## §C — marked suffixes.
## §D — the test.
-/
import TableQuery.Evaluation.Like
import Mathlib.Data.List.Forall2
import Mathlib.Data.List.Infix

namespace TableQuery

/-! ## §A — letters without case -/

/-- **Same letter** — two characters have one letter behind them, or the letter behind the character
that is read is among the mates of the one behind the character that is written. -/
def Text.SameLetter (written read : Char) : Prop :=
  fold written = fold read ∨
    ∃ mates, ((fold written).toNat, mates) ∈ CaseTable.foldMates ∧ (fold read).toNat ∈ mates

theorem Text.sameLetter_iff (written read : Char) :
    sameLetter written read = true ↔ SameLetter written read := by
  simp only [sameLetter, SameLetter, Bool.or_eq_true, beq_iff_eq, List.any_eq_true,
    Bool.and_eq_true, List.contains_iff_mem, Prod.exists]
  constructor
  · rintro (h | ⟨c, mates, hmates, rfl, hread⟩)
    · exact .inl h
    · exact .inr ⟨mates, hmates, hread⟩
  · rintro (h | ⟨mates, hmates, hread⟩)
    · exact .inl h
    · exact .inr ⟨_, mates, hmates, rfl, hread⟩

namespace Like

/-! ## §B — cuts -/

/-- **What a character of a pattern stands for.** -/
inductive StandsFor : Char → List Char → Prop where
  | run (piece : List Char) : StandsFor '%' piece
  | any (c : Char) : StandsFor '_' [c]
  | letter {p c : Char} (hrun : p ≠ '%') (hany : p ≠ '_') (h : Text.SameLetter p c) : StandsFor p [c]

/-- **A text that can be cut for a pattern**, into one piece for each character of the pattern. -/
def Cut (pattern text : List Char) : Prop :=
  ∃ pieces : List (List Char), List.Forall₂ StandsFor pattern pieces ∧ pieces.flatten = text

theorem standsFor_iff_accepts {p : Char} (hp : p ≠ '%') (piece : List Char) :
    StandsFor p piece ↔ ∃ c, piece = [c] ∧ accepts p c = true := by
  constructor
  · intro h
    cases h with
    | run => exact absurd rfl hp
    | any c => exact ⟨c, rfl, rfl⟩
    | letter hrun hany h =>
        exact ⟨_, rfl, Bool.or_eq_true_iff.mpr (.inr ((Text.sameLetter_iff _ _).mpr h))⟩
  · rintro ⟨c, rfl, h⟩
    by_cases hany : p = '_'
    · subst hany
      exact .any c
    · have hletter : Text.sameLetter p c = true := by simpa [accepts, hany] using h
      exact .letter hp hany ((Text.sameLetter_iff p c).mp hletter)

variable {p c : Char} {pattern text : List Char}

theorem cut_nil : Cut [] text ↔ text = [] := by
  constructor
  · rintro ⟨pieces, h, rfl⟩
    cases h
    rfl
  · rintro rfl
    exact ⟨[], .nil, rfl⟩

theorem cut_cons : Cut (p :: pattern) text ↔
    ∃ piece rest, text = piece ++ rest ∧ StandsFor p piece ∧ Cut pattern rest := by
  constructor
  · rintro ⟨pieces, h, rfl⟩
    cases h with
    | cons hpiece hrest => exact ⟨_, _, List.flatten_cons, hpiece, _, hrest, rfl⟩
  · rintro ⟨piece, rest, rfl, hpiece, pieces, hrest, rfl⟩
    exact ⟨piece :: pieces, .cons hpiece hrest, List.flatten_cons⟩

/-- A run leaves some suffix to the rest of the pattern. -/
theorem cut_run : Cut ('%' :: pattern) text ↔ ∃ rest, rest <:+ text ∧ Cut pattern rest := by
  rw [cut_cons]
  constructor
  · rintro ⟨piece, rest, rfl, -, h⟩
    exact ⟨rest, List.suffix_append piece rest, h⟩
  · rintro ⟨rest, ⟨piece, rfl⟩, h⟩
    exact ⟨piece, rest, rfl, .run piece, h⟩

/-- Any other character takes one character off the text. -/
theorem cut_one (hp : p ≠ '%') : Cut (p :: pattern) (c :: text) ↔
    accepts p c = true ∧ Cut pattern text := by
  rw [cut_cons]
  constructor
  · rintro ⟨piece, rest, htext, hpiece, h⟩
    obtain ⟨c', rfl, hc⟩ := (standsFor_iff_accepts hp piece).mp hpiece
    obtain ⟨rfl, rfl⟩ := List.cons.inj htext
    exact ⟨hc, h⟩
  · rintro ⟨hc, h⟩
    exact ⟨[c], text, rfl, (standsFor_iff_accepts hp [c]).mpr ⟨c, rfl, hc⟩, h⟩

theorem not_cut_one_nil (hp : p ≠ '%') : ¬ Cut (p :: pattern) [] := by
  rw [cut_cons]
  rintro ⟨piece, rest, htext, hpiece, -⟩
  obtain ⟨c, rfl, -⟩ := (standsFor_iff_accepts hp piece).mp hpiece
  cases htext

/-! ## §C — marked suffixes -/

/-- **Marks** — which suffixes of a text have a property, the longest first. -/
def Marks (P : List Char → Prop) (text : List Char) (marks : List Bool) : Prop :=
  List.Forall₂ (fun suffix mark => mark = true ↔ P suffix) text.tails marks

variable {P Q : List Char → Prop} {marks : List Bool} {b : Bool}

theorem marks_nil (h : b = true ↔ P []) : Marks P [] [b] := .cons h .nil

theorem marks_cons (h : b = true ↔ P (c :: text)) (hrest : Marks P text marks) :
    Marks P (c :: text) (b :: marks) := by
  rw [Marks, List.tails_cons]
  exact .cons h hrest

theorem Marks.of_cons (h : Marks P (c :: text) marks) :
    ∃ b rest, marks = b :: rest ∧ (b = true ↔ P (c :: text)) ∧ Marks P text rest := by
  rw [Marks, List.tails_cons] at h
  cases h with
  | cons hb hrest => exact ⟨_, _, rfl, hb, hrest⟩

/-- The mark of the whole text comes first. -/
theorem Marks.head (h : Marks P text marks) :
    ∃ b rest, marks = b :: rest ∧ (b = true ↔ P text) := by
  cases text with
  | nil =>
      cases h with
      | cons hb hrest => exact ⟨_, _, rfl, hb⟩
  | cons c text =>
      obtain ⟨b, rest, rfl, hb, -⟩ := h.of_cons
      exact ⟨b, rest, rfl, hb⟩

theorem Marks.congr (h : Marks P text marks) (hPQ : ∀ suffix, P suffix ↔ Q suffix) :
    Marks Q text marks :=
  List.Forall₂.imp (fun suffix _ hmark => hmark.trans (hPQ suffix)) h

/-- A suffix is marked when it or a shorter one was. -/
theorem Marks.anyShorter (h : Marks P text marks) :
    Marks (fun suffix => ∃ rest, rest <:+ suffix ∧ P rest) text (anyShorter marks) := by
  induction text generalizing marks with
  | nil =>
      cases h with
      | cons hb hrest =>
          cases hrest
          refine marks_nil (hb.trans ⟨fun hP => ⟨[], List.suffix_rfl, hP⟩, ?_⟩)
          rintro ⟨rest, hsuffix, hP⟩
          rwa [List.suffix_nil.mp hsuffix] at hP
  | cons c text ih =>
      obtain ⟨b, rest, rfl, hb, hrest⟩ := h.of_cons
      have hshorter := ih hrest
      obtain ⟨b', more, hmore, hb'⟩ := hshorter.head
      rw [Like.anyShorter, hmore]
      rw [hmore] at hshorter
      refine marks_cons ?_ hshorter
      rw [Bool.or_eq_true, hb, hb']
      constructor
      · rintro (hP | ⟨rest, hsuffix, hP⟩)
        · exact ⟨c :: text, List.suffix_rfl, hP⟩
        · exact ⟨rest, hsuffix.trans (List.suffix_cons c text), hP⟩
      · rintro ⟨rest, hsuffix, hP⟩
        -- A suffix of the longer text is the text itself or one of its rest.
        rcases List.suffix_cons_iff.mp hsuffix with rfl | hsuffix
        · exact .inl hP
        · exact .inr ⟨rest, hsuffix, hP⟩

/-- A suffix is marked when its first character is accepted and what is behind it was marked. -/
theorem Marks.accepting (hp : p ≠ '%') (h : Marks (Cut pattern) text marks) :
    Marks (Cut (p :: pattern)) text
      (List.zipWith (fun c rest => accepts p c && rest) text marks.tail ++ [false]) := by
  induction text generalizing marks with
  | nil => exact marks_nil ⟨nofun, fun hcut => absurd hcut (not_cut_one_nil hp)⟩
  | cons c text ih =>
      obtain ⟨b, rest, rfl, -, hrest⟩ := h.of_cons
      obtain ⟨b', more, rfl, hb'⟩ := hrest.head
      refine marks_cons ?_ (ih hrest)
      rw [Bool.and_eq_true, hb', cut_one hp]

/-- **The suffixes that the test marks** are those that can be cut for the pattern. -/
theorem marks_suffixes (pattern text : List Char) :
    Marks (Cut pattern) text (suffixes pattern text) := by
  induction pattern with
  | nil =>
      induction text with
      | nil => exact marks_nil (by simp [cut_nil])
      | cons c text ih => exact marks_cons (by simp [cut_nil]) ih
  | cons p pattern ih =>
      by_cases hp : p = '%'
      · subst hp
        exact ih.anyShorter.congr fun suffix => cut_run.symm
      · rw [suffixes]
        · exact ih.accepting hp
        · exact hp

/-! ## §D — the test -/

theorem holds_iff_cut (pattern text : List Char) : holds pattern text = true ↔ Cut pattern text := by
  obtain ⟨b, rest, hmarks, hb⟩ := (marks_suffixes pattern text).head
  rw [holds, hmarks]
  exact hb

instance (pattern text : List Char) : Decidable (Cut pattern text) :=
  decidable_of_iff _ (holds_iff_cut pattern text)

/-- **The pattern test** of two values that are not NULL holds exactly when both have a text and that
of the value can be cut for that of the pattern; and where both have a text the test has an answer. -/
theorem test_iff_cut {v p : Value} (hv : v.isNull = false) (hp : p.isNull = false) :
    (test v p = .ok true ↔
      ∃ text pattern, v.operand = .ok text ∧ p.operand = .ok pattern ∧ Cut pattern text) ∧
    ∀ text pattern, v.operand = .ok text → p.operand = .ok pattern →
      test v p = .ok (decide (Cut pattern text)) := by
  have hanswer : ∀ text pattern, v.operand = .ok text → p.operand = .ok pattern →
      test v p = .ok (decide (Cut pattern text)) := by
    intro text pattern htext hpattern
    have hholds : holds pattern text = decide (Cut pattern text) :=
      Bool.eq_iff_iff.mpr ((holds_iff_cut pattern text).trans decide_eq_true_iff.symm)
    simp only [test, hv, hp, Bool.or_self, htext, hpattern]
    exact congrArg Except.ok hholds
  refine ⟨⟨fun htest => ?_, ?_⟩, hanswer⟩
  · simp only [test, hv, hp, Bool.or_self] at htest
    rcases hpattern : p.operand with e | pattern
    · rw [hpattern] at htest
      cases htest
    · rcases htext : v.operand with e | text
      · rw [hpattern, htext] at htest
        cases htest
      · rw [hpattern, htext] at htest
        exact ⟨text, pattern, rfl, rfl, (holds_iff_cut pattern text).mp (Except.ok.inj htest)⟩
  · rintro ⟨text, pattern, htext, hpattern, hcut⟩
    rw [hanswer text pattern htext hpattern, decide_eq_true hcut]

/-- A long s is an S and the sign of a kelvin a K, a line break may stand in a run, and the point of a
pattern is a point only. -/
theorem test_iff_cut_longS :
    ((Value.text "ſ\n.\u212A_").isNull = false ∧ (Value.text "S%.k_").isNull = false) ∧
      test (.text "ſ\n.\u212A_") (.text "S%.k_") = .ok true ∧
      Cut "S%.k_".toList "ſ\n.\u212A_".toList ∧ ¬ Cut "S%.k_".toList "ſ\nx\u212A_".toList := by
  have hcut : Cut "S%.k_".toList "ſ\n.\u212A_".toList := by decide +kernel
  have htest := (test_iff_cut (v := .text "ſ\n.\u212A_") (p := .text "S%.k_") rfl rfl).1
  exact ⟨⟨rfl, rfl⟩, htest.mpr ⟨_, _, rfl, rfl, hcut⟩, hcut, by decide +kernel⟩

end Like
end TableQuery
