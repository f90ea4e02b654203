/-
# TableQuery.Proofs.Collation.Accepting — which names are the name of a collation.

The name of a locale goes through two passes.  The first needs a subtag before any encoding and
modifier, which may be one of blanks that the encoding kept from being trimmed off.  The second pass
trims off the outer subtags that are blank.  So a name has no collation just when it is hollow: its
subtags are blank, and there are at most two of them.  The name of a built-in collation is a subtag
that is not blank, so it is not hollow.

## §A — characters and their subtags.
## §B — blank subtags.
## §C — subtags that are not blank.
## §D — hollow names.
-/
import TableQuery.Proofs.Collation.Resolving

namespace TableQuery
namespace Collation

variable {s tag : List Char} {tags : List (List Char)} {c : Char} {name : String}

/-! ## §A — characters and their subtags -/

/-- **The subtags hold what is no separator**, in its order. -/
theorem flatten_subtags (s : List Char) : (subtags s).flatten = s.filter (!isSeparator ·) := by
  induction s with
  | nil => rfl
  | cons c s ih =>
      cases hc : isSeparator c with
      | true =>
          rw [subtags_separator hc, ih, List.filter_cons_of_neg (by simp [hc])]
      | false =>
          -- The character stands alone or before the first of the other subtags.
          have hfirst : (subtags (c :: s)).flatten = c :: (subtags s).flatten := by
            rw [subtags.eq_def]
            simp only [hc, Bool.false_eq_true, if_false]
            split
            · rename_i htags
              rw [htags]
              split <;> rfl
            · rfl
          rw [hfirst, ih, List.filter_cons_of_pos (by simp [hc])]

/-- **There are no subtags** where there are only separators. -/
theorem subtags_eq_nil_iff : subtags s = [] ↔ ∀ c ∈ s, isSeparator c = true := by
  have hflat : subtags s = [] ↔ (subtags s).flatten = [] := by
    refine ⟨fun h => by rw [h]; rfl, fun h => List.eq_nil_iff_forall_not_mem.mpr fun tag htag => ?_⟩
    exact (mem_subtags htag).1 (List.flatten_eq_nil_iff.mp h tag htag)
  rw [hflat, flatten_subtags, List.filter_eq_nil_iff]
  simp

/-- Joining plain subtags loses none of their characters. -/
theorem mem_joined_of_mem (hplain : ∀ tag ∈ tags, Plain tag) (htag : tag ∈ tags) (hc : c ∈ tag) :
    c ∈ joined tags := by
  have hflat := flatten_subtags (joined tags)
  rw [subtags_joined hplain] at hflat
  have hmem : c ∈ tags.flatten := List.mem_flatten.mpr ⟨tag, htag, hc⟩
  rw [hflat] at hmem
  exact List.mem_of_mem_filter hmem

/-! ## §B — blank subtags -/

/-- The code points of the blanks. -/
def blanks : List Nat :=
  List.range' 0x09 5 ++ List.range' 0x1C 5 ++ [0x85, 0xA0, 0x1680] ++ List.range' 0x2000 11 ++
    [0x2028, 0x2029, 0x202F, 0x205F, 0x3000]

theorem mem_blanks (h : Text.isBlank c = true) : c.toNat ∈ blanks := by
  simp only [Text.isBlank, Bool.or_eq_true, Bool.and_eq_true, decide_eq_true_eq, beq_iff_eq] at h
  simp only [blanks, List.mem_append, List.mem_range'_1, List.mem_cons, List.not_mem_nil, or_false]
  omega

/-- The tables of letters and of lower case mention no blank, and no blank is a digit. -/
theorem blanks_apart : Text.bits blanks &&& Text.letterRanges.bits = 0 ∧
    Text.bits blanks &&& Text.bits Text.lowerMap.mentioned = 0 ∧
    Text.capitalSigma.toNat ∉ blanks ∧ ∀ n ∈ blanks, Text.isAnyDigit (Char.ofNat n) = false := by
  decide +kernel

/-- **What the tables say of a blank** — it is neither a letter nor a digit, and has no other case. -/
theorem isBlank_spec (h : Text.isBlank c = true) :
    Text.isLetter c = false ∧ Text.isAnyDigit c = false ∧ c ≠ Text.capitalSigma ∧
      Text.lowerChar c = [c] := by
  obtain ⟨hletter, hlower, hsigma, hdigit⟩ := blanks_apart
  have hmem := mem_blanks h
  refine ⟨Text.Ranges.not_contains_of_bits hletter hmem, ?_, ?_, ?_⟩
  · have hnone := hdigit c.toNat hmem
    rwa [Char.ofNat_toNat] at hnone
  · rintro rfl
    exact hsigma hmem
  · obtain ⟨hdescribes, -⟩ := Text.lowerMap_describes
    rw [hdescribes.eq_apply]
    exact Text.CharMap.apply_of_not_mem hdescribes.inOrder (Text.not_mem_of_bits hlower hmem)

theorem spellSubtag_blank (hne : tag ≠ []) (h : Text.Blank tag) : spellSubtag tag = tag := by
  obtain ⟨c, hc⟩ := List.exists_mem_of_ne_nil tag hne
  obtain ⟨hletter, hdigit, -⟩ := isBlank_spec (h c hc)
  have hletters : tag.all Text.isLetter = false := List.all_eq_false.mpr ⟨c, hc, by simp [hletter]⟩
  have hdigits : tag.all Text.isAnyDigit = false := List.all_eq_false.mpr ⟨c, hc, by simp [hdigit]⟩
  simp [spellSubtag, hletters, hdigits]

theorem lowerAfter_blank (before : List Char) (h : Text.Blank s) :
    Text.lowerAfter before s = s := by
  induction s generalizing before with
  | nil => rfl
  | cons c s ih =>
      obtain ⟨-, -, hsigma, hlower⟩ := isBlank_spec (h c List.mem_cons_self)
      rw [Text.lowerAfter, Text.lowerBetween, if_neg hsigma, hlower,
        ih _ fun d hd => h d (List.mem_cons_of_mem c hd)]
      rfl

/-- No code of a language is blank, be it outdated or current. -/
theorem languageAliases_not_blank : ∀ a ∈ languageAliases,
    ¬Text.Blank a.1.toList ∧ ¬Text.Blank a.2.toList := by
  decide

theorem spellLanguage_blank (h : Text.Blank tag) : spellLanguage tag = tag := by
  have hlower : Text.lower tag = tag := lowerAfter_blank [] h
  rw [spellLanguage, hlower, currentLanguage]
  split
  · rename_i old current hfind
    have hold := List.find?_some hfind
    rw [beq_iff_eq] at hold
    exact absurd (hold ▸ h) (languageAliases_not_blank _ (List.mem_of_find?_eq_some hfind)).1
  · rfl

/-- **Blank subtags are spelled as they are.** -/
theorem spelled_blank (hne : ∀ tag ∈ tags, tag ≠ []) (h : ∀ tag ∈ tags, Text.Blank tag) :
    spelled tags = tags := by
  rcases tags with _ | ⟨language, more⟩
  · rfl
  · rw [spelled, spellLanguage_blank (h language List.mem_cons_self)]
    congr 1
    refine (List.map_congr_left fun tag htag => ?_).trans (List.map_id more)
    exact spellSubtag_blank (hne tag (List.mem_cons_of_mem _ htag)) (h tag (List.mem_cons_of_mem _ htag))

/-- **The outer ones of blank subtags are trimmed off**: of two or less nothing is left. -/
theorem trim_joined_blank (hplain : ∀ tag ∈ tags, Plain tag) (h : ∀ tag ∈ tags, Text.Blank tag) :
    subtags (Text.trim (joined tags)) = [] ↔ tags.length ≤ 2 := by
  match tags with
  | [] => simp [joined, Text.trim, Text.trimStart, Text.trimEnd, subtags]
  | [tag] =>
    have hnil : Text.trim (joined [tag]) = [] := by
      rw [joined_singleton]
      exact Text.trim_eq_nil_iff.mpr (h tag List.mem_cons_self)
    simp [hnil, subtags]
  | [tag, last] =>
    have hone : Text.trim (joined [tag, last]) = ['_'] := by
      have hpadded := Text.trim_padded (s := ['_']) (h tag (by simp)) (h last (by simp))
      rw [joined_cons_cons, joined_singleton]
      rwa [List.append_assoc, List.singleton_append,
        Text.trim_of_not_blank (s := ['_']) (by simp [Text.isBlank])] at hpadded
    simp [hone, subtags_eq_nil_iff, isSeparator]
  | tag :: inner :: last :: more =>
    -- What stands between the outer two is kept with its separators, and it is no separator itself.
    have hinner := hplain inner (by simp)
    obtain ⟨c, hc⟩ := List.exists_mem_of_ne_nil inner hinner.ne_nil
    have hmem : c ∈ Text.trim (joined (tag :: inner :: last :: more)) := by
      rw [joined_cons_cons, joined_cons_cons]
      exact Text.mem_trim_between (h tag (by simp)) (by decide) (by decide) hc
    have hsep := (hinner.parts c hc).1
    simp only [subtags_eq_nil_iff, List.length_cons]
    constructor
    · intro hall
      cases hsep.symm.trans (hall c hmem)
    · omega

/-! ## §C — subtags that are not blank -/

/-- Another spelling of a text that is not blank is not blank. -/
theorem not_blank_of_respelled {t : List Char} (h : Text.Respelled s t) (hs : ¬Text.Blank s) :
    ¬Text.Blank t := by
  rw [Text.not_blank_iff] at hs ⊢
  obtain ⟨c, hc, hshown⟩ := hs
  induction h with
  | nil => cases hc
  | @cons d part s t hpart _ ih =>
      rcases List.mem_cons.mp hc with rfl | hc
      · obtain ⟨hne, hspells⟩ := hpart
        obtain ⟨e, he⟩ := List.exists_mem_of_ne_nil part hne
        refine ⟨e, List.mem_append_left t he, ?_⟩
        rcases hspells e he with rfl | hmark
        · exact hshown
        · refine Bool.eq_false_iff.mpr fun hblank => ?_
          cases hmark.symm.trans (Text.isMark_of_isBlank hblank)
      · obtain ⟨e, he, hblank⟩ := ih hc
        exact ⟨e, List.mem_append_right part he, hblank⟩

theorem not_blank_spellLanguage (h : ¬Text.Blank tag) : ¬Text.Blank (spellLanguage tag) := by
  unfold spellLanguage currentLanguage
  split
  · rename_i hfind
    exact (languageAliases_not_blank _ (List.mem_of_find?_eq_some hfind)).2
  · exact not_blank_of_respelled (respelled_lower tag) h

/-- **Spelling leaves what is not blank not blank.** -/
theorem exists_spelled_not_blank (h : ∃ tag ∈ tags, ¬Text.Blank tag) :
    ∃ tag ∈ spelled tags, ¬Text.Blank tag := by
  obtain ⟨tag, htag, hshown⟩ := h
  rcases tags with _ | ⟨language, more⟩
  · cases htag
  · rw [spelled]
    rcases List.mem_cons.mp htag with rfl | htag
    · exact ⟨_, List.mem_cons_self, not_blank_spellLanguage hshown⟩
    · exact ⟨_, List.mem_cons_of_mem _ (List.mem_map_of_mem htag),
        not_blank_of_respelled (respelled_spellSubtag tag) hshown⟩

/-- **A subtag that is not blank** is not trimmed off. -/
theorem trim_joined_not_blank (hplain : ∀ tag ∈ tags, Plain tag)
    (h : ∃ tag ∈ tags, ¬Text.Blank tag) : subtags (Text.trim (joined tags)) ≠ [] := by
  obtain ⟨tag, htag, hshown⟩ := h
  obtain ⟨c, hc, hblank⟩ := Text.not_blank_iff.mp hshown
  intro hnil
  have hmem : c ∈ Text.trim (joined tags) :=
    Text.mem_trim (mem_joined_of_mem hplain htag hc) hblank
  have hsep := ((hplain tag htag).parts c hc).1
  cases hsep.symm.trans (subtags_eq_nil_iff.mp hnil c hmem)

/-- **Of the joined subtags, once they are spelled, something is left** unless there are at most two,
which are blank. -/
theorem trim_spelled_iff (hplain : ∀ tag ∈ tags, Plain tag) :
    tags ≠ [] ∧ subtags (Text.trim (joined (spelled tags))) ≠ [] ↔
      ¬(tags.length ≤ 2 ∧ ∀ tag ∈ tags, Text.Blank tag) := by
  by_cases hblank : ∀ tag ∈ tags, Text.Blank tag
  · have hsame : spelled tags = tags := spelled_blank (fun tag htag => (hplain tag htag).ne_nil) hblank
    rw [hsame, ne_eq (subtags _), trim_joined_blank hplain hblank]
    constructor
    · rintro ⟨-, hlong⟩ ⟨hshort, -⟩
      exact hlong hshort
    · intro hhollow
      have hlong : ¬tags.length ≤ 2 := fun hshort => hhollow ⟨hshort, hblank⟩
      refine ⟨?_, hlong⟩
      rintro rfl
      exact hlong (Nat.zero_le 2)
  · have hshown : ∃ tag ∈ tags, ¬Text.Blank tag := by simpa using hblank
    have hleft := trim_joined_not_blank (plain_spelled hplain) (exists_spelled_not_blank hshown)
    obtain ⟨tag, htag, -⟩ := hshown
    exact ⟨fun _ hhollow => hblank hhollow.2, fun _ => ⟨List.ne_nil_of_mem htag, hleft⟩⟩

/-! ## §D — hollow names -/

/-- **Hollow** — a name of no more than two subtags, which are blank. -/
def Hollow (name : String) : Prop :=
  (subtags (bareCode name.toList)).length ≤ 2 ∧ ∀ tag ∈ subtags (bareCode name.toList), Text.Blank tag

instance (name : String) : Decidable (Hollow name) := inferInstanceAs (Decidable (_ ∧ _))

/-- **The second pass** finds a subtag in the normal form of the first, unless the name is hollow. -/
theorem canonicalLocale_twice_iff : (∃ first code, canonicalLocale name = .ok first ∧
    canonicalLocale first = .ok code) ↔ ¬Hollow name := by
  have hplain := plain_subtags name.toList
  rw [Hollow, ← trim_spelled_iff hplain]
  simp only [canonicalLocale_eq_ok_iff]
  constructor
  · rintro ⟨_, _, ⟨hne, rfl⟩, hcode, -⟩
    rw [String.toList_ofList, bareCode_joined (plain_spelled hplain)] at hcode
    exact ⟨hne, hcode⟩
  · rintro ⟨hne, hcode⟩
    refine ⟨_, _, ⟨hne, rfl⟩, ?_, rfl⟩
    rwa [String.toList_ofList, bareCode_joined (plain_spelled hplain)]

/-- What codes are parted and cut by. -/
def signs : List Char := ['.', '@', '-', '_']

/-- The signs are the same in capitals, and stand in no name of a built-in collation. -/
theorem signs_spec : (signs.all fun c => Text.upperChar c == [c]) = true ∧
    ∀ e ∈ builtins, e.1.toList ≠ [] ∧ (signs.all fun c => !e.1.toList.contains c) = true := by
  decide

/-- **The name of a built-in collation** is one plain subtag, once it is trimmed. -/
theorem plain_of_builtin? {b : Collation} (h : builtin? name = some b) :
    Plain (Text.trim name.toList) := by
  obtain ⟨e, hfind, -⟩ := Option.map_eq_some_iff.mp h
  have hspelling : Text.upper (Text.trim name.toList) = e.1.toList := by
    have hfound := List.find?_some hfind
    rw [beq_iff_eq] at hfound
    rw [hfound, spelling, String.toList_ofList]
  obtain ⟨hne, hsigns⟩ := signs_spec.2 e (List.mem_of_find?_eq_some hfind)
  refine ⟨fun hnil => hne (by rw [← hspelling, hnil]; rfl), fun c hc => ?_⟩
  have hnone : c ∉ signs := by
    intro hsign
    have hself : Text.upperChar c = [c] := beq_iff_eq.mp (List.all_eq_true.mp signs_spec.1 c hsign)
    have hmem : c ∈ e.1.toList := by
      rw [← hspelling]
      exact List.mem_flatMap.mpr ⟨c, hc, hself ▸ List.mem_singleton_self c⟩
    have hnot := List.all_eq_true.mp hsigns c hsign
    rw [List.contains_iff_mem.mpr hmem] at hnot
    cases hnot
  simpa [signs, isSeparator, and_comm, and_assoc, and_left_comm] using hnone

theorem not_hollow_of_builtin? {b : Collation} (h : builtin? name = some b) : ¬Hollow name := by
  have hplain := plain_of_builtin? h
  have htags : subtags (bareCode name.toList) = [Text.trim name.toList] := by
    rw [bareCode_eq_trim fun c hc => (hplain.parts c hc).2, subtags_plain hplain]
  rintro ⟨-, hblank⟩
  have hnil := Text.trim_eq_nil_iff.mpr (hblank _ (htags ▸ List.mem_singleton_self _))
  rw [Text.trim_trim] at hnil
  exact hplain.ne_nil hnil

/-- **A name has a collation** just when it is not hollow. -/
theorem exists_ofName_iff : (∃ c, ofName name = .ok c) ↔ ¬Hollow name := by
  cases hb : builtin? name with
  | some b => exact iff_of_true ⟨b, ofName_of_builtin? hb⟩ (not_hollow_of_builtin? hb)
  | none =>
      rw [← canonicalLocale_twice_iff]
      simp only [ofName_eq_ok_iff hb]
      constructor
      · rintro ⟨_, first, code, hfirst, hcode, -⟩
        exact ⟨first, code, hfirst, hcode⟩
      · rintro ⟨first, code, hfirst, hcode⟩
        exact ⟨_, first, code, hfirst, hcode, rfl⟩

/-- The inner one of three blank subtags is trimmed off by neither pass. -/
example : Hollow "- - .x" ∧ ofName "- - - .x" = .ok (.locale " ") := by decide +kernel

/-- A blank name is hollow. -/
theorem hollow_of_blank (h : Text.Blank name.toList) : Hollow name := by
  have htags : subtags (bareCode name.toList) = [] := by
    rw [bareCode, Text.trim_eq_nil_iff.mpr h]
    rfl
  rw [Hollow, htags]
  refine ⟨Nat.zero_le 2, fun tag htag => ?_⟩
  cases htag

/-- **Trimming a name** does not change its collation. -/
theorem ofName_trim {c : Collation} :
    ofName (String.ofList (Text.trim name.toList)) = .ok c ↔ ofName name = .ok c := by
  have hbuiltin : builtin? (String.ofList (Text.trim name.toList)) = builtin? name := by
    rw [builtin?, builtin?, spelling, spelling, String.toList_ofList, Text.trim_trim]
  have hcode {first : String} : canonicalLocale (String.ofList (Text.trim name.toList)) = .ok first ↔
      canonicalLocale name = .ok first := by
    rw [canonicalLocale_eq_ok_iff, canonicalLocale_eq_ok_iff, String.toList_ofList, bareCode,
      bareCode, Text.trim_trim]
  cases hb : builtin? name with
  | some b => rw [ofName_of_builtin? hb, ofName_of_builtin? (hbuiltin.trans hb)]
  | none => simp only [ofName_eq_ok_iff hb, ofName_eq_ok_iff (hbuiltin.trans hb), hcode]

end Collation
end TableQuery
