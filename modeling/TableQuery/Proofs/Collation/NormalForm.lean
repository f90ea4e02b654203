/-
# TableQuery.Proofs.Collation.NormalForm — one normal form for all spellings of a locale.

A code of ASCII subtags has a normal form, however its subtags are parted and whatever encoding or
modifier follows.  The normal form is the spelled subtags joined by underscores.  It is a spelling of
the same locale, so it is its own normal form: no spelling makes an ASCII subtag longer, so one pass
is enough.

## §A — ASCII letters and digits.
## §B — spelling ASCII subtags.
## §C — codes that write subtags.
## §D — one normal form.
-/
import TableQuery.Proofs.Collation.Resolving
import TableQuery.Proofs.Number.Reading
import Mathlib.Tactic.MkIffOfInductiveProp

namespace TableQuery
namespace Collation

/-! ## §A — ASCII letters and digits -/

/-- **What the case tables say of an ASCII letter or digit** — it is no mark, it is one character in
every case, and it has case if it is a letter. -/
@[mk_iff]
structure Ascii (c : Char) : Prop where
  unmarked : Text.isMark c = false
  ne_sigma : c ≠ Text.capitalSigma
  lower : Text.lowerChar c = [c.toLower]
  upper : Text.upperChar c = [c.toUpper]
  title : Text.titleChar c = [c.toUpper]
  cased : Text.isCased c = c.isAlpha
  letter : Text.isLetter c = c.isAlpha
  ofLower : c.toLower.isAlphanum = true
  ofUpper : c.toUpper.isAlphanum = true
  alpha : c.toLower.isAlpha = c.isAlpha
  toUpper : c.toLower.toUpper = c.toUpper

instance (c : Char) : Decidable (Ascii c) := decidable_of_iff _ (ascii_iff c).symm

/-- The tables are asked once for each ASCII character. -/
theorem ascii_spec : ∀ n < 0x80, (Char.ofNat n).isAlphanum = true → Ascii (Char.ofNat n) := by
  decide +kernel

theorem ascii {c : Char} (h : c.isAlphanum = true) : Ascii c := by
  have hlt : c.toNat < 0x80 := by
    simp only [Char.isAlphanum, Char.isAlpha, Char.isUpper, Char.isLower, Char.isDigit,
      Bool.or_eq_true, Bool.and_eq_true, decide_eq_true_eq, UInt32.le_iff_toNat_le, ge_iff_le] at h
    change (65 ≤ c.toNat ∧ c.toNat ≤ 90 ∨ 97 ≤ c.toNat ∧ c.toNat ≤ 122) ∨
      48 ≤ c.toNat ∧ c.toNat ≤ 57 at h
    omega
  have hspec := ascii_spec c.toNat hlt
  rw [Char.ofNat_toNat] at hspec
  exact hspec h

/-- **A tag** — a subtag of ASCII letters and digits. -/
structure IsTag (tag : List Char) : Prop where
  ne_nil : tag ≠ []
  alphanum : ∀ c ∈ tag, c.isAlphanum = true

/-- A tag holds nothing that parts or trims codes. -/
theorem IsTag.isMark {tag : List Char} (h : IsTag tag) {c : Char} (hc : c ∈ tag) :
    Text.isMark c = false := (ascii (h.alphanum c hc)).unmarked

theorem isSeparator_of_not_isMark {c : Char} (h : Text.isMark c = false) :
    isSeparator c = false ∧ c ≠ '.' ∧ c ≠ '@' := by
  refine ⟨Bool.eq_false_iff.mpr fun hsep => ?_, ?_, ?_⟩
  · simp only [isSeparator, Bool.or_eq_true, beq_iff_eq] at hsep
    rcases hsep with rfl | rfl <;> cases h
  · rintro rfl
    cases h
  · rintro rfl
    cases h

theorem IsTag.plain {tag : List Char} (h : IsTag tag) : Plain tag :=
  ⟨h.ne_nil, fun _ hc => isSeparator_of_not_isMark (h.isMark hc)⟩

theorem IsTag.map {tag : List Char} (h : IsTag tag) {f : Char → Char}
    (hf : ∀ c, c.isAlphanum = true → (f c).isAlphanum = true) : IsTag (tag.map f) := by
  refine ⟨fun hnil => h.ne_nil (List.map_eq_nil_iff.mp hnil), fun d hd => ?_⟩
  obtain ⟨c, hc, rfl⟩ := List.mem_map.mp hd
  exact hf c (h.alphanum c hc)

/-! ## §B — spelling ASCII subtags -/

section
variable {tag : List Char}

theorem lowerAfter_ascii (before : List Char) (h : ∀ c ∈ tag, c.isAlphanum = true) :
    Text.lowerAfter before tag = tag.map Char.toLower := by
  induction tag generalizing before with
  | nil => rfl
  | cons c tag ih =>
      have hc := ascii (h c List.mem_cons_self)
      rw [Text.lowerAfter, Text.lowerBetween, if_neg hc.ne_sigma, hc.lower,
        ih _ fun d hd => h d (List.mem_cons_of_mem c hd)]
      rfl

theorem lower_ascii (h : ∀ c ∈ tag, c.isAlphanum = true) :
    Text.lower tag = tag.map Char.toLower := lowerAfter_ascii [] h

theorem upper_ascii (h : ∀ c ∈ tag, c.isAlphanum = true) :
    Text.upper tag = tag.map Char.toUpper := by
  induction tag with
  | nil => rfl
  | cons c tag ih =>
      have hrest := ih fun d hd => h d (List.mem_cons_of_mem c hd)
      rw [Text.upper] at hrest ⊢
      rw [List.flatMap_cons, hrest, (ascii (h c List.mem_cons_self)).upper]
      rfl

/-- After a letter title case is lower case. -/
theorem titleAfter_ascii {b : Char} (before : List Char) (hb : Text.isCased b = true)
    (h : ∀ c ∈ tag, c.isAlphanum = true) (hletters : ∀ c ∈ tag, c.isAlpha = true) :
    Text.titleAfter (b :: before) tag = tag.map Char.toLower := by
  induction tag generalizing b before with
  | nil => rfl
  | cons c tag ih =>
      have hc := ascii (h c List.mem_cons_self)
      have hcased : Text.isCased c = true := hc.cased.trans (hletters c List.mem_cons_self)
      rw [Text.titleAfter_cons, Text.titleBetween, if_pos hb, Text.lowerBetween,
        if_neg hc.ne_sigma, hc.lower, ih _ hcased (fun d hd => h d (List.mem_cons_of_mem c hd))
          fun d hd => hletters d (List.mem_cons_of_mem c hd)]
      rfl

/-- **The title case of letters** is a capital and small letters. -/
theorem title_ascii {c : Char} (h : ∀ d ∈ c :: tag, d.isAlphanum = true)
    (hletters : ∀ d ∈ c :: tag, d.isAlpha = true) :
    Text.title (c :: tag) = c.toUpper :: tag.map Char.toLower := by
  have hc := ascii (h c List.mem_cons_self)
  have hcased : Text.isCased c = true := hc.cased.trans (hletters c List.mem_cons_self)
  rw [Text.title, Text.titleAfter_cons, Text.titleBetween, hc.title,
    titleAfter_ascii [] hcased (fun d hd => h d (List.mem_cons_of_mem c hd))
      fun d hd => hletters d (List.mem_cons_of_mem c hd)]
  rfl

end

/-- The same text but for the case of ASCII letters. -/
def SameLetters (s t : List Char) : Prop := s.map Char.toLower = t.map Char.toLower

theorem SameLetters.length_eq {s t : List Char} (h : SameLetters s t) : s.length = t.length := by
  have hlength := congrArg List.length h
  rwa [List.length_map, List.length_map] at hlength

theorem SameLetters.isAlpha {s t : List Char} (h : SameLetters s t)
    (hs : ∀ c ∈ s, c.isAlphanum = true) (ht : ∀ c ∈ t, c.isAlphanum = true)
    (hletters : ∀ c ∈ s, c.isAlpha = true) : ∀ c ∈ t, c.isAlpha = true := by
  intro d hd
  have hmem : d.toLower ∈ s.map Char.toLower := by
    rw [h]
    exact List.mem_map_of_mem hd
  obtain ⟨c, hc, hcd⟩ := List.mem_map.mp hmem
  rw [← (ascii (ht d hd)).alpha, ← hcd, (ascii (hs c hc)).alpha]
  exact hletters c hc

/-- The upper case of ASCII letters and digits can be told from their lower case. -/
theorem upper_lower {s : List Char} (h : ∀ c ∈ s, c.isAlphanum = true) :
    Text.upper s = (s.map Char.toLower).map Char.toUpper := by
  rw [upper_ascii h, List.map_map]
  exact List.map_congr_left fun c hc => (ascii (h c hc)).toUpper.symm

theorem SameLetters.upper_eq {s t : List Char} (h : SameLetters s t)
    (hs : ∀ c ∈ s, c.isAlphanum = true) (ht : ∀ c ∈ t, c.isAlphanum = true) :
    Text.upper s = Text.upper t := by
  rw [upper_lower hs, upper_lower ht, h]

theorem SameLetters.title_eq {s t : List Char} (h : SameLetters s t)
    (hs : ∀ c ∈ s, c.isAlphanum = true) (ht : ∀ c ∈ t, c.isAlphanum = true)
    (hletters : ∀ c ∈ s, c.isAlpha = true) : Text.title s = Text.title t := by
  have hletters' := h.isAlpha hs ht hletters
  rcases s with _ | ⟨c, s⟩ <;> rcases t with _ | ⟨d, t⟩
  · rfl
  · cases h
  · cases h
  · obtain ⟨hcd, hst⟩ := List.cons_eq_cons.mp h
    rw [title_ascii hs hletters, title_ascii ht hletters',
      ← (ascii (hs c List.mem_cons_self)).toUpper, ← (ascii (ht d List.mem_cons_self)).toUpper, hcd, hst]

/-- **The spelling of a subtag** is its title case if it is four letters, its upper case, or itself. -/
theorem spellSubtag_cases {tag : List Char} (h : IsTag tag) :
    (spellSubtag tag = Text.title tag ∧ tag.length = 4 ∧ ∀ c ∈ tag, c.isAlpha = true) ∨
      spellSubtag tag = Text.upper tag ∨ spellSubtag tag = tag := by
  unfold spellSubtag
  split
  · rename_i hfour
    refine .inl ⟨rfl, hfour.1, fun c hc => ?_⟩
    rw [← (ascii (h.alphanum c hc)).letter]
    exact List.all_eq_true.mp hfour.2 c hc
  · split
    · exact .inr (.inl rfl)
    · exact .inr (.inr rfl)

theorem IsTag.spellSubtag {tag : List Char} (h : IsTag tag) : IsTag (spellSubtag tag) := by
  rcases spellSubtag_cases h with ⟨htitle, -, hletters⟩ | hupper | hself
  · rw [htitle]
    rcases tag with _ | ⟨c, tag⟩
    · exact h
    · rw [title_ascii h.alphanum hletters]
      refine ⟨List.cons_ne_nil _ _, fun d hd => ?_⟩
      rcases List.mem_cons.mp hd with rfl | hd
      · exact (ascii (h.alphanum c List.mem_cons_self)).ofUpper
      · obtain ⟨e, he, rfl⟩ := List.mem_map.mp hd
        exact (ascii (h.alphanum e (List.mem_cons_of_mem c he))).ofLower
  · rw [hupper, upper_ascii h.alphanum]
    exact h.map fun c hc => (ascii hc).ofUpper
  · rwa [hself]

/-- **A spelled tag is spelled** — no letter of it has become several. -/
theorem spellSubtag_tag {tag : List Char} (h : IsTag tag) :
    spellSubtag (spellSubtag tag) = spellSubtag tag := by
  rcases spellSubtag_cases h with ⟨-, hfour, -⟩ | hupper | hself
  · exact spellSubtag_of_four hfour.ge
  · rw [hupper]
    rcases spellSubtag_cases (hupper ▸ h.spellSubtag) with ⟨-, hfour, -⟩ | hupper' | hself
    · have hlength : (Text.upper tag).length = tag.length := by
        rw [upper_ascii h.alphanum, List.length_map]
      rw [← hupper]
      exact spellSubtag_of_four (hlength ▸ hfour).ge
    · rw [hupper', Text.upper_upper]
    · exact hself
  · rw [hself, hself]

/-- **The same subtag** — the same text, or the same two or four letters in another case. -/
def SameSubtag (s t : List Char) : Prop :=
  s = t ∨ SameLetters s t ∧ (s.length = 2 ∨ s.length = 4) ∧ ∀ c ∈ s, c.isAlpha = true

theorem SameSubtag.spellSubtag_eq {s t : List Char} (h : SameSubtag s t) (hs : IsTag s)
    (ht : IsTag t) : spellSubtag s = spellSubtag t := by
  rcases h with rfl | ⟨hsame, hlength, hletters⟩
  · rfl
  have hall {u : List Char} (hu : IsTag u) (halpha : ∀ c ∈ u, c.isAlpha = true) :
      u.all Text.isLetter = true :=
    List.all_eq_true.mpr fun c hc => (ascii (hu.alphanum c hc)).letter.trans (halpha c hc)
  have hs' := hall hs hletters
  have ht' := hall ht (hsame.isAlpha hs.alphanum ht.alphanum hletters)
  unfold spellSubtag
  rcases hlength with htwo | hfour
  · have htwo' : t.length = 2 := hsame.length_eq ▸ htwo
    rw [if_neg (by omega), if_pos (.inl ⟨htwo, hs'⟩), if_neg (by omega), if_pos (.inl ⟨htwo', ht'⟩)]
    exact hsame.upper_eq hs.alphanum ht.alphanum
  · have hfour' : t.length = 4 := hsame.length_eq ▸ hfour
    rw [if_pos ⟨hfour, hs'⟩, if_pos ⟨hfour', ht'⟩]
    exact hsame.title_eq hs.alphanum ht.alphanum hletters

/-- An outdated language and the one that replaces it have the latter as their current code, which is a
tag. -/
theorem languageAliases_ascii : ∀ a ∈ languageAliases,
    currentLanguage (a.1.toList.map Char.toLower) = a.2.toList ∧
      currentLanguage (a.2.toList.map Char.toLower) = a.2.toList ∧
      a.2.toList ≠ [] ∧ a.2.toList.all Char.isAlphanum = true := by
  decide +kernel

/-- **The same language** — one code in any case, or an outdated code and the one that replaces it. -/
inductive SameLanguage (s t : List Char) : Prop
  | letters : SameLetters s t → SameLanguage s t
  | replaced (old current : String) : (old, current) ∈ languageAliases → SameLetters s old.toList →
      SameLetters t current.toList → SameLanguage s t

theorem SameLanguage.spellLanguage_eq {s t : List Char} (h : SameLanguage s t) (hs : IsTag s)
    (ht : IsTag t) : spellLanguage s = spellLanguage t := by
  unfold spellLanguage
  rw [lower_ascii hs.alphanum, lower_ascii ht.alphanum]
  cases h with
  | letters hsame => rw [hsame]
  | replaced old current halias hold hcurrent =>
      obtain ⟨h₁, h₂, -, -⟩ := languageAliases_ascii _ halias
      rw [hold, hcurrent, h₁, h₂]

theorem IsTag.spellLanguage {tag : List Char} (h : IsTag tag) : IsTag (spellLanguage tag) := by
  unfold Collation.spellLanguage currentLanguage
  split
  · rename_i current hfind
    obtain ⟨-, -, hne, hall⟩ := languageAliases_ascii _ (List.mem_of_find?_eq_some hfind)
    exact ⟨hne, List.all_eq_true.mp hall⟩
  · rw [lower_ascii h.alphanum]
    exact h.map fun c hc => (ascii hc).ofLower

theorem isTag_spelled {tags : List (List Char)} (h : ∀ tag ∈ tags, IsTag tag) :
    ∀ tag ∈ spelled tags, IsTag tag :=
  forall_mem_spelled (fun _ ht => ht.spellLanguage) (fun _ ht => ht.spellSubtag) h

/-- **Spelling tags comes to rest at the first time.** -/
theorem spelled_spelled {tags : List (List Char)} (h : ∀ tag ∈ tags, IsTag tag) :
    spelled (spelled tags) = spelled tags := by
  rcases tags with _ | ⟨language, more⟩
  · rfl
  · simp only [spelled, spellLanguage_rests, List.map_map]
    congr 1
    exact List.map_congr_left fun tag htag => spellSubtag_tag (h tag (List.mem_cons_of_mem _ htag))

/-- **The same tags** — the same language, and the same subtags after it. -/
inductive SameTags : List (List Char) → List (List Char) → Prop
  | mk {s t : List Char} {ss ts : List (List Char)} :
      SameLanguage s t → List.Forall₂ SameSubtag ss ts → SameTags (s :: ss) (t :: ts)

/-- **The same tags are spelled in the same way.** -/
theorem SameTags.spelled_eq {tags tags' : List (List Char)} (h : SameTags tags tags')
    (htags : ∀ tag ∈ tags, IsTag tag) (htags' : ∀ tag ∈ tags', IsTag tag) :
    spelled tags = spelled tags' := by
  obtain ⟨hlanguage, hmore⟩ := h
  simp only [spelled, List.cons.injEq]
  refine ⟨hlanguage.spellLanguage_eq (htags _ List.mem_cons_self) (htags' _ List.mem_cons_self), ?_⟩
  replace htags := fun tag htag => htags tag (List.mem_cons_of_mem _ htag)
  replace htags' := fun tag htag => htags' tag (List.mem_cons_of_mem _ htag)
  induction hmore with
  | nil => rfl
  | cons hst _ ih =>
      rw [List.map_cons, List.map_cons, hst.spellSubtag_eq (htags _ List.mem_cons_self)
        (htags' _ List.mem_cons_self), ih (fun tag htag => htags tag (List.mem_cons_of_mem _ htag))
        fun tag htag => htags' tag (List.mem_cons_of_mem _ htag)]

/-! ## §C — codes that write subtags -/

/-- **A text that writes tags** — one after the other, parted by runs of hyphens and underscores. -/
inductive Writes : List (List Char) → List Char → Prop
  | last {tag} : IsTag tag → Writes [tag] tag
  | more {tag tags rest} (parts) : IsTag tag → parts ≠ [] → (∀ c ∈ parts, isSeparator c = true) →
      Writes tags rest → Writes (tag :: tags) (tag ++ (parts ++ rest))

namespace Writes
variable {tags : List (List Char)} {bare : List Char}

theorem ne_nil (h : Writes tags bare) : tags ≠ [] := by
  cases h <;> exact List.cons_ne_nil _ _

theorem isTag (h : Writes tags bare) : ∀ tag ∈ tags, IsTag tag := by
  induction h with
  | last htag => exact fun t ht => List.mem_singleton.mp ht ▸ htag
  | more _ htag _ _ _ ih =>
      intro t ht
      rcases List.mem_cons.mp ht with rfl | ht
      · exact htag
      · exact ih t ht

theorem bare_ne_nil (h : Writes tags bare) : bare ≠ [] := by
  cases h with
  | last htag => exact htag.ne_nil
  | more _ htag => exact List.append_ne_nil_of_left_ne_nil htag.ne_nil _

/-- What writes tags holds no blank and no sign that an encoding or a modifier follows. -/
theorem bare_spec (h : Writes tags bare) :
    ∀ c ∈ bare, Text.isBlank c = false ∧ c ≠ '.' ∧ c ≠ '@' := by
  have htagged {tag : List Char} (htag : IsTag tag) :
      ∀ c ∈ tag, Text.isBlank c = false ∧ c ≠ '.' ∧ c ≠ '@' := by
    intro c hc
    have hmark := htag.isMark hc
    refine ⟨Bool.eq_false_iff.mpr fun hblank => ?_, (isSeparator_of_not_isMark hmark).2⟩
    rw [Text.isMark_of_isBlank hblank] at hmark
    cases hmark
  induction h with
  | last htag => exact htagged htag
  | more _ htag _ hparts _ ih =>
      intro c hc
      rcases List.mem_append.mp hc with hc | hc
      · exact htagged htag c hc
      · rcases List.mem_append.mp hc with hc | hc
        · have hsep := hparts c hc
          simp only [isSeparator, Bool.or_eq_true, beq_iff_eq] at hsep
          rcases hsep with rfl | rfl <;> decide
        · exact ih c hc

/-- **The subtags of a text are the tags that it writes.** -/
theorem subtags_eq (h : Writes tags bare) : subtags bare = tags := by
  induction h with
  | last htag => exact subtags_plain htag.plain
  | @more tag tags rest parts htag hne hparts _ ih =>
      have hskip : ∀ ps : List Char, (∀ c ∈ ps, isSeparator c = true) →
          subtags (ps ++ rest) = subtags rest := by
        intro ps hps
        induction ps with
        | nil => rfl
        | cons c ps ihps =>
            rw [List.cons_append, subtags_separator (hps c List.mem_cons_self),
              ihps fun d hd => hps d (List.mem_cons_of_mem c hd)]
      have hhead : ∀ d ∈ (parts ++ rest).head?, isSeparator d = true := by
        rw [List.head?_append_of_ne_nil _ hne]
        exact fun d hd => hparts d (List.mem_of_head? hd)
      rw [subtags_append htag.plain hhead, hskip parts hparts, ih]

end Writes

theorem writes_joined {tags : List (List Char)} (hne : tags ≠ []) (h : ∀ tag ∈ tags, IsTag tag) :
    Writes tags (joined tags) := by
  induction tags with
  | nil => exact absurd rfl hne
  | cons tag tags ih =>
      have htag := h tag List.mem_cons_self
      rcases tags with _ | ⟨next, tags⟩
      · rw [joined_singleton]
        exact .last htag
      · rw [joined_cons_cons]
        have hrest := ih (List.cons_ne_nil _ _) fun t ht => h t (List.mem_cons_of_mem _ ht)
        exact .more ['_'] htag (List.cons_ne_nil _ _) (by simp [isSeparator]) hrest

/-- **A code that spells tags** — a text that writes them, and perhaps an encoding or a modifier, which
may be anything. -/
def Spells (tags : List (List Char)) (code : String) : Prop :=
  ∃ bare suffix, Writes tags bare ∧ (∀ c ∈ suffix.head?, c = '.' ∨ c = '@') ∧
    code.toList = bare ++ suffix

theorem Spells.isTag {tags : List (List Char)} {code : String} (h : Spells tags code) :
    ∀ tag ∈ tags, IsTag tag := by
  obtain ⟨_, _, hwrites, -⟩ := h
  exact hwrites.isTag

/-- **The bare code is what writes the tags.** -/
theorem bareCode_append {tags : List (List Char)} {bare suffix : List Char} (h : Writes tags bare)
    (hsuffix : ∀ c ∈ suffix.head?, c = '.' ∨ c = '@') : bareCode (bare ++ suffix) = bare := by
  have hspec := h.bare_spec
  have htrim : Text.trim (bare ++ suffix) = bare ++ Text.trimEnd suffix :=
    Text.trim_append h.bare_ne_nil (fun c hc => (hspec c (List.mem_of_head? hc)).1)
      fun c hc => (hspec c (List.mem_of_getLast? hc)).1
  have hpoint (t : List Char) : (bare ++ t).takeWhile (· ≠ '.') = bare ++ t.takeWhile (· ≠ '.') :=
    List.takeWhile_append_of_pos fun c hc => decide_eq_true (hspec c hc).2.1
  have hat (t : List Char) : (bare ++ t).takeWhile (· ≠ '@') = bare ++ t.takeWhile (· ≠ '@') :=
    List.takeWhile_append_of_pos fun c hc => decide_eq_true (hspec c hc).2.2
  -- The sign that the suffix begins with is no blank, so trimming leaves it where it is.
  have hcut : ((Text.trimEnd suffix).takeWhile (· ≠ '.')).takeWhile (· ≠ '@') = [] := by
    rcases suffix with _ | ⟨c, suffix⟩
    · rfl
    · have hc : c = '.' ∨ c = '@' := hsuffix c rfl
      have hblank : ∀ d ∈ [c].getLast?, Text.isBlank d = false := by
        rcases hc with rfl | rfl <;> simp [Text.isBlank]
      have hend := Text.trimEnd_append (t := suffix) hblank
      rw [List.singleton_append] at hend
      rw [hend]
      rcases hc with rfl | rfl <;> simp
  rw [bareCode, htrim, hpoint, hat, hcut, List.append_nil]

/-! ## §D — one normal form -/

/-- **The normal form of a code** is the tags that it spells, spelled and joined. -/
theorem Spells.canonicalLocale_eq {tags : List (List Char)} {code : String} (h : Spells tags code) :
    canonicalLocale code = .ok (String.ofList (joined (spelled tags))) := by
  obtain ⟨bare, suffix, hwrites, hsuffix, hcode⟩ := h
  have htags : subtags (bareCode code.toList) = tags := by
    rw [hcode, bareCode_append hwrites hsuffix, hwrites.subtags_eq]
  exact canonicalLocale_eq_ok_iff.mpr ⟨htags ▸ hwrites.ne_nil, by rw [htags]⟩

/-- **The normal form spells the spelled tags.** -/
theorem Spells.normalForm {tags : List (List Char)} {code : String} (h : Spells tags code) :
    Spells (spelled tags) (String.ofList (joined (spelled tags))) := by
  obtain ⟨bare, suffix, hwrites, -, -⟩ := h
  have hne : spelled tags ≠ [] := by
    obtain ⟨_, _, rfl⟩ := List.exists_cons_of_ne_nil hwrites.ne_nil
    exact List.cons_ne_nil _ _
  refine ⟨joined (spelled tags), [], writes_joined hne (isTag_spelled hwrites.isTag), by simp, ?_⟩
  rw [String.toList_ofList, List.append_nil]

/-- **One normal form** — every code that spells tags has a normal form.  It is its own normal form, and
that of every code that spells the same tags, whatever parts them and whatever follows. -/
theorem one_normalForm {tags tags' : List (List Char)} {code code' : String}
    (h : Spells tags code) (h' : Spells tags' code') (hsame : SameTags tags tags') :
    ∃ form, canonicalLocale code = .ok form ∧ canonicalLocale code' = .ok form ∧
      canonicalLocale form = .ok form := by
  refine ⟨String.ofList (joined (spelled tags)), h.canonicalLocale_eq, ?_, ?_⟩
  · rw [h'.canonicalLocale_eq, hsame.spelled_eq h.isTag h'.isTag]
  · rw [h.normalForm.canonicalLocale_eq, spelled_spelled h.isTag]

/-- Two codes of written Hebrew, an outdated one with an encoding and a current one with a modifier. -/
theorem one_normalForm_hebrew :
    ∃ form, canonicalLocale "IW-hant-il.utf8" = .ok form ∧
      canonicalLocale "he__HANT-_IL@x" = .ok form ∧ canonicalLocale form = .ok form := by
  have htag {s : String} (hne : s.toList ≠ []) (h : s.toList.all Char.isAlphanum = true) :
      IsTag s.toList := ⟨hne, List.all_eq_true.mp h⟩
  have hparts {s : String} (h : s.toList.all isSeparator = true) :
      ∀ c ∈ s.toList, isSeparator c = true := List.all_eq_true.mp h
  have hletters {s : String} (h : s.toList.all Char.isAlpha = true) :
      ∀ c ∈ s.toList, c.isAlpha = true := List.all_eq_true.mp h
  have hold : Spells ["IW".toList, "hant".toList, "il".toList] "IW-hant-il.utf8" := by
    refine ⟨"IW-hant-il".toList, ".utf8".toList, ?_, by simp, by decide⟩
    have hil : Writes ["il".toList] "il".toList := .last (htag (by decide) (by decide))
    have hhant := Writes.more "-".toList (htag (s := "hant") (by decide) (by decide))
      (by decide) (hparts (by decide)) hil
    exact .more "-".toList (htag (by decide) (by decide)) (by decide)
      (hparts (by decide)) hhant
  have hcurrent : Spells ["he".toList, "HANT".toList, "IL".toList] "he__HANT-_IL@x" := by
    refine ⟨"he__HANT-_IL".toList, "@x".toList, ?_, by simp, by decide⟩
    have hil : Writes ["IL".toList] "IL".toList := .last (htag (by decide) (by decide))
    have hhant := Writes.more "-_".toList (htag (s := "HANT") (by decide) (by decide))
      (by decide) (hparts (by decide)) hil
    exact .more "__".toList (htag (by decide) (by decide)) (by decide)
      (hparts (by decide)) hhant
  -- The outdated language is replaced, the script and the country are the same but for case.
  refine one_normalForm hold hcurrent (.mk (.replaced "iw" "he" ?_ ?_ ?_) ?_)
  · decide
  · rw [SameLetters]
    decide
  · rw [SameLetters]
  · refine .cons (.inr ⟨?_, by decide, hletters (by decide)⟩)
      (.cons (.inr ⟨?_, by decide, hletters (by decide)⟩) .nil)
    · rw [SameLetters]
      decide
    · rw [SameLetters]
      decide

end Collation
end TableQuery
