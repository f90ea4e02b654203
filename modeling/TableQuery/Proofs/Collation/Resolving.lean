/-
# TableQuery.Proofs.Collation.Resolving — the name of a collation resolves to it.

The normal form of a locale code is subtags joined by underscores, and taking it apart gives the
subtags back.  Spelling the subtags may take two passes, since a letter can become several: "ßß" goes
to "SSSS", and that to "Ssss".  A third pass changes nothing, and a collation is named by a code that
went through two.  So its name resolves to it, unless the code is one that a built-in collation is
found under.

## §A — other spellings without blanks at their ends.
## §B — subtags and the codes that join them.
## §C — spelling subtags.
## §D — normal forms.
## §E — names of collations.
-/
import TableQuery.Collation.Basic
import TableQuery.Proofs.Text.Case
import TableQuery.Proofs.Text.Trimming
import Mathlib.Data.List.Forall2
import Mathlib.Data.List.TakeWhile

namespace TableQuery
namespace Text

/-! ## §A — other spellings without blanks at their ends -/

/-- Another spelling of a text without blanks at its ends has none there either. -/
theorem Respelled.trim_eq_self {s t : List Char} (h : Respelled s t) (hs : trim s = s) :
    trim t = t := by
  rw [trim_eq_self_iff] at hs ⊢
  have hblank {c : Char} (hc : isBlank c = false → False) : isMark c = true :=
    isMark_of_isBlank (Bool.not_eq_false _ ▸ hc)
  refine ⟨fun c hc => by_contra fun hno => hno (hs.1 c (h.head?_of_isMark hc (hblank hno))),
    fun c hc => by_contra fun hno => hno (hs.2 c (h.getLast?_of_isMark hc (hblank hno)))⟩

end Text

namespace Collation

/-! ## §B — subtags and the codes that join them -/

/-- **Plain** — a subtag that holds nothing which parts codes. -/
structure Plain (tag : List Char) : Prop where
  ne_nil : tag ≠ []
  parts : ∀ c ∈ tag, isSeparator c = false ∧ c ≠ '.' ∧ c ≠ '@'

/-- Subtags as one code. -/
def joined (tags : List (List Char)) : List Char := List.intercalate ['_'] tags

theorem joined_singleton (tag : List Char) : joined [tag] = tag := List.intercalate_singleton

theorem joined_cons_cons (tag next : List Char) (tags : List (List Char)) :
    joined (tag :: next :: tags) = tag ++ '_' :: joined (next :: tags) := by
  simp [joined, List.intercalate_cons_cons]

theorem mem_subtags {s tag : List Char} (h : tag ∈ subtags s) :
    tag ≠ [] ∧ ∀ c ∈ tag, c ∈ s ∧ isSeparator c = false := by
  induction s generalizing tag with
  | nil => cases h
  | cons c s ih =>
      -- What holds of the subtags behind the character holds of them with it before.
      have hlift {tag : List Char} (h : tag ∈ subtags s) :
          tag ≠ [] ∧ ∀ d ∈ tag, d ∈ c :: s ∧ isSeparator d = false :=
        ⟨(ih h).1, fun d hd => ((ih h).2 d hd).imp_left (List.mem_cons_of_mem c)⟩
      unfold subtags at h
      split at h
      · exact hlift h
      · rename_i hc
        have hhead : c ∈ c :: s ∧ isSeparator c = false :=
          ⟨List.mem_cons_self, Bool.not_eq_true _ ▸ hc⟩
        have hone : [c] ≠ [] ∧ ∀ d ∈ [c], d ∈ c :: s ∧ isSeparator d = false :=
          ⟨List.cons_ne_nil _ _, fun d hd => List.mem_singleton.mp hd ▸ hhead⟩
        split at h
        · rename_i htags
          split at h
          · rcases List.mem_cons.mp h with rfl | h
            · exact hone
            · exact hlift (htags ▸ h)
          · rcases List.mem_cons.mp h with rfl | h
            · refine ⟨List.cons_ne_nil _ _, fun d hd => ?_⟩
              rcases List.mem_cons.mp hd with rfl | hd
              · exact hhead
              · exact (hlift (htags ▸ List.mem_cons_self)).2 d hd
            · exact hlift (htags ▸ List.mem_cons_of_mem _ h)
        · rcases List.mem_cons.mp h with rfl | h
          · exact hone
          · exact hlift h

section
variable {c d : Char} {s : List Char}

theorem subtags_separator (hc : isSeparator c = true) : subtags (c :: s) = subtags s := by
  rw [subtags.eq_def]
  simp only [hc, if_true]

theorem subtags_last (hc : isSeparator c = false) (hs : ∀ d ∈ s.head?, isSeparator d = true) :
    subtags (c :: s) = [c] :: subtags s := by
  rw [subtags.eq_def]
  rcases s with _ | ⟨d, s⟩
  · simp [hc]
  · have hd := hs d rfl
    cases hrest : subtags (d :: s) <;> simp [hc, hd, hrest]

theorem subtags_more (hc : isSeparator c = false) (hd : isSeparator d = false) {tag : List Char}
    {tags : List (List Char)} (hrest : subtags (d :: s) = tag :: tags) :
    subtags (c :: d :: s) = (c :: tag) :: tags := by
  rw [subtags.eq_def]
  simp [hc, hd, hrest]

end

theorem subtags_append {tag rest : List Char} (h : Plain tag)
    (hrest : ∀ d ∈ rest.head?, isSeparator d = true) :
    subtags (tag ++ rest) = tag :: subtags rest := by
  obtain ⟨hne, hparts⟩ := h
  induction tag with
  | nil => exact absurd rfl hne
  | cons c tag ih =>
      have hc := (hparts c List.mem_cons_self).1
      rcases tag with _ | ⟨d, tag⟩
      · exact subtags_last hc hrest
      · have hd := (hparts d (List.mem_cons_of_mem _ List.mem_cons_self)).1
        exact subtags_more hc hd
          (ih (List.cons_ne_nil _ _) fun e he => hparts e (List.mem_cons_of_mem _ he))

/-- A plain subtag is the only one of the code that it makes up. -/
theorem subtags_plain {tag : List Char} (h : Plain tag) : subtags tag = [tag] := by
  have hone : subtags (tag ++ []) = tag :: subtags [] := subtags_append h (by simp)
  rwa [List.append_nil, subtags] at hone

theorem mem_joined {tags : List (List Char)} {c : Char} (h : c ∈ joined tags) :
    c = '_' ∨ ∃ tag ∈ tags, c ∈ tag := by
  induction tags with
  | nil => cases h
  | cons tag tags ih =>
      rcases tags with _ | ⟨next, tags⟩
      · rw [joined_singleton] at h
        exact .inr ⟨tag, List.mem_cons_self, h⟩
      · rw [joined_cons_cons, List.mem_append, List.mem_cons] at h
        rcases h with h | h | h
        · exact .inr ⟨tag, List.mem_cons_self, h⟩
        · exact .inl h
        · exact (ih h).imp_right fun ⟨t, ht, hc⟩ => ⟨t, List.mem_cons_of_mem _ ht, hc⟩

/-- **Taking a joined code apart gives its subtags back.** -/
theorem subtags_joined {tags : List (List Char)} (h : ∀ tag ∈ tags, Plain tag) :
    subtags (joined tags) = tags := by
  induction tags with
  | nil => rfl
  | cons tag tags ih =>
      have htag := h tag List.mem_cons_self
      rcases tags with _ | ⟨next, tags⟩
      · rw [joined_singleton, subtags_plain htag]
      · rw [joined_cons_cons, subtags_append htag (by simp [isSeparator]),
          subtags_separator (by decide), ih fun t ht => h t (List.mem_cons_of_mem _ ht)]

/-- A text that neither an encoding nor a modifier is cut off is only trimmed. -/
theorem bareCode_eq_trim {s : List Char} (h : ∀ c ∈ Text.trim s, c ≠ '.' ∧ c ≠ '@') :
    bareCode s = Text.trim s := by
  have hpoint : (Text.trim s).takeWhile (· ≠ '.') = Text.trim s :=
    List.takeWhile_eq_self_iff.mpr fun c hc => decide_eq_true (h c hc).1
  have hat : (Text.trim s).takeWhile (· ≠ '@') = Text.trim s :=
    List.takeWhile_eq_self_iff.mpr fun c hc => decide_eq_true (h c hc).2
  rw [bareCode, hpoint, hat]

theorem bareCode_joined {tags : List (List Char)} (h : ∀ tag ∈ tags, Plain tag) :
    bareCode (joined tags) = Text.trim (joined tags) := by
  apply bareCode_eq_trim
  intro c hc
  rcases mem_joined (Text.mem_of_mem_trim hc) with rfl | ⟨tag, htag, hc⟩
  · decide
  · exact ((h tag htag).parts c hc).2

/-- The subtags of a bare code are plain. -/
theorem plain_subtags (s : List Char) : ∀ tag ∈ subtags (bareCode s), Plain tag := by
  intro tag htag
  obtain ⟨hne, hparts⟩ := mem_subtags htag
  refine ⟨hne, fun c hc => ⟨(hparts c hc).2, ?_⟩⟩
  have hbare : c ∈ bareCode s := (hparts c hc).1
  have hat := List.mem_takeWhile_imp hbare
  have hpoint := List.mem_takeWhile_imp ((List.takeWhile_subset _) hbare)
  exact ⟨of_decide_eq_true hpoint, of_decide_eq_true hat⟩

/-! ## §C — spelling subtags -/

theorem respelled_spellSubtag (tag : List Char) : Text.Respelled tag (spellSubtag tag) := by
  unfold spellSubtag
  split
  · exact Text.respelled_titleAfter [] tag
  · split
    · exact Text.respelled_upper tag
    · exact .refl tag

/-- A subtag of four characters or more is spelled once and for all. -/
theorem spellSubtag_of_four {tag : List Char} (h : 4 ≤ tag.length) :
    spellSubtag (spellSubtag tag) = spellSubtag tag := by
  have hlong {tag : List Char} (h : 4 ≤ tag.length) :
      spellSubtag tag = Text.title tag ∧ tag.length = 4 ∨ spellSubtag tag = tag := by
    unfold spellSubtag
    split
    · exact .inl ⟨rfl, ‹_ ∧ _›.1⟩
    · exact .inr (if_neg (by omega))
  rcases hlong h with ⟨htitle, hfour⟩ | hself
  · have hle := (Text.respelled_titleAfter [] tag).length_le
    change tag.length ≤ (Text.title tag).length at hle
    rw [htitle]
    rcases hlong (h.trans hle) with ⟨htitle', hfour'⟩ | hself
    · rw [htitle', Text.title_title (hfour'.trans hfour.symm)]
    · exact hself
  · rw [hself, hself]

/-- **Spelling a subtag comes to rest at the second time.** -/
theorem spellSubtag_rests (tag : List Char) :
    spellSubtag (spellSubtag (spellSubtag tag)) = spellSubtag (spellSubtag tag) := by
  rcases Nat.lt_or_ge (spellSubtag tag).length 4 with hshort | hlong
  · have hcases : spellSubtag (spellSubtag tag) = spellSubtag tag := by
      have hle := (respelled_spellSubtag tag).length_le
      have hcapital : spellSubtag tag = Text.upper tag ∨ spellSubtag tag = tag := by
        unfold spellSubtag
        rw [if_neg (by omega)]
        split
        · exact .inl rfl
        · exact .inr rfl
      rcases hcapital with hcapital | hself
      · rw [hcapital] at hshort ⊢
        unfold spellSubtag
        rw [if_neg (by omega), Text.upper_upper]
        exact ite_self _
      · rw [hself, hself]
    rw [hcases, hcases]
  · exact spellSubtag_of_four hlong

/-- The spelling of a language. -/
def spellLanguage (language : List Char) : List Char := currentLanguage (Text.lower language)

/-- No code that replaces another is replaced, and each is one subtag.  The characters are gone through
by a test of lists: a quantifier over them may be decided over all the characters that there are. -/
theorem languageAliases_spec : ∀ a ∈ languageAliases,
    spellLanguage a.2.toList = a.2.toList ∧ a.2.toList ≠ [] ∧
      (a.2.toList.all fun c => !isSeparator c && c != '.' && c != '@') = true := by
  decide +kernel

/-- **Spelling a language comes to rest**, since no code that replaces another is replaced. -/
theorem spellLanguage_rests (language : List Char) :
    spellLanguage (spellLanguage language) = spellLanguage language := by
  generalize hlow : Text.lower language = low
  have hrests : Text.lower low = low := hlow ▸ Text.lower_lower language
  unfold spellLanguage
  rw [hlow]
  cases hfind : languageAliases.find? (·.1.toList == low) with
  | some a =>
      have hcode : currentLanguage low = a.2.toList := by rw [currentLanguage, hfind]
      rw [hcode]
      exact (languageAliases_spec a (List.mem_of_find?_eq_some hfind)).1
  | none =>
      have hcode : currentLanguage low = low := by rw [currentLanguage, hfind]
      rw [hcode, hrests, hcode]

theorem respelled_lower (language : List Char) :
    Text.Respelled language (Text.lower language) := Text.respelled_lowerAfter [] language

/-! ## §D — normal forms -/

theorem Plain.respelled {tag spelled : List Char} (h : Plain tag)
    (hs : Text.Respelled tag spelled) : Plain spelled := by
  refine ⟨hs.ne_nil h.ne_nil, fun c hc => ?_⟩
  by_cases hmark : Text.isMark c = true
  · exact h.parts c (hs.mem_of_isMark hc hmark)
  · refine ⟨Bool.eq_false_iff.mpr fun hsep => hmark ?_, ?_, ?_⟩
    · simp only [isSeparator, Bool.or_eq_true, beq_iff_eq] at hsep
      rcases hsep with rfl | rfl <;> decide
    · rintro rfl
      exact hmark (by decide)
    · rintro rfl
      exact hmark (by decide)

theorem Plain.spellLanguage {tag : List Char} (h : Plain tag) : Plain (spellLanguage tag) := by
  unfold Collation.spellLanguage currentLanguage
  split
  · rename_i current hfind
    obtain ⟨-, hne, hparts⟩ := languageAliases_spec _ (List.mem_of_find?_eq_some hfind)
    exact ⟨hne, fun c hc => by simpa [and_assoc] using List.all_eq_true.mp hparts c hc⟩
  · exact h.respelled (respelled_lower tag)

/-- The subtags of a code, spelled as its normal form has them. -/
def spelled : List (List Char) → List (List Char)
  | [] => []
  | language :: more => spellLanguage language :: more.map spellSubtag

/-- What spelling a language or another subtag keeps holds of all subtags that are spelled. -/
theorem forall_mem_spelled {P : List Char → Prop} (hlanguage : ∀ t, P t → P (spellLanguage t))
    (hsubtag : ∀ t, P t → P (spellSubtag t)) {tags : List (List Char)} (h : ∀ tag ∈ tags, P tag) :
    ∀ tag ∈ spelled tags, P tag := by
  rcases tags with _ | ⟨language, more⟩
  · exact h
  · intro tag htag
    rcases List.mem_cons.mp htag with rfl | htag
    · exact hlanguage language (h language List.mem_cons_self)
    · obtain ⟨t, ht, rfl⟩ := List.mem_map.mp htag
      exact hsubtag t (h t (List.mem_cons_of_mem _ ht))

theorem plain_spelled {tags : List (List Char)} (h : ∀ tag ∈ tags, Plain tag) :
    ∀ tag ∈ spelled tags, Plain tag :=
  forall_mem_spelled (fun _ ht => ht.spellLanguage)
    (fun t ht => ht.respelled (respelled_spellSubtag t)) h

/-- **Spelling the subtags of a code comes to rest at the second time.** -/
theorem spelled_rests (tags : List (List Char)) :
    spelled (spelled (spelled tags)) = spelled (spelled tags) := by
  rcases tags with _ | ⟨language, more⟩
  · rfl
  · simp only [spelled, spellLanguage_rests, List.map_map]
    congr 1
    exact List.map_congr_left fun tag _ => spellSubtag_rests tag

/-- **A normal form** is the spelled subtags of the code, if it has any. -/
theorem canonicalLocale_eq_ok_iff {code first : String} : canonicalLocale code = .ok first ↔
    subtags (bareCode code.toList) ≠ [] ∧
      first = String.ofList (joined (spelled (subtags (bareCode code.toList)))) := by
  unfold canonicalLocale
  generalize hbare : bareCode code.toList = bare
  rcases htags : subtags bare with _ | ⟨language, more⟩
  · cases hempty : bare.isEmpty <;> simp [hempty, htags]
  · have hempty : bare.isEmpty = false := by
      rw [List.isEmpty_eq_false_iff]
      rintro rfl
      cases htags
    simp [hempty, htags, spelled, joined, spellLanguage, eq_comm]

/-- **The normal form of joined subtags** that trimming leaves alone. -/
theorem canonicalLocale_joined {tags : List (List Char)} (hne : tags ≠ [])
    (hplain : ∀ tag ∈ tags, Plain tag) (htrim : Text.trim (joined tags) = joined tags) :
    canonicalLocale (String.ofList (joined tags)) = .ok (String.ofList (joined (spelled tags))) := by
  have htags : subtags (bareCode (String.ofList (joined tags)).toList) = tags := by
    rw [String.toList_ofList, bareCode_joined hplain, htrim, subtags_joined hplain]
  exact canonicalLocale_eq_ok_iff.mpr ⟨by rwa [htags], by rw [htags]⟩

/-- Subtags in other spellings are a code in another spelling. -/
theorem respelled_joined {tags tags' : List (List Char)}
    (h : List.Forall₂ Text.Respelled tags tags') :
    Text.Respelled (joined tags) (joined tags') := by
  induction h with
  | nil => exact .nil
  | @cons tag tag' tags tags' htag htags ih =>
      cases htags with
      | nil =>
          rw [joined_singleton, joined_singleton]
          exact htag
      | cons _ _ =>
          rw [joined_cons_cons, joined_cons_cons]
          exact htag.append ((Text.Respelled.refl ['_']).append ih)

/-- Spelling subtags brings no blanks to the ends of a code whose language is spelled. -/
theorem trim_joined_spelled {tags : List (List Char)}
    (htrim : Text.trim (joined (spelled tags)) = joined (spelled tags)) :
    Text.trim (joined (spelled (spelled tags))) = joined (spelled (spelled tags)) := by
  have hspelled : Text.Respelled (joined (spelled tags)) (joined (spelled (spelled tags))) := by
    apply respelled_joined
    rcases tags with _ | ⟨language, more⟩
    · exact .nil
    · refine .cons ?_ ?_
      · rw [spellLanguage_rests]
        exact .refl _
      · rw [List.forall₂_map_right_iff]
        exact List.forall₂_same.mpr fun tag _ => respelled_spellSubtag tag
  exact hspelled.trim_eq_self htrim

/-- **Normal forms come to rest at the second time**, if no encoding hid a blank from the first. -/
theorem canonicalLocale_rests {n first code : String} (hfirst : canonicalLocale n = .ok first)
    (htrim : Text.trim first.toList = first.toList) (hcode : canonicalLocale first = .ok code) :
    canonicalLocale code = .ok code := by
  obtain ⟨hne, rfl⟩ := canonicalLocale_eq_ok_iff.mp hfirst
  have hplain := plain_subtags n.toList
  generalize subtags (bareCode n.toList) = tags at *
  have hspelled {tags : List (List Char)} (h : tags ≠ []) : spelled tags ≠ [] := by
    obtain ⟨_, _, rfl⟩ := List.exists_cons_of_ne_nil h
    exact List.cons_ne_nil _ _
  have hplain₁ := plain_spelled hplain
  rw [String.toList_ofList] at htrim
  obtain rfl := Except.ok.inj
    ((canonicalLocale_joined (hspelled hne) hplain₁ htrim).symm.trans hcode)
  rw [canonicalLocale_joined (hspelled (hspelled hne)) (plain_spelled hplain₁)
    (trim_joined_spelled htrim), spelled_rests]

/-! ## §E — names of collations -/

/-- The built-in collations are found under their names, and are no locales. -/
theorem builtins_spec : ∀ e ∈ builtins,
    builtin? e.2.name = some e.2 ∧ e.2.identifier.toList.head? ≠ some 'l' := by
  decide

/-- A built-in collation is found under its name. -/
theorem builtin?_name {n : String} {b : Collation} (h : builtin? n = some b) :
    builtin? b.name = some b := by
  obtain ⟨e, he, rfl⟩ := Option.map_eq_some_iff.mp h
  exact (builtins_spec e (List.mem_of_find?_eq_some he)).1

theorem ofName_of_builtin? {n : String} {b : Collation} (h : builtin? n = some b) :
    ofName n = .ok b := by rw [ofName, h]

/-- A built-in collation is no locale. -/
theorem same_locale_of_builtin? {n : String} {b : Collation} (h : builtin? n = some b)
    (code : String) : b.same (.locale code) = false := by
  obtain ⟨e, he, rfl⟩ := Option.map_eq_some_iff.mp h
  refine beq_false_of_ne fun hsame => (builtins_spec e (List.mem_of_find?_eq_some he)).2 ?_
  rw [hsame, identifier, String.toList_append]
  rfl

/-- **A collation that is not built in** is named by the normal form of a normal form. -/
theorem ofName_eq_ok_iff {n : String} {c : Collation} (hnone : builtin? n = none) :
    ofName n = .ok c ↔ ∃ first code, canonicalLocale n = .ok first ∧
      canonicalLocale first = .ok code ∧ c = .locale code := by
  have hname : ofName n = (canonicalLocale n).bind fun first =>
      (canonicalLocale first).bind fun code => .ok (.locale code) := by rw [ofName, hnone]; rfl
  rw [hname]
  cases hfirst : canonicalLocale n with
  | error e => simp [Except.bind]
  | ok first => cases hcode : canonicalLocale first <;> simp [Except.bind, hcode, eq_comm]

/-- **Mistaken** — a locale whose code is a name of a built-in collation. -/
def Mistaken (c : Collation) : Prop := ∃ code b, c = .locale code ∧ builtin? code = some b

theorem same_self (c : Collation) : c.same c = true := beq_self_eq_true _

/-- **The name of a collation resolves to it**, and so does its canonical form, if no encoding hid a
blank at an end of the normal form and the code is no name of a built-in collation.  A mistaken code
resolves to the built-in collation, which is another one. -/
theorem name_resolves {n : String} {c : Collation} (hfound : ofName n = .ok c)
    (hshown : builtin? n = none →
      ∀ first, canonicalLocale n = .ok first → Text.trim first.toList = first.toList) :
    (¬c.Mistaken → ofName c.name = .ok c ∧ (∃ m, canonical c = .ok m ∧ ofName m = .ok c) ∧
      matchesName c c.name = .ok true) ∧
    (c.Mistaken → ∃ b, builtin? c.name = some b ∧ ofName c.name = .ok b ∧
      matchesName c c.name = .ok false) := by
  constructor
  · intro hright
    have hself {n : String} (h : ofName n = .ok c) : matchesName c n = .ok true := by
      rw [matchesName, h]
      exact congrArg Except.ok (same_self c)
    have hname : canonical c = .ok c.name ∧ ofName c.name = .ok c := by
      -- A built-in collation has its own name; any other has a code that is its own normal form.
      cases hb : builtin? n with
      | some b =>
          obtain rfl := Except.ok.inj ((ofName_of_builtin? hb).symm.trans hfound)
          have hb := builtin?_name hb
          exact ⟨by rw [canonical, canonicalName, hb], ofName_of_builtin? hb⟩
      | none =>
          obtain ⟨first, code, hfirst, hcode, rfl⟩ := (ofName_eq_ok_iff hb).mp hfound
          have hrests := canonicalLocale_rests hfirst (hshown hb first hfirst) hcode
          have hnone : builtin? code = none :=
            Option.eq_none_iff_forall_ne_some.mpr fun b hb => hright ⟨code, b, rfl, hb⟩
          refine ⟨?_, (ofName_eq_ok_iff hnone).mpr ⟨code, code, hrests, hrests, rfl⟩⟩
          rw [canonical, canonicalName, name, hnone]
          exact hrests
    exact ⟨hname.2, ⟨c.name, hname⟩, hself hname.2⟩
  · -- The mistaken code names a built-in collation, which is found instead.
    rintro ⟨code, b, rfl, hb⟩
    refine ⟨b, hb, ofName_of_builtin? hb, ?_⟩
    rw [matchesName, name, ofName_of_builtin? hb]
    exact congrArg Except.ok (same_locale_of_builtin? hb code)

/-- A code of blanks, an outdated language, a script that takes two passes and an encoding. -/
theorem name_resolves_twice : ofName " IW-ßß.utf8" = .ok (.locale "he_Ssss") ∧
    ofName "he_Ssss" = .ok (.locale "he_Ssss") := by
  have hfound : ofName " IW-ßß.utf8" = .ok (.locale "he_Ssss") := by decide +kernel
  have hfirst : canonicalLocale " IW-ßß.utf8" = .ok "he_SSSS" := by decide +kernel
  refine ⟨hfound, ((name_resolves hfound fun _ first h => ?_).1 ?_).1⟩
  · obtain rfl := Except.ok.inj (hfirst.symm.trans h)
    decide +kernel
  · rintro ⟨code, b, hcode, hb⟩
    obtain rfl := Collation.locale.inj hcode
    have hnone : builtin? "he_Ssss" = none := by decide +kernel
    cases hnone.symm.trans hb

/-- **A code that an encoding kept from being a built-in name** is found under it once the encoding is
gone. -/
theorem ofName_binaryUtf8 : ofName "binary.utf8" = .ok (.locale "binary") ∧
    ofName "binary" = .ok .binary ∧ matchesName (.locale "binary") "binary" = .ok false := by
  decide +kernel

end Collation
end TableQuery
