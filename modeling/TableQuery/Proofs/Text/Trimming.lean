/-
# TableQuery.Proofs.Text.Trimming — what trimming takes off, and what it leaves.

A text is its trimmed form with blanks on either side, and blanks on either side of a text have no
part in its trimmed form.  So trimming a second time takes nothing off, and only blanks are lost.

## §A — texts without blanks at their ends.
## §B — blanks around a text.
-/
import TableQuery.Text.Blank
import Mathlib.Data.List.TakeWhile

namespace TableQuery
namespace Text

variable {before after s t : List Char}

/-! ## §A — texts without blanks at their ends -/

theorem dropWhile_isBlank_eq_self_iff :
    s.dropWhile isBlank = s ↔ ∀ c ∈ s.head?, isBlank c = false := by
  rw [List.dropWhile_eq_self_iff]
  cases s <;> simp

/-- **Trimming leaves alone** just the texts whose first and last characters are no blanks. -/
theorem trim_eq_self_iff : trim s = s ↔
    (∀ c ∈ s.head?, isBlank c = false) ∧ ∀ c ∈ s.getLast?, isBlank c = false := by
  have hend : trimEnd s = s ↔ ∀ c ∈ s.getLast?, isBlank c = false := by
    rw [trimEnd, List.reverse_eq_iff, dropWhile_isBlank_eq_self_iff, List.head?_reverse]
  rw [← dropWhile_isBlank_eq_self_iff, ← hend]
  constructor
  · intro h
    have hstart : trimStart s = s := by
      have hlength : (trimEnd (trimStart s)).length ≤ (trimStart s).length := by
        rw [trimEnd, List.length_reverse, ← (trimStart s).length_reverse]
        exact (List.dropWhile_suffix _).length_le
      refine (List.dropWhile_suffix _).eq_of_length_le ?_
      rw [← trimStart, ← congrArg List.length h]
      exact hlength
    rw [trim, hstart] at h
    exact ⟨hstart, h⟩
  · rintro ⟨hstart, hlast⟩
    rw [trim, trimStart, hstart, hlast]

/-- A text without blanks is not trimmed. -/
theorem trim_of_not_blank (h : ∀ c ∈ s, isBlank c = false) : trim s = s :=
  trim_eq_self_iff.mpr
    ⟨fun c hc => h c (List.mem_of_head? hc), fun c hc => h c (List.mem_of_getLast? hc)⟩

/-- Trimming the end of a text leaves what stands before it alone, if that ends in no blank. -/
theorem trimEnd_append (hs : ∀ c ∈ s.getLast?, isBlank c = false) :
    trimEnd (s ++ t) = s ++ trimEnd t := by
  have hback : s.reverse.dropWhile isBlank = s.reverse := by
    rw [dropWhile_isBlank_eq_self_iff, List.head?_reverse]
    exact hs
  rw [trimEnd, trimEnd, List.reverse_append, List.dropWhile_append, hback]
  split
  · rename_i hnil
    rw [List.isEmpty_iff.mp hnil]
    simp
  · simp

/-- **Trimming leaves the beginning of a text alone** as far as it neither begins nor ends in a blank. -/
theorem trim_append (hne : s ≠ []) (hfirst : ∀ c ∈ s.head?, isBlank c = false)
    (hlast : ∀ c ∈ s.getLast?, isBlank c = false) : trim (s ++ t) = s ++ trimEnd t := by
  have hstart : trimStart (s ++ t) = s ++ t := by
    apply dropWhile_isBlank_eq_self_iff.mpr
    obtain ⟨c, u, rfl⟩ := List.exists_cons_of_ne_nil hne
    exact hfirst
  rw [trim, hstart, trimEnd_append hlast]

/-- Trimming keeps a first character that is no blank. -/
theorem exists_trim_cons {c : Char} (hc : isBlank c = false) (s : List Char) :
    ∃ t, trim (c :: s) = c :: t := by
  have hone : ∀ d ∈ some c, isBlank d = false := by simpa using hc
  exact ⟨trimEnd s, trim_append (List.cons_ne_nil c []) hone hone⟩

/-! ## §B — blanks around a text -/

/-- **Blank** — a text of nothing but blanks. -/
def Blank (s : List Char) : Prop := ∀ c ∈ s, isBlank c = true

instance (s : List Char) : Decidable (Blank s) := decidable_of_iff _ List.all_eq_true

theorem not_blank_iff : ¬Blank s ↔ ∃ c ∈ s, isBlank c = false := by
  simp [Blank]

/-- **Blanks around a text** are trimmed off. -/
theorem trim_padded (hbefore : Blank before) (hafter : Blank after) :
    trim (before ++ s ++ after) = trim s := by
  have hend : after.dropWhile isBlank = [] := List.dropWhile_eq_nil_iff.mpr hafter
  have hstart : trimStart (before ++ s ++ after) = trimStart (s ++ after) := by
    rw [trimStart, List.append_assoc, List.dropWhile_append_of_pos hbefore, trimStart]
  rw [trim, hstart, trim, trimStart, List.dropWhile_append, hend]
  split
  · -- a text of blanks alone leaves nothing on either side
    rename_i hempty
    rw [trimStart, List.isEmpty_iff.mp hempty]
  · have hblanks : Blank after.reverse := fun c hc => hafter c (List.mem_reverse.mp hc)
    rw [trimEnd, List.reverse_append, List.dropWhile_append_of_pos hblanks]
    rfl

theorem trim_start_padded (hbefore : Blank before) : trim (before ++ s) = trim s := by
  have hpadded : trim (before ++ s ++ []) = trim s := trim_padded hbefore (by simp [Blank])
  rwa [List.append_nil] at hpadded

/-- What stands between two characters that are no blanks is not trimmed off. -/
theorem mem_trim_between {c left right : Char} (hbefore : Blank before)
    (hleft : isBlank left = false) (hright : isBlank right = false) (hc : c ∈ s) :
    c ∈ trim (before ++ left :: (s ++ right :: after)) := by
  have hpadded : trim (before ++ left :: (s ++ right :: after)) =
      trim (left :: (s ++ right :: after)) := trim_start_padded hbefore
  have hfirst : ∀ d ∈ some left, isBlank d = false := by simpa using hleft
  have hlast : ∀ d ∈ (left :: s ++ [right]).getLast?, isBlank d = false := by
    rw [List.getLast?_concat]
    simpa using hright
  have hkept := trim_append (t := after) (List.cons_ne_nil left (s ++ [right])) hfirst hlast
  have hparts : left :: (s ++ right :: after) = left :: (s ++ [right]) ++ after := by simp
  rw [hpadded, hparts, hkept]
  simp [hc]

/-- **Trimming takes off nothing but blanks.** -/
theorem exists_padded (s : List Char) : ∃ before after,
    s = before ++ trim s ++ after ∧ Blank before ∧ Blank after := by
  have hsplit (t : List Char) : t = trimEnd t ++ (t.reverse.takeWhile isBlank).reverse := by
    rw [trimEnd, ← List.reverse_append, List.takeWhile_append_dropWhile, List.reverse_reverse]
  refine ⟨s.takeWhile isBlank, ((trimStart s).reverse.takeWhile isBlank).reverse, ?_, ?_, ?_⟩
  · rw [List.append_assoc, trim, ← hsplit, trimStart, List.takeWhile_append_dropWhile]
  · exact fun c hc => List.mem_takeWhile_imp hc
  · exact fun c hc => List.mem_takeWhile_imp (List.mem_reverse.mp hc)

theorem trim_trim (s : List Char) : trim (trim s) = trim s := by
  obtain ⟨before, after, hs, hbefore, hafter⟩ := exists_padded s
  have hpadded := trim_padded (s := trim s) hbefore hafter
  rw [← hs] at hpadded
  exact hpadded.symm

theorem mem_of_mem_trim {c : Char} (h : c ∈ trim s) : c ∈ s := by
  obtain ⟨before, after, hs, -⟩ := exists_padded s
  rw [hs]
  exact List.mem_append_left after (List.mem_append_right before h)

/-- What is no blank is not lost. -/
theorem mem_trim {c : Char} (h : c ∈ s) (hc : isBlank c = false) : c ∈ trim s := by
  obtain ⟨before, after, hs, hbefore, hafter⟩ := exists_padded s
  rw [hs, List.mem_append, List.mem_append] at h
  rcases h with (h | h) | h
  · cases hc.symm.trans (hbefore c h)
  · exact h
  · cases hc.symm.trans (hafter c h)

/-- **Nothing is left** of a text that is blank. -/
theorem trim_eq_nil_iff : trim s = [] ↔ Blank s := by
  constructor
  · intro h c hc
    by_contra hblank
    have hleft := mem_trim hc (Bool.eq_false_iff.mpr hblank)
    rw [h] at hleft
    cases hleft
  · intro h
    have hnil : trim (s ++ []) = trim [] := trim_start_padded h
    rwa [List.append_nil] at hnil

end Text
end TableQuery
