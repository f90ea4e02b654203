/-
# TableQuery.Proofs.Text.Case — case mappings come to rest.

A character that the upper or the lower case mapping gives is one that the mapping leaves alone, so
putting a text in upper or in lower case a second time changes nothing.  Title case hangs on what
stands before a letter; it comes to rest as long as no character has become several, because it keeps
which characters have case.  No mapping gives a blank, or a sign that codes are parted by, for
anything else.

What the tables say is asked of whole sets of characters at once: a set of code points is held as the
bits of one number.

## §A — sets of code points.
## §B — what a mapping mentions.
## §C — the three mappings.
## §D — texts spelled anew.
## §E — texts in upper and lower case.
## §F — texts in title case.
-/
import TableQuery.Text.Blank
import TableQuery.Text.Case
import Mathlib.Data.List.Basic
import Mathlib.Data.Nat.Bitwise

namespace TableQuery
namespace Text

/-! ## §A — sets of code points -/

/-- Code points as the bits of a number. -/
def bits (ns : List Nat) : Nat := ns.foldr (fun n b => b ||| 1 <<< n) 0

theorem testBit_bits (ns : List Nat) (n : Nat) : (bits ns).testBit n = ns.contains n := by
  induction ns with
  | nil => simp [bits]
  | cons m ns ih =>
      rw [bits, List.foldr_cons, ← bits, Nat.testBit_or, ih, Nat.one_shiftLeft, Nat.testBit_two_pow,
        List.contains_cons, Bool.or_comm]
      congr 1
      exact decide_eq_decide.mpr eq_comm

/-- The code points of ranges as the bits of a number. -/
def Ranges.bits (r : Ranges) : Nat :=
  r.ranges.foldr (fun (a, z) b => b ||| (2 ^ (z + 1 - a) - 1) <<< a) 0

theorem Ranges.testBit_bits (r : Ranges) (n : Nat) : r.bits.testBit n = r.contains n := by
  obtain ⟨rs⟩ := r
  induction rs with
  | nil => simp [Ranges.bits, Ranges.contains]
  | cons r rs ih =>
      obtain ⟨a, z⟩ := r
      simp only [Ranges.bits, Ranges.contains, List.foldr_cons, List.any_cons] at ih ⊢
      rw [Nat.testBit_or, ih, Nat.testBit_shiftLeft, Nat.testBit_two_pow_sub_one, Bool.or_comm]
      congr 1
      rw [Bool.eq_iff_iff]
      simp only [ge_iff_le, Bool.and_eq_true, decide_eq_true_eq]
      omega

variable {ns : List Nat} {n : Nat}

/-- Two sets without a common bit have no common member. -/
theorem not_mem_of_bits {ms : List Nat} (h : bits ns &&& bits ms = 0) (hn : n ∈ ns) : n ∉ ms := by
  have hbit := congrArg (·.testBit n) h
  simpa [Nat.testBit_and, testBit_bits, hn] using hbit

/-- A set without a common bit with ranges stays out of them. -/
theorem Ranges.not_contains_of_bits {r : Ranges} (h : Text.bits ns &&& r.bits = 0) (hn : n ∈ ns) :
    r.contains n = false := by
  have hbit := congrArg (·.testBit n) h
  simpa [Nat.testBit_and, Text.testBit_bits, Ranges.testBit_bits, hn] using hbit

/-- A set that adds no bit to ranges lies in them. -/
theorem Ranges.contains_of_bits {r : Ranges} (h : Text.bits ns ||| r.bits = r.bits) (hn : n ∈ ns) :
    r.contains n = true := by
  have hbit := congrArg (·.testBit n) h
  simpa [Nat.testBit_or, Text.testBit_bits, Ranges.testBit_bits, hn] using hbit.symm

theorem toNat_ofNat (h : n.isValidChar) : (Char.ofNat n).toNat = n := by
  rw [Char.ofNat, dif_pos h]
  rfl

/-! ## §B — what a mapping mentions -/

/-- The code points that a run maps. -/
def Run.chars (r : Run) : List Nat := (List.range r.count).map (r.start + · * r.step)

/-- The code points that a run gives. -/
def Run.images (r : Run) : List Nat := (List.range r.count).map (r.image + · * r.step)

theorem Run.mem_of_image? {r : Run} (hcount : 0 < r.count) (hstep : 0 < r.step) {n m : Nat}
    (h : r.image? n = some m) : n ∈ r.chars ∧ m ∈ r.images := by
  unfold Run.image? at h
  split at h
  · rename_i hn
    obtain ⟨hstart, hend, hmod⟩ := hn
    obtain rfl := Option.some.inj h
    obtain ⟨k, hk⟩ := Nat.dvd_of_mod_eq_zero hmod
    have hlt : k < r.count := by
      have hle : r.step * k ≤ r.step * (r.count - 1) := by
        rw [Nat.mul_comm r.step (r.count - 1)]
        omega
      have := Nat.le_of_mul_le_mul_left hle hstep
      omega
    refine ⟨List.mem_map.mpr ⟨k, List.mem_range.mpr hlt, ?_⟩,
      List.mem_map.mpr ⟨k, List.mem_range.mpr hlt, ?_⟩⟩
    · rw [Nat.mul_comm]
      omega
    · rw [Nat.mul_comm]
      omega
  · cases h

namespace CharMap

/-- The code points that runs map. -/
def runChars (m : CharMap) : List Nat := m.runs.flatMap Run.chars

/-- The code points that runs give. -/
def runImages (m : CharMap) : List Nat := m.runs.flatMap Run.images

/-- The code points that a mapping mentions. -/
def mentioned (m : CharMap) : List Nat := m.long.map (·.1) ++ m.runChars

/-- The code points that a mapping gives. -/
def given (m : CharMap) : List Nat := m.long.flatMap (·.2) ++ m.runImages

/-- **A mapping in order** — its runs are not empty, its exceptions are several characters, and what it
gives are characters. -/
structure InOrder (m : CharMap) : Prop where
  runs : ∀ r ∈ m.runs, 0 < r.count ∧ 0 < r.step
  long : ∀ e ∈ m.long, 2 ≤ e.2.length
  chars : ∀ n ∈ m.given, n.isValidChar

variable {m : CharMap} {c d : Char}

theorem mem_of_findSome? (hm : m.InOrder) {n : Nat}
    (h : m.runs.findSome? (·.image? c.toNat) = some n) :
    c.toNat ∈ m.runChars ∧ n ∈ m.runImages := by
  obtain ⟨r, hr, himage⟩ := List.exists_of_findSome?_eq_some h
  obtain ⟨hchar, hgiven⟩ := Run.mem_of_image? (hm.runs r hr).1 (hm.runs r hr).2 himage
  exact ⟨List.mem_flatMap.mpr ⟨r, hr, hchar⟩, List.mem_flatMap.mpr ⟨r, hr, hgiven⟩⟩

/-- A character that is not mentioned stays as it is. -/
theorem apply_of_not_mem (hm : m.InOrder) (h : c.toNat ∉ m.mentioned) : m.apply c = [c] := by
  unfold apply
  split
  · rename_i images hfind
    have hmem := List.mem_map_of_mem (f := (·.1)) (List.mem_of_find?_eq_some hfind)
    have hkey := List.find?_some hfind
    simp only [beq_iff_eq] at hkey
    exact absurd (List.mem_append_left _ (hkey ▸ hmem)) h
  · split
    · exact absurd (List.mem_append_right _ (mem_of_findSome? hm ‹_›).1) h
    · rfl

/-- **What a mapping gives** — the character itself, what its run gives, or the several characters of
an exception. -/
theorem apply_cases (hm : m.InOrder) (c : Char) :
    m.apply c = [c] ∨
      (∃ d, c.toNat ∈ m.runChars ∧ d.toNat ∈ m.runImages ∧ m.apply c = [d]) ∨
      ((∀ d ∈ m.apply c, d.toNat ∈ m.given) ∧ 2 ≤ (m.apply c).length) := by
  have htoNat {n : Nat} (hn : n ∈ m.given) : (Char.ofNat n).toNat = n :=
    toNat_ofNat (hm.chars n hn)
  unfold apply
  split
  · rename_i images hfind
    have hmem := List.mem_of_find?_eq_some hfind
    refine .inr (.inr ⟨fun d hd => ?_, by simpa using hm.long _ hmem⟩)
    obtain ⟨n, hn, rfl⟩ := List.mem_map.mp hd
    have hgiven : n ∈ m.given := List.mem_append_left _ (List.mem_flatMap.mpr ⟨_, hmem, hn⟩)
    rwa [htoNat hgiven]
  · split
    · rename_i n hfind
      obtain ⟨hchar, hgiven⟩ := mem_of_findSome? hm hfind
      refine .inr (.inl ⟨Char.ofNat n, hchar, ?_, rfl⟩)
      rwa [htoNat (List.mem_append_right _ hgiven)]
    · exact .inl rfl


theorem apply_ne_nil (hm : m.InOrder) (c : Char) : m.apply c ≠ [] := by
  intro hnil
  rcases apply_cases hm c with hc | ⟨d, -, -, hc⟩ | ⟨-, hlength⟩
  · cases hnil.symm.trans hc
  · cases hnil.symm.trans hc
  · rw [hnil] at hlength
    cases hlength

/-- What a mapping gives is the character itself or stands among what the table gives. -/
theorem eq_or_mem_given (hm : m.InOrder) (hd : d ∈ m.apply c) : d = c ∨ d.toNat ∈ m.given := by
  rcases apply_cases hm c with hc | ⟨e, -, he, hc⟩ | ⟨hgiven, -⟩
  · exact .inl (List.mem_singleton.mp (hc ▸ hd))
  · obtain rfl := List.mem_singleton.mp (hc ▸ hd)
    exact .inr (List.mem_append_right _ he)
  · exact .inr (hgiven d hd)

/-- **A mapping that mentions nothing it gives comes to rest.** -/
theorem apply_rests (hm : m.InOrder) (hbits : bits m.given &&& bits m.mentioned = 0)
    (hd : d ∈ m.apply c) : m.apply d = [d] := by
  rcases apply_cases hm c with hc | ⟨e, -, he, hc⟩ | ⟨hgiven, -⟩
  · obtain rfl := List.mem_singleton.mp (hc ▸ hd)
    exact hc
  · obtain rfl := List.mem_singleton.mp (hc ▸ hd)
    exact apply_of_not_mem hm (not_mem_of_bits hbits (List.mem_append_right _ he))
  · exact apply_of_not_mem hm (not_mem_of_bits hbits (hgiven d hd))

/-- Where a character stays one, only what runs give has to be left alone. -/
theorem apply_rests_one (hm : m.InOrder) (hbits : bits m.runImages &&& bits m.mentioned = 0)
    (hd : m.apply c = [d]) : m.apply d = [d] := by
  rcases apply_cases hm c with hc | ⟨e, -, he, hc⟩ | ⟨-, hlength⟩
  · obtain rfl := List.singleton_inj.mp (hc.symm.trans hd)
    exact hc
  · obtain rfl := List.singleton_inj.mp (hc.symm.trans hd)
    exact apply_of_not_mem hm (not_mem_of_bits hbits he)
  · rw [hd] at hlength
    simp at hlength

/-- **A mapping whose runs go from letters with case to letters with case keeps case**, where a
character stays one. -/
theorem isCased_of_apply (hm : m.InOrder)
    (hbits : bits (m.runChars ++ m.runImages) ||| casedRanges.bits = casedRanges.bits)
    (hd : m.apply c = [d]) : isCased d = isCased c := by
  rcases apply_cases hm c with hc | ⟨e, hchar, he, hc⟩ | ⟨-, hlength⟩
  · rw [List.singleton_inj.mp (hc.symm.trans hd)]
  · obtain rfl := List.singleton_inj.mp (hc.symm.trans hd)
    exact (Ranges.contains_of_bits hbits (List.mem_append_right _ he)).trans
      (Ranges.contains_of_bits hbits (List.mem_append_left _ hchar)).symm
  · rw [hd] at hlength
    simp at hlength

/-- Below a bound that all runs but the first one and all exceptions start at, the first run decides. -/
theorem apply_of_lt {r : Run} {rs : List Run} {bound : Nat} (hruns : m.runs = r :: rs)
    (hrs : ∀ r ∈ rs, bound ≤ r.start) (hlong : ∀ e ∈ m.long, bound ≤ e.1) (hc : c.toNat < bound) :
    m.apply c = (⟨[r], []⟩ : CharMap).apply c := by
  have hnone : m.long.find? (·.1 == c.toNat) = none := by
    simp only [List.find?_eq_none, beq_iff_eq]
    intro e he hec
    have := hlong e he
    omega
  have hrest : rs.findSome? (·.image? c.toNat) = none := by
    simp only [List.findSome?_eq_none_iff]
    intro r hr
    have := hrs r hr
    simp only [Run.image?, ite_eq_right_iff, reduceCtorEq, imp_false]
    omega
  simp only [apply, hnone, hruns, List.findSome?_cons, hrest, List.find?_nil, List.findSome?_nil]

end CharMap

/-! ## §C — the three mappings -/

/-- The characters that codes are parted and trimmed by: blanks, hyphen, point, at sign and
underscore. -/
def markRanges : Ranges :=
  ⟨[(0x09, 0x0D), (0x1C, 0x20), (0x2D, 0x2E), (0x40, 0x40), (0x5F, 0x5F), (0x85, 0x85), (0xA0, 0xA0),
    (0x1680, 0x1680), (0x2000, 0x200A), (0x2028, 0x2029), (0x202F, 0x202F), (0x205F, 0x205F),
    (0x3000, 0x3000)]⟩

/-- Whether codes are parted or trimmed by the character. -/
def isMark (c : Char) : Bool := markRanges.contains c.toNat

theorem isMark_of_isBlank {c : Char} (h : isBlank c = true) : isMark c = true := by
  simp only [isBlank, Bool.or_eq_true, Bool.and_eq_true, decide_eq_true_eq, beq_iff_eq] at h
  simp only [isMark, markRanges, Ranges.contains, List.any_cons, List.any_nil, Bool.or_eq_true,
    Bool.and_eq_true, decide_eq_true_eq]
  omega

/-- The rule for ASCII letters says what a table says whose first run is that rule. -/
theorem ascii_eq_apply {ascii : Char → Char} {m : CharMap} {r : Run} {rs : List Run}
    (hruns : m.runs = r :: rs) (hrs : ∀ r ∈ rs, 0x80 ≤ r.start) (hlong : ∀ e ∈ m.long, 0x80 ≤ e.1)
    (hascii : ∀ n < 0x80, [ascii (Char.ofNat n)] = (⟨[r], []⟩ : CharMap).apply (Char.ofNat n))
    (c : Char) : (if c.toNat < 0x80 then [ascii c] else m.apply c) = m.apply c := by
  split
  · rename_i hc
    have hrun := hascii c.toNat hc
    rw [Char.ofNat_toNat] at hrun
    rw [hrun, CharMap.apply_of_lt hruns hrs hlong hc]
  · rfl

/-- **A table that describes a mapping** of characters: it is in order, it is right about every character,
and gives no mark. -/
structure CharMap.Describes (m : CharMap) (letter : Char → List Char) : Prop where
  inOrder : m.InOrder
  eq_apply : ∀ c, letter c = m.apply c
  unmarked : bits m.given &&& markRanges.bits = 0

-- Each table is gone through once: a theorem for each question would be checked behind all the others.

theorem upperMap_describes :
    upperMap.Describes upperChar ∧ bits upperMap.given &&& bits upperMap.mentioned = 0 := by
  refine ⟨⟨⟨?_, ?_, ?_⟩, ascii_eq_apply rfl ?_ ?_ ?_, ?_⟩, ?_⟩ <;> decide +kernel

theorem lowerMap_describes :
    lowerMap.Describes lowerChar ∧ bits lowerMap.given &&& bits lowerMap.mentioned = 0 ∧
      bits (lowerMap.runChars ++ lowerMap.runImages) ||| casedRanges.bits = casedRanges.bits ∧
      bits lowerMap.given &&& bits [capitalSigma.toNat] = 0 := by
  refine ⟨⟨⟨?_, ?_, ?_⟩, ascii_eq_apply rfl ?_ ?_ ?_, ?_⟩, ?_, ?_, ?_⟩ <;> decide +kernel

theorem titleMap_describes :
    titleMap.Describes titleChar ∧ bits titleMap.runImages &&& bits titleMap.mentioned = 0 ∧
      bits (titleMap.runChars ++ titleMap.runImages) ||| casedRanges.bits = casedRanges.bits := by
  refine ⟨⟨⟨?_, ?_, ?_⟩, ascii_eq_apply rfl ?_ ?_ ?_, ?_⟩, ?_, ?_⟩ <;> decide +kernel

/-! ## §D — texts spelled anew -/

/-- What may stand for a character in another spelling: something, and no mark that it is not
itself. -/
def Spells (c : Char) (part : List Char) : Prop :=
  part ≠ [] ∧ ∀ d ∈ part, d = c ∨ isMark d = false

theorem CharMap.Describes.spells {m : CharMap} {letter : Char → List Char}
    (hm : m.Describes letter) (c : Char) : Spells c (letter c) := by
  rw [hm.eq_apply c]
  exact ⟨apply_ne_nil hm.inOrder c, fun _ hd =>
    (eq_or_mem_given hm.inOrder hd).imp_right (Ranges.not_contains_of_bits hm.unmarked)⟩

/-- The small letters that a capital sigma becomes, at the end of a word or elsewhere. -/
def smallSigma (final : Bool) : Char := Char.ofNat (if final then 0x3C2 else 0x3C3)

/-- Both small letters are low, have case as the capital has, and are no marks. -/
theorem smallSigma_spec : ∀ final, smallSigma final ≠ capitalSigma ∧
    lowerChar (smallSigma final) = [smallSigma final] ∧
    isCased (smallSigma final) = isCased capitalSigma ∧ isMark (smallSigma final) = false := by
  decide +kernel

theorem lowerBetween_spells (before : List Char) (c : Char) (after : List Char) :
    Spells c (lowerBetween before c after) := by
  unfold lowerBetween
  split
  · refine ⟨List.cons_ne_nil _ _, fun d hd => .inr ?_⟩
    obtain rfl := List.mem_singleton.mp hd
    exact (smallSigma_spec (casedAhead before && !casedAhead after)).2.2.2
  · exact lowerMap_describes.1.spells c

/-- **Spelled anew** — one text is another one with each character in a spelling of its own. -/
inductive Respelled : List Char → List Char → Prop
  | nil : Respelled [] []
  | cons {c part s t} : Spells c part → Respelled s t → Respelled (c :: s) (part ++ t)

namespace Respelled
variable {s t : List Char} {d : Char}

theorem refl (s : List Char) : Respelled s s := by
  induction s with
  | nil => exact .nil
  | cons c s ih =>
      have hself : Spells c [c] :=
        ⟨List.cons_ne_nil _ _, fun d hd => .inl (List.mem_singleton.mp hd)⟩
      exact .cons hself ih

theorem length_le (h : Respelled s t) : s.length ≤ t.length := by
  induction h with
  | nil => exact le_rfl
  | cons hc _ ih =>
      have := List.length_pos_iff.mpr hc.1
      rw [List.length_cons, List.length_append]
      omega

theorem ne_nil (h : Respelled s t) (hs : s ≠ []) : t ≠ [] := by
  have := h.length_le
  have := List.length_pos_iff.mpr hs
  exact List.length_pos_iff.mp (by omega)

/-- Another spelling brings no marks. -/
theorem mem_of_isMark (h : Respelled s t) (hd : d ∈ t) (hmark : isMark d = true) : d ∈ s := by
  induction h with
  | nil => exact hd
  | cons hc _ ih =>
      rcases List.mem_append.mp hd with hd | hd
      · rcases hc.2 d hd with rfl | hno
        · exact List.mem_cons_self
        · rw [hmark] at hno
          cases hno
      · exact List.mem_cons_of_mem _ (ih hd)

theorem append {s' t' : List Char} (h : Respelled s t) (h' : Respelled s' t') :
    Respelled (s ++ s') (t ++ t') := by
  induction h with
  | nil => exact h'
  | cons hc _ ih =>
      rw [List.cons_append, List.append_assoc]
      exact .cons hc ih

/-- A mark that another spelling begins with begins the text. -/
theorem head?_of_isMark (h : Respelled s t) (hd : t.head? = some d) (hmark : isMark d = true) :
    s.head? = some d := by
  cases h with
  | nil => exact hd
  | @cons c part s t hc hst =>
      obtain ⟨e, part, rfl⟩ := List.exists_cons_of_ne_nil hc.1
      obtain rfl := Option.some.inj hd
      rcases hc.2 e List.mem_cons_self with rfl | hno
      · rfl
      · rw [hmark] at hno
        cases hno

/-- A mark that ends another spelling ends the text. -/
theorem getLast?_of_isMark (h : Respelled s t) (hd : t.getLast? = some d) (hmark : isMark d = true) :
    s.getLast? = some d := by
  induction h with
  | nil => exact hd
  | @cons c part s t hc hst ih =>
      rcases s with _ | ⟨c', s⟩
      · cases hst
        rw [List.append_nil] at hd
        rcases hc.2 d (List.mem_of_getLast? hd) with rfl | hno
        · rfl
        · rw [hmark] at hno
          cases hno
      · rw [List.getLast?_append_of_ne_nil _ (hst.ne_nil (List.cons_ne_nil _ _))] at hd
        rw [List.getLast?_cons_cons]
        exact ih hd

end Respelled

theorem respelled_upper (s : List Char) : Respelled s (upper s) := by
  induction s with
  | nil => exact .nil
  | cons c s ih => exact .cons (upperMap_describes.1.spells c) ih

theorem respelled_lowerAfter (before s : List Char) : Respelled s (lowerAfter before s) := by
  induction s generalizing before with
  | nil => exact .nil
  | cons c s ih => exact .cons (lowerBetween_spells before c s) (ih _)

/-! ## §E — texts in upper and lower case -/

/-- **Upper case comes to rest.** -/
theorem upper_upper (s : List Char) : upper (upper s) = upper s := by
  have hfixed : ∀ d ∈ upper s, upperChar d = [d] := by
    intro d hd
    obtain ⟨c, -, hdc⟩ := List.mem_flatMap.mp hd
    obtain ⟨hmap, hbits⟩ := upperMap_describes
    rw [hmap.eq_apply] at hdc ⊢
    exact CharMap.apply_rests hmap.inOrder hbits hdc
  calc upper (upper s) = ((upper s).map upperChar).flatten := rfl
    _ = ((upper s).map ([·])).flatten := by rw [List.map_congr_left hfixed]
    _ = upper s := List.flatMap_singleton' _

/-- A letter that lower case leaves alone wherever it stands. -/
def IsLow (c : Char) : Prop := c ≠ capitalSigma ∧ lowerChar c = [c]

theorem IsLow.lowerBetween {c : Char} (h : IsLow c) (before after : List Char) :
    lowerBetween before c after = [c] := by
  rw [Text.lowerBetween, if_neg h.1, h.2]

/-- **Lower case comes to rest, letter by letter**, whatever stands around the letter. -/
theorem isLow_of_mem {before after : List Char} {c d : Char}
    (hd : d ∈ lowerBetween before c after) : IsLow d := by
  obtain ⟨hmap, hbits, -, hsigma⟩ := lowerMap_describes
  unfold lowerBetween at hd
  split at hd
  · obtain rfl := List.mem_singleton.mp hd
    obtain ⟨hne, hlow, -, -⟩ := smallSigma_spec (casedAhead before && !casedAhead after)
    exact ⟨hne, hlow⟩
  · rw [hmap.eq_apply] at hd
    refine ⟨?_, (hmap.eq_apply d).trans (CharMap.apply_rests hmap.inOrder hbits hd)⟩
    rintro rfl
    rcases CharMap.eq_or_mem_given hmap.inOrder hd with rfl | hgiven
    · exact absurd rfl ‹¬capitalSigma = capitalSigma›
    · exact not_mem_of_bits hsigma hgiven (List.mem_singleton_self _)

theorem isLow_of_mem_lowerAfter {d : Char} (s before : List Char) (hd : d ∈ lowerAfter before s) :
    IsLow d := by
  induction s generalizing before with
  | nil => cases hd
  | cons c s ih =>
      rcases List.mem_append.mp hd with hd | hd
      · exact isLow_of_mem hd
      · exact ih _ hd

theorem lowerAfter_of_isLow (s before : List Char) (h : ∀ d ∈ s, IsLow d) :
    lowerAfter before s = s := by
  induction s generalizing before with
  | nil => rfl
  | cons c s ih =>
      rw [lowerAfter, (h c List.mem_cons_self).lowerBetween,
        ih _ fun d hd => h d (List.mem_cons_of_mem c hd)]
      rfl

/-- **Lower case comes to rest.** -/
theorem lower_lower (s : List Char) : lower (lower s) = lower s :=
  lowerAfter_of_isLow _ _ fun _ => isLow_of_mem_lowerAfter s []

/-! ## §F — texts in title case -/

/-- The title case of a character after `before`: a letter after a cased one is lower case. -/
def titleBetween (before : List Char) (c : Char) (after : List Char) : List Char :=
  match before with
  | b :: _ => if isCased b then lowerBetween before c after else titleChar c
  | [] => titleChar c

theorem titleAfter_cons (before : List Char) (c : Char) (s : List Char) :
    titleAfter before (c :: s) = titleBetween before c s ++ titleAfter (c :: before) s := rfl

/-- What title case makes of a character is its lower case or its own title case. -/
theorem titleBetween_cases (before : List Char) (c : Char) (after : List Char) :
    titleBetween before c after = lowerBetween before c after ∨
      titleBetween before c after = titleChar c := by
  unfold titleBetween
  split
  · split
    · exact .inl rfl
    · exact .inr rfl
  · exact .inr rfl

theorem titleBetween_spells (before : List Char) (c : Char) (after : List Char) :
    Spells c (titleBetween before c after) := by
  rcases titleBetween_cases before c after with h | h
  · exact h ▸ lowerBetween_spells before c after
  · exact h ▸ titleMap_describes.1.spells c

theorem respelled_titleAfter (before s : List Char) : Respelled s (titleAfter before s) := by
  induction s generalizing before with
  | nil => exact .nil
  | cons c s ih => exact .cons (titleBetween_spells before c s) (ih _)

/-- Title case keeps which characters have case, where a character stays one. -/
theorem isCased_of_titleBetween {before after : List Char} {c d : Char}
    (hd : titleBetween before c after = [d]) : isCased d = isCased c := by
  rcases titleBetween_cases before c after with h | h
  · rw [h] at hd
    unfold lowerBetween at hd
    split at hd
    · rename_i hc
      obtain rfl := List.singleton_inj.mp hd
      rw [hc]
      exact (smallSigma_spec (casedAhead before && !casedAhead after)).2.2.1
    · obtain ⟨hmap, -, hcased, -⟩ := lowerMap_describes
      rw [hmap.eq_apply] at hd
      exact CharMap.isCased_of_apply hmap.inOrder hcased hd
  · obtain ⟨hmap, -, hcased⟩ := titleMap_describes
    rw [h, hmap.eq_apply] at hd
    exact CharMap.isCased_of_apply hmap.inOrder hcased hd

/-- **Title case comes to rest, letter by letter**, after characters of the same case. -/
theorem titleBetween_rests {before before' : List Char} (after after' : List Char) {c d : Char}
    (hbefore : before.head?.map isCased = before'.head?.map isCased)
    (hd : titleBetween before c after = [d]) : titleBetween before' d after' = [d] := by
  have htitle (hd : titleChar c = [d]) : titleChar d = [d] := by
    obtain ⟨hmap, hbits, -⟩ := titleMap_describes
    rw [hmap.eq_apply] at hd ⊢
    exact CharMap.apply_rests_one hmap.inOrder hbits hd
  match before, before' with
  | [], [] => exact htitle hd
  | b :: _, b' :: _ =>
      have hb : isCased b = isCased b' := Option.some.inj hbefore
      simp only [titleBetween] at hd ⊢
      rw [← hb]
      split at hd
      · rw [if_pos ‹_›]
        exact (isLow_of_mem (hd ▸ List.mem_singleton_self d)).lowerBetween _ _
      · rw [if_neg ‹_›]
        exact htitle hd

theorem titleAfter_rests (s : List Char) {before before' : List Char}
    (hbefore : before.head?.map isCased = before'.head?.map isCased)
    (hlength : (titleAfter before s).length = s.length) :
    titleAfter before' (titleAfter before s) = titleAfter before s := by
  induction s generalizing before before' with
  | nil => rfl
  | cons c s ih =>
      have hrest := (respelled_titleAfter (c :: before) s).length_le
      rw [titleAfter_cons, List.length_append, List.length_cons] at hlength
      obtain ⟨d, hd⟩ : ∃ d, titleBetween before c s = [d] := by
        rw [← List.length_eq_one_iff]
        have hpart := List.length_pos_iff.mpr (titleBetween_spells before c s).1
        omega
      rw [hd, List.length_singleton] at hlength
      have hcase : (c :: before).head?.map isCased = (d :: before').head?.map isCased :=
        congrArg some (isCased_of_titleBetween hd).symm
      rw [titleAfter_cons, hd, List.singleton_append, titleAfter_cons,
        titleBetween_rests s _ hbefore hd, ih hcase (by omega)]
      rfl

/-- **Title case comes to rest** where no character becomes several. -/
theorem title_title {s : List Char} (h : (title s).length = s.length) :
    title (title s) = title s :=
  titleAfter_rests s rfl h

end Text
end TableQuery
