/-
# TableQuery.Proofs.Value.Padding — a number and its text are interchangeable.

A number that can be written prints a text that writes it.  Blanks around the text are trimmed off
before it is read, so the padded text counts as the very same number.  Where values are compared, two
numbers are compared as such, and a number is not compared by its text but with a value that is none.
Such a value has another text than any number has (`Value.ofText?_of_points`); so nothing that values
are compared with tells the number from its padded text (`Number.text_interchangeable`).

## §A — values that are no numbers.
## §B — values that count as one number.
## §C — a number and its text.
-/
import TableQuery.Proofs.Value.Equality

namespace TableQuery

/-! ## §A — values that are no numbers -/

namespace Number

/-- Padding has no part in what a text writes. -/
theorem ofText?_padded {before after : List Char}
    (hbefore : ∀ c ∈ before, Text.isBlank c = true) (hafter : ∀ c ∈ after, Text.isBlank c = true)
    (s : List Char) : ofText? (before ++ s ++ after) = ofText? s := by
  rw [ofText?, Text.trim_padded hbefore hafter, ofText?]

/-- A text that begins with neither a blank, a sign, a point nor a digit writes no number. -/
theorem ofText?_eq_none {c : Char} (hblank : Text.isBlank c = false) (hminus : c ≠ '-')
    (hplus : c ≠ '+') (hpoint : c ≠ '.') (hdigit : Text.isDigit c = false) (s : List Char) :
    ofText? (c :: s) = none := by
  obtain ⟨t, ht⟩ := Text.exists_trim_cons hblank s
  have hsign : splitSign (c :: t) = (false, c :: t) := by
    unfold splitSign
    split
    next h => exact absurd (List.cons.inj h).1 hminus
    next h => exact absurd (List.cons.inj h).1 hplus
    next => rfl
  have hspan : Text.spanDigits (c :: t) = ([], c :: t) := by
    simp [Text.spanDigits, hdigit]
  have hint : readInt? (c :: t) = none := by
    simp [readInt?, hsign, hdigit]
  have hdouble : readDouble? (c :: t) = none := by
    simp only [readDouble?, hsign, hspan]
    split
    next h => exact absurd (List.cons.inj h).1 hpoint
    next => rfl
  rw [ofText?, ht, readTrimmed?, hint, hdouble]
  split <;> rfl

end Number

namespace Value

/-- What is printed in brackets has a text that is read as no number. -/
theorem ofText?_of_enclosed (opening : String) {closing : String} {v : Value}
    {texts : Except NumberError (List String)} {parts : List String → String}
    (hprinted : v.printed = do return opening ++ parts (← texts) ++ closing)
    (hpoints : v.points = do return (← v.printed).toList.map Char.toNat)
    (hopening : ∀ s, Number.ofText? (opening.toList ++ s) = none) {cs : List Char}
    (h : v.points = .ok (cs.map Char.toNat)) : Number.ofText? cs = none := by
  rw [hpoints, hprinted] at h
  cases texts with
  | error e => cases h
  | ok texts =>
      have hcs : (opening ++ parts texts ++ closing).toList = cs :=
        List.map_injective_iff.mpr (fun _ _ => Char.toNat_inj.mp) (Except.ok.inj h)
      rw [← hcs, String.append_assoc, String.toList_append]
      exact hopening _

/-- **What is no number has the text of none**: a text that writes a number is that number, and lists
and records are shown in brackets. -/
theorem ofText?_of_points {v : Value} (hnull : v.isNull = false) (hnone : v.number? = none)
    {cs : List Char} (h : v.points = .ok (cs.map Char.toNat)) : Number.ofText? cs = none := by
  cases v with
  | null => cases hnull
  | bool | int | float => cases hnone
  | text s => exact (number?_of_points (v := .text s) trivial h).symm.trans hnone
  | blob bytes => exact (number?_of_points (v := .blob bytes) trivial h).symm.trans hnone
  -- Neither bracket begins a number, so that the text of a list or record writes none.
  | list items =>
      have hprinted : (Value.list items).printed = do
          return "[" ++ ", ".intercalate (← shownItems items) ++ "]" := by
        rw [printed, shown]
        intro bytes hblob
        cases hblob
      refine ofText?_of_enclosed "[" hprinted rfl (fun s => ?_) h
      exact Number.ofText?_eq_none (by decide) (by decide) (by decide) (by decide) (by decide) s
  | record fields =>
      have hprinted : (Value.record fields).printed = do
          return "\x7b" ++ ", ".intercalate (← shownFields fields) ++ "\x7d" := by
        rw [printed, shown]
        intro bytes hblob
        cases hblob
      refine ofText?_of_enclosed "\x7b" hprinted rfl (fun s => ?_) h
      exact Number.ofText?_eq_none (by decide) (by decide) (by decide) (by decide) (by decide) s

/-! ## §B — values that count as one number -/

/-- **Interchangeable** — two values that no comparison with a further value tells apart: not the order
of any collation, nor the keys that it sorts by, nor loose equality. -/
structure Interchangeable (v w : Value) : Prop where
  compare_left (c : Collation) (u : Value) : c.compare v u = c.compare w u
  compare_right (c : Collation) (u : Value) : c.compare u v = c.compare u w
  sortKey (c : Collation) : c.sortKey v = c.sortKey w
  looseEqual_left (u : Value) : v.looseEqual u = w.looseEqual u
  looseEqual_right (u : Value) : u.looseEqual v = u.looseEqual w

variable {v w : Value} {n : Number}

theorem ne_null_of_number? (h : v.number? = some n) : v ≠ .null := by
  rintro rfl
  cases h

/-- A number is loosely equal to what it would be if it were written: to equal numbers, and to nothing
else, unless it is printed as a word. -/
theorem looseEqual_of_number (hv : v.IsPlain) (hword : ¬v.IsWord) (hn : v.number? = some n)
    (u : Value) : v.looseEqual u =
      if u.isNull then .ok false
      else match u.number? with
        | some m => .ok (n.equal m)
        | none => u.points.map fun _ => false := by
  unfold looseEqual
  rw [hv.isNull, hn, Bool.false_or]
  by_cases hnull : u.isNull = true
  · rw [if_pos hnull, if_pos hnull]
  · rw [if_neg hnull, if_neg hnull]
    cases hu : u.number? with
    | some m => rfl
    | none =>
        obtain ⟨cs, hcs, hreads⟩ := hv.exists_chars hword hn
        rw [hcs]
        cases hpoints : u.points with
        | error e => rfl
        | ok t =>
            -- Equal code points would count as the same number, and the other value counts as none.
            have hother : (cs.map Char.toNat == t) = false := by
              refine beq_false_of_ne fun hsame => ?_
              subst hsame
              rw [ofText?_of_points (Bool.not_eq_true _ ▸ hnull) hu hpoints] at hreads
              cases hreads
            exact congrArg Except.ok hother

/-- **Values that count as one number** are interchangeable, unless one is printed as a word. -/
theorem interchangeable_of_number (hv : v.IsPlain) (hvword : ¬v.IsWord) (hw : w.IsPlain)
    (hwword : ¬w.IsWord) (hvn : v.number? = some n) (hwn : w.number? = some n) :
    Interchangeable v w := by
  have hkey (c : Collation) : c.sortKey v = c.sortKey w := by
    rw [c.sortKey_of_ne_null (ne_null_of_number? hvn), c.sortKey_of_ne_null (ne_null_of_number? hwn),
      hvn, hwn]
  have hloose (u : Value) : v.looseEqual u = w.looseEqual u := by
    rw [looseEqual_of_number hv hvword hvn, looseEqual_of_number hw hwword hwn]
  refine ⟨fun c u => ?_, fun c u => ?_, hkey, hloose, fun u => ?_⟩
  · rw [c.compare_eq_sortKey, c.compare_eq_sortKey, hkey]
  · rw [c.compare_eq_sortKey, c.compare_eq_sortKey, hkey]
  · rw [looseEqual_comm u v, looseEqual_comm u w, hloose]

end Value

/-! ## §C — a number and its text -/

namespace Number

/-- **Writable** — an integer of at most as many digits as text may have, or a finite number. -/
def IsWritable : Number → Prop
  | .int i => ¬IsLong i
  | .float x => x.isFinite = true

variable {n : Number}

theorem IsWritable.isPlain (h : n.IsWritable) :
    (Value.ofNumber n).IsPlain ∧ ¬(Value.ofNumber n).IsWord := by
  cases n with
  | int i => exact ⟨h, id⟩
  | float x =>
      refine ⟨trivial, fun hword => ?_⟩
      have hfinite : x.isFinite = true := h
      rw [show x.isFinite = false from hword] at hfinite
      cases hfinite

theorem number?_ofNumber (n : Number) : (Value.ofNumber n).number? = some n := by
  cases n <;> rfl

/-- **A writable number is read back** from what is printed. -/
theorem IsWritable.exists_printed (h : n.IsWritable) :
    ∃ s, (Value.ofNumber n).printed = .ok s ∧ ofText? s.toList = some n := by
  cases n with
  | int i =>
      have htext : intText i = .ok (toString i) := if_pos (not_not.mp h)
      exact ⟨toString i, htext, ofText?_int h⟩
  | float x => exact ⟨x.text, rfl, ofText?_text h⟩

theorem IsWritable.isNaN (h : n.IsWritable) : n.isNaN = false := by
  cases n with
  | int i => rfl
  | float x =>
      cases x with
      | nan => cases h
      | infinity s => rfl
      | finite s m e hm => rfl

/-- **A number and its text are interchangeable.**  Every integer within the digit limit and every
finite number prints a text, and this text, with any blanks before and behind it, counts as the number
itself and not just as one of the same value.  It has the place of the number under every collation
and is loosely equal to it from either side, and no comparison of the two with a third value tells
them apart. -/
theorem text_interchangeable (hn : n.IsWritable) {before after : List Char}
    (hbefore : ∀ c ∈ before, Text.isBlank c = true)
    (hafter : ∀ c ∈ after, Text.isBlank c = true) :
    ∃ s padded, (Value.ofNumber n).printed = .ok s ∧
      padded = Value.text (String.ofList (before ++ s.toList ++ after)) ∧
      padded.number? = some n ∧
      (∀ c : Collation, c.compare padded (.ofNumber n) = .eq ∧ c.compare (.ofNumber n) padded = .eq) ∧
      padded.looseEqual (.ofNumber n) = .ok true ∧ (Value.ofNumber n).looseEqual padded = .ok true ∧
      padded.Interchangeable (.ofNumber n) := by
  obtain ⟨s, hprinted, hreads⟩ := hn.exists_printed
  obtain ⟨hplain, hword⟩ := hn.isPlain
  obtain ⟨padded, hpadded⟩ : ∃ padded,
      padded = Value.text (String.ofList (before ++ s.toList ++ after)) := ⟨_, rfl⟩
  have hnumber : padded.number? = some n := by
    rw [hpadded, Value.number?, String.toList_ofList, ofText?_padded hbefore hafter, hreads]
  -- What is equal to the number by its value is exchanged for it in every comparison.
  have hsame : padded.Interchangeable (.ofNumber n) := by
    refine Value.interchangeable_of_number ?_ ?_ hplain hword hnumber (number?_ofNumber n)
    · rw [hpadded]
      trivial
    · rw [hpadded]
      exact id
  have hequal : n.equal n = true := by
    have hself : n.compare n = .eq := Std.ReflCmp.compare_self
    rw [equal_eq_compare (by rw [hn.isNaN]; rfl), hself]
    rfl
  have hloose : (Value.ofNumber n).looseEqual (.ofNumber n) = .ok true := by
    rw [Value.looseEqual_of_number hplain hword (number?_ofNumber n), hplain.isNull,
      number?_ofNumber]
    exact congrArg Except.ok hequal
  refine ⟨s, padded, hprinted, hpadded, hnumber, fun c => ⟨?_, ?_⟩, ?_, ?_, hsame⟩
  · exact c.compare_eq_of_number hnumber (number?_ofNumber n)
  · exact c.compare_eq_of_number (number?_ofNumber n) hnumber
  · rw [hsame.looseEqual_left, hloose]
  · rw [hsame.looseEqual_right, hloose]

/-- A negative number in exponent notation, between a tab and an ideographic space. -/
theorem text_interchangeable_smallNumber :
    let x := Double.ofDecimal true 25 2 (-8)
    x.isFinite = true ∧ x.text = "-2.5e-07" ∧
      ['\t'].all Text.isBlank = true ∧ ['\u3000'].all Text.isBlank = true ∧
      (Value.text "\t-2.5e-07\u3000").number? = some (.float x) ∧
      (Value.text "\t-2.5e-07\u3000").Interchangeable (.float x) := by
  intro x
  have hfinite : x.isFinite = true := by decide +kernel
  have htext : x.text = "-2.5e-07" := by decide +kernel
  have hbefore : ['\t'].all Text.isBlank = true := by decide
  have hafter : ['\u3000'].all Text.isBlank = true := by decide
  obtain ⟨s, padded, hprinted, hpadded, hnumber, -, -, -, hsame⟩ :=
    text_interchangeable (n := .float x) hfinite (List.all_eq_true.mp hbefore)
      (List.all_eq_true.mp hafter)
  obtain rfl : x.text = s := Except.ok.inj hprinted
  rw [htext] at hpadded
  obtain rfl : padded = .text "\t-2.5e-07\u3000" := hpadded
  exact ⟨hfinite, htext, hbefore, hafter, hnumber, hsame⟩

end Number
end TableQuery
