/-
# TableQuery.Proofs.Value.Equality — loose equality against the order by code points.

Two values are equal in two ways: loosely, as IN tests them, and by having one place in the order by
code points, as `=` tests them.  Both compare numbers as numbers and texts as texts.  They part in
what they make of NaN, which has a place but is loosely equal to nothing, and of a number against a
text that writes none: the order keeps them apart, and loose equality compares what is printed.  A
number prints a text that writes it, unless it is printed as a word; so the words are all that is
left (`Value.looseEqual_eq`).

## §A — the code points of texts and byte strings.
## §B — numbers that are printed as words.
## §C — loose equality from both sides.
## §D — the two equalities.
-/
import TableQuery.Proofs.Evaluation.Limits
import TableQuery.Proofs.Number.Reading
import TableQuery.Proofs.Sql.Quoting
import TableQuery.Proofs.ValueOrder
import TableQuery.Value.Equality

namespace TableQuery

/-! ## §A — the code points of texts and byte strings -/

namespace Utf8

/-- A bad piece holds a byte. -/
theorem ne_nil_of_bad {bytes bad : List UInt8} (h : .bad bad ∈ pieces bytes) : bad ≠ [] := by
  fun_induction pieces bytes with
  | case1 => cases h
  | case2 b rest hb ih => exact ih (by simpa using h)
  | case3 b rest hb hlead ih =>
      rcases List.mem_cons.mp h with heq | h
      · rw [Piece.bad.inj heq]
        exact List.cons_ne_nil _ _
      · exact ih h
  | case4 b rest hb bits count low high hlead r hlength hcomplete ih => exact ih (by simpa using h)
  | case5 b rest hb bits count low high hlead r hlength hcomplete ih =>
      rcases List.mem_cons.mp h with heq | h
      · rw [Piece.bad.inj heq]
        exact List.cons_ne_nil _ _
      · exact ih h

/-- No character has the code point that a bad byte stands as. -/
theorem toNat_ne_bad (c : Char) (b : UInt8) : c.toNat ≠ 0xDC00 + b.toNat := by
  have hbyte : b.toNat < 256 := b.toNat_lt
  have hvalid : c.toNat < 0xD800 ∨ 0xDFFF < c.toNat ∧ c.toNat < 0x110000 := c.valid
  omega

/-- **Bytes with the code points of a text are the text.** -/
theorem decode?_of_decodePoints {bytes : List UInt8} {cs : List Char}
    (h : decodePoints bytes = cs.map Char.toNat) : decode? bytes = some cs := by
  have hbad (bad : List UInt8) (hbad : .bad bad ∈ pieces bytes) := ne_nil_of_bad hbad
  unfold decodePoints at h
  unfold decode?
  generalize pieces bytes = ps at h hbad ⊢
  induction ps generalizing cs with
  | nil =>
      obtain rfl := List.map_eq_nil_iff.mp h.symm
      rfl
  | cons p ps ih =>
      cases p with
      | char c =>
          obtain ⟨c', cs', rfl, hc, hcs⟩ := List.map_eq_cons_iff.mp h.symm
          obtain rfl : c' = c := Char.toNat_inj.mp hc
          have hrest := ih hcs.symm fun bad hmem => hbad bad (List.mem_cons_of_mem _ hmem)
          simp only [List.mapM_cons, hrest]
          rfl
      | bad bad =>
          -- the byte would have the code point of a character
          obtain ⟨b, bs, rfl⟩ := List.exists_cons_of_ne_nil (hbad bad List.mem_cons_self)
          obtain ⟨c, cs', rfl, hc, -⟩ := List.map_eq_cons_iff.mp h.symm
          exact absurd hc (toNat_ne_bad c b)

end Utf8

namespace Value

/-- Texts and byte strings. -/
def IsTextual : Value → Prop
  | .text _ | .blob _ => True
  | _ => False

/-- What a text or byte string writes hangs on its code points alone. -/
theorem number?_of_points {v : Value} (hv : v.IsTextual) {cs : List Char}
    (h : v.points = .ok (cs.map Char.toNat)) : v.number? = Number.ofText? cs := by
  cases v with
  | text s =>
      have hpoints : s.toList.map Char.toNat = cs.map Char.toNat := Except.ok.inj h
      have hcs : s.toList = cs := List.map_injective_iff.mpr (fun _ _ => Char.toNat_inj.mp) hpoints
      rw [number?, hcs]
  | blob bytes =>
      rw [number?, Utf8.decode?_of_decodePoints (Except.ok.inj h), Option.bind_some]
  | _ => exact hv.elim

/-! ## §B — numbers that are printed as words -/

/-- The numbers that are printed as words: truth values, infinities and NaN. -/
def IsWord : Value → Prop
  | .bool _ => True
  | .float x => x.isFinite = false
  | _ => False

/-- **Plain** — truth values, integers within the digit limit, binary64 numbers, texts and byte
strings. -/
def IsPlain : Value → Prop
  | .bool _ | .float _ | .text _ | .blob _ => True
  | .int i => ¬Number.IsLong i
  | _ => False

variable {v w : Value}

theorem IsPlain.isNull (h : v.IsPlain) : v.isNull = false := by
  cases v <;> first | rfl | exact h.elim

/-- A plain value has a text. -/
theorem IsPlain.exists_points (h : v.IsPlain) : ∃ s, v.points = .ok s := by
  cases hpoints : v.points with
  | ok s => exact ⟨s, rfl⟩
  | error e =>
      have hlong : v.HoldsLong := ((refuses_points v e).mp hpoints).2
      cases v with
      | int i => exact absurd hlong h
      | list => exact h.elim
      | record => exact h.elim
      | _ => exact hlong.elim

/-- A number that is no text is not printed as a text, unless it is printed as a word. -/
theorem IsPlain.isTextual (h : v.IsPlain) (hn : v.number? = none) : v.IsTextual := by
  cases v with
  | text | blob => trivial
  | bool | int | float => cases hn
  | _ => exact h.elim

/-- **A number prints a text that writes a number**, unless it is printed as a word. -/
theorem IsPlain.exists_chars (h : v.IsPlain) (hword : ¬v.IsWord) {n : Number}
    (hn : v.number? = some n) :
    ∃ cs, v.points = .ok (cs.map Char.toNat) ∧ (Number.ofText? cs).isSome = true := by
  cases v with
  | bool b => exact absurd trivial hword
  | int i =>
      refine ⟨(toString i).toList, ?_, by rw [Number.ofText?_int h]; rfl⟩
      have htext : Number.intText i = .ok (toString i) := if_pos (not_not.mp h)
      show (do return (← (Value.int i).printed).toList.map Char.toNat) = _
      rw [printed, shown, htext]
      · rfl
      · intro s h
        cases h
  | float x =>
      have hfinite : x.isFinite = true := Bool.not_eq_false _ ▸ hword
      exact ⟨x.text.toList, rfl, by rw [Number.ofText?_text hfinite]; rfl⟩
  | text s => exact ⟨s.toList, rfl, by rw [show Number.ofText? s.toList = some n from hn]; rfl⟩
  | blob bytes =>
      obtain ⟨cs, hcs, hread⟩ := Option.bind_eq_some_iff.mp hn
      exact ⟨cs, congrArg Except.ok (Utf8.decode_agree hcs).2, by rw [hread]; rfl⟩
  | _ => exact h.elim

/-- **Naming** — a text or byte string that writes no number reads as the word that a number is
printed as. -/
def Names (w v : Value) : Prop :=
  v.IsWord ∧ w.IsTextual ∧ w.number? = none ∧ w.points = v.points

/-- What is printed as a word is a number. -/
theorem IsWord.number?_ne_none (h : v.IsWord) : v.number? ≠ none := by
  cases v <;> first | exact h.elim | exact Option.some_ne_none _

/-- **A number and what is none have the same text just where the one names the other.** -/
theorem points_eq_iff_names (hv : v.IsPlain) (hw : w.IsPlain) {n : Number} (hn : v.number? = some n)
    (hnone : w.number? = none) : v.points = w.points ↔ w.Names v := by
  have htextual : w.IsTextual := hw.isTextual hnone
  refine ⟨fun h => ⟨?_, htextual, hnone, h.symm⟩, fun h => h.2.2.2.symm⟩
  by_contra hword
  obtain ⟨cs, hcs, hsome⟩ := hv.exists_chars hword hn
  rw [← number?_of_points htextual (h.symm.trans hcs), hnone] at hsome
  cases hsome

/-! ## §C — loose equality from both sides -/

/-- **Loose equality has no sides**, and fails from both for one reason. -/
theorem looseEqual_comm (v w : Value) : v.looseEqual w = w.looseEqual v := by
  unfold looseEqual
  rw [Bool.or_comm]
  split
  · rfl
  · have htexts : (do let s ← v.points; let t ← w.points; return s == t) =
        (do let s ← w.points; let t ← v.points; return s == t : Except NumberError Bool) := by
      cases hs : v.points with
      | error e =>
          cases ht : w.points with
          | error e' =>
              rw [((refuses_points v e).mp hs).1, ((refuses_points w e').mp ht).1]
          | ok t => rfl
      | ok s =>
          cases ht : w.points with
          | error e' => rfl
          | ok t => exact congrArg Except.ok (Bool.beq_comm)
    cases v.number? <;> cases w.number? <;> first
      | exact htexts
      | exact congrArg Except.ok (Number.equal_comm _ _)

/-- A list of one value has the members of that value. -/
theorem memberOf_singleton (v w : Value) : v.memberOf [w] = v.looseEqual w := by
  rw [memberOf]
  rcases v.looseEqual w with e | found
  · rfl
  · cases found <;> rfl

/-! ## §D — the two equalities -/

/-- NaN is written by no text. -/
theorem eq_nan_of_number? {n : Number} (hn : v.number? = some n) (hnan : n.isNaN = true) :
    v = .float .nan := by
  cases v with
  | float x =>
      obtain rfl := Option.some.inj hn
      cases x <;> first | rfl | cases hnan
  | text s => exact absurd hnan (Bool.eq_false_iff.mp (Number.isNaN_of_ofText? hn))
  | blob bytes =>
      obtain ⟨cs, -, hread⟩ := Option.bind_eq_some_iff.mp hn
      exact absurd hnan (Bool.eq_false_iff.mp (Number.isNaN_of_ofText? hread))
  | bool | int =>
      obtain rfl := Option.some.inj hn
      cases hnan
  | _ => cases hn

/-- Loose equality of values that are not both numbers is equality of their texts. -/
theorem looseEqual_of_points (hv : v.isNull = false) (hw : w.isNull = false)
    (hnone : v.number? = none ∨ w.number? = none) {s t : List Nat} (hs : v.points = .ok s)
    (ht : w.points = .ok t) : v.looseEqual w = .ok (s == t) := by
  unfold looseEqual
  rw [hv, hw, hs, ht]
  rcases hnone with h | h <;> rw [h]
  · rfl
  · cases v.number? <;> rfl

/-- The order by code points on values that are there. -/
theorem equal_binary (hv : v.isNull = false) (hw : w.isNull = false) :
    Collation.binary.equal v w = match v.number?, w.number? with
      | some m, some n => m.compare n == .eq
      | none, none => v.orderPoints == w.orderPoints
      | _, _ => false := by
  unfold Collation.equal Collation.compare
  rw [hv, hw]
  cases v.number? <;> cases w.number? <;> first | rfl | skip
  show (Ord.compare v.orderPoints w.orderPoints == .eq) = (v.orderPoints == w.orderPoints)
  rw [Bool.eq_iff_iff, beq_iff_eq, beq_iff_eq, Std.LawfulEqOrd.compare_eq_iff_eq]

/-- Both are NaN. -/
def BothNaN (v w : Value) : Prop := v = .float .nan ∧ w = .float .nan

theorem bothNaN_iff {m n : Number} (hm : v.number? = some m) (hn : w.number? = some n) :
    BothNaN v w ↔ (m.isNaN && n.isNaN) = true := by
  rw [Bool.and_eq_true]
  constructor
  · rintro ⟨rfl, rfl⟩
    obtain rfl := Option.some.inj hm
    obtain rfl := Option.some.inj hn
    exact ⟨rfl, rfl⟩
  · exact fun h => ⟨eq_nan_of_number? hm h.1, eq_nan_of_number? hn h.2⟩

/-- A number and what is none are loosely equal where the one names the other, and the order keeps
them apart. -/
theorem looseEqual_named (hv : v.IsPlain) (hw : w.IsPlain) {n : Number} (hn : v.number? = some n)
    (hnone : w.number? = none) :
    (w.Names v → v.looseEqual w = .ok true) ∧ (¬w.Names v → v.looseEqual w = .ok false) ∧
      Collation.binary.equal v w = false ∧ Collation.binary.equal w v = false := by
  obtain ⟨s, hs⟩ := hv.exists_points
  obtain ⟨t, ht⟩ := hw.exists_points
  have hnames := points_eq_iff_names hv hw hn hnone
  rw [hs, ht, Except.ok.injEq] at hnames
  have hequal := equal_binary hv.isNull hw.isNull
  have hequal' := equal_binary hw.isNull hv.isNull
  rw [hn, hnone] at hequal hequal'
  rw [looseEqual_of_points hv.isNull hw.isNull (.inr hnone) hs ht]
  refine ⟨fun h => ?_, fun h => ?_, hequal, hequal'⟩
  · rw [hnames.mpr h, beq_self_eq_true]
  · rw [beq_false_of_ne fun hst => h (hnames.mp hst)]

/-- Two numbers are loosely equal where they have one place, unless both are NaN. -/
theorem looseEqual_numbers {m n : Number} (hm : v.number? = some m) (hn : w.number? = some n)
    (hv : v.isNull = false) (hw : w.isNull = false) :
    (BothNaN v w → v.looseEqual w = .ok false ∧ Collation.binary.equal v w = true) ∧
      (¬BothNaN v w → v.looseEqual w = .ok (Collation.binary.equal v w)) := by
  have hloose : v.looseEqual w = .ok (m.equal n) := by
    unfold looseEqual
    rw [hv, hw, hm, hn]
    rfl
  have hequal := equal_binary hv hw
  rw [hm, hn] at hequal
  rw [hloose, hequal, bothNaN_iff hm hn]
  refine ⟨fun h => ?_, fun h => ?_⟩
  · rw [Bool.and_eq_true] at h
    constructor
    · unfold Number.equal
      rw [h.1]
      rfl
    · show (m.compare n == .eq) = true
      rw [Number.compare_nan_nan h.1 h.2]
      rfl
  · rw [Number.equal_eq_compare (Bool.eq_false_iff.mpr h)]

/-- **Where loose equality and the order by code points part**: two NaN have one place and are not
loosely equal, a word is loosely equal to the text that names it and has another place; on all other
pairs of plain values the two agree. -/
theorem looseEqual_eq (hv : v.IsPlain) (hw : w.IsPlain) :
    (BothNaN v w → v.looseEqual w = .ok false ∧ Collation.binary.equal v w = true) ∧
    (w.Names v ∨ v.Names w → v.looseEqual w = .ok true ∧ Collation.binary.equal v w = false) ∧
    (¬BothNaN v w → ¬(w.Names v ∨ v.Names w) →
      v.looseEqual w = .ok (Collation.binary.equal v w)) := by
  -- what is no number is not NaN, and is no word that could be named
  have hnan {v : Value} (h : v.number? = none) : v ≠ .float .nan := by
    rintro rfl
    cases h
  have hword {v w : Value} (h : v.number? = none) : ¬w.Names v := fun hnames =>
    hnames.1.number?_ne_none h
  cases hm : v.number? with
  | none =>
      cases hn : w.number? with
      | none =>
          obtain ⟨s, hs⟩ := hv.exists_points
          obtain ⟨t, ht⟩ := hw.exists_points
          have hequal := equal_binary hv.isNull hw.isNull
          rw [hm, hn] at hequal
          refine ⟨fun h => absurd h.1 (hnan hm), fun h => ?_, fun _ _ => ?_⟩
          · exact h.elim (fun h => absurd h (hword hm)) fun h => absurd h (hword hn)
          · rw [looseEqual_of_points hv.isNull hw.isNull (.inl hm) hs ht, hequal, orderPoints,
              orderPoints, hs, ht]
      | some n =>
          obtain ⟨hnamed, hapart, -, hplace⟩ := looseEqual_named hw hv hn hm
          rw [looseEqual_comm, hplace]
          refine ⟨fun h => absurd h.1 (hnan hm), fun h => ?_, fun _ h => ?_⟩
          · exact ⟨hnamed (h.resolve_left (hword hm)), rfl⟩
          · exact hapart fun h' => h (.inr h')
  | some m =>
      cases hn : w.number? with
      | none =>
          obtain ⟨hnamed, hapart, hplace, -⟩ := looseEqual_named hv hw hm hn
          rw [hplace]
          refine ⟨fun h => absurd h.2 (hnan hn), fun h => ?_, fun _ h => ?_⟩
          · exact ⟨hnamed (h.resolve_right (hword hn)), rfl⟩
          · exact hapart fun h' => h (.inl h')
      | some n =>
          obtain ⟨hboth, hagree⟩ := looseEqual_numbers hm hn hv.isNull hw.isNull
          refine ⟨hboth, fun h => ?_, fun h _ => hagree h⟩
          rcases h with h | h
          · cases h.2.2.1.symm.trans hn
          · cases h.2.2.1.symm.trans hm

end Value
end TableQuery
