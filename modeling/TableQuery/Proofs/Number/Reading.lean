/-
# TableQuery.Proofs.Number.Reading — the text of a number reads as the number.

A number is written as a decimal, perhaps behind a minus sign.  Neither has blanks, so reading
begins with the sign, and a minus sign turns what is read.  Hence an integer within the digit limit
and every finite number are read back from their texts; the words for the infinities and NaN are no
numbers.

## §A — signs.
## §B — texts without blanks.
## §C — integers and finite numbers.
-/
import TableQuery.Number.Basic
import TableQuery.Proofs.Number.Decimal
import TableQuery.Proofs.Number.Range
import TableQuery.Proofs.Text.Trimming

namespace TableQuery

/-! ## §A — signs -/

namespace Double

theorem pack_true (m : Nat) (e : Int) : pack true m e = (pack false m e).neg := by
  unfold pack
  split <;> rfl

/-- A sign has no part in how a quotient rounds. -/
theorem exists_pack {num : Nat} (hnum : 0 < num) (den : Nat) :
    ∃ (m : Nat) (e : Int), ∀ negative, ofRatio negative num den = pack negative m e := by
  obtain ⟨e, hexponent⟩ : ∃ e, exponentOf num den = e := ⟨_, rfl⟩
  obtain ⟨r, hround⟩ : ∃ r, roundHalfEven (scaleBy num den e).1 (scaleBy num den e).2 = r :=
    ⟨_, rfl⟩
  have hof (negative : Bool) : ofRatio negative num den =
      if r = 2 * full then pack negative full (e + 1) else pack negative r e := by
    unfold ofRatio
    rw [if_neg hnum.ne', hexponent, ← hround]
  by_cases hcarry : r = 2 * full
  · exact ⟨full, e + 1, fun negative => (hof negative).trans (if_pos hcarry)⟩
  · exact ⟨r, e, fun negative => (hof negative).trans (if_neg hcarry)⟩

theorem ofRatio_true (num den : Nat) : ofRatio true num den = (ofRatio false num den).neg := by
  rcases Nat.eq_zero_or_pos num with rfl | hnum
  · rfl
  · obtain ⟨m, e, hof⟩ := exists_pack hnum den
    rw [hof true, hof false]
    exact pack_true m e

/-- Rounding gives no NaN. -/
theorem isNaN_ofRatio (negative : Bool) (num den : Nat) :
    (ofRatio negative num den).isNaN = false := by
  rcases Nat.eq_zero_or_pos num with rfl | hnum
  · rfl
  · obtain ⟨m, e, hof⟩ := exists_pack hnum den
    rw [hof negative]
    unfold pack
    split <;> rfl

/-- A minus sign turns the number that is read behind it. -/
theorem ofDecimal_true (digits width : Nat) (exponent : Int) :
    ofDecimal true digits width exponent = (ofDecimal false digits width exponent).neg := by
  unfold ofDecimal
  repeat' split
  · rfl
  · rfl
  · rfl
  · exact ofRatio_true _ _
  · exact ofRatio_true _ _

/-- No decimal is NaN. -/
theorem isNaN_ofDecimal (negative : Bool) (digits width : Nat) (exponent : Int) :
    (ofDecimal negative digits width exponent).isNaN = false := by
  unfold ofDecimal
  repeat' split
  · rfl
  · rfl
  · rfl
  · exact isNaN_ofRatio _ _ _
  · exact isNaN_ofRatio _ _ _

end Double

namespace Number

variable {cs : List Char}

theorem readInt?_minus (h : splitSign cs = (false, cs)) :
    readInt? ('-' :: cs) = (readInt? cs).map (- ·) := by
  unfold readInt?
  rw [h]
  simp only [splitSign]
  split <;> simp

theorem readDouble?_minus (h : splitSign cs = (false, cs)) :
    readDouble? ('-' :: cs) = (readDouble? cs).map Double.neg := by
  unfold readDouble?
  rw [h]
  simp only [splitSign]
  -- once for a point behind the digits, once for anything else
  split
  · split
    · rfl
    · simp only [Option.map_map, Double.ofDecimal_true]
      rfl
  · dsimp only
    split
    · rfl
    · simp only [Option.map_map, Double.ofDecimal_true]
      rfl

/-- **A minus sign** before an unsigned text turns what the text reads as. -/
theorem readTrimmed?_minus (h : splitSign cs = (false, cs)) :
    readTrimmed? ('-' :: cs) = (readTrimmed? cs).map Number.neg := by
  have hmark : hasDecimalMark ('-' :: cs) = hasDecimalMark cs := rfl
  unfold readTrimmed?
  rw [hmark, readInt?_minus h, readDouble?_minus h]
  split <;> simp only [Option.map_map] <;> rfl

/-- **No text writes NaN.** -/
theorem isNaN_of_ofText? {n : Number} (h : ofText? cs = some n) : n.isNaN = false := by
  have hdouble {s : List Char} {x : Double} (hx : readDouble? s = some x) : x.isNaN = false := by
    unfold readDouble? at hx
    dsimp only at hx
    split at hx <;> split at hx
    · cases hx
    · obtain ⟨exponent, -, rfl⟩ := Option.map_eq_some_iff.mp hx
      exact Double.isNaN_ofDecimal _ _ _ _
    · cases hx
    · obtain ⟨exponent, -, rfl⟩ := Option.map_eq_some_iff.mp hx
      exact Double.isNaN_ofDecimal _ _ _ _
  unfold ofText? readTrimmed? at h
  split at h
  · obtain ⟨x, hx, rfl⟩ := Option.map_eq_some_iff.mp h
    exact hdouble hx
  · obtain ⟨i, -, rfl⟩ := Option.map_eq_some_iff.mp h
    rfl

end Number

/-! ## §B — texts without blanks -/

namespace Decimal

theorem not_blank (d : Decimal) : ∀ c ∈ d.chars, Text.isBlank c = false := by
  intro c hc
  rcases List.mem_append.mp hc with hc | hc
  · exact Text.isBlank_of_isDigit (d.whole_isDigit c hc)
  · rcases List.mem_append.mp hc with hc | hc
    · cases hf : d.fraction with
      | none => simp [hf, point] at hc
      | some ds =>
          rw [hf, point, List.mem_cons] at hc
          rcases hc with rfl | hc
          · decide
          · exact Text.isBlank_of_isDigit (d.fraction_isDigit ds hf c hc)
    · cases hp : d.exponent with
      | none => simp [hp, power] at hc
      | some p =>
          obtain ⟨negative, ds⟩ := p
          rw [hp, power, List.mem_cons, List.mem_cons] at hc
          rcases hc with rfl | rfl | hc
          · decide
          · cases negative <;> decide
          · exact Text.isBlank_of_isDigit ((d.exponent_isDigit _ hp).2 c hc)

/-- A decimal is read from its first character on. -/
theorem ofText?_chars (d : Decimal) : Number.ofText? d.chars = Number.readTrimmed? d.chars := by
  rw [Number.ofText?, Text.trim_of_not_blank d.not_blank]

/-- A decimal behind a minus sign reads as the opposite number. -/
theorem ofText?_minus (d : Decimal) :
    Number.ofText? ('-' :: d.chars) = (Number.readTrimmed? d.chars).map Number.neg := by
  have hblank : ∀ c ∈ '-' :: d.chars, Text.isBlank c = false := by
    intro c hc
    rcases List.mem_cons.mp hc with rfl | hc
    · decide
    · exact d.not_blank c hc
  have hsign : Number.splitSign d.chars = (false, d.chars) :=
    splitSign_of_isDigit d.whole_ne_nil d.whole_isDigit _
  rw [Number.ofText?, Text.trim_of_not_blank hblank, Number.readTrimmed?_minus hsign]

end Decimal

/-! ## §C — integers and finite numbers -/

/-- **An integer within the digit limit is read back.** -/
theorem Number.ofText?_int {i : Int} (h : ¬IsLong i) :
    ofText? (toString i).toList = some (.int i) := by
  have hpow (limit : Nat) : Nat.pow 10 limit = 10 ^ limit := rfl
  have hlimit : i.natAbs < 10 ^ digitLimit := by
    rw [← hpow]
    exact not_not.mp h
  cases i with
  | ofNat n =>
      show ofText? (toString n).toList = _
      rw [← Decimal.chars_ofNat, Decimal.ofText?_chars, Decimal.readTrimmed?_ofNat (n := n) hlimit]
      rfl
  | negSucc n =>
      have htext : (toString (Int.negSucc n)).toList = '-' :: (toString (n + 1)).toList := by
        show ("-" ++ toString (n + 1)).toList = _
        rw [String.toList_append]
        rfl
      rw [htext, ← Decimal.chars_ofNat, Decimal.ofText?_minus,
        Decimal.readTrimmed?_ofNat (n := n + 1) hlimit]
      rfl

/-- **A finite number is read back.** -/
theorem Number.ofText?_text {x : Double} (h : x.isFinite = true) :
    ofText? x.text.toList = some (.float x) := by
  cases x with
  | nan => cases h
  | infinity s => cases h
  | finite negative m e hm =>
      obtain ⟨d, hchars, hreads⟩ := Double.exists_text negative hm
      rw [hchars]
      cases negative with
      | false => exact d.ofText?_chars.trans hreads
      | true =>
          show ofText? ('-' :: d.chars) = _
          rw [d.ofText?_minus, hreads]
          rfl

end TableQuery
