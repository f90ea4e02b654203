/-
# TableQuery.Proofs.Number.Decimal — the text of a number reads back.

A decimal is written as digits, perhaps a point and further digits, perhaps an exponent.  Its value is
all its digits as one integer times a power of ten, and `Number.readDouble?` reads exactly that
(`readDouble?_chars`).  The digits that `Shortest.digits` finds lie in the interval of the number
(`covers_digits`), so what `Double.text` writes reads back as the number itself (`exists_text`).

## §A — ASCII digits.
## §B — decimals.
## §C — digits in the interval.
## §D — the layout.
## §E — the text of a number.
-/
import TableQuery.Number.Reading
import TableQuery.Proofs.Number.Rounding

namespace TableQuery

/-! ## §A — ASCII digits -/

namespace Text

theorem digitValue?_of_isDigit {c : Char} (h : c.isDigit) : digitValue? c = some (c.toNat - 48) := by
  simp only [Char.isDigit, Bool.and_eq_true, decide_eq_true_eq, UInt32.le_iff_toNat_le] at h
  have hlow : 48 ≤ c.toNat := h.1
  have hhigh : c.toNat ≤ 57 := h.2
  unfold digitValue?
  rw [if_pos (by omega), if_pos (by omega)]

theorem isDigit_of_isDigit {c : Char} (h : c.isDigit) : isDigit c = true := by
  rw [isDigit, digitValue?_of_isDigit h, Option.isSome_some]

theorem digitsValue_eq {ds : List Char} (h : ∀ c ∈ ds, c.isDigit) :
    digitsValue ds = Nat.ofDigitChars 10 ds 0 := by
  unfold digitsValue Nat.ofDigitChars
  refine List.foldl_ext _ _ _ fun n c hc => ?_
  rw [digitValue?_of_isDigit (h c hc), Option.getD_some]
  rfl

theorem ofDigitChars_lt {ds : List Char} (h : ∀ c ∈ ds, c.isDigit) :
    Nat.ofDigitChars 10 ds 0 < 10 ^ ds.length := by
  induction ds with
  | nil => simp
  | cons c ds ih =>
    have hds := ih fun d hd => h d (List.mem_cons_of_mem c hd)
    have hc : c.toNat - '0'.toNat ≤ 9 := by
      have := h c List.mem_cons_self
      simp only [Char.isDigit, Bool.and_eq_true, decide_eq_true_eq, UInt32.le_iff_toNat_le] at this
      have hhigh : c.toNat ≤ 57 := this.2
      simp
      omega
    rw [Nat.ofDigitChars_cons, Nat.ofDigitChars_eq_ofDigitChars_zero, List.length_cons, pow_succ]
    nlinarith [Nat.mul_le_mul_left (10 ^ ds.length) hc]

/-- Digits are read as far as they go. -/
theorem spanDigits_append {ds rest : List Char} (h : ∀ c ∈ ds, c.isDigit)
    (hrest : ∀ c ∈ rest.head?, isDigit c = false) : spanDigits (ds ++ rest) = (ds, rest) := by
  have hall : ∀ c ∈ ds, isDigit c = true := fun c hc => isDigit_of_isDigit (h c hc)
  have hstop : rest.takeWhile isDigit = [] ∧ rest.dropWhile isDigit = rest := by
    cases rest with
    | nil => exact ⟨rfl, rfl⟩
    | cons c rest => simp [hrest c rfl]
  unfold spanDigits
  rw [List.takeWhile_append_of_pos hall, List.dropWhile_append_of_pos hall, hstop.1, hstop.2,
    List.append_nil]

end Text

/-! ## §B — decimals -/

/-- A decimal as it is written: digits, perhaps digits behind a point, and perhaps a signed
exponent. -/
structure Decimal where
  whole : List Char
  fraction : Option (List Char)
  exponent : Option (Bool × List Char)
  whole_ne_nil : whole ≠ []
  whole_isDigit : ∀ c ∈ whole, c.isDigit
  fraction_isDigit : ∀ ds ∈ fraction, ∀ c ∈ ds, c.isDigit
  exponent_isDigit : ∀ p ∈ exponent, p.2 ≠ [] ∧ ∀ c ∈ p.2, c.isDigit

namespace Decimal

/-- The digits of the fraction with their point. -/
def point : Option (List Char) → List Char
  | none => []
  | some ds => '.' :: ds

/-- The exponent with its mark and sign. -/
def power : Option (Bool × List Char) → List Char
  | none => []
  | some (negative, ds) => 'e' :: (if negative then '-' else '+') :: ds

/-- The text of the decimal. -/
def chars (d : Decimal) : List Char := d.whole ++ (point d.fraction ++ power d.exponent)

/-- All digits before the exponent. -/
def digits (d : Decimal) : List Char := d.whole ++ d.fraction.getD []

/-- The power of ten that counts the last digit. -/
def scale (d : Decimal) : Int :=
  (match d.exponent with
    | none => 0
    | some (negative, ds) =>
      if negative then -(Text.digitsValue ds : Int) else Text.digitsValue ds) -
    (d.fraction.getD []).length

/-- The number that the decimal writes. -/
def value (d : Decimal) : ℚ := Text.digitsValue d.digits * 10 ^ d.scale

/-- Whether the decimal has a point or an exponent. -/
def marked (d : Decimal) : Bool := d.fraction.isSome || d.exponent.isSome

theorem digits_isDigit (d : Decimal) : ∀ c ∈ d.digits, c.isDigit := by
  intro c hc
  rcases List.mem_append.mp hc with hc | hc
  · exact d.whole_isDigit c hc
  · cases hf : d.fraction with
    | none => simp [hf] at hc
    | some ds => exact d.fraction_isDigit ds hf c (by simpa [hf] using hc)

/-- An exponent reads as it is written. -/
theorem readExponent?_power (d : Decimal) :
    Number.readExponent? (power d.exponent) = some (d.scale + (d.fraction.getD []).length) := by
  cases hp : d.exponent with
  | none => simp [power, Number.readExponent?, scale, hp]
  | some p =>
    obtain ⟨negative, ds⟩ := p
    obtain ⟨hne, hdigits⟩ := d.exponent_isDigit _ hp
    have hall : ds.all Text.isDigit = true :=
      List.all_eq_true.mpr fun c hc => Text.isDigit_of_isDigit (hdigits c hc)
    have hsome : ds.isEmpty = false := List.isEmpty_eq_false_iff.mpr hne
    cases negative <;>
      simp [power, Number.readExponent?, Number.splitSign, scale, hp, hall, hsome]

/-- Nothing behind the digits goes on with them. -/
theorem not_isDigit_head_power (exponent : Option (Bool × List Char)) :
    ∀ c ∈ (power exponent).head?, Text.isDigit c = false := by
  intro c hc
  cases exponent with
  | none => simp [power] at hc
  | some p =>
    obtain rfl : 'e' = c := by simpa [power] using hc
    decide

theorem not_isDigit_head_point (fraction : Option (List Char))
    (exponent : Option (Bool × List Char)) :
    ∀ c ∈ (point fraction ++ power exponent).head?, Text.isDigit c = false := by
  intro c hc
  cases fraction with
  | none => exact not_isDigit_head_power exponent c (by simpa [point] using hc)
  | some ds =>
    obtain rfl : '.' = c := by simpa [point] using hc
    decide

/-- A digit is no sign. -/
theorem splitSign_of_isDigit {ds : List Char} (hne : ds ≠ []) (h : ∀ c ∈ ds, c.isDigit)
    (rest : List Char) :
    Number.splitSign (ds ++ rest) = (false, ds ++ rest) := by
  cases ds with
  | nil => exact absurd rfl hne
  | cons c ds =>
    have hc := h c List.mem_cons_self
    have hminus : c ≠ '-' := by rintro rfl; exact absurd hc (by decide)
    have hplus : c ≠ '+' := by rintro rfl; exact absurd hc (by decide)
    rw [List.cons_append]
    unfold Number.splitSign
    split
    next h => exact absurd (List.cons.inj h).1 hminus
    next h => exact absurd (List.cons.inj h).1 hplus
    next => rfl

/-- **Reading a decimal** — all its digits, counted by the power of ten. -/
theorem readDouble?_chars (d : Decimal) :
    Number.readDouble? d.chars =
      some (Double.ofDecimal false (Text.digitsValue d.digits) d.digits.length d.scale) := by
  have hexponent := d.readExponent?_power
  have hwhole : Text.spanDigits d.chars = (d.whole, point d.fraction ++ power d.exponent) :=
    Text.spanDigits_append d.whole_isDigit (not_isDigit_head_point _ _)
  have hempty : d.whole.isEmpty = false := List.isEmpty_eq_false_iff.mpr d.whole_ne_nil
  unfold Number.readDouble?
  rw [chars, splitSign_of_isDigit d.whole_ne_nil d.whole_isDigit, ← chars]
  simp only [hwhole, hempty, Bool.false_and, Bool.false_eq_true, if_false]
  cases hf : d.fraction with
  | none =>
    simp only [hf, Option.getD_none, List.length_nil, Nat.cast_zero, Int.add_zero] at hexponent
    simp only [point, List.nil_append, digits, hf, Option.getD_none, List.append_nil]
    cases hp : d.exponent <;> rw [hp] at hexponent <;> simp only [power] at hexponent ⊢ <;>
      simp [hexponent]
  | some ds =>
    have hspan : Text.spanDigits (ds ++ power d.exponent) = (ds, power d.exponent) :=
      Text.spanDigits_append (d.fraction_isDigit ds hf) (not_isDigit_head_power _)
    simp only [point, List.cons_append, hspan, hexponent, Option.map_some, digits, hf,
      Option.getD_some, Int.add_sub_cancel]

theorem hasDecimalMark_of_isDigit {ds : List Char} (h : ∀ c ∈ ds, c.isDigit) :
    Number.hasDecimalMark ds = false := by
  unfold Number.hasDecimalMark
  rw [List.any_eq_false]
  intro c hc hmark
  have hdigit := h c hc
  simp only [Bool.or_eq_true, beq_iff_eq] at hmark
  rcases hmark with (rfl | rfl) | rfl <;> exact absurd hdigit (by decide)

/-- A decimal shows its mark. -/
theorem hasDecimalMark_chars (d : Decimal) : Number.hasDecimalMark d.chars = d.marked := by
  have hwhole := hasDecimalMark_of_isDigit d.whole_isDigit
  unfold Number.hasDecimalMark at hwhole ⊢
  rw [chars, List.any_append, hwhole, Bool.false_or, List.any_append, marked]
  cases d.fraction <;> cases d.exponent <;> simp [point, power]

/-- A decimal with a mark reads as a binary64 number. -/
theorem readTrimmed?_chars {d : Decimal} (h : d.marked = true) :
    Number.readTrimmed? d.chars =
      some (.float (Double.ofDecimal false (Text.digitsValue d.digits) d.digits.length d.scale)) := by
  unfold Number.readTrimmed?
  rw [hasDecimalMark_chars, h, if_pos rfl, readDouble?_chars, Option.map_some]

/-- A natural number as a decimal. -/
def ofNat (n : Nat) : Decimal where
  whole := Nat.toDigits 10 n
  fraction := none
  exponent := none
  whole_ne_nil := Nat.toDigits_ne_nil
  whole_isDigit := fun _ hc => Nat.isDigit_of_mem_toDigits (by decide) (by decide) hc
  fraction_isDigit := nofun
  exponent_isDigit := nofun

theorem chars_ofNat (n : Nat) : (ofNat n).chars = (toString n).toList := by
  simp [ofNat, chars, point, power]

/-- A natural number within the digit limit reads as itself. -/
theorem readTrimmed?_ofNat {n : Nat} (h : n < 10 ^ digitLimit) :
    Number.readTrimmed? (ofNat n).chars = some (.int n) := by
  have hchars : (ofNat n).chars = Nat.toDigits 10 n := by simp [ofNat, chars, point, power]
  have hdigits : ∀ c ∈ Nat.toDigits 10 n, c.isDigit := (ofNat n).whole_isDigit
  have hall : (Nat.toDigits 10 n).all Text.isDigit = true :=
    List.all_eq_true.mpr fun c hc => Text.isDigit_of_isDigit (hdigits c hc)
  have hlimit : ¬ digitLimit < (Nat.toDigits 10 n).length :=
    Nat.not_lt.mpr ((Nat.length_toDigits_le_iff (by decide) (by decide)).mpr h)
  have hsign : Number.splitSign (Nat.toDigits 10 n) = (false, Nat.toDigits 10 n) := by
    have := splitSign_of_isDigit (ofNat n).whole_ne_nil hdigits []
    rwa [List.append_nil] at this
  have hvalue : Text.digitsValue (Nat.toDigits 10 n) = n := by
    rw [Text.digitsValue_eq hdigits, Nat.ofDigitChars_ten_toDigits]
  unfold Number.readTrimmed? Number.readInt?
  rw [hasDecimalMark_chars, hchars, hsign]
  simp [marked, ofNat, hall, hlimit, hvalue]

end Decimal

/-! ## §C — digits in the interval -/

namespace Shortest

open Double (Covers)

/-- A quarter unit, measured in units of the place. -/
theorem quarter_spec (e place : Int) :
    0 < (quarter e place).1 ∧ 0 < (quarter e place).2 ∧
      ((quarter e place).1 : ℚ) / (quarter e place).2 = 2 ^ (e - 2) / 10 ^ place := by
  -- A power of two is a quotient of two natural numbers, one of them one.
  have htwo : ∀ two : Int, 0 < (if 0 ≤ two then Nat.pow 2 two.toNat else 1) ∧
      0 < (if 0 ≤ two then 1 else Nat.pow 2 (-two).toNat) ∧
      (((if 0 ≤ two then Nat.pow 2 two.toNat else 1 : Nat) : ℚ) /
        ((if 0 ≤ two then 1 else Nat.pow 2 (-two).toNat : Nat) : ℚ)) = 2 ^ two := by
    intro two
    split
    next h =>
      obtain ⟨k, rfl⟩ := Int.eq_ofNat_of_zero_le h
      simp [Nat.pow_eq]
    next h =>
      obtain ⟨k, hk⟩ := Int.eq_ofNat_of_zero_le (show 0 ≤ -two by omega)
      obtain rfl : two = -(k : Int) := by omega
      simp [Nat.pow_eq]
  obtain ⟨hnum, hden, hvalue⟩ := htwo (e - 2)
  unfold quarter
  dsimp only
  generalize (if 0 ≤ e - 2 then Nat.pow 2 (e - 2).toNat else 1) = num at *
  generalize (if 0 ≤ e - 2 then 1 else Nat.pow 2 (-(e - 2)).toNat) = den at *
  rw [← hvalue]
  split
  next h =>
    obtain ⟨k, rfl⟩ := Int.eq_ofNat_of_zero_le h
    refine ⟨hnum, Nat.mul_pos hden (Nat.pow_pos (by decide)), ?_⟩
    simp [Nat.pow_eq, div_div]
  next h =>
    obtain ⟨k, hk⟩ := Int.eq_ofNat_of_zero_le (show 0 ≤ -place by omega)
    obtain rfl : place = -(k : Int) := by omega
    refine ⟨Nat.mul_pos hnum (Nat.pow_pos (by decide)), hden, ?_⟩
    simp [Nat.pow_eq]
    ring

/-- Some units of a place lie in an interval when their value does. -/
theorem covers_of_holds {i : Interval} {e place : Int} {count : Nat}
    (h : i.holds (quarter e place).1 (quarter e place).2 count = true) :
    Covers i e (count * 10 ^ place) := by
  obtain ⟨hnum, hden, hvalue⟩ := quarter_spec e place
  generalize (quarter e place).1 = num at *
  generalize (quarter e place).2 = den at *
  have hten : (0 : ℚ) < 10 ^ place := by positivity
  have hden' : (0 : ℚ) < den := by exact_mod_cast hden
  have hunit : (2 : ℚ) ^ (e - 2) = num / den * 10 ^ place := by
    rw [hvalue, div_mul_cancel₀ _ hten.ne']
  -- The comparisons of the search are those of the values, with both sides multiplied out.
  have hle : ∀ a : Nat, (a : ℚ) * 2 ^ (e - 2) ≤ count * 10 ^ place ↔ a * num ≤ count * den := by
    intro a
    rw [hunit, ← mul_assoc, mul_le_mul_iff_left₀ hten, ← mul_div_assoc, div_le_iff₀ hden']
    exact_mod_cast Iff.rfl
  have hge : ∀ a : Nat, (count : ℚ) * 10 ^ place ≤ a * 2 ^ (e - 2) ↔ count * den ≤ a * num := by
    intro a
    rw [hunit, ← mul_assoc, mul_le_mul_iff_left₀ hten, ← mul_div_assoc, le_div_iff₀ hden']
    exact_mod_cast Iff.rfl
  unfold Interval.holds at h
  split at h
  next hclosed =>
    simp only [Bool.and_eq_true, decide_eq_true_eq] at h
    refine ⟨(hle _).mpr h.1, (hge _).mpr h.2, fun hopen => ?_⟩
    exact absurd (hclosed.symm.trans hopen) (by decide)
  next =>
    simp only [Bool.and_eq_true, decide_eq_true_eq] at h
    have hlow := (lt_iff_lt_of_le_iff_le (hge i.low)).mpr h.1
    have hhigh := (lt_iff_lt_of_le_iff_le (hle i.high)).mpr h.2
    exact ⟨hlow.le, hhigh.le, fun _ => ⟨hlow, hhigh⟩⟩

theorem holds_of_atPlace {i : Interval} {e place : Int} {count : Nat}
    (h : atPlace i e place = some count) :
    i.holds (quarter e place).1 (quarter e place).2 count = true := by
  unfold atPlace at h
  dsimp only at h
  split at h
  next => cases h
  next hbelow _ => exact Option.some.inj h ▸ hbelow
  next _ habove => exact Option.some.inj h ▸ habove
  next hbelow habove =>
    split_ifs at h <;> first
      | exact Option.some.inj h ▸ hbelow
      | exact Option.some.inj h ▸ habove

/-- The walk stops at digits in the interval, if some place on its way has any. -/
theorem search_spec {i : Interval} {e : Int} {fuel k c : Nat} {place : Int} (hk : k < fuel)
    (hc : c ≠ 0) (hat : atPlace i e (place - k) = some c) :
    (search i e fuel place).1 ≠ 0 ∧
      Covers i e ((search i e fuel place).1 * 10 ^ (search i e fuel place).2) := by
  induction fuel generalizing place k with
  | zero => exact absurd hk (Nat.not_lt_zero k)
  | succ fuel ih =>
    -- where the walk goes on, the place with digits is still ahead
    have hnext : (∀ n, atPlace i e place = some n → n = 0) →
        (search i e fuel (place - 1)).1 ≠ 0 ∧
          Covers i e ((search i e fuel (place - 1)).1 * 10 ^ (search i e fuel (place - 1)).2) := by
      intro hnone
      obtain ⟨k, rfl⟩ : ∃ j, k = j + 1 := by
        cases k with
        | zero => exact absurd (hnone c (by simpa using hat)) hc
        | succ k => exact ⟨k, rfl⟩
      refine ih (Nat.lt_of_succ_lt_succ hk) ?_
      rw [← hat]
      congr 1
      push_cast
      ring
    unfold search
    split
    next n hn =>
      split
      next hzero => exact hnext fun m hm => by rw [hn] at hm; cases hm; exact hzero
      next hzero => exact ⟨hzero, covers_of_holds (holds_of_atPlace hn)⟩
    next hn => exact hnext fun m hm => by rw [hn] at hm; cases hm

/-- A place that the number is a multiple of has the number itself. -/
theorem atPlace_exact {i : Interval} {e place : Int} {c : Nat} (hlow : i.low < i.middle)
    (hhigh : i.middle < i.high) (hc : c * (quarter e place).2 = i.middle * (quarter e place).1) :
    atPlace i e place = some c := by
  obtain ⟨hnum, hden, -⟩ := quarter_spec e place
  unfold atPlace
  dsimp only
  generalize (quarter e place).1 = num at *
  generalize (quarter e place).2 = den at *
  have hbelow : i.middle * num / den = c := by rw [← hc, Nat.mul_div_cancel _ hden]
  have hl : i.low * num < c * den := hc ▸ Nat.mul_lt_mul_of_pos_right hlow hnum
  have hh : c * den < i.high * num := hc ▸ Nat.mul_lt_mul_of_pos_right hhigh hnum
  have hholds : i.holds num den c = true := by
    unfold Interval.holds
    split <;> simp [hl, hh, hl.le, hh.le]
  -- The number itself is no distance away, and the next count is a whole unit.
  have hnearer : i.middle * num - c * den < (c + 1) * den - i.middle * num := by
    rw [← hc, Nat.succ_mul]
    omega
  rw [hbelow, hholds]
  split
  next h _ => cases h
  next => rfl
  next h _ => cases h
  next => rw [if_pos hnearer]

/-- A number is a multiple of one of the powers of ten up to one, and of two and of ten below. -/
theorem exists_exact {m : Nat} (hm : 0 < m) (e : Int) : ∃ c : Nat, c ≠ 0 ∧
    c * (quarter e (min e 0)).2 = 4 * m * (quarter e (min e 0)).1 := by
  obtain ⟨hnum, hden, hvalue⟩ := quarter_spec e (min e 0)
  generalize (quarter e (min e 0)).1 = num at *
  generalize (quarter e (min e 0)).2 = den at *
  have hden' : (den : ℚ) ≠ 0 := by exact_mod_cast hden.ne'
  have hunit : (num : ℚ) = 2 ^ e / (4 * 10 ^ min e 0) * den := by
    rw [div_eq_iff hden'] at hvalue
    rw [hvalue, zpow_sub₀ two_ne_zero, div_div]
    norm_num
  rcases le_or_gt 0 e with he | he
  · obtain ⟨k, rfl⟩ := Int.eq_ofNat_of_zero_le he
    -- A whole number counts ones.
    refine ⟨m * 2 ^ k, by positivity, ?_⟩
    rw [min_eq_right he] at hunit
    have : ((m * 2 ^ k * den : Nat) : ℚ) = (4 * m * num : Nat) := by
      push_cast
      rw [hunit, zpow_natCast, zpow_zero]
      ring
    exact_mod_cast this
  · obtain ⟨k, hk⟩ := Int.eq_ofNat_of_zero_le (show 0 ≤ -e by omega)
    obtain rfl : e = -(k : Int) := by omega
    -- A fraction over a power of two counts the same power of a tenth, five for each half.
    refine ⟨m * 5 ^ k, by positivity, ?_⟩
    rw [min_eq_left he.le] at hunit
    have hten : (10 : ℚ) ^ k = 2 ^ k * 5 ^ k := by rw [← mul_pow]; norm_num
    have : ((m * 5 ^ k * den : Nat) : ℚ) = (4 * m * num : Nat) := by
      push_cast
      rw [hunit, zpow_neg, zpow_neg, zpow_natCast, zpow_natCast, hten]
      field_simp
    exact_mod_cast this

/-- The walk starts above the place where it has to end. -/
theorem min_le_topPlace (m : Nat) (e : Int) : min e 0 ≤ topPlace m e := by
  unfold topPlace
  dsimp only
  split <;> omega

/-- **The shortest digits lie in the interval of the number.** -/
theorem covers_digits {m : Nat} (hm : 0 < m) (e : Int) :
    (digits m e).1 ≠ 0 ∧ Covers (interval m e) e ((digits m e).1 * 10 ^ (digits m e).2) := by
  obtain ⟨c, hc, hexact⟩ := exists_exact hm e
  have hlow : (interval m e).low < (interval m e).middle := by
    simp only [interval]
    split <;> omega
  have hhigh : (interval m e).middle < (interval m e).high := by
    simp only [interval]
    omega
  have htop := min_le_topPlace m e
  refine search_spec (Nat.lt_succ_self _) hc ?_
  rw [Int.toNat_of_nonneg (by omega), sub_sub_cancel]
  exact atPlace_exact hlow hhigh hexact

end Shortest

/-! ## §D — the layout -/

namespace Decimal

theorem isDigit_zeros (n : Nat) : ∀ c ∈ List.replicate n '0', c.isDigit := by
  intro c hc
  rw [(List.mem_replicate.mp hc).2]
  decide

theorem isDigit_toDigits (n : Nat) : ∀ c ∈ Nat.toDigits 10 n, c.isDigit :=
  fun _ hc => Nat.isDigit_of_mem_toDigits (by decide) (by decide) hc

/-- Zeros before the digits of a number do not count. -/
theorem digitsValue_zeros (k n : Nat) :
    Text.digitsValue (List.replicate k '0' ++ Nat.toDigits 10 n) = n := by
  rw [Text.digitsValue_eq fun c hc => (List.mem_append.mp hc).elim (isDigit_zeros k c)
    (isDigit_toDigits n c), Nat.ofDigitChars_append, Nat.ofDigitChars_replicate_zero, Nat.mul_zero,
    Nat.ofDigitChars_ten_toDigits]

/-- Zeros behind the digits of a number multiply it by powers of ten. -/
theorem digitsValue_toDigits_zeros (n k : Nat) :
    Text.digitsValue (Nat.toDigits 10 n ++ List.replicate k '0') = n * 10 ^ k := by
  rw [Text.digitsValue_eq fun c hc => (List.mem_append.mp hc).elim (isDigit_toDigits n c)
    (isDigit_zeros k c), Nat.ofDigitChars_append, Nat.ofDigitChars_ten_toDigits,
    Nat.ofDigitChars_replicate_zero, Nat.mul_comm]

/-- The digits of a number with zeros before them, behind a point. -/
def small (zeros n : Nat) : Decimal where
  whole := ['0']
  fraction := some (List.replicate zeros '0' ++ Nat.toDigits 10 n)
  exponent := none
  whole_ne_nil := List.cons_ne_nil _ _
  whole_isDigit := isDigit_zeros 1
  fraction_isDigit := by
    rintro ds ⟨⟩ c hc
    exact (List.mem_append.mp hc).elim (isDigit_zeros zeros c) (isDigit_toDigits n c)
  exponent_isDigit := nofun

theorem value_small (zeros n : Nat) :
    (small zeros n).value = n * 10 ^ (-(zeros + (Nat.toDigits 10 n).length : Int)) := by
  have hdigits : Text.digitsValue (small zeros n).digits = n := digitsValue_zeros (zeros + 1) n
  rw [value, hdigits]
  simp [scale, small]

/-- The digits of a number with a point among them. -/
def mixed (n k : Nat) (hk : 0 < k) : Decimal where
  whole := (Nat.toDigits 10 n).take k
  fraction := some ((Nat.toDigits 10 n).drop k)
  exponent := none
  whole_ne_nil := by simp [List.take_eq_nil_iff, hk.ne']
  whole_isDigit := fun c hc => isDigit_toDigits n c (List.mem_of_mem_take hc)
  fraction_isDigit := by
    rintro ds ⟨⟩ c hc
    exact isDigit_toDigits n c (List.mem_of_mem_drop hc)
  exponent_isDigit := nofun

theorem value_mixed (n k : Nat) (hk : 0 < k) :
    (mixed n k hk).value = n * 10 ^ (-((Nat.toDigits 10 n).length - k : Nat) : Int) := by
  have hdigits : Text.digitsValue (mixed n k hk).digits = n := by
    simpa [digits, mixed] using digitsValue_zeros 0 n
  rw [value, hdigits]
  simp [scale, mixed]

/-- The digits of a number with zeros behind them, then a point and one zero. -/
def large (n zeros : Nat) : Decimal where
  whole := Nat.toDigits 10 n ++ List.replicate zeros '0'
  fraction := some ['0']
  exponent := none
  whole_ne_nil := by simp
  whole_isDigit := fun c hc =>
    (List.mem_append.mp hc).elim (isDigit_toDigits n c) (isDigit_zeros zeros c)
  fraction_isDigit := by
    rintro ds ⟨⟩
    exact isDigit_zeros 1
  exponent_isDigit := nofun

theorem value_large (n zeros : Nat) : (large n zeros).value = n * 10 ^ (zeros : Int) := by
  have hdigits : Text.digitsValue (large n zeros).digits = n * 10 ^ (zeros + 1) := by
    rw [← digitsValue_toDigits_zeros, digits, large, Option.getD_some, List.append_assoc,
      ← List.replicate_succ']
  have hscale : (large n zeros).scale = -1 := rfl
  rw [value, hdigits, hscale]
  push_cast
  rw [pow_succ, zpow_natCast, zpow_neg_one]
  field_simp

/-- The digits of a number with a point behind the first, and an exponent. -/
def scientific (n : Nat) (negative : Bool) (width exponent : Nat) : Decimal where
  whole := (Nat.toDigits 10 n).take 1
  fraction := match (Nat.toDigits 10 n).drop 1 with
    | [] => none
    | c :: rest => some (c :: rest)
  exponent := some (negative, List.replicate (width - (Nat.toDigits 10 exponent).length) '0' ++
    Nat.toDigits 10 exponent)
  whole_ne_nil := by simp [List.take_eq_nil_iff]
  whole_isDigit := fun c hc => isDigit_toDigits n c (List.mem_of_mem_take hc)
  fraction_isDigit := by
    intro ds hds c hc
    refine isDigit_toDigits n c (List.mem_of_mem_drop (i := 1) ?_)
    split at hds
    next => cases hds
    next h => cases hds; rw [h]; exact hc
  exponent_isDigit := by
    rintro p ⟨⟩
    refine ⟨by simp, fun c hc => ?_⟩
    exact (List.mem_append.mp hc).elim (isDigit_zeros _ c) (isDigit_toDigits exponent c)

theorem value_scientific (n : Nat) (negative : Bool) (width exponent : Nat) :
    (scientific n negative width exponent).value =
      n * 10 ^ ((if negative then -(exponent : Int) else exponent) -
        ((Nat.toDigits 10 n).length - 1 : Nat)) := by
  have hfraction : (scientific n negative width exponent).fraction.getD [] =
      (Nat.toDigits 10 n).drop 1 := by
    simp only [scientific]
    split <;> simp [*]
  have hdigits : Text.digitsValue (scientific n negative width exponent).digits = n := by
    rw [digits, hfraction, scientific, List.take_append_drop]
    simpa using digitsValue_zeros 0 n
  have hscale : (scientific n negative width exponent).scale =
      (if negative then -(exponent : Int) else exponent) -
        ((Nat.toDigits 10 n).length - 1 : Nat) := by
    rw [scale, hfraction, List.length_drop]
    simp only [scientific, digitsValue_zeros]
  rw [value, hdigits, hscale]

/-- **What the layout writes** is a decimal of the same value. -/
theorem exists_write (count : Nat) (place : Int) : ∃ d : Decimal, d.marked = true ∧
    (Double.layout.write count place).toList = d.chars ∧ d.value = count * 10 ^ place := by
  have hchars : (toString count).toList = Nat.toDigits 10 count := by simp
  have hlen : 0 < (Nat.toDigits 10 count).length := Nat.length_toDigits_pos
  simp only [Shortest.Layout.write, hchars]
  split
  next hpositional =>
    -- The point stands before the digits, between two of them, or after them and the zeros that are
    -- added.
    rcases le_or_gt ((Nat.toDigits 10 count).length + place) 0 with hpoint | hpoint
    · refine ⟨small (-((Nat.toDigits 10 count).length + place)).toNat count, rfl, ?_, ?_⟩
      · simp [Shortest.positional, hpoint, chars, small, point, power]
      · rw [value_small]
        congr 2
        omega
    · obtain ⟨k, hk⟩ := Int.eq_ofNat_of_zero_le hpoint.le
      have hkpos : 0 < k := by omega
      rcases Nat.lt_or_ge k (Nat.toDigits 10 count).length with hshort | hlong
      · refine ⟨mixed count k hkpos, rfl, ?_, ?_⟩
        · simp [Shortest.positional, hk, hkpos.ne', hshort, chars, mixed, point, power]
        · rw [value_mixed]
          congr 2
          omega
      · refine ⟨large count (k - (Nat.toDigits 10 count).length), rfl, ?_, ?_⟩
        · simp [Shortest.positional, hk, hkpos.ne', Nat.not_lt.mpr hlong, chars, large, point,
            power, Double.layout]
        · rw [value_large]
          congr 2
          omega
  next =>
    generalize hexponent : (Nat.toDigits 10 count).length + place - 1 = exponent
    refine ⟨scientific count (decide (exponent < 0)) 2 exponent.natAbs, ?_, ?_, ?_⟩
    · simp [marked, scientific]
    · simp only [Shortest.exponential, hexponent, Shortest.padded, Double.layout, chars, scientific,
        power]
      -- A single digit has no point, and only a negative exponent shows its sign in the value.
      cases hrest : (Nat.toDigits 10 count).drop 1 <;> by_cases hneg : exponent < 0 <;>
        simp [hneg, point, ← String.length_toList]
    · have hsigned : (if decide (exponent < 0) = true then -(exponent.natAbs : Int)
          else exponent.natAbs) = exponent := by
        by_cases hneg : exponent < 0 <;> simp only [hneg, decide_true, decide_false, if_true,
          Bool.false_eq_true, if_false] <;> omega
      rw [value_scientific, hsigned]
      congr 2
      omega

end Decimal

/-! ## §E — the text of a number -/

namespace Double

/-- The range of binary64 lies within the powers of ten that are formed. -/
theorem range_pow_ten :
    (10 : ℚ) ^ (-330 : Int) ≤ 2 ^ (-1075 : Int) ∧ (2 : ℚ) ^ (1024 : Int) ≤ 10 ^ (310 : Int) := by
  have hcast : ∀ {b c : Nat} (m n : Nat), b ^ m ≤ c ^ n → (b : ℚ) ^ (m : Int) ≤ c ^ (n : Int) := by
    intro b c m n h
    rw [zpow_natCast, zpow_natCast, ← Nat.cast_pow, ← Nat.cast_pow]
    exact Nat.cast_le.mpr h
  have hsmall := hcast 1075 330 (show 2 ^ 1075 ≤ 10 ^ 330 by decide +kernel)
  have hlarge := hcast 1024 310 (show 2 ^ 1024 ≤ 10 ^ 310 by decide +kernel)
  refine ⟨?_, hlarge⟩
  rw [zpow_neg, zpow_neg]
  exact inv_anti₀ (by positivity) hsmall

/-- What lies in the interval of a number is within the range of binary64. -/
theorem Covers.range {m : Nat} {e : Int} {x : ℚ} (hm : 0 < m) (h : Canonical m e)
    (hx : Covers (Shortest.interval m e) e x) : 2 ^ (-1075 : Int) ≤ x ∧ x < 2 ^ (1024 : Int) := by
  have hsize : (m : ℚ) + 1 ≤ 2 ^ (53 : Int) := by exact_mod_cast h.1
  have hpos : (1 : ℚ) ≤ m := by exact_mod_cast hm
  have hhalf : (2 : ℚ) ^ (-1075 : Int) = (1 - 1 / 2) * 2 ^ (-1074 : Int) := by
    rw [show (-1075 : Int) = -1 + -1074 from rfl, zpow_add₀ two_ne_zero]
    norm_num
  constructor
  · calc (2 : ℚ) ^ (-1075 : Int) = (1 - 1 / 2) * 2 ^ (-1074 : Int) := hhalf
      _ ≤ (m - 1 / 2) * 2 ^ e := by
        have := zpow_le_zpow_right₀ (by norm_num : (1 : ℚ) ≤ 2) h.2.1
        gcongr
        linarith
      _ ≤ x := (le_low hm e).trans hx.low
  · calc x ≤ (m + 1 / 2) * 2 ^ e := hx.high.trans_eq (high_eq m e)
      _ < 2 ^ (53 : Int) * 2 ^ e := by gcongr; linarith
      _ ≤ 2 ^ (53 : Int) * 2 ^ (971 : Int) := by
        have := zpow_le_zpow_right₀ (by norm_num : (1 : ℚ) ≤ 2) h.2.2.1
        gcongr
      _ = 2 ^ (1024 : Int) := by rw [← zpow_add₀ two_ne_zero]; norm_num

/-- **A decimal in the interval of a number reads as the number.** -/
theorem ofDecimal_eq_finite (negative : Bool) {n width m : Nat} {scale e : Int} (hn : 0 < n)
    (hwidth : n < 10 ^ width) (hm : 0 < m) (h : Canonical m e)
    (hx : Covers (Shortest.interval m e) e (n * 10 ^ scale)) :
    ofDecimal negative n width scale = .finite negative m e h := by
  obtain ⟨hlow, hhigh⟩ := hx.range hm h
  have hten : (0 : ℚ) < 10 ^ scale := by positivity
  -- The value lies in the range of the finite numbers, so that neither of the two cut-offs applies.
  have hsmall : ¬ (width : Int) + scale < -330 := by
    intro hrange
    have hbound : (n : ℚ) * 10 ^ scale < 10 ^ (-330 : Int) := by
      calc (n : ℚ) * 10 ^ scale < 10 ^ (width : Int) * 10 ^ scale := by
            gcongr
            exact_mod_cast hwidth
        _ = 10 ^ ((width : Int) + scale) := by rw [zpow_add₀ (by norm_num)]
        _ ≤ 10 ^ (-330 : Int) := zpow_le_zpow_right₀ (by norm_num) hrange.le
    exact absurd (hlow.trans_lt (hbound.trans_le range_pow_ten.1)) (lt_irrefl _)
  have hlarge : ¬ 310 + (width : Int) < (width : Int) + scale := by
    intro hrange
    have hbound : (10 : ℚ) ^ (310 : Int) ≤ n * 10 ^ scale := by
      calc (10 : ℚ) ^ (310 : Int) ≤ 10 ^ scale := zpow_le_zpow_right₀ (by norm_num) (by omega)
        _ ≤ n * 10 ^ scale := le_mul_of_one_le_left hten.le (by exact_mod_cast hn)
    exact absurd (hhigh.trans_le (range_pow_ten.2.trans hbound)) (lt_irrefl _)
  -- What is left is a quotient, whose power of ten stands above or below.
  unfold ofDecimal
  rw [if_neg hn.ne', if_neg hsmall, if_neg hlarge]
  split
  next hscale =>
    obtain ⟨k, rfl⟩ := Int.eq_ofNat_of_zero_le hscale
    refine ofRatio_eq_finite negative (Nat.mul_pos hn (Nat.pow_pos (by decide))) Nat.one_pos hm h ?_
    simpa using hx
  next hscale =>
    obtain ⟨k, hk⟩ := Int.eq_ofNat_of_zero_le (show 0 ≤ -scale by omega)
    obtain rfl : scale = -(k : Int) := by omega
    refine ofRatio_eq_finite negative hn (Nat.pow_pos (by decide)) hm h ?_
    simpa [div_eq_mul_inv] using hx

/-- **The text of a finite number** is a decimal behind its sign, and the decimal reads back as the
number without the sign. -/
theorem exists_text (negative : Bool) {m : Nat} {e : Int} (h : Canonical m e) :
    ∃ d : Decimal, (Double.finite negative m e h).text.toList =
        (if negative then ['-'] else []) ++ d.chars ∧
      Number.readTrimmed? d.chars = some (.float (.finite false m e h)) := by
  obtain ⟨d, hmarked, hchars, hreads⟩ : ∃ d : Decimal, d.marked = true ∧
      (if m = 0 then "0.0" else
        Double.layout.write (Shortest.digits m e).1 (Shortest.digits m e).2).toList = d.chars ∧
      ofDecimal false (Text.digitsValue d.digits) d.digits.length d.scale = .finite false m e h := by
    rcases Nat.eq_zero_or_pos m with rfl | hm
    · -- Zero has no shortest digits, and is written on its own.
      refine ⟨Decimal.large 0 0, rfl, by rw [if_pos rfl]; decide, ?_⟩
      obtain rfl : e = -1074 := h.2.2.2.resolve_left (by decide)
      rfl
    · obtain ⟨hcount, hcovers⟩ := Shortest.covers_digits hm e
      obtain ⟨d, hmarked, hchars, hvalue⟩ :=
        Decimal.exists_write (Shortest.digits m e).1 (Shortest.digits m e).2
      refine ⟨d, hmarked, by rw [if_neg hm.ne', hchars], ?_⟩
      rw [← hvalue, Decimal.value] at hcovers
      refine ofDecimal_eq_finite false ?_ ?_ hm h hcovers
      · by_contra hzero
        have hnone : d.value = 0 := by
          rw [Decimal.value, Nat.eq_zero_of_not_pos hzero, Nat.cast_zero, zero_mul]
        rw [hvalue] at hnone
        exact absurd hnone (by positivity)
      · rw [Text.digitsValue_eq d.digits_isDigit]
        exact Text.ofDigitChars_lt d.digits_isDigit
  refine ⟨d, ?_, ?_⟩
  · rw [← hchars]
    cases negative <;> simp [text]
  · rw [Decimal.readTrimmed?_chars hmarked, hreads]

end Double
end TableQuery
