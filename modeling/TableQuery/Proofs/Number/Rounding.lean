/-
# TableQuery.Proofs.Number.Rounding — which quotients round to a number.

`Double.ofRatio` scales a quotient until its integer part has 53 bits, and rounds once.  The exponent
at which that happens is fixed by the value of the quotient alone (`Fits.unique`), and so is the
rounded significand (`roundHalfEven_eq`).  Together: every quotient inside the interval of a number
rounds to that number (`ofRatio_eq_finite`), the ends of the interval included where the significand
is even.

## §A — the nearest natural number.
## §B — the exponent of a quotient.
## §C — the interval of a number.
-/
import Mathlib
import TableQuery.Number.Shortest

namespace TableQuery

/-! ## §A — the nearest natural number -/

namespace Double

/-- A natural number that is at most a half away is the nearest one, if it is even or less than a
half away. -/
theorem roundHalfEven_eq {num den r : Nat} (hden : 0 < den)
    (hlow : 2 * r * den ≤ 2 * num + den) (hhigh : 2 * num ≤ 2 * r * den + den)
    (hodd : r % 2 = 1 → 2 * r * den < 2 * num + den ∧ 2 * num < 2 * r * den + den) :
    roundHalfEven num den = r := by
  have hdiv : den * (num / den) + num % den = num := Nat.div_add_mod num den
  have hrem : num % den < den := Nat.mod_lt num hden
  unfold roundHalfEven
  generalize num / den = q at *
  generalize num % den = rem at *
  subst hdiv
  have habove : r ≤ q + 1 := by
    by_contra hfar
    have : (q + 2) * den ≤ r * den := Nat.mul_le_mul_right den (by omega)
    nlinarith
  have hbelow : q ≤ r := by
    by_contra hfar
    have : (r + 1) * den ≤ q * den := Nat.mul_le_mul_right den (by omega)
    nlinarith
  -- Rounded down the remainder is at most a half, rounded up at least one, and a tie goes to the even
  -- number.
  rcases (show r = q ∨ r = q + 1 by omega) with rfl | rfl
  · have hhalf : 2 * rem ≤ den := by nlinarith
    have hstrict : r % 2 = 1 → 2 * rem < den := fun h => by nlinarith [(hodd h).2]
    dsimp only
    split_ifs <;> omega
  · have hhalf : den ≤ 2 * rem := by nlinarith
    have hstrict : (q + 1) % 2 = 1 → den < 2 * rem := fun h => by nlinarith [(hodd h).1]
    dsimp only
    split_ifs <;> omega

/-- The same, said of the quotient itself. -/
theorem roundHalfEven_of_close {num den r : Nat} {x : ℚ} (hden : 0 < den) (hx : (num : ℚ) = x * den)
    (hlow : r - 1 / 2 ≤ x) (hhigh : x ≤ r + 1 / 2)
    (hodd : r % 2 = 1 → r - 1 / 2 < x ∧ x < r + 1 / 2) : roundHalfEven num den = r := by
  have hpos : (0 : ℚ) < den := by exact_mod_cast hden
  apply roundHalfEven_eq hden
  · have : (2 * r * den : ℚ) ≤ 2 * num + den := by rw [hx]; nlinarith
    exact_mod_cast this
  · have : (2 * num : ℚ) ≤ 2 * r * den + den := by rw [hx]; nlinarith
    exact_mod_cast this
  · intro h
    obtain ⟨hlow, hhigh⟩ := hodd h
    constructor
    · have : (2 * r * den : ℚ) < 2 * num + den := by rw [hx]; nlinarith
      exact_mod_cast this
    · have : (2 * num : ℚ) < 2 * r * den + den := by rw [hx]; nlinarith
      exact_mod_cast this

/-! ## §B — the exponent of a quotient -/

/-- Scaling divides by the power of two. -/
theorem scaleBy_spec (num : Nat) {den : Nat} (hden : 0 < den) (e : Int) :
    0 < (scaleBy num den e).2 ∧
      ((scaleBy num den e).1 : ℚ) = num / den / 2 ^ e * (scaleBy num den e).2 := by
  have hden' : (den : ℚ) ≠ 0 := by positivity
  unfold scaleBy
  split
  next he =>
    obtain ⟨k, rfl⟩ := Int.eq_ofNat_of_zero_le he
    refine ⟨Nat.mul_pos hden (Nat.pow_pos (by decide)), ?_⟩
    simp only [Int.toNat_natCast, Nat.pow_eq, Nat.cast_mul, Nat.cast_pow, Nat.cast_ofNat,
      zpow_natCast]
    field_simp
  next he =>
    obtain ⟨k, hk⟩ := Int.eq_ofNat_of_zero_le (show 0 ≤ -e by omega)
    obtain rfl : e = -(k : Int) := by omega
    refine ⟨hden, ?_⟩
    simp only [neg_neg, Int.toNat_natCast, Nat.pow_eq, Nat.cast_mul, Nat.cast_pow,
      Nat.cast_ofNat, zpow_neg, zpow_natCast]
    field_simp

/-- An exponent fits a positive quotient when the integer part has at most 53 bits there, and no
fewer unless the exponent is the least one. -/
structure Fits (x : ℚ) (e : Int) : Prop where
  least : -1074 ≤ e
  below : x < 2 ^ (e + 53)
  full : e = -1074 ∨ 2 ^ (e + 52) ≤ x

/-- **One exponent fits.** -/
theorem Fits.unique {x : ℚ} {e f : Int} (he : Fits x e) (hf : Fits x f) : e = f := by
  -- the larger of two exponents would need a quotient as large as the smaller one rules out
  have hle : ∀ {e f : Int}, Fits x e → Fits x f → f ≤ e := by
    intro e f he hf
    rcases hf.full with rfl | hfull
    · exact he.least
    · have hpow : (2 : ℚ) ^ (f + 52) < 2 ^ (e + 53) := hfull.trans_lt he.below
      have := (zpow_lt_zpow_iff_right₀ (by norm_num : (1 : ℚ) < 2)).mp hpow
      omega
  exact le_antisymm (hle hf he) (hle he hf)

/-- A positive natural number lies between two powers of two. -/
theorem log2_bounds {n : Nat} (hn : 0 < n) :
    (2 : ℚ) ^ (n.log2 : Int) ≤ n ∧ (n : ℚ) < 2 ^ ((n.log2 : Int) + 1) := by
  constructor
  · rw [zpow_natCast]
    exact_mod_cast Nat.log2_self_le hn.ne'
  · have : (n.log2 : Int) + 1 = ((n.log2 + 1 : Nat) : Int) := by push_cast; rfl
    rw [this, zpow_natCast]
    exact_mod_cast Nat.lt_log2_self

theorem fits_exponentOf {num den : Nat} (hnum : 0 < num) (hden : 0 < den) :
    Fits (num / den) (exponentOf num den) := by
  obtain ⟨hnumLow, hnumHigh⟩ := log2_bounds hnum
  obtain ⟨hdenLow, hdenHigh⟩ := log2_bounds hden
  have hdenPos : (0 : ℚ) < den := by exact_mod_cast hden
  have hlow : (2 : ℚ) ^ ((num.log2 : Int) - den.log2 - 1) ≤ num / den := by
    rw [le_div_iff₀ hdenPos]
    calc (2 : ℚ) ^ ((num.log2 : Int) - den.log2 - 1) * den
        ≤ 2 ^ ((num.log2 : Int) - den.log2 - 1) * 2 ^ ((den.log2 : Int) + 1) := by gcongr
      _ = 2 ^ (num.log2 : Int) := by rw [← zpow_add₀ two_ne_zero]; congr 1; ring
      _ ≤ num := hnumLow
  have hhigh : (num / den : ℚ) < 2 ^ ((num.log2 : Int) - den.log2 + 1) := by
    rw [div_lt_iff₀ hdenPos]
    calc (num : ℚ) < 2 ^ ((num.log2 : Int) + 1) := hnumHigh
      _ = 2 ^ ((num.log2 : Int) - den.log2 + 1) * 2 ^ (den.log2 : Int) := by
        rw [← zpow_add₀ two_ne_zero]; congr 1; ring
      _ ≤ 2 ^ ((num.log2 : Int) - den.log2 + 1) * den := by gcongr
  unfold exponentOf
  generalize (num.log2 : Int) - den.log2 = magnitude at *
  obtain ⟨hscaled, hvalue⟩ := scaleBy_spec num hden (max (magnitude - 52) (-1074))
  dsimp only
  generalize (scaleBy num den (max (magnitude - 52) (-1074))).1 = n at *
  generalize (scaleBy num den (max (magnitude - 52) (-1074))).2 = d at *
  -- the first guess is one too large exactly when the scaled quotient has fewer than 53 bits
  have hguess : n < d * Double.full ↔ (num / den : ℚ) < 2 ^ (max (magnitude - 52) (-1074) + 52) := by
    have hd : (0 : ℚ) < d := by exact_mod_cast hscaled
    have hpow : (0 : ℚ) < 2 ^ max (magnitude - 52) (-1074) := by positivity
    rw [zpow_add₀ two_ne_zero, ← div_lt_iff₀' hpow, ← mul_lt_mul_iff_left₀ hd, ← hvalue]
    have hfull : ((d * Double.full : Nat) : ℚ) = 2 ^ (52 : Int) * d := by
      push_cast [Double.full]
      ring
    rw [← hfull, Nat.cast_lt]
  split
  next h =>
    obtain ⟨hsmall, hleast⟩ := h
    have hmax : max (magnitude - 52) (-1074) = magnitude - 52 := max_eq_left (by omega)
    rw [hguess, hmax] at hsmall
    rw [hmax] at hleast ⊢
    refine ⟨by omega, ?_, .inr ?_⟩
    · rwa [show magnitude - 52 - 1 + 53 = magnitude - 52 + 52 by ring]
    · rwa [show magnitude - 52 - 1 + 52 = magnitude - 1 by ring]
  next h =>
    refine ⟨le_max_right _ _, ?_, ?_⟩
    · refine hhigh.trans_le (zpow_le_zpow_right₀ (by norm_num) ?_)
      omega
    · rw [hguess, not_and_or, not_lt, not_lt] at h
      rcases h with h | h
      · exact .inr h
      · exact .inl (le_antisymm h (le_max_right _ _))

/-! ## §C — the interval of a number -/

/-- A quotient lies in an interval that is measured in quarters of `2 ^ e`. -/
structure Covers (i : Shortest.Interval) (e : Int) (x : ℚ) : Prop where
  low : i.low * 2 ^ (e - 2) ≤ x
  high : x ≤ i.high * 2 ^ (e - 2)
  inside : i.closed = false → i.low * 2 ^ (e - 2) < x ∧ x < i.high * 2 ^ (e - 2)

/-- A quotient rounds at the exponent that fits it, to the natural number at most a half away. -/
theorem ofRatio_of_fits (negative : Bool) {num den r : Nat} {e : Int} (hnum : 0 < num)
    (hden : 0 < den) (hfits : Fits (num / den) e) (hlow : (r - 1 / 2) * 2 ^ e ≤ (num / den : ℚ))
    (hhigh : (num / den : ℚ) ≤ (r + 1 / 2) * 2 ^ e)
    (hodd : r % 2 = 1 →
      (r - 1 / 2) * 2 ^ e < (num / den : ℚ) ∧ (num / den : ℚ) < (r + 1 / 2) * 2 ^ e) :
    ofRatio negative num den =
      if r = 2 * full then pack negative full (e + 1) else pack negative r e := by
  have hpow : (0 : ℚ) < 2 ^ e := by positivity
  have hexponent : exponentOf num den = e := (fits_exponentOf hnum hden).unique hfits
  obtain ⟨hscaled, hvalue⟩ := scaleBy_spec num hden e
  have hround : roundHalfEven (scaleBy num den e).1 (scaleBy num den e).2 = r := by
    apply roundHalfEven_of_close hscaled hvalue
    · rwa [le_div_iff₀ hpow]
    · rwa [div_le_iff₀ hpow]
    · rwa [lt_div_iff₀ hpow, div_lt_iff₀ hpow]
  unfold ofRatio
  rw [if_neg hnum.ne', hexponent, ← hround]

theorem pack_eq (negative : Bool) {m : Nat} {e : Int} (h : Canonical m e) :
    pack negative m e = .finite negative m e h := dif_pos h

/-- A quarter of a unit, in units. -/
theorem quarters (n : ℚ) (e : Int) : n * 2 ^ (e - 2) = n / 4 * 2 ^ e := by
  rw [zpow_sub₀ two_ne_zero]
  norm_num
  ring

/-- The upper end of an interval is half a unit up. -/
theorem high_eq (m : Nat) (e : Int) :
    (Shortest.interval m e).high * (2 : ℚ) ^ (e - 2) = (m + 1 / 2) * 2 ^ e := by
  rw [quarters]
  simp only [Shortest.interval]
  push_cast
  ring

/-- The lower end of an interval is at most half a unit down. -/
theorem le_low {m : Nat} (hm : 0 < m) (e : Int) :
    (m - 1 / 2) * (2 : ℚ) ^ e ≤ (Shortest.interval m e).low * 2 ^ (e - 2) := by
  have hpow : (0 : ℚ) < 2 ^ e := by positivity
  rw [quarters, mul_le_mul_iff_left₀ hpow]
  simp only [Shortest.interval]
  split <;> rw [Nat.cast_sub (by omega)] <;> push_cast <;> linarith

/-- The least full significand is a power of two. -/
theorem full_mul (e : Int) : (full : ℚ) * 2 ^ e = 2 ^ (e + 52) := by
  rw [zpow_add₀ two_ne_zero]
  norm_num [mul_comm]

/-- Below the neighbourhood of a power of two the interval reaches only a quarter of a unit down. -/
theorem low_full {e : Int} (he : -1074 < e) :
    (full - 1 / 4) * (2 : ℚ) ^ e = (Shortest.interval full e).low * 2 ^ (e - 2) := by
  rw [quarters]
  simp only [Shortest.interval, he, and_self, if_true]
  rw [Nat.cast_sub (by decide)]
  push_cast
  ring

/-- Where the exponent of the number fits, the significand is the nearest natural number. -/
theorem ofRatio_of_covers (negative : Bool) {num den m : Nat} {e : Int} (hnum : 0 < num)
    (hden : 0 < den) (hm : 0 < m) (h : Canonical m e)
    (hx : Covers (Shortest.interval m e) e (num / den)) (hfits : Fits (num / den) e) :
    ofRatio negative num den = .finite negative m e h := by
  have hhigh : (num / den : ℚ) ≤ (m + 1 / 2) * 2 ^ e := hx.high.trans_eq (high_eq m e)
  have hlow : (m - 1 / 2) * 2 ^ e ≤ (num / den : ℚ) := (le_low hm e).trans hx.low
  have hodd : m % 2 = 1 →
      (m - 1 / 2) * 2 ^ e < (num / den : ℚ) ∧ (num / den : ℚ) < (m + 1 / 2) * 2 ^ e := by
    intro hodd
    obtain ⟨hlow, hhigh⟩ := hx.inside (by simp [Shortest.interval, hodd])
    exact ⟨(le_low hm e).trans_lt hlow, hhigh.trans_eq (high_eq m e)⟩
  rw [ofRatio_of_fits negative hnum hden hfits hlow hhigh hodd, if_neg h.1.ne, pack_eq]

/-- Just below a power of two the quotient fits one exponent lower and rounds up to the power. -/
theorem ofRatio_of_covers_full (negative : Bool) {num den : Nat} {e : Int} (hnum : 0 < num)
    (hden : 0 < den) (he : -1074 < e) (h : Canonical full e)
    (hx : Covers (Shortest.interval full e) e (num / den))
    (hbelow : (num / den : ℚ) < 2 ^ (e + 52)) :
    ofRatio negative num den = .finite negative full e h := by
  have hpow : (0 : ℚ) < 2 ^ (e - 1) := by positivity
  have hhalf : (2 : ℚ) ^ e = 2 * 2 ^ (e - 1) := by
    rw [zpow_sub₀ two_ne_zero]
    norm_num
    ring
  -- Below a power of two the numbers lie twice as close, so that the interval reaches down a quarter
  -- unit.
  have hquarter : (full - 1 / 4) * 2 ^ e ≤ (num / den : ℚ) := (low_full he).trans_le hx.low
  have hfull : (1 : ℚ) ≤ full := by norm_num
  rw [← full_mul] at hbelow
  rw [hhalf] at hquarter hbelow
  have hfits : Fits (num / den) (e - 1) := by
    refine ⟨by omega, ?_, .inr ?_⟩
    · rw [show e - 1 + 53 = e + 52 by ring, ← full_mul, hhalf]
      exact hbelow
    · rw [← full_mul]
      nlinarith
  have hlow : (((2 * full : Nat) : ℚ) - 1 / 2) * 2 ^ (e - 1) ≤ num / den := by
    push_cast
    nlinarith
  have hhigh : (num / den : ℚ) ≤ (((2 * full : Nat) : ℚ) + 1 / 2) * 2 ^ (e - 1) := by
    push_cast
    nlinarith
  rw [ofRatio_of_fits negative hnum hden hfits hlow hhigh (by omega), if_pos rfl,
    Int.sub_add_cancel, pack_eq]

/-- **What rounds to a number** — every quotient in its interval. -/
theorem ofRatio_eq_finite (negative : Bool) {num den m : Nat} {e : Int} (hnum : 0 < num)
    (hden : 0 < den) (hm : 0 < m) (h : Canonical m e)
    (hx : Covers (Shortest.interval m e) e (num / den)) :
    ofRatio negative num den = .finite negative m e h := by
  have hpow : (0 : ℚ) < 2 ^ e := by positivity
  -- A quotient below the first number of the binade rounds up to it by a carry.
  by_cases hcarry : e ≠ -1074 ∧ (num / den : ℚ) < 2 ^ (e + 52)
  · obtain ⟨hleast, hbelow⟩ := hcarry
    have hfull : m = full := by
      have hge : full ≤ m := h.2.2.2.resolve_right hleast
      have hlt : (m : ℚ) - 1 / 2 < full := by
        refine lt_of_mul_lt_mul_right ?_ hpow.le
        rw [full_mul]
        exact ((le_low hm e).trans hx.low).trans_lt hbelow
      have hle : (m : ℚ) < (full + 1 : Nat) := by
        refine (sub_lt_iff_lt_add.mp hlt).trans ?_
        push_cast
        exact (add_lt_add_iff_left _).mpr (by norm_num)
      exact le_antisymm (Nat.lt_succ_iff.mp (by exact_mod_cast hle)) hge
    subst hfull
    exact ofRatio_of_covers_full negative hnum hden (lt_of_le_of_ne h.2.1 (Ne.symm hleast)) h hx
      hbelow
  · refine ofRatio_of_covers negative hnum hden hm h hx ⟨h.2.1, ?_, ?_⟩
    · have hsize : (m : ℚ) + 1 / 2 < 2 * full := by
        have hle : (m : ℚ) + 1 ≤ 2 * full := by exact_mod_cast h.1
        exact ((add_lt_add_iff_left _).mpr (by norm_num)).trans_le hle
      calc (num / den : ℚ) ≤ (m + 1 / 2) * 2 ^ e := hx.high.trans_eq (high_eq m e)
        _ < 2 * full * 2 ^ e := mul_lt_mul_of_pos_right hsize hpow
        _ = 2 * 2 ^ (e + 52) := by rw [mul_assoc, full_mul]
        _ = 2 ^ (e + 53) := by
          rw [show e + 53 = 1 + (e + 52) by ring, zpow_add₀ two_ne_zero 1, zpow_one]
    · rw [not_and_or, not_not, not_lt] at hcarry
      exact hcarry

end Double
end TableQuery
