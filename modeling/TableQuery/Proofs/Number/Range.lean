/-
# TableQuery.Proofs.Number.Range — where arithmetic has no result.

A quotient rounds to a finite number exactly below `2 ^ 1024 - 2 ^ 970`, which is half a unit above
the largest finite number (`ofRatio_eq_infinity_iff`).  Everything that arithmetic refuses follows
from this bound, but for one thing: an infinite dividend leaves no remainder.

## §A — the nearest natural number.
## §B — the quotients that round to a finite number.
## §C — refusals.
## §D — integers as binary64 numbers.
## §E — operations without a result.
-/
import TableQuery.Proofs.Number.Rounding
import TableQuery.Number.Basic

namespace TableQuery
namespace Double

/-! ## §A — the nearest natural number -/

/-- Rounding goes at most half a unit. -/
theorem roundHalfEven_near (num : Nat) {den : Nat} (hden : 0 < den) :
    2 * roundHalfEven num den * den ≤ 2 * num + den ∧
      2 * num ≤ 2 * roundHalfEven num den * den + den := by
  have hdiv : den * (num / den) + num % den = num := Nat.div_add_mod num den
  have hrem : num % den < den := Nat.mod_lt num hden
  unfold roundHalfEven
  generalize num / den = q at *
  generalize num % den = rem at *
  subst hdiv
  dsimp only
  split_ifs <;> constructor <;> nlinarith

/-! ## §B — the quotients that round to a finite number -/

/-- The least natural number that rounds to no finite number: half a unit above the largest finite
number, where a tie goes up. -/
def range : Nat := (4 * full - 1) * 2 ^ 970

theorem range_pos : 0 < range := Nat.mul_pos (by decide) (by positivity)

theorem cast_range : (range : ℚ) = (2 * full - 1 / 2) * 2 ^ (971 : Int) := by
  have hpow : (2 : ℚ) ^ (971 : Int) = 2 * 2 ^ 970 := by
    rw [show (971 : Int) = ((970 + 1 : Nat) : Int) from rfl, zpow_natCast, pow_succ']
  rw [range, Nat.cast_mul, Nat.cast_pow, hpow, Nat.cast_sub (by decide)]
  push_cast
  generalize (2 : ℚ) ^ 970 = unit
  ring

variable {num den : Nat}

/-- **How a positive quotient rounds** — at the exponent that fits it, to a significand at most half a
unit away, which may carry. -/
theorem ofRatio_spec (negative : Bool) (hnum : 0 < num) (hden : 0 < den) :
    ∃ (e : Int) (r : Nat), Fits (num / den) e ∧ (r - 1 / 2) * 2 ^ e ≤ (num / den : ℚ) ∧
      (num / den : ℚ) ≤ (r + 1 / 2) * 2 ^ e ∧ ofRatio negative num den =
        if r = 2 * full then pack negative full (e + 1) else pack negative r e := by
  have hfits := fits_exponentOf hnum hden
  obtain ⟨e, hexponent⟩ : ∃ e, exponentOf num den = e := ⟨_, rfl⟩
  rw [hexponent] at hfits
  -- Measured in units of the exponent the quotient is within half a unit of the integer it rounds to.
  obtain ⟨hscaled, hvalue⟩ := scaleBy_spec num hden e
  obtain ⟨r, hround⟩ : ∃ r, roundHalfEven (scaleBy num den e).1 (scaleBy num den e).2 = r := ⟨_, rfl⟩
  have hof : ofRatio negative num den =
      if r = 2 * full then pack negative full (e + 1) else pack negative r e := by
    unfold ofRatio
    rw [if_neg hnum.ne', hexponent, ← hround]
  obtain ⟨hlow, hhigh⟩ := roundHalfEven_near (scaleBy num den e).1 hscaled
  rw [hround] at hlow hhigh
  have hpow : (0 : ℚ) < 2 ^ e := by positivity
  generalize (scaleBy num den e).1 = n at *
  generalize (scaleBy num den e).2 = d at *
  have hd : (0 : ℚ) < d := by exact_mod_cast hscaled
  have hlow : (2 * r * d : ℚ) ≤ 2 * n + d := by exact_mod_cast hlow
  have hhigh : (2 * n : ℚ) ≤ 2 * r * d + d := by exact_mod_cast hhigh
  refine ⟨e, r, hfits, ?_, ?_, hof⟩
  · rw [← le_div_iff₀ hpow]
    refine le_of_mul_le_mul_right ?_ hd
    rw [← hvalue]
    linarith
  · rw [← div_le_iff₀ hpow]
    refine le_of_mul_le_mul_right ?_ hd
    rw [← hvalue]
    linarith

/-- A rounded significand has at most 53 bits, one more where it carries, and is full unless the
exponent is the least one. -/
theorem significand_of_fits {x : ℚ} {e : Int} {r : Nat} (h : Fits x e)
    (hlow : (r - 1 / 2) * 2 ^ e ≤ x) (hhigh : x ≤ (r + 1 / 2) * 2 ^ e) :
    r ≤ 2 * full ∧ (full ≤ r ∨ e = -1074) := by
  have hpow : (0 : ℚ) < 2 ^ e := by positivity
  constructor
  · have hlt : (r - 1 / 2 : ℚ) < 2 * full := by
      refine lt_of_mul_lt_mul_right (hlow.trans_lt (h.below.trans_eq ?_)) hpow.le
      rw [mul_assoc, full_mul, show e + 53 = 1 + (e + 52) by ring, zpow_add₀ two_ne_zero, zpow_one]
    have hle : (r : ℚ) < (2 * full + 1 : Nat) := by
      refine (sub_lt_iff_lt_add.mp hlt).trans ?_
      rw [Nat.cast_add, Nat.cast_mul]
      exact (add_lt_add_iff_left _).mpr (by norm_num)
    exact Nat.lt_succ_iff.mp (by exact_mod_cast hle)
  · refine h.full.symm.imp_left fun hfull => ?_
    have hle : (full : ℚ) ≤ r + 1 / 2 := by
      refine le_of_mul_le_mul_right ?_ hpow
      rw [full_mul]
      exact hfull.trans hhigh
    have hlt : (full : ℚ) < (r + 1 : Nat) := by
      refine hle.trans_lt ?_
      rw [Nat.cast_add]
      exact (add_lt_add_iff_left _).mpr (by norm_num)
    exact Nat.lt_succ_iff.mp (by exact_mod_cast hlt)

/-- What is packed is infinite exactly where it is not in normal form. -/
theorem pack_eq_infinity_iff {negative s : Bool} {m : Nat} {e : Int} :
    pack negative m e = .infinity s ↔ s = negative ∧ ¬Canonical m e := by
  unfold pack
  split
  · rename_i h
    simp [h]
  · rename_i h
    simp [h, eq_comm]

/-- The end of the exponents, in units of the last one. -/
theorem two_pow_end : (2 : ℚ) ^ (1024 : Int) = 2 * full * 2 ^ (971 : Int) := by
  rw [mul_assoc, full_mul, show (1024 : Int) = 1 + (971 + 52) from rfl, zpow_add₀ two_ne_zero,
    zpow_one]

/-- A quotient out of range rounds to an infinity. -/
theorem ofRatio_of_range_le (negative : Bool) (hnum : 0 < num) (hden : 0 < den)
    (h : (2 * full - 1 / 2) * 2 ^ (971 : Int) ≤ (num / den : ℚ)) :
    ofRatio negative num den = .infinity negative := by
  have hunit : (0 : ℚ) < 2 ^ (971 : Int) := by positivity
  have hbeyond {m : Nat} {e : Int} (he : 971 < e) : pack negative m e = .infinity negative :=
    pack_eq_infinity_iff.mpr ⟨rfl, fun hm => absurd hm.2.2.1 (by omega)⟩
  rcases lt_or_ge (num / den : ℚ) (2 ^ (1024 : Int)) with hbelow | hend
  -- the significand carries, and the exponent after the last one has no numbers
  · have hfits : Fits (num / den) 971 := by
      refine ⟨by decide, hbelow, .inr ?_⟩
      rw [← full_mul]
      refine (mul_le_mul_of_nonneg_right ?_ hunit.le).trans h
      norm_num
    rw [ofRatio_of_fits negative hnum hden hfits (r := 2 * full), if_pos rfl]
    · exact hbeyond (by decide)
    · rw [Nat.cast_mul]
      exact h
    · refine (hbelow.trans_eq two_pow_end).le.trans (mul_le_mul_of_nonneg_right ?_ hunit.le)
      rw [Nat.cast_mul]
      norm_num
    · exact fun hodd => absurd hodd (by decide)
  · obtain ⟨e, r, hfits, -, -, hof⟩ := ofRatio_spec negative hnum hden
    have he : 971 < e := by
      have := (zpow_lt_zpow_iff_right₀ (by norm_num : (1 : ℚ) < 2)).mp (hend.trans_lt hfits.below)
      omega
    rw [hof, hbeyond he, hbeyond (he.trans (Int.lt_succ e)), ite_self]

/-- A quotient in range rounds to a finite number, whose significand is full unless the exponent is
the least one. -/
theorem ofRatio_of_lt_range (negative : Bool) (hnum : 0 < num) (hden : 0 < den)
    (h : (num / den : ℚ) < (2 * full - 1 / 2) * 2 ^ (971 : Int)) :
    ∃ m e hm, ofRatio negative num den = .finite negative m e hm ∧
      (full ≤ m ∨ (num / den : ℚ) < 2 ^ (-1021 : Int)) := by
  obtain ⟨e, r, hfits, hlow, hhigh, hof⟩ := ofRatio_spec negative hnum hden
  obtain ⟨hle, hfull⟩ := significand_of_fits hfits hlow hhigh
  have hunit : (0 : ℚ) < 2 ^ (971 : Int) := by positivity
  -- A quotient below the end of the range fits no exponent above the greatest one.
  have he : e ≤ 971 := by
    rcases hfits.full with rfl | hge
    · decide
    · have hend : (2 : ℚ) ^ (e + 52) < 2 ^ (1024 : Int) := by
        refine hge.trans_lt (h.trans ?_)
        rw [two_pow_end]
        exact mul_lt_mul_of_pos_right (by norm_num) hunit
      have := (zpow_lt_zpow_iff_right₀ (by norm_num : (1 : ℚ) < 2)).mp hend
      omega
  rcases hle.lt_or_eq with hlt | rfl
  · have hm : Canonical r e := ⟨hlt, hfits.least, he, hfull⟩
    refine ⟨r, e, hm, by rw [hof, if_neg hlt.ne, pack_eq negative hm], hfull.imp_right ?_⟩
    rintro rfl
    exact hfits.below
  -- A carry at the greatest exponent would need a quotient at the end of the range.
  · have hcarry : e + 1 ≤ 971 := by
      rcases he.lt_or_eq with hlt | rfl
      · exact hlt
      · rw [Nat.cast_mul] at hlow
        exact absurd (h.trans_le hlow) (lt_irrefl _)
    have hm : Canonical full (e + 1) :=
      ⟨by decide, hfits.least.trans (Int.le_add_one le_rfl), hcarry, .inl le_rfl⟩
    exact ⟨full, e + 1, hm, by rw [hof, if_pos rfl, pack_eq negative hm], .inl le_rfl⟩

/-- A bound on a quotient, said of natural numbers. -/
theorem mul_le_iff_le_div (bound : Nat) (hden : 0 < den) :
    bound * den ≤ num ↔ (bound : ℚ) ≤ num / den := by
  have hd : (0 : ℚ) < den := by exact_mod_cast hden
  rw [le_div_iff₀ hd, ← Nat.cast_mul, Nat.cast_le]

/-- **A quotient rounds to an infinity exactly from the range on.** -/
theorem ofRatio_eq_infinity_iff (negative : Bool) (hden : 0 < den) :
    (∃ s, ofRatio negative num den = .infinity s) ↔ range * den ≤ num := by
  rcases Nat.eq_zero_or_pos num with rfl | hnum
  · have hrange : 0 < range * den := Nat.mul_pos range_pos hden
    have hzero : ofRatio negative 0 den = zero negative := if_pos rfl
    rw [hzero]
    exact iff_of_false (fun ⟨_, hs⟩ => Double.noConfusion hs) (not_le.mpr hrange)
  · rw [mul_le_iff_le_div range hden, cast_range]
    refine ⟨fun ⟨s, hs⟩ => ?_, fun h => ⟨negative, ofRatio_of_range_le negative hnum hden h⟩⟩
    by_contra h
    obtain ⟨m, e, hm, hfinite, -⟩ := ofRatio_of_lt_range negative hnum hden (not_le.mp h)
    cases hs.symm.trans hfinite

/-- An integer rounds to an infinity exactly from the range on. -/
theorem ofInt_eq_infinity_iff (i : Int) :
    (∃ s, ofInt i = .infinity s) ↔ range ≤ i.natAbs :=
  (ofRatio_eq_infinity_iff (decide (i < 0)) Nat.one_pos).trans (by rw [Nat.mul_one])

/-- An integer that is not zero rounds to an infinity or to a number that is not zero. -/
theorem ofInt_cases {i : Int} (hi : i ≠ 0) :
    (∃ s, ofInt i = .infinity s) ∨ ∃ s m e hm, 0 < m ∧ ofInt i = .finite s m e hm := by
  have hnum : 0 < i.natAbs := Int.natAbs_pos.mpr hi
  have hone : (1 : ℚ) ≤ (i.natAbs : ℚ) / (1 : Nat) := by
    rw [Nat.cast_one, div_one]
    exact_mod_cast hnum
  rcases lt_or_ge ((i.natAbs : ℚ) / (1 : Nat)) ((2 * full - 1 / 2) * 2 ^ (971 : Int)) with h | h
  · obtain ⟨m, e, hm, hof, hfull⟩ := ofRatio_of_lt_range (decide (i < 0)) hnum Nat.one_pos h
    have hle : full ≤ m := by
      refine hfull.resolve_right fun hsmall => absurd (hone.trans_lt hsmall) (not_lt.mpr ?_)
      exact zpow_le_one_of_nonpos₀ (by norm_num) (by decide)
    exact .inr ⟨_, m, e, hm, (show 0 < full by decide).trans_le hle, hof⟩
  · exact .inl ⟨_, ofRatio_of_range_le (decide (i < 0)) hnum Nat.one_pos h⟩

theorem isZero_ofInt (i : Int) : (ofInt i).isZero = (i == 0) := by
  rcases eq_or_ne i 0 with rfl | hi
  · rfl
  · rw [beq_false_of_ne hi]
    rcases ofInt_cases hi with ⟨s, h⟩ | ⟨s, m, e, hm, hpos, h⟩ <;> rw [h]
    · rfl
    · exact beq_false_of_ne hpos.ne'

theorem isNaN_ofInt (i : Int) : (ofInt i).isNaN = false := by
  rcases eq_or_ne i 0 with rfl | hi
  · rfl
  · rcases ofInt_cases hi with ⟨s, h⟩ | ⟨s, m, e, hm, -, h⟩ <;> rw [h] <;> rfl

/-- **A remainder is undefined for an infinite dividend**, and for a zero divisor. -/
theorem remainder?_eq_none_iff {x y : Double} (hy : y.isZero = false) :
    x.remainder? y = none ↔ (∃ s, x = .infinity s) ∧ y.isNaN = false := by
  cases x with
  | nan => exact iff_of_false (fun h => by cases h) fun h => by cases h.1.choose_spec
  | infinity s => cases y <;> simp [remainder?, isNaN]
  | finite s m e hm =>
      refine iff_of_false (fun h => ?_) fun h => by cases h.1.choose_spec
      cases y with
      | nan => cases h
      | infinity t => cases h
      | finite t k f hk =>
          have hk : k ≠ 0 := ne_of_beq_false hy
          rw [remainder?, if_neg hk] at h
          exact Option.some_ne_none _ h

end Double

namespace Number

/-! ## §C — refusals -/

section Refuses
variable {α β γ : Type} {x : Except NumberError α} {y : Except NumberError β} {k : NumberError}
  {P Q : Prop}

/-- **Refusing** — a computation on numbers fails for one reason, and exactly under one condition. -/
def Refuses (x : Except NumberError α) (k : NumberError) (P : Prop) : Prop :=
  ∀ e, x = .error e ↔ e = k ∧ P

theorem refuses_ok (a : α) (k : NumberError) (hP : ¬P) : Refuses (.ok a) k P :=
  fun _ => iff_of_false (fun h => by cases h) fun h => hP h.2

theorem Refuses.congr (h : Refuses x k P) (hPQ : P ↔ Q) : Refuses x k Q :=
  fun e => (h e).trans (and_congr_right fun _ => hPQ)

theorem Refuses.map (h : Refuses x k P) (f : α → β) : Refuses (do return f (← x)) k P := by
  intro e
  rw [← h e]
  cases x <;> simp [bind, Except.bind, pure, Except.pure]

/-- Of two computations either may refuse, and then what follows them may fail. -/
theorem Refuses.error_iff (hx : Refuses x k P) (hy : Refuses y k Q)
    {f : α → β → Except NumberError γ} {e : NumberError} :
    (do let a ← x; let b ← y; f a b) = .error e ↔
      e = k ∧ (P ∨ Q) ∨ ∃ a b, x = .ok a ∧ y = .ok b ∧ f a b = .error e := by
  rcases x with e' | a
  · obtain ⟨rfl, hP⟩ := (hx e').mp rfl
    simp [bind, Except.bind, hP, eq_comm]
  · have hP : ¬P := fun h => by cases (hx k).mpr ⟨rfl, h⟩
    rcases y with e' | c
    · obtain ⟨rfl, hQ⟩ := (hy e').mp rfl
      simp [bind, Except.bind, hQ, eq_comm]
    · have hQ : ¬Q := fun h => by cases (hy k).mpr ⟨rfl, h⟩
      simp [bind, Except.bind, hP, hQ]

/-- Of two computations either may refuse. -/
theorem Refuses.both (hx : Refuses x k P) (hy : Refuses y k Q) (f : α → β → γ) :
    Refuses (do let a ← x; let b ← y; return f a b) k (P ∨ Q) := by
  intro e
  rw [hx.error_iff hy]
  exact or_iff_left fun ⟨_, _, _, _, h⟩ => by cases h

end Refuses

/-! ## §D — integers as binary64 numbers -/

/-- **Huge** — an integer that rounds to no finite binary64 number. -/
def IsHuge : Number → Prop
  | .int i => Double.range ≤ i.natAbs
  | .float _ => False

/-- An infinity of either sign. -/
def IsInfinite (n : Number) : Prop := ∃ s, n = .float (.infinity s)

variable {m n : Number} {e : NumberError}

theorem toDouble_int_cases (i : Int) :
    (∃ s, Double.ofInt i = .infinity s) ∧ (int i).toDouble = .error .integerTooLarge ∨
      (∀ s, Double.ofInt i ≠ .infinity s) ∧ (int i).toDouble = .ok (Double.ofInt i) := by
  cases h : Double.ofInt i <;> simp [toDouble, h]

/-- **Exactly the huge integers have no binary64 number.** -/
theorem refuses_toDouble (n : Number) : Refuses n.toDouble .integerTooLarge n.IsHuge := by
  cases n with
  | float x => exact refuses_ok x _ id
  | int i =>
      refine Refuses.congr ?_ (Double.ofInt_eq_infinity_iff i)
      rcases toDouble_int_cases i with ⟨hinfinite, h⟩ | ⟨hfinite, h⟩
      · intro e
        rw [h, and_iff_left hinfinite, Except.error.injEq, eq_comm]
      · rw [h]
        exact refuses_ok _ _ fun ⟨s, hs⟩ => hfinite s hs

/-- Rounding to binary64 keeps what is zero and what is NaN. -/
theorem isZero_of_toDouble {x : Double} (h : n.toDouble = .ok x) :
    x.isZero = n.isZero ∧ x.isNaN = n.isNaN := by
  cases n with
  | float y => exact Except.ok.inj h ▸ ⟨rfl, rfl⟩
  | int i =>
      rcases toDouble_int_cases i with ⟨-, h'⟩ | ⟨-, h'⟩
      · cases h'.symm.trans h
      · obtain rfl := Except.ok.inj (h'.symm.trans h)
        exact ⟨Double.isZero_ofInt i, Double.isNaN_ofInt i⟩

/-- Only an infinity rounds to an infinity. -/
theorem toDouble_eq_infinity_iff {s : Bool} :
    n.toDouble = .ok (.infinity s) ↔ n = .float (.infinity s) := by
  cases n with
  | float y => simp [toDouble]
  | int i =>
      refine iff_of_false (fun h => ?_) (by simp)
      rcases toDouble_int_cases i with ⟨-, h'⟩ | ⟨hfinite, h'⟩
      · cases h'.symm.trans h
      · exact hfinite s (Except.ok.inj (h'.symm.trans h))

theorem exists_toDouble (h : ¬n.IsHuge) : ∃ x, n.toDouble = .ok x := by
  cases hx : n.toDouble with
  | ok x => exact ⟨x, rfl⟩
  | error e => exact absurd ((refuses_toDouble n e).mp hx).2 h

/-! ## §E — operations without a result -/

/-- **Sums, differences and products** have no result where a huge integer meets a binary64 number. -/
theorem combine_eq_error_iff {exact : Int → Int → Int} {rounded : Double → Double → Double} :
    combine exact rounded m n = .error e ↔
      (m.isInt && n.isInt) = false ∧ e = .integerTooLarge ∧ (m.IsHuge ∨ n.IsHuge) := by
  unfold combine
  split
  · simp [isInt]
  · rename_i hints
    have hkinds : (m.isInt && n.isInt) = false := by
      cases m <;> cases n <;> first | rfl | exact absurd rfl (hints _ _ rfl)
    rw [and_iff_right hkinds]
    exact (refuses_toDouble m).both (refuses_toDouble n) _ e

/-- Where two numbers have no quotient, the divisor not being zero: integers where it is out of range,
others where one of them is huge. -/
def NoQuotient (e : NumberError) : Number → Number → Prop
  | .int a, .int b => e = .quotientTooLarge ∧ ¬b ∣ a ∧ Double.range * b.natAbs ≤ a.natAbs
  | m, n => e = .integerTooLarge ∧ (m.IsHuge ∨ n.IsHuge)

/-- **The quotient of two integers** has no result where it is no integer and out of range. -/
theorem divInt_eq_error_iff {a b : Int} (hb : b ≠ 0) : divInt a b = .error e ↔
    e = .quotientTooLarge ∧ ¬b ∣ a ∧ Double.range * b.natAbs ≤ a.natAbs := by
  have hinfinite : (∃ s, Double.ofRatio (decide (a < 0) != decide (b < 0)) a.natAbs b.natAbs =
      .infinity s) ↔ Double.range * b.natAbs ≤ a.natAbs :=
    Double.ofRatio_eq_infinity_iff _ (Int.natAbs_pos.mpr hb)
  rw [Int.dvd_iff_emod_eq_zero, ← hinfinite]
  unfold divInt
  split
  · rename_i hdvd
    exact iff_of_false (fun h => by cases h) fun h => h.2.1 hdvd
  · rename_i hdvd
    cases Double.ofRatio (decide (a < 0) != decide (b < 0)) a.natAbs b.natAbs <;>
      simp [hdvd, eq_comm]

/-- **Quotients.** -/
theorem div?_eq_error_iff : m.div? n = .error e ↔ n.isZero = false ∧ NoQuotient e m n := by
  unfold div?
  split
  · rename_i hzero
    simp [hzero]
  · rename_i hzero
    rw [Bool.not_eq_true] at hzero
    rw [and_iff_right hzero]
    split
    · rename_i a b
      rw [NoQuotient, ← divInt_eq_error_iff (ne_of_beq_false hzero)]
      cases divInt a b <;> simp [bind, Except.bind, pure, Except.pure]
    · rename_i hints
      have hno : NoQuotient e m n = (e = .integerTooLarge ∧ (m.IsHuge ∨ n.IsHuge)) := by
        cases m <;> cases n <;> first | rfl | exact absurd rfl (hints _ _ rfl)
      rw [hno]
      exact (refuses_toDouble m).both (refuses_toDouble n) _ e

/-- **Remainders** have no result where an operand is huge, or where the dividend is infinite and the
divisor a number. -/
theorem mod?_eq_error_iff : m.mod? n = .error e ↔ n.isZero = false ∧
    (e = .integerTooLarge ∧ (m.IsHuge ∨ n.IsHuge) ∨
      e = .remainderUndefined ∧ m.IsInfinite ∧ ¬n.IsHuge ∧ n.isNaN = false) := by
  unfold mod?
  split
  · rename_i hzero
    simp [hzero]
  · rename_i hzero
    rw [Bool.not_eq_true] at hzero
    rw [and_iff_right hzero, (refuses_toDouble m).error_iff (refuses_toDouble n)]
    -- Two doubles have no remainder just when the first one is infinite and the second one is a
    -- number.
    refine or_congr_right ⟨?_, ?_⟩
    · rintro ⟨x, y, hx, hy, h⟩
      obtain ⟨hyzero, hynan⟩ := isZero_of_toDouble hy
      cases hrem : x.remainder? y with
      | none =>
          obtain ⟨⟨s, rfl⟩, hnan⟩ := (Double.remainder?_eq_none_iff (hyzero.trans hzero)).mp hrem
          simp only [hrem, Except.error.injEq] at h
          refine ⟨h.symm, ⟨s, toDouble_eq_infinity_iff.mp hx⟩, fun hhuge => ?_, hynan ▸ hnan⟩
          cases hy.symm.trans ((refuses_toDouble n _).mpr ⟨rfl, hhuge⟩)
      | some r =>
          simp only [hrem] at h
          split at h
          · split at h <;> cases h
          · cases h
    · rintro ⟨rfl, ⟨s, rfl⟩, hfine, hnan⟩
      obtain ⟨y, hy⟩ := exists_toDouble hfine
      obtain ⟨hyzero, hynan⟩ := isZero_of_toDouble hy
      refine ⟨.infinity s, y, rfl, hy, ?_⟩
      rw [(Double.remainder?_eq_none_iff (hyzero.trans hzero)).mpr ⟨⟨s, rfl⟩, hynan.trans hnan⟩]

/-- **Long** — an integer with more digits than text may have. -/
def IsLong (i : Int) : Prop := ¬i.natAbs < Nat.pow 10 digitLimit

/-- **Exactly the long integers have no text.** -/
theorem refuses_intText (i : Int) : Refuses (intText i) .tooManyDigits (IsLong i) := by
  unfold intText IsLong
  generalize Nat.pow 10 digitLimit = bound
  split
  · exact refuses_ok _ _ (not_not.mpr ‹_›)
  · intro e
    simp [‹¬_›, eq_comm]

end Number
end TableQuery
