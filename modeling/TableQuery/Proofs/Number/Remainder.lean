/-
# TableQuery.Proofs.Number.Remainder — remainders are taken without rounding.

The remainder of two finite numbers is a multiple of the smaller of their units and not above the
number that has this unit, so it is itself a binary64 number and the one rounding step leaves it
alone (`Double.toRat?_remainder?`).  What a remainder of integers loses is therefore lost before,
when they become binary64 numbers: the answer is the remainder of the integers next to them
(`Number.mod?_int`), which up to `2 ^ 53` are the integers themselves.

## §A — exact values.
## §B — values that need no rounding.
## §C — the remainder of finite numbers.
## §D — the binary64 number next to an integer.
## §E — the remainder of integers.
-/
import TableQuery.Proofs.Number.Range
import Mathlib.Data.Int.GCD
import Mathlib.Data.Rat.Lemmas

namespace TableQuery
namespace Double

/-! ## §A — exact values -/

/-- A significand with its sign. -/
def signed (negative : Bool) (m : Nat) : Int := if negative then -(m : Int) else m

theorem natAbs_signed (negative : Bool) (m : Nat) : (signed negative m).natAbs = m := by
  cases negative
  · exact Int.natAbs_natCast m
  · exact (Int.natAbs_neg m).trans (Int.natAbs_natCast m)

/-- The exact value is the signed significand in units of its power of two. -/
theorem exact_eq (negative : Bool) (m : Nat) (e : Int) :
    exact negative m e = signed negative m * 2 ^ e := by
  unfold exact
  rw [← signed]
  split
  next he =>
    obtain ⟨k, rfl⟩ := Int.eq_ofNat_of_zero_le he
    push_cast
    simp
  next he =>
    obtain ⟨k, hk⟩ := Int.eq_ofNat_of_zero_le (show 0 ≤ -e by omega)
    obtain rfl : e = -(k : Int) := by omega
    rw [Rat.mkRat_eq_div, neg_neg, Int.toNat_natCast, zpow_neg, zpow_natCast, div_eq_mul_inv,
      Nat.pow_eq]
    push_cast
    rfl

/-! ## §B — values that need no rounding -/

/-- **Representable** — a whole number of units, with at most 53 bits and a binary64 exponent. -/
def Representable (q : ℚ) : Prop :=
  ∃ k e : Int, k.natAbs < 2 * full ∧ -1074 ≤ e ∧ e ≤ 971 ∧ q = k * 2 ^ e

theorem representable_exact {negative : Bool} {m : Nat} {e : Int} (h : Canonical m e) :
    Representable (exact negative m e) := by
  refine ⟨signed negative m, e, ?_, h.2.1, h.2.2.1, exact_eq negative m e⟩
  rw [natAbs_signed]
  exact h.1

/-- What has at most 53 bits has a normal form: the significand is doubled until it is full, or the
exponent is the least one. -/
theorem exists_canonical {k : Nat} {e : Int} (hk : 0 < k) (hlt : k < 2 * full) (hleast : -1074 ≤ e)
    (hmost : e ≤ 971) :
    ∃ (m : Nat) (f : Int), 0 < m ∧ Canonical m f ∧ (m : ℚ) * 2 ^ f = k * 2 ^ e := by
  obtain ⟨steps, hsteps⟩ : ∃ steps : Nat, e = -1074 + steps :=
    ⟨(e + 1074).toNat, by omega⟩
  -- induction on the height of the exponent; one step doubles the significand
  induction steps generalizing k e with
  | zero =>
      obtain rfl : e = -1074 := by omega
      exact ⟨k, -1074, hk, ⟨hlt, le_rfl, by decide, .inr rfl⟩, rfl⟩
  | succ steps ih =>
      rcases Nat.lt_or_ge k full with hsmall | hfull
      · obtain ⟨m, f, hm, hcanonical, hvalue⟩ :=
          ih (k := 2 * k) (e := e - 1) (by omega) (by omega) (by omega) (by omega) (by omega)
        refine ⟨m, f, hm, hcanonical, hvalue.trans ?_⟩
        rw [zpow_sub_one₀ two_ne_zero]
        push_cast
        ring
      · exact ⟨k, e, hk, ⟨hlt, hleast, hmost, .inl hfull⟩, rfl⟩

/-- A number lies in its own interval, and not at its ends. -/
theorem covers_self {m : Nat} (hm : 0 < m) (e : Int) :
    Covers (Shortest.interval m e) e (m * 2 ^ e) := by
  have hpow : (0 : ℚ) < 2 ^ e := by positivity
  have hlow : (Shortest.interval m e).low * (2 : ℚ) ^ (e - 2) < m * 2 ^ e := by
    rw [quarters, mul_lt_mul_iff_left₀ hpow, div_lt_iff₀ (by norm_num)]
    have hnat : (Shortest.interval m e).low < m * 4 := by
      simp only [Shortest.interval]
      split <;> omega
    exact_mod_cast hnat
  have hhigh : (m : ℚ) * 2 ^ e < (Shortest.interval m e).high * 2 ^ (e - 2) := by
    rw [high_eq, mul_lt_mul_iff_left₀ hpow]
    linarith
  exact ⟨hlow.le, hhigh.le, fun _ => ⟨hlow, hhigh⟩⟩

/-- A quotient in lowest terms without its sign. -/
theorem natAbs_num_div_den (q : ℚ) : (q.num.natAbs / q.den : ℚ) = |q| := by
  rw [Rat.abs_def, Rat.divInt_eq_div, Int.cast_natCast, Int.cast_natCast]

/-- The sign of a quotient is that of its numerator. -/
theorem signed_mul_of_abs {q : ℚ} {m : Nat} {unit : ℚ} (h : m * unit = |q|) :
    signed (decide (q.num < 0)) m * unit = q := by
  by_cases hneg : q.num < 0
  · have habs : |q| = -q := abs_of_neg (Rat.num_neg.mp hneg)
    rw [signed, if_pos (decide_eq_true hneg), Int.cast_neg, Int.cast_natCast, neg_mul, h, habs,
      neg_neg]
  · have habs : |q| = q := abs_of_nonneg (Rat.num_nonneg.mp (not_lt.mp hneg))
    rw [signed, if_neg (by rw [decide_eq_true_iff]; exact hneg), Int.cast_natCast, h, habs]

/-- **What is representable is rounded to itself.** -/
theorem toRat?_ofRat (zeroSign : Bool) {q : ℚ} (h : Representable q) :
    (ofRat zeroSign q).toRat? = some q := by
  obtain ⟨k, e, hk, hleast, hmost, hq⟩ := h
  unfold ofRat
  rcases eq_or_ne q 0 with rfl | hne
  · show some (exact zeroSign 0 (-1074)) = some 0
    cases zeroSign <;> rw [exact_eq] <;> simp [signed]
  · have hpow : (0 : ℚ) < 2 ^ e := by positivity
    have hkne : k ≠ 0 := by
      rintro rfl
      exact hne (by rw [hq, Int.cast_zero, zero_mul])
    obtain ⟨m, f, hm, hcanonical, hvalue⟩ :=
      exists_canonical (Int.natAbs_pos.mpr hkne) hk hleast hmost
    have habs : (m : ℚ) * 2 ^ f = |q| := by
      rw [hvalue, hq, abs_mul, abs_of_pos hpow, Nat.cast_natAbs, Int.cast_abs]
    -- what is rounded is the magnitude of the value
    have hcovers : Covers (Shortest.interval m f) f (q.num.natAbs / q.den) := by
      rw [natAbs_num_div_den, ← habs]
      exact covers_self hm f
    have hround := ofRatio_eq_finite (decide (q.num < 0))
      (Int.natAbs_pos.mpr (Rat.num_ne_zero.mpr hne)) q.den_pos hm hcanonical hcovers
    rw [if_neg (Rat.num_ne_zero.mpr hne), hround, toRat?, exact_eq, signed_mul_of_abs habs]

/-! ## §C — the remainder of finite numbers -/

/-- The integer part of a quotient of integers, which need not be in lowest terms. -/
theorem tdiv_num_den (a : Int) {b : Int} (hb : b ≠ 0) :
    ((a : ℚ) / b).num.tdiv ((a : ℚ) / b).den = a.tdiv b := by
  obtain ⟨c, ha, hden⟩ := Rat.exists_eq_mul_div_num_and_eq_mul_div_den a hb
  have hc : c ≠ 0 := by
    rintro rfl
    exact hb (by rw [hden, zero_mul])
  generalize ((a : ℚ) / b).num = p at *
  generalize (((a : ℚ) / b).den : Int) = q at *
  rw [ha, hden]
  rcases lt_or_gt_of_ne hc with hneg | hpos
  · have hturned := Int.mul_tdiv_mul_of_pos p q (neg_pos.mpr hneg)
    rw [neg_mul, neg_mul, Int.neg_tdiv_neg] at hturned
    exact hturned.symm
  · rw [Int.mul_tdiv_mul_of_pos _ _ hpos]

/-- What is left of a number when another is taken from it as often as it goes, toward zero. -/
def leftOver (p q : ℚ) : ℚ := p - q * ((p / q).num.tdiv (p / q).den : Int)

/-- Of integers it is their remainder. -/
theorem leftOver_int (a : Int) {b : Int} (hb : b ≠ 0) : leftOver a b = (a.tmod b : Int) := by
  rw [leftOver, tdiv_num_den a hb, Int.tmod_def]
  push_cast
  rfl

/-- In units it is as large as without them. -/
theorem leftOver_mul (p q : ℚ) {unit : ℚ} (h : unit ≠ 0) :
    leftOver (p * unit) (q * unit) = leftOver p q * unit := by
  rw [leftOver, leftOver, mul_div_mul_right _ _ h, sub_mul]
  ring

/-- A multiple of a unit is one of each smaller unit. -/
theorem exists_units (k : Int) {e f : Int} (h : f ≤ e) :
    ∃ j : Int, (k * 2 ^ e : ℚ) = j * 2 ^ f := by
  obtain ⟨steps, hsteps⟩ := Int.eq_ofNat_of_zero_le (show 0 ≤ e - f by omega)
  refine ⟨k * 2 ^ steps, ?_⟩
  obtain rfl : e = steps + f := by omega
  rw [zpow_add₀ two_ne_zero, zpow_natCast]
  push_cast
  ring

/-- **A remainder is representable** — in the smaller unit of the two it is not above the number
that has this unit. -/
theorem Representable.leftOver {p q : ℚ} (hp : Representable p) (hq : Representable q)
    (hne : q ≠ 0) : Representable (leftOver p q) := by
  obtain ⟨k, e, hk, heleast, hemost, hp⟩ := hp
  obtain ⟨j, f, hj, hfleast, hfmost, hq⟩ := hq
  have hnonzero {i g : Int} (h : q = i * 2 ^ g) : i ≠ 0 := by
    rintro rfl
    exact hne (by rw [h, Int.cast_zero, zero_mul])
  rcases le_total e f with hle | hle
  · -- in the unit of the dividend the remainder is not above the dividend
    obtain ⟨i, hi⟩ := exists_units j hle
    have hq' : q = i * 2 ^ e := hq.trans hi
    refine ⟨k.tmod i, e, ?_, heleast, hemost, ?_⟩
    · rw [Int.natAbs_tmod]
      exact (Nat.mod_le _ _).trans_lt hk
    · rw [hp, hq', leftOver_mul _ _ (by positivity), leftOver_int k (hnonzero hq')]
  · -- in the unit of the divisor it is below the divisor
    obtain ⟨i, hi⟩ := exists_units k hle
    have hjne := hnonzero hq
    refine ⟨i.tmod j, f, ?_, hfleast, hfmost, ?_⟩
    · rw [Int.natAbs_tmod]
      exact (Nat.mod_lt _ (Int.natAbs_pos.mpr hjne)).trans hj
    · rw [hp, hi, hq, leftOver_mul _ _ (by positivity), leftOver_int i hjne]

/-- Every finite number is representable. -/
theorem representable_of_toRat? {x : Double} {q : ℚ} (h : x.toRat? = some q) : Representable q := by
  cases x with
  | finite negative m e hm => exact Option.some.inj h ▸ representable_exact hm
  | _ => cases h

/-- **The remainder of finite numbers is exact.** -/
theorem toRat?_remainder? {x y : Double} {p q : ℚ} (hx : x.toRat? = some p)
    (hy : y.toRat? = some q) (hq : q ≠ 0) :
    ∃ z, x.remainder? y = some z ∧ z.toRat? = some (leftOver p q) := by
  have hleft := (representable_of_toRat? hx).leftOver (representable_of_toRat? hy) hq
  cases x with
  | finite s m e hm =>
      cases y with
      | finite t n f hn =>
          obtain rfl := Option.some.inj hx
          obtain rfl := Option.some.inj hy
          have hnonzero : n ≠ 0 := by
            rintro rfl
            apply hq
            rw [exact_eq]
            cases t <;> simp [signed]
          refine ⟨_, ?_, toRat?_ofRat s hleft⟩
          rw [remainder?, if_neg hnonzero]
          rfl
      | _ => cases hy
  | _ => cases hx

/-! ## §D — the binary64 number next to an integer -/

theorem ofInt_eq_ofRat (i : Int) : ofInt i = ofRat false i := by
  unfold ofInt ofRat
  rw [Rat.num_intCast, Rat.den_intCast]
  split
  next h =>
    subst h
    rfl
  next => rfl

/-- An integer that is a binary64 number rounds to itself. -/
theorem toRat?_ofInt_of_representable {i : Int} (h : Representable i) :
    (ofInt i).toRat? = some (i : ℚ) := by
  rw [ofInt_eq_ofRat]
  exact toRat?_ofRat false h

/-- From the exponent zero on the units are whole. -/
theorem exists_toRat?_pack {negative : Bool} {m : Nat} {e : Int} (he : 0 ≤ e)
    (h : ∀ s, pack negative m e ≠ .infinity s) :
    ∃ j : Int, (pack negative m e).toRat? = some (j : ℚ) := by
  have hcanonical : Canonical m e := by
    by_contra hnot
    exact h negative (pack_eq_infinity_iff.mpr ⟨rfl, hnot⟩)
  obtain ⟨k, rfl⟩ := Int.eq_ofNat_of_zero_le he
  refine ⟨signed negative m * 2 ^ k, ?_⟩
  rw [pack_eq negative hcanonical, toRat?, exact_eq, zpow_natCast]
  push_cast
  rfl

/-- **An integer that rounds to a finite number rounds to an integer.** -/
theorem exists_toRat?_ofInt {i : Int} (h : i.natAbs < range) :
    ∃ j : Int, (ofInt i).toRat? = some (j : ℚ) := by
  rcases Nat.lt_or_ge i.natAbs (2 * full) with hsmall | hlarge
  · exact ⟨i, toRat?_ofInt_of_representable ⟨i, 0, hsmall, by decide, by decide, by simp⟩⟩
  · have hfinite : ∀ s, ofInt i ≠ .infinity s := by
      intro s hs
      exact absurd ((ofInt_eq_infinity_iff i).mp ⟨s, hs⟩) (Nat.not_le.mpr h)
    obtain ⟨e, r, hfits, -, -, hof⟩ :=
      ofRatio_spec (decide (i < 0)) (Nat.lt_of_lt_of_le (by decide) hlarge) Nat.one_pos
    -- with more than 53 bits before the point the exponent is above zero
    have he : 0 < e := by
      have hbits : (2 : ℚ) ^ (53 : Int) < 2 ^ (e + 53) := by
        refine lt_of_le_of_lt ?_ hfits.below
        rw [Nat.cast_one, div_one]
        exact_mod_cast hlarge
      have := (zpow_lt_zpow_iff_right₀ (by norm_num : (1 : ℚ) < 2)).mp hbits
      omega
    rw [← ofInt] at hof
    rw [hof] at hfinite ⊢
    split at hfinite
    · rw [if_pos ‹_›]
      exact exists_toRat?_pack (by omega) hfinite
    · rw [if_neg ‹_›]
      exact exists_toRat?_pack he.le hfinite

/-- The binary64 number next to an integer, as an integer; zero where there is none. -/
def nearest (i : Int) : Int := ((ofInt i).truncate?).getD 0

theorem truncate?_of_toRat? {x : Double} {i : Int} (h : x.toRat? = some (i : ℚ)) :
    x.truncate? = some i := by
  rw [truncate?, h, Option.map_some, Rat.num_intCast, Rat.den_intCast, Nat.cast_one, Int.tdiv_one]

theorem toRat?_ofInt {i : Int} (h : i.natAbs < range) :
    (ofInt i).toRat? = some (nearest i : ℚ) := by
  obtain ⟨j, hj⟩ := exists_toRat?_ofInt h
  rw [nearest, truncate?_of_toRat? hj, Option.getD_some]
  exact hj

/-- **An integer that is a binary64 number is next to itself.** -/
theorem nearest_of_representable {i : Int} (h : Representable i) : nearest i = i := by
  rw [nearest, truncate?_of_toRat? (toRat?_ofInt_of_representable h), Option.getD_some]

/-- A binary64 number is in range. -/
theorem lt_range_of_representable {i : Int} (h : Representable i) : i.natAbs < range := by
  by_contra hrange
  obtain ⟨s, hs⟩ := (ofInt_eq_infinity_iff i).mpr (Nat.not_lt.mp hrange)
  have hvalue := toRat?_ofInt_of_representable h
  rw [hs] at hvalue
  cases hvalue

/-- Up to `2 ^ 53` all integers are binary64 numbers. -/
theorem representable_of_le {i : Int} (h : i.natAbs ≤ 2 ^ 53) : Representable i := by
  rcases h.lt_or_eq with hlt | heq
  · exact ⟨i, 0, hlt, by decide, by decide, by simp⟩
  · -- the first integer with one bit more is a power of two
    have htop : Representable ((2 ^ 53 : Int) : ℚ) ∧ Representable ((-2 ^ 53 : Int) : ℚ) :=
      ⟨⟨1, 53, by decide, by decide, by decide, by norm_num⟩,
        ⟨-1, 53, by decide, by decide, by decide, by norm_num⟩⟩
    rcases Int.natAbs_eq i with hi | hi <;> rw [hi, heq]
    · exact htop.1
    · exact htop.2

/-- Rounding makes no integer zero. -/
theorem nearest_ne_zero {i : Int} (hi : i ≠ 0) (h : i.natAbs < range) : nearest i ≠ 0 := by
  intro hzero
  have hvalue := toRat?_ofInt h
  rcases ofInt_cases hi with ⟨s, hs⟩ | ⟨s, m, e, hm, hpos, hs⟩
  · rw [hs] at hvalue
    cases hvalue
  · rw [hs, hzero, toRat?, Option.some.injEq, exact_eq, Int.cast_zero] at hvalue
    have hpow : (2 : ℚ) ^ e ≠ 0 := by positivity
    have hsigned : signed s m = 0 :=
      Int.cast_eq_zero.mp ((mul_eq_zero.mp hvalue).resolve_right hpow)
    have := natAbs_signed s m
    rw [hsigned] at this
    exact hpos.ne this

end Double

namespace Number

/-! ## §E — the remainder of integers -/

/-- **The remainder of integers** is that of the binary64 numbers next to them. -/
theorem mod?_int {a b : Int} (hb : b ≠ 0) (ha' : a.natAbs < Double.range)
    (hb' : b.natAbs < Double.range) :
    (int a).mod? (int b) = .ok (some (.int ((Double.nearest a).tmod (Double.nearest b)))) := by
  have htoDouble {i : Int} (h : i.natAbs < Double.range) :
      (int i).toDouble = .ok (Double.ofInt i) := by
    rcases toDouble_int_cases i with ⟨hinfinite, -⟩ | ⟨-, h'⟩
    · exact absurd ((Double.ofInt_eq_infinity_iff i).mp hinfinite) (Nat.not_le.mpr h)
    · exact h'
  have hne : (Double.nearest b : ℚ) ≠ 0 := Int.cast_ne_zero.mpr (Double.nearest_ne_zero hb hb')
  obtain ⟨z, hz, hvalue⟩ :=
    Double.toRat?_remainder? (Double.toRat?_ofInt ha') (Double.toRat?_ofInt hb') hne
  rw [Double.leftOver_int _ (Double.nearest_ne_zero hb hb')] at hvalue
  have hzero : (int b).isZero = false := beq_false_of_ne hb
  unfold mod?
  rw [hzero, htoDouble ha', htoDouble hb']
  simp only [Bool.false_eq_true, if_false, bind, Except.bind, pure, Except.pure, hz, isInt,
    Bool.and_self, if_true, Double.truncate?_of_toRat? hvalue]

/-- **Truncated remainder** — what is left when the divisor is taken away a whole number of times:
less than the divisor, and zero or with the sign of the dividend. -/
structure IsRemainder (a b r : Int) : Prop where
  exists_quotient : ∃ q, a = b * q + r
  small : |r| < |b|
  sign : r = 0 ∨ r.sign = a.sign

theorem IsRemainder.nonneg {a b r : Int} (h : IsRemainder a b r) (ha : 0 ≤ a) : 0 ≤ r := by
  rcases h.sign with rfl | hsign
  · exact le_rfl
  · rw [← Int.sign_nonneg_iff, hsign, Int.sign_nonneg_iff]
    exact ha

theorem IsRemainder.nonpos {a b r : Int} (h : IsRemainder a b r) (ha : a ≤ 0) : r ≤ 0 := by
  rcases h.sign with rfl | hsign
  · exact le_rfl
  · rw [← Int.sign_nonpos_iff, hsign, Int.sign_nonpos_iff]
    exact ha

theorem isRemainder_tmod (a : Int) {b : Int} (hb : b ≠ 0) : IsRemainder a b (a.tmod b) where
  exists_quotient := ⟨a.tdiv b, (Int.mul_tdiv_add_tmod a b).symm⟩
  small := by
    rw [Int.abs_eq_natAbs, Int.abs_eq_natAbs, Int.natAbs_tmod]
    exact_mod_cast Nat.mod_lt _ (Int.natAbs_pos.mpr hb)
  sign := by
    by_cases hdvd : b ∣ a
    · exact .inl (Int.tmod_eq_zero_of_dvd hdvd)
    · exact .inr (by rw [Int.sign_tmod, if_neg hdvd])

/-- **There is one truncated remainder.** -/
theorem isRemainder_iff {a b r : Int} (hb : b ≠ 0) : IsRemainder a b r ↔ r = a.tmod b := by
  constructor
  · intro h
    have h' := isRemainder_tmod a hb
    obtain ⟨q, hq⟩ := h.exists_quotient
    obtain ⟨q', hq'⟩ := h'.exists_quotient
    -- two remainders are on the same side of zero, so they are less than the divisor apart
    have hdvd : |b| ∣ r - a.tmod b := by
      rw [abs_dvd]
      exact ⟨q' - q, by rw [mul_sub]; omega⟩
    have hclose : |r - a.tmod b| < |b| := by
      have hsmall := abs_lt.mp h.small
      have hsmall' := abs_lt.mp h'.small
      rw [abs_lt]
      rcases le_total 0 a with ha | ha
      · have := h.nonneg ha
        have := h'.nonneg ha
        omega
      · have := h.nonpos ha
        have := h'.nonpos ha
        omega
    exact sub_eq_zero.mp (Int.eq_zero_of_abs_lt_dvd hdvd hclose)
  · rintro rfl
    exact isRemainder_tmod a hb

/-- **A quotient of integers is an integer** exactly where the divisor goes into the dividend, and
then it is exact. -/
theorem div?_int_eq_int_iff {a b q : Int} (hb : b ≠ 0) :
    (int a).div? (int b) = .ok (some (.int q)) ↔ q * b = a := by
  have hzero : (int b).isZero = false := beq_false_of_ne hb
  have hdiv : (int a).div? (int b) = .ok (some (.int q)) ↔ divInt a b = .ok (.int q) := by
    unfold div?
    rw [hzero]
    cases hd : divInt a b <;> simp [bind, Except.bind, pure, Except.pure, hd]
  rw [hdiv]
  unfold divInt
  split
  next hdvd =>
    rw [← Int.dvd_iff_emod_eq_zero] at hdvd
    rw [Except.ok.injEq, Number.int.injEq]
    constructor
    · rintro rfl
      exact Int.fdiv_mul_cancel hdvd
    · rintro rfl
      exact Int.mul_fdiv_cancel q hb
  next hdvd =>
    refine iff_of_false (fun h => ?_) fun h => hdvd (Int.emod_eq_zero_of_dvd (Dvd.intro_left q h))
    cases hof : Double.ofRatio (decide (a < 0) != decide (b < 0)) a.natAbs b.natAbs <;>
      rw [hof] at h <;> cases h

end Number
end TableQuery
