/-
# TableQuery.Proofs.Evaluation.Membership — membership in a list of one value against equality.

`x IN (y)` and `x = y` look at the same two values, the one by loose equality and the other by the
order of the collation.  Under the order by code points they answer alike but for two NaN, for a
word and the text that names it, and for two NULLs, which have one place and are members of nothing.

## §A — the membership test.
## §B — membership and equality.
-/
import TableQuery.Proofs.Evaluation.Operands
import TableQuery.Proofs.Value.Equality

namespace TableQuery

/-! ## §A — the membership test -/

namespace Evaluation
open Run

variable {σ : Type} {a : Evaluation σ Value} {set : Evaluation σ (List Value)} {v : Value}
  {vs : List Value} {found : Bool} {s s₁ s₂ : Standing σ}

/-- NULL is no member, and nothing is asked of the set. -/
theorem returns_memberTest_null (ha : Returns a s .null s₁) :
    Returns (memberTest false a set) s false s₁ := by
  unfold Returns
  rw [memberTest, StateT.run_bind, outcome_bind, ha]
  rfl

/-- A value that is there is looked for among the values of the set. -/
theorem returns_memberTest (ha : Returns a s v s₁) (hv : v.isNull = false)
    (hset : Returns set s₁ vs s₂) (hfound : v.memberOf vs = .ok found) :
    Returns (memberTest false a set) s found s₂ := by
  unfold Returns
  rw [memberTest, StateT.run_bind, outcome_bind, ha, resume_ok]
  dsimp only
  rw [hv, if_neg Bool.false_ne_true, StateT.run_bind, outcome_bind, hset, resume_ok]
  dsimp only
  rw [hfound]
  cases found <;> rfl

end Evaluation

/-! ## §B — membership and equality -/

namespace Evaluator
open Evaluation Value

variable {σ : Type} {ev : Evaluator σ} {row : Record} {at_ : Place} {l r : Expr} {v w : Value}
  {s s₁ s₂ : Standing σ}

/-- `l IN (r)`. -/
def isMember (l r : Expr) : Expr := .member l [r] none false

/-- `l = r`. -/
def isEqual (l r : Expr) : Expr := .binary .eq l r

/-- The value of a list of one. -/
theorem returns_values_one (hr : Returns (ev.value row (1 :: at_) r) s w s₁) :
    Returns (ev.values row 1 at_ [r]) s [w] s₁ := by
  unfold Returns
  rw [values, StateT.run_bind, Run.outcome_bind, hr]
  rfl

theorem returns_isEqual (hcollation : ev.collation = .binary)
    (hl : Returns (ev.value row (0 :: at_) l) s v s₁)
    (hr : Returns (ev.value row (1 :: at_) r) s₁ w s₂) :
    Returns (ev.condition row at_ (isEqual l r)) s (Collation.binary.equal v w) s₂ := by
  have hcondition : ev.condition row at_ (isEqual l r) =
      compared ev.collation .eq (ev.value row (0 :: at_) l) (ev.value row (1 :: at_) r) := by
    rw [isEqual, condition] <;> first | rfl | (intro h; cases h)
  rw [hcondition, hcollation]
  exact returns_compared .binary .eq hl hr

theorem returns_isMember (hl : Returns (ev.value row (0 :: at_) l) s v s₁)
    (hr : Returns (ev.value row (1 :: at_) r) s₁ w s₂) (hv : v.isNull = false) {found : Bool}
    (hfound : v.looseEqual w = .ok found) :
    Returns (ev.condition row at_ (isMember l r)) s found s₂ := by
  rw [isMember, condition]
  exact returns_memberTest hl hv (returns_values_one hr) ((memberOf_singleton v w).trans hfound)

theorem returns_isMember_null (hl : Returns (ev.value row (0 :: at_) l) s .null s₁) :
    Returns (ev.condition row at_ (isMember l r)) s false s₁ := by
  rw [isMember, condition]
  exact returns_memberTest_null hl

/-- What is there has not the place of NULL. -/
theorem equal_of_isNull_ne (h : v.isNull ≠ w.isNull) : Collation.binary.equal v w = false := by
  unfold Collation.equal Collation.compare
  cases hv : v.isNull <;> cases hw : w.isNull
  · exact absurd (hv.trans hw.symm) h
  · rfl
  · rfl
  · exact absurd (hv.trans hw.symm) h

/-- NULL is not NaN, is named by nothing and names nothing. -/
theorem not_parted_of_isNull (h : v.isNull = true ∨ w.isNull = true) :
    ¬(BothNaN v w ∨ w.Names v ∨ v.Names w) := by
  rintro (⟨rfl, rfl⟩ | ⟨hword, htextual, -⟩ | ⟨hword, htextual, -⟩)
  · rcases h with h | h <;> cases h
  · rcases h with h | h
    · cases v <;> first | exact hword.elim | cases h
    · cases w <;> first | exact htextual.elim | cases h
  · rcases h with h | h
    · cases v <;> first | exact htextual.elim | cases h
    · cases w <;> first | exact hword.elim | cases h

/-- On plain values the two tests part on two NaN and on a word and what names it. -/
theorem exists_looseEqual_ne_iff (hv : v.IsPlain) (hw : w.IsPlain) :
    ∃ found, v.looseEqual w = .ok found ∧
      (found ≠ Collation.binary.equal v w ↔ BothNaN v w ∨ w.Names v ∨ v.Names w) := by
  obtain ⟨hnan, hnames, hagree⟩ := looseEqual_eq hv hw
  by_cases hboth : BothNaN v w
  · obtain ⟨hloose, hplace⟩ := hnan hboth
    refine ⟨false, hloose, ?_⟩
    rw [hplace]
    exact iff_of_true Bool.false_ne_true (.inl hboth)
  · by_cases hname : w.Names v ∨ v.Names w
    · obtain ⟨hloose, hplace⟩ := hnames hname
      refine ⟨true, hloose, ?_⟩
      rw [hplace]
      exact iff_of_true Bool.false_ne_true.symm (.inr hname)
    · exact ⟨_, hagree hboth hname, iff_of_false (fun h => h rfl) (not_or.mpr ⟨hboth, hname⟩)⟩

/-- **Membership against equality.**  On plain values loose equality and the order by code points
give one answer, but for two NaN, which are equal in the order only, and for a word and the text or
byte string that names it, which are loosely equal only.  So on every row, for operands whose values
are plain or NULL, `l IN (r)` and `l = r` part on these pairs and on two NULLs, and nowhere else. -/
theorem member_against_equal (ev : Evaluator σ) (hcollation : ev.collation = .binary)
    (row : Record) (at_ : Place) :
    (∀ v w : Value, v.IsPlain → w.IsPlain →
      (BothNaN v w → v.looseEqual w = .ok false ∧ Collation.binary.equal v w = true) ∧
      (w.Names v ∨ v.Names w → v.looseEqual w = .ok true ∧ Collation.binary.equal v w = false) ∧
      (¬BothNaN v w → ¬(w.Names v ∨ v.Names w) →
        v.looseEqual w = .ok (Collation.binary.equal v w))) ∧
    ∀ (l r : Expr) (v w : Value) (s s₁ s₂ : Standing σ), v = .null ∨ v.IsPlain →
      w = .null ∨ w.IsPlain → Returns (ev.value row (0 :: at_) l) s v s₁ →
      Returns (ev.value row (1 :: at_) r) s₁ w s₂ →
      ∃ found same t, Returns (ev.condition row at_ (isMember l r)) s found t ∧
        Returns (ev.condition row at_ (isEqual l r)) s same s₂ ∧
        (found ≠ same ↔ BothNaN v w ∨ w.Names v ∨ v.Names w ∨ v = .null ∧ w = .null) := by
  refine ⟨fun v w hv hw => looseEqual_eq hv hw, fun l r v w s s₁ s₂ hv hw hl hr => ?_⟩
  have hequal := returns_isEqual hcollation hl hr
  simp only [← or_assoc]
  rcases hv with rfl | hv
  · -- nothing is NULL's member, and only NULL has its place
    refine ⟨false, _, s₁, returns_isMember_null hl, hequal, ?_⟩
    rcases hw with rfl | hw
    · exact iff_of_true (by decide) (.inr ⟨rfl, rfl⟩)
    · rw [equal_of_isNull_ne (by rw [hw.isNull]; decide)]
      refine iff_of_false (fun h => h rfl) ?_
      rintro (h | ⟨-, rfl⟩)
      · exact not_parted_of_isNull (.inl rfl) (or_assoc.mp h)
      · cases hw.isNull
  · have hthere : ¬(v = .null ∧ w = .null) := by
      rintro ⟨rfl, -⟩
      cases hv.isNull
    rw [or_iff_left hthere, or_assoc]
    rcases hw with rfl | hw
    · have hloose : v.looseEqual .null = .ok false := by
        unfold looseEqual
        rw [hv.isNull]
        rfl
      refine ⟨false, _, s₂, returns_isMember hl hr hv.isNull hloose, hequal, ?_⟩
      rw [equal_of_isNull_ne (by rw [hv.isNull]; decide)]
      exact iff_of_false (fun h => h rfl) (not_parted_of_isNull (.inr rfl))
    · obtain ⟨found, hloose, hparted⟩ := exists_looseEqual_ne_iff hv hw
      exact ⟨found, _, s₂, returns_isMember hl hr hv.isNull hloose, hequal, hparted⟩

/-- A row with a truth value and the text that names it. -/
def namedRow : Record := [(.name "x", .bool true), (.name "y", .text "True")]

theorem names_true : (Value.text "True").Names (.bool true) :=
  ⟨trivial, trivial, by decide, by rfl⟩

/-- On that row `x IN (y)` and `x = y` part. -/
theorem member_namedRow : (Value.text "True").Names (.bool true) ∧
    (Value.bool true).looseEqual (.text "True") = .ok true ∧
    ∃ found same t,
      Returns (({} : Evaluator Unit).condition namedRow [] (isMember (.column "x") (.column "y")))
        (0, ()) found t ∧
      Returns (({} : Evaluator Unit).condition namedRow [] (isEqual (.column "x") (.column "y")))
        (0, ()) same (0, ()) ∧ found ≠ same := by
  obtain ⟨hvalues, hrows⟩ := member_against_equal ({} : Evaluator Unit) rfl namedRow []
  obtain ⟨-, hnames, -⟩ := hvalues (.bool true) (.text "True") trivial trivial
  obtain ⟨found, same, t, hfound, hsame, hpart⟩ := hrows (.column "x") (.column "y") (.bool true)
    (.text "True") (0, ()) (0, ()) (0, ()) (.inr trivial) (.inr trivial) rfl rfl
  exact ⟨names_true, (hnames (.inl names_true)).1, found, same, t, hfound, hsame,
    hpart.mpr (.inr (.inl names_true))⟩

end Evaluator
end TableQuery
