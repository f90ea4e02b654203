/-
# TableQuery.Proofs.Reading.Planning — a claim that is followed is the order asked for.

Rows are streamed when no order is asked for or when the claim of the table is found to be the very
order that is.  Finding so takes a column, a direction and a collation: two collations with one
identifier are one collation, so an honest claim that is followed means that the rows do come in
the order of the terms, and sorting would not have moved any.

## §A — the identity of collations.
## §B — sound and honest claims.
## §C — plans.
-/
import TableQuery.Proofs.Reading.Sorting

namespace TableQuery

/-! ## §A — the identity of collations -/

namespace Collation

/-- **A collation is told by its identifier.** -/
theorem identifier_injective : Function.Injective identifier := by
  intro a b h
  have hhead := congrArg (·.toList.head?) h
  cases a <;> cases b
  case locale.locale => simpa [identifier] using h
  all_goals first | rfl | simp [identifier, name] at hhead

theorem eq_of_same {a b : Collation} (h : a.same b = true) : a = b :=
  identifier_injective (beq_iff_eq.mp h)

/-- The empty text names no collation. -/
theorem ofName_empty : ofName "" = .error (.empty "") := rfl

end Collation

/-! ## §B — sound and honest claims -/

namespace Claim

/-- **A sound claim** — it has no fault, left no rows out, and names a collation if any. -/
structure Sound (c : Claim) : Prop where
  faultless : c.fault? = none
  unskipped : c.skipped = .null
  collation : c.collation = .null ∨
    ∃ name d, c.collation = .text name ∧ Collation.ofName name = .ok d

/-- The claimed collation, the active one when none is claimed. -/
def collationUnder (c : Claim) (active : Collation) : Collation :=
  match c.collation with
  | .text name =>
    match Collation.ofName name with
    | .ok d => d
    | .error _ => active
  | _ => active

/-- **An honest claim** about some rows — they come in the order of the column, in whichever
direction and under whichever collation it says. -/
def Honest (c : Claim) (active : Collation) (rows : List Row) : Prop :=
  ∀ desc, c.directed desc = true → rows.Pairwise fun a b =>
    (c.collationUnder active).compareDirected desc
      (a.columns.column c.columnName) (b.columns.column c.columnName) ≠ .gt

/-- What a claim has to be in order to be followed. -/
structure Matches (c : Claim) (active : Collation) (t : SortTerm) (name : String) : Prop where
  expression : t.expression = .column name
  column : Expr.lastPart name = c.columnName
  directed : c.directed t.desc = true
  collation : c.collationUnder active = active

theorem Sound.skippedCount {c : Claim} (h : c.Sound) : c.skippedCount = none := by
  rw [Claim.skippedCount, h.unskipped]

theorem Sound.faultFor? {c : Claim} (h : c.Sound) (offset : Nat) : c.faultFor? offset = none := by
  rw [Claim.faultFor?, h.faultless, h.skippedCount]
  rfl

/-- The collation of a sound claim is there, and it is the active one if it is found to be. -/
theorem Sound.matchesName {c : Claim} (h : c.Sound) {active named : Collation}
    (hactive : Collation.ofName active.name = .ok named) :
    ∃ found, active.matchesName (c.collationName.getD active.name) = .ok found ∧
      (found = true → c.collationUnder active = active) := by
  rcases h.collation with hnull | ⟨name, d, htext, hname⟩
  · refine ⟨named.same active, ?_, fun _ => by simp [collationUnder, hnull]⟩
    simp only [collationName, hnull, Option.getD_none, Collation.matchesName, hactive]
    rfl
  · have hempty : name.isEmpty = false := by
      rw [← Bool.not_eq_true, String.isEmpty_iff]
      rintro rfl
      cases Collation.ofName_empty.symm.trans hname
    refine ⟨d.same active, ?_, fun hsame => ?_⟩
    · simp only [collationName, htext, hempty, Bool.false_eq_true, if_false, Option.getD_some,
        Collation.matchesName, hname]
      rfl
    · simp only [collationUnder, htext, hname]
      exact Collation.eq_of_same hsame

/-- **A sound claim is followed only when it is the order asked for.** -/
theorem Sound.mismatch? {c : Claim} (h : c.Sound) {active named : Collation}
    (hactive : Collation.ofName active.name = .ok named) (terms : List SortTerm) :
    ∃ reason, c.mismatch? active terms = .ok reason ∧
      (reason = none → ∃ t name, terms = [t] ∧ c.Matches active t name) := by
  rcases terms with _ | ⟨t, _ | ⟨u, ts⟩⟩
  · exact ⟨_, rfl, nofun⟩
  · obtain ⟨found, hfound, hsame⟩ := h.matchesName hactive
    -- Only a column can match a claim, and only under the same collation.
    rcases hexpression : t.expression with _ | name | _ | _ | _ | _ | _ | _ | _ | _ | _ | _
    case column =>
      simp only [Claim.mismatch?, hexpression]
      split
      · exact ⟨_, rfl, nofun⟩
      · split
        · exact ⟨_, rfl, nofun⟩
        · rename_i hcolumn hdirected
          rw [hfound]
          cases found with
          | false => exact ⟨_, rfl, nofun⟩
          | true =>
              exact ⟨none, rfl, fun _ => ⟨t, name, rfl, hexpression, not_not.mp hcolumn,
                by simpa using hdirected, hsame rfl⟩⟩
    all_goals
      refine ⟨some "ORDER BY term is not a column", ?_, nofun⟩
      simp only [Claim.mismatch?, hexpression]
  · exact ⟨_, rfl, nofun⟩

/-- What follows from a claim that is followed: the rows come in the order of the terms. -/
theorem Matches.sorted {c : Claim} {active : Collation} {t : SortTerm} {name : String}
    (h : c.Matches active t name) {rows : List Row} (honest : c.Honest active rows)
    {key : SortTerm → Row → Value}
    (hkey : ∀ r ∈ rows, key t r = r.columns.column (Expr.lastPart name)) :
    rows.Pairwise (rowLE active key [t] · ·) := by
  have hpairs := honest t.desc h.directed
  rw [h.collation, ← h.column] at hpairs
  refine hpairs.imp_of_mem fun {a b} ha hb hab => ?_
  rw [rowLE, rowOrder, compareLex, termOrder, hkey a ha, hkey b hb, rowOrder, Ordering.then_eq]
  exact bne_iff_ne.mpr hab

/-- **A claim that concerns the order** — it is about the one column that is asked for, in the
direction that is asked for.  Only then is its collation looked up. -/
def Concerns (c : Claim) (terms : List SortTerm) : Prop :=
  ∃ t name, terms = [t] ∧ t.expression = .column name ∧ Expr.lastPart name = c.columnName ∧
    c.directed t.desc = true

/-- Holding a claim against the order fails just where the name of its collation does. -/
theorem mismatch?_eq_error {c : Claim} {active : Collation} {terms : List SortTerm}
    {e : Collation.LocaleError} : c.mismatch? active terms = .error e ↔
      c.Concerns terms ∧ Collation.ofName (c.collationName.getD active.name) = .error e := by
  rcases terms with _ | ⟨t, _ | ⟨u, ts⟩⟩
  · exact ⟨nofun, fun ⟨⟨_, _, h, _⟩, _⟩ => nomatch h⟩
  -- A claim concerns the order only if it is one term and this term is a column.
  · rcases hexpression : t.expression with _ | name | _ | _ | _ | _ | _ | _ | _ | _ | _ | _
    case column =>
      have hconcerns : c.Concerns [t] ↔
          Expr.lastPart name = c.columnName ∧ c.directed t.desc = true := by
        constructor
        · rintro ⟨t', name', ht, hname, hcolumn, hdirected⟩
          obtain rfl := List.singleton_inj.mp ht
          obtain rfl := Expr.column.inj (hexpression.symm.trans hname)
          exact ⟨hcolumn, hdirected⟩
        · exact fun ⟨hcolumn, hdirected⟩ => ⟨t, name, rfl, hexpression, hcolumn, hdirected⟩
      rw [hconcerns]
      simp only [mismatch?, hexpression]
      split
      · rename_i hcolumn
        exact ⟨nofun, fun h => absurd h.1.1 hcolumn⟩
      · rename_i hcolumn
        split
        · rename_i hdirected
          refine ⟨nofun, fun h => ?_⟩
          rw [h.1.2] at hdirected
          cases hdirected
        · rename_i hdirected
          have hleft : Expr.lastPart name = c.columnName ∧ c.directed t.desc = true :=
            ⟨not_not.mp hcolumn, by simpa using hdirected⟩
          simp only [hleft, and_self, true_and, Collation.matchesName]
          rcases Collation.ofName (c.collationName.getD active.name) with e' | d
          · exact ⟨fun h => congrArg Except.error (Except.error.inj h),
              fun h => congrArg Except.error (Except.error.inj h)⟩
          · refine ⟨fun h => ?_, nofun⟩
            rcases hsame : d.same active <;> simp [hsame, bind, Except.bind, pure, Except.pure] at h
    all_goals
      simp only [mismatch?, hexpression]
      refine ⟨nofun, ?_⟩
      rintro ⟨⟨t', name', ht, hname, -⟩, -⟩
      obtain rfl := List.singleton_inj.mp ht
      cases hexpression.symm.trans hname
  · exact ⟨nofun, fun ⟨⟨_, _, h, _⟩, _⟩ => nomatch h⟩

end Claim

/-! ## §C — plans -/

namespace Plan

/-- **Planning on a claim** fails just where the name of its collation has to be looked up and is no
name of a collation. -/
theorem make_eq_error {c : Claim} {active : Collation} {terms : List SortTerm} {offset : Nat}
    {limit : Option Nat} {e : Collation.LocaleError} :
    make active terms (some c) offset limit = .error e ↔
      c.Concerns terms ∧ Collation.ofName (c.collationName.getD active.name) = .error e := by
  rw [← Claim.mismatch?_eq_error]
  rcases terms with _ | ⟨t, ts⟩
  · exact ⟨nofun, nofun⟩
  · simp only [make, choose, List.isEmpty_cons, Bool.false_eq_true, if_false]
    rcases c.mismatch? active (t :: ts) with e' | _ | reason
    · exact ⟨fun h => congrArg Except.error (Except.error.inj h),
        fun h => congrArg Except.error (Except.error.inj h)⟩
    · exact ⟨nofun, nofun⟩
    · exact ⟨nofun, nofun⟩

/-- **A plan for a sound claim** leaves the whole of OFFSET and LIMIT to do, trusts the table with
nothing, and streams only what needs no sorting. -/
theorem make_of_sound {active named : Collation}
    (hactive : Collation.ofName active.name = .ok named) (terms : List SortTerm)
    {claim : Option Claim} (hclaim : ∀ c ∈ claim, c.Sound) (offset : Nat) (limit : Option Nat) :
    ∃ p, Plan.make active terms claim offset limit = .ok p ∧
      p.trusted = false ∧ p.offset = offset ∧ p.limit = limit ∧
      (p.strategy = .stream →
        terms = [] ∨ ∃ c ∈ claim, ∃ t name, terms = [t] ∧ c.Matches active t name) := by
  have hskipped : claim.bind Claim.skippedCount = none := by
    rcases claim with _ | c
    · rfl
    · exact (hclaim c rfl).skippedCount
  -- Only two of the four ways to choose a strategy stream: without an order, and with a claim that
  -- matches it.
  have hchoose : ∃ choice, choose active terms claim = .ok choice ∧ (choice.1 = .stream →
      terms = [] ∨ ∃ c ∈ claim, ∃ t name, terms = [t] ∧ c.Matches active t name) := by
    rcases terms with _ | ⟨t, ts⟩
    · exact ⟨_, rfl, fun _ => .inl rfl⟩
    · rcases claim with _ | c
      · exact ⟨_, rfl, nofun⟩
      · obtain ⟨reason, hreason, hmatches⟩ := (hclaim c rfl).mismatch? hactive (t :: ts)
        rcases reason with _ | reason
        · refine ⟨(.stream, "table order matches ORDER BY"), ?_, fun _ =>
            .inr ⟨c, rfl, hmatches rfl⟩⟩
          simp only [choose, List.isEmpty_cons, Bool.false_eq_true, if_false, hreason]
          rfl
        · refine ⟨(.gather, reason), ?_, nofun⟩
          simp only [choose, List.isEmpty_cons, Bool.false_eq_true, if_false, hreason]
          rfl
  obtain ⟨⟨strategy, reason⟩, hchoose, hstream⟩ := hchoose
  refine ⟨⟨strategy, reason, claim, false, offset, limit⟩, ?_, rfl, rfl, rfl, hstream⟩
  simp only [make, hchoose, hskipped]
  rfl

end Plan
end TableQuery
