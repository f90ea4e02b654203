/-
# TableQuery.Proofs.Sql.Clauses — what becomes of the clauses of a text.

Before its parts are looked at, a query is refused for a clause that the engine does not carry out.
Of what is accepted every clause has its place in the statement, and what stands there is what the
clause writes — apart from the clauses in `dropped` and the places of empty values in ORDER BY, which
have no effect at all (`Statement.ofText_represents`).

## §A — what a meaning gives.
## §B — refused queries.
## §C — what a statement says.
## §D — what has no effect.
## §E — texts.
-/
import Mathlib.Data.List.Forall2
import TableQuery.Proofs.Run
import TableQuery.Proofs.Sql.Grammar
import TableQuery.Sql.Meaning

namespace TableQuery
namespace Sql

variable {σ α β : Type}

/-! ## §A — what a meaning gives -/

/-- A result that a meaning has from some state on. -/
def Gives (x : Meaning σ α) (a : α) : Prop := ∃ s, (Run.outcome x s).1 = .ok a

theorem Gives.eq {a b : α} (h : Gives (pure a : Meaning σ α) b) : a = b := by
  obtain ⟨s, hs⟩ := h
  exact Except.ok.inj hs

theorem not_gives_throw (e : Error) (a : α) : ¬ Gives (throw e : Meaning σ α) a := by
  rintro ⟨s, hs⟩
  cases hs

/-- A result of two steps comes through a result of the first one. -/
theorem Gives.of_bind {x : Meaning σ α} {f : α → Meaning σ β} {b : β} (h : Gives (x >>= f) b) :
    ∃ a, Gives x a ∧ Gives (f a) b := by
  obtain ⟨s, hs⟩ := h
  rw [Run.outcome_bind] at hs
  rcases hout : Run.outcome x s with ⟨e | a, t⟩
  · rw [hout] at hs
    cases hs
  · rw [hout] at hs
    exact ⟨a, ⟨s, by rw [hout]⟩, t, hs⟩

/-- A result of a step whose result is put into something. -/
theorem Gives.of_returning {x : Meaning σ α} {f : α → β} {b : β}
    (h : Gives (x >>= fun a => pure (f a)) b) : ∃ a, Gives x a ∧ f a = b := by
  obtain ⟨a, ha, hb⟩ := h.of_bind
  exact ⟨a, ha, hb.eq⟩

/-- A result behind a check is that of what follows it. -/
theorem Gives.of_check {p : Prop} [Decidable p] {e : Error} {x : Meaning σ α} {a : α}
    (h : Gives (if p then throw e else x) a) : ¬ p ∧ Gives x a := by
  split at h
  · exact absurd h (not_gives_throw e a)
  · next hp => exact ⟨hp, h⟩

theorem Gives.forall₂ {f : α → Meaning σ β} {as : List α} {bs : List β}
    (h : Gives (as.mapM f) bs) : List.Forall₂ (fun a b => Gives (f a) b) as bs := by
  induction as generalizing bs with
  | nil =>
    obtain rfl : [] = bs := Gives.eq h
    exact .nil
  | cons a as ih =>
    rw [List.mapM_cons] at h
    obtain ⟨b, hb, h⟩ := h.of_bind
    obtain ⟨bs, hbs, rfl⟩ := h.of_returning
    exact .cons hb (ih hbs)

/-! ## §B — refused queries -/

/-- What a query is refused for before its parts are looked at, the first ground first. -/
def Query.refusal? (q : Query) : Option Error :=
  if ¬ q.joins.isEmpty then some (.unsupported (.clause "JOIN"))
  else if q.grouping.isSome then some (.unsupported (.clause "GROUP BY"))
  else if q.having.isSome then some (.unsupported (.clause "HAVING"))
  else if q.hasDistinct then some (.unsupported (.clause "DISTINCT"))
  else if q.hasCommon then some (.unsupported (.clause "WITH (common table expressions)"))
  else if q.hasLateral then some (.unsupported (.clause "LATERAL"))
  else match q.aggregate? with
    | some function => some (.unsupported (.aggregate function))
    | none => if q.source.isNone then some (.parse .noFrom) else none

/-- The parts of a query put together. -/
def Query.assembled (number : Numbering σ) (q : Query) : Meaning σ Select := do
  let table ← tableName "SELECT" q.source
  let columns ← Phrase.resultColumns number q.columns
  let condition ← Phrase.optionExpression number q.condition
  let orderBy ← Ordered.terms number q.order
  let limit ← Phrase.optionExpression number q.limit
  let offset ← Phrase.optionExpression number q.offset
  return .mk table columns condition orderBy limit offset

theorem Query.select_eq (number : Numbering σ) (q : Query) :
    q.select number = match q.refusal? with
      | some e => throw e
      | none => q.assembled number := by
  obtain ⟨common, distinct, columns, source, joins, lateral, condition, grouping, having, order,
    limit, offset⟩ := q
  unfold Query.select Query.refusal?
  simp only [Query.joins, Query.grouping, Query.having, Query.hasDistinct, Query.hasCommon,
    Query.hasLateral, Query.source]
  -- Each check in turn: where it refuses, both sides fail; where it does not, the next one decides.
  cases joins with
  | cons => rfl
  | nil =>
  cases grouping with
  | some => rfl
  | none =>
  cases having with
  | some => rfl
  | none =>
  cases distinct with
  | true => rfl
  | false =>
  cases common with
  | true => rfl
  | false =>
  cases lateral with
  | true => rfl
  | false =>
  cases Query.aggregate? _ with
  | some => rfl
  | none =>
  cases source with
  | none => rfl
  | some => rfl

theorem Query.refusal?_eq_none {q : Query} (h : q.refusal? = none) :
    q.joins = [] ∧ q.grouping = none ∧ q.having = none ∧ q.hasDistinct = false ∧
      q.hasCommon = false ∧ q.hasLateral = false ∧ q.aggregate? = none := by
  unfold Query.refusal? at h
  rcases haggregate : q.aggregate? with _ | function <;> rw [haggregate] at h
  · split_ifs at h with hjoins hgrouping hhaving hdistinct hcommon hlateral
    simp only [List.isEmpty_iff] at hjoins
    exact ⟨hjoins, Option.not_isSome_iff_eq_none.mp hgrouping,
      Option.not_isSome_iff_eq_none.mp hhaving, Bool.eq_false_of_not_eq_true hdistinct,
      Bool.eq_false_of_not_eq_true hcommon, Bool.eq_false_of_not_eq_true hlateral, rfl⟩
  · split_ifs at h

/-! ## §C — what a statement says -/

/-- **What a phrase writes** — an expression that it means, for some numbers of its markers. -/
def Phrase.Writes (p : Phrase) (e : Expr) : Prop := Gives (p.expression .counting false) e

/-- The table that a phrase names. -/
def NamesTable (p : Option Phrase) (table : String) : Prop :=
  ∃ parts aliasName quoted, p = some (.table parts aliasName) ∧
    parts.getLast? = some (.name table quoted) ∧ table ≠ ""

/-- The items of a row. -/
def Phrase.items : Phrase → List Phrase
  | .tuple items => items
  | p => [p]

/-- An item of a select list without its new name, and the name. -/
def Phrase.unnamed : Phrase → Phrase × Option String
  | .renamed p n => (p, some (aliasText n))
  | p => (p, none)

/-- **A column for an item** of a select list: all columns for a star, and otherwise what the item
writes, under the name that is written. -/
structure Phrase.ShownAs (p : Phrase) (c : ResultColumn) : Prop where
  aliasName : c.aliasName = p.unnamed.2
  star : isStar p.unnamed.1 = true → c.expression = .star ∧ c.label = "*"
  written : isStar p.unnamed.1 = false → p.unnamed.1.Writes c.expression ∧
    c.label = labelOf p.unnamed.2 c.expression p.unnamed.1.written

/-- **A term for an item** of an ORDER BY list: what the item writes, in the direction that is
written, which is upwards where none is. -/
def Ordered.OrdersAs : Ordered → OrderTerm → Prop
  | .mk p desc _, t => p.Writes t.expression ∧ t.desc = desc.getD false

/-- **A SELECT for a query** — the query has no clause that would be refused, and each other one has
its place. -/
structure Query.RepresentedBy (q : Query) (s : Select) : Prop where
  joins : q.joins = []
  grouping : q.grouping = none
  having : q.having = none
  distinct : q.hasDistinct = false
  common : q.hasCommon = false
  lateral : q.hasLateral = false
  aggregate : q.aggregate? = none
  table : NamesTable q.source s.table
  columns : List.Forall₂ Phrase.ShownAs q.columns s.columns
  condition : Option.Rel Phrase.Writes q.condition s.condition
  orderBy : List.Forall₂ Ordered.OrdersAs q.order s.orderBy
  limit : Option.Rel Phrase.Writes q.limit s.limit
  offset : Option.Rel Phrase.Writes q.offset s.offset

/-- **A row for a tuple**: one expression for each item, as many as there are columns. -/
def Phrase.RowAs (columns : Nat) (p : Phrase) (row : List Expr) : Prop :=
  List.Forall₂ Phrase.Writes p.items row ∧ (columns ≠ 0 → row.length = columns)

/-- **An assignment for a phrase**: the column to the left, and what stands to the right. -/
def Phrase.AssignsAs (p : Phrase) (a : String × Expr) : Prop :=
  ∃ parts right, p = .between .eq (.column parts) right ∧
    a.1 = Phrase.plainName.lastName parts ∧ right.Writes a.2

/-- **A statement for a sentence** — each clause that the statement has a place for is there. -/
def Sentence.RepresentedBy : Sentence → Statement → Prop
  | .phrase (.query q), .select s => q.RepresentedBy s
  | .insert target columns source _, .insert i =>
    NamesTable (some target) i.table ∧ i.columns = columns.map Phrase.plainName ∧
      ∃ rows, source = some (.rows rows) ∧ List.Forall₂ (Phrase.RowAs columns.length) rows i.rows
  | .update target assignments hasSource condition _, .update u =>
    NamesTable (some target) u.table ∧ hasSource = false ∧ u.assignments ≠ [] ∧
      List.Forall₂ Phrase.AssignsAs assignments u.assignments ∧
      Option.Rel Phrase.Writes condition u.condition
  | .delete target condition _, .delete d =>
    NamesTable target d.table ∧ Option.Rel Phrase.Writes condition d.condition
  | _, _ => False

theorem namesTable_of_gives {keyword table : String} {p : Option Phrase}
    (h : Gives (tableName keyword p : Meaning σ String) table) : NamesTable p table := by
  unfold tableName at h
  split at h
  · split at h
    · exact absurd h (not_gives_throw _ _)
    · next parts aliasName _ name quoted hempty hlast =>
      obtain rfl := h.eq
      exact ⟨parts, aliasName, quoted, rfl, hlast, hempty⟩
    · exact absurd h (not_gives_throw _ _)
  · exact absurd h (not_gives_throw _ _)
  · exact absurd h (not_gives_throw _ _)

theorem Phrase.rel_of_gives {p : Option Phrase} {e : Option Expr}
    (h : Gives (Phrase.optionExpression .counting p) e) : Option.Rel Phrase.Writes p e := by
  cases p with
  | none =>
    obtain rfl := Gives.eq h
    exact .none
  | some p =>
    obtain ⟨e, he, rfl⟩ := Gives.of_returning h
    exact .some he

theorem Phrase.expressions_eq_mapM (number : Numbering σ) (ps : List Phrase) :
    Phrase.expressions number ps = ps.mapM fun p => p.expression number false := by
  induction ps with
  | nil => rfl
  | cons p ps ih => rw [Phrase.expressions, List.mapM_cons, ih]

theorem Ordered.terms_eq_mapM (number : Numbering σ) (os : List Ordered) :
    Ordered.terms number os = os.mapM fun o => o.term number := by
  induction os with
  | nil => rfl
  | cons o os ih => rw [Ordered.terms, List.mapM_cons, ih]

theorem Phrase.resultColumns_eq_mapM (number : Numbering σ) (ps : List Phrase) :
    Phrase.resultColumns number ps = ps.mapM fun p =>
      resultColumn p.unnamed.1 p.unnamed.2 (p.unnamed.1.expression number false) := by
  induction ps with
  | nil => rfl
  | cons p ps ih =>
    rw [List.mapM_cons, ← ih]
    cases p <;> rfl

theorem Phrase.shownAs_of_gives {p : Phrase} {c : ResultColumn}
    (h : Gives (resultColumn p.unnamed.1 p.unnamed.2 (p.unnamed.1.expression .counting false)) c) :
    p.ShownAs c := by
  unfold resultColumn at h
  split at h
  · next hstar =>
    obtain rfl := h.eq
    exact ⟨rfl, fun _ => ⟨rfl, rfl⟩, fun hstar' => absurd hstar' (by rw [hstar]; decide)⟩
  · next hstar =>
    obtain ⟨e, he, rfl⟩ := h.of_returning
    exact ⟨rfl, fun hstar' => absurd hstar' hstar, fun _ => ⟨he, rfl⟩⟩

theorem Ordered.ordersAs_of_gives {o : Ordered} {t : OrderTerm} (h : Gives (o.term .counting) t) :
    o.OrdersAs t := by
  obtain ⟨p, desc, nullsFirst⟩ := o
  obtain ⟨e, he, rfl⟩ := Gives.of_returning h
  exact ⟨he, rfl⟩

/-- **The SELECT of a query represents it**, wherever the query stands. -/
theorem Query.representedBy_of_gives {q : Query} {s : Select} (h : Gives (q.select .counting) s) :
    q.RepresentedBy s := by
  rw [Query.select_eq] at h
  split at h
  · exact absurd h (not_gives_throw _ _)
  · next hrefusal =>
    obtain ⟨hjoins, hgrouping, hhaving, hdistinct, hcommon, hlateral, haggregate⟩ :=
      Query.refusal?_eq_none hrefusal
    obtain ⟨table, htable, h⟩ := h.of_bind
    obtain ⟨columns, hcolumns, h⟩ := h.of_bind
    obtain ⟨condition, hcondition, h⟩ := h.of_bind
    obtain ⟨orderBy, horderBy, h⟩ := h.of_bind
    obtain ⟨limit, hlimit, h⟩ := h.of_bind
    obtain ⟨offset, hoffset, rfl⟩ := h.of_returning
    rw [Phrase.resultColumns_eq_mapM] at hcolumns
    rw [Ordered.terms_eq_mapM] at horderBy
    exact {
      joins := hjoins
      grouping := hgrouping
      having := hhaving
      distinct := hdistinct
      common := hcommon
      lateral := hlateral
      aggregate := haggregate
      table := namesTable_of_gives htable
      columns := hcolumns.forall₂.imp fun _ _ => Phrase.shownAs_of_gives
      condition := Phrase.rel_of_gives hcondition
      orderBy := horderBy.forall₂.imp fun _ _ => Ordered.ordersAs_of_gives
      limit := Phrase.rel_of_gives hlimit
      offset := Phrase.rel_of_gives hoffset }

theorem Phrase.rowAs_of_gives {columns : Nat} {p : Phrase} {row : List Expr}
    (h : Gives (rowValues .counting columns p) row) : p.RowAs columns row := by
  obtain ⟨es, hes, h⟩ : ∃ es, Gives (Phrase.expressions .counting p.items) es ∧ _ :=
    Gives.of_bind h
  obtain ⟨hcount, h⟩ := Gives.of_check h
  obtain rfl := h.eq
  rw [Phrase.expressions_eq_mapM] at hes
  exact ⟨hes.forall₂, fun hcolumns => not_not.mp fun hlength => hcount ⟨hcolumns, hlength⟩⟩

theorem Phrase.assignsAs_of_gives {p : Phrase} {a : String × Expr}
    (h : Gives (assignment .counting p) a) : p.AssignsAs a := by
  unfold assignment at h
  split at h
  · next parts right =>
    obtain ⟨e, he, rfl⟩ := h.of_returning
    exact ⟨parts, right, rfl, rfl, he⟩
  · exact absurd h (not_gives_throw _ _)

/-- **The statement of a sentence represents it.** -/
theorem Sentence.representedBy_of_gives {s : Sentence} {st : Statement}
    (h : Gives (s.statement .counting) st) : s.RepresentedBy st := by
  cases s with
  | phrase p =>
    -- A query is a statement; a set operation and any other phrase are refused.
    unfold Sentence.statement at h
    split at h
    · next q hq =>
      cases hq
      obtain ⟨select, hselect, rfl⟩ := h.of_returning
      exact Query.representedBy_of_gives hselect
    · exact absurd h (not_gives_throw _ _)
    · exact absurd h (not_gives_throw _ _)
    all_goals contradiction
  | other kind => exact absurd h (not_gives_throw _ _)
  | insert target columns source dropped =>
    obtain ⟨table, htable, h⟩ := Gives.of_bind h
    split at h
    · rename_i _ rows _
      obtain ⟨values, hvalues, rfl⟩ := h.of_returning
      rw [List.length_map] at hvalues
      exact ⟨namesTable_of_gives htable, rfl, rows, rfl,
        hvalues.forall₂.imp fun _ _ => Phrase.rowAs_of_gives⟩
    · exact absurd h (not_gives_throw _ _)
  | update target assignments hasSource condition dropped =>
    obtain ⟨table, htable, h⟩ := Gives.of_bind h
    obtain ⟨hsource, h⟩ := Gives.of_check h
    obtain ⟨sets, hsets, h⟩ := h.of_bind
    obtain ⟨hnonempty, h⟩ := Gives.of_check h
    obtain ⟨e, he, rfl⟩ := h.of_returning
    refine ⟨namesTable_of_gives htable, Bool.eq_false_of_not_eq_true hsource, ?_,
      hsets.forall₂.imp fun _ _ => Phrase.assignsAs_of_gives, Phrase.rel_of_gives he⟩
    rintro rfl
    exact hnonempty rfl
  | delete target condition dropped =>
    obtain ⟨table, htable, h⟩ := Gives.of_bind h
    obtain ⟨e, he, rfl⟩ := h.of_returning
    exact ⟨namesTable_of_gives htable, Phrase.rel_of_gives he⟩

/-! ## §D — what has no effect -/

/-- The item without the place of empty values. -/
def Ordered.kept : Ordered → Ordered
  | .mk p desc _ => .mk p desc none

/-- The query without clauses that have no effect. -/
def Query.kept : Query → Query
  | .mk common distinct columns source joins lateral condition grouping having order limit offset
      _ =>
    .mk common distinct columns source joins lateral condition grouping having
      (order.map Ordered.kept) limit offset []

/-- The clauses and modifiers of a sentence that have no effect. -/
def Sentence.dropped : Sentence → List Phrase
  | .phrase (.query q) => q.dropped
  | .insert _ _ _ ks => ks
  | .update _ _ _ _ ks => ks
  | .delete _ _ ks => ks
  | _ => []

/-- The sentence without clauses and modifiers that have no effect. -/
def Sentence.kept : Sentence → Sentence
  | .phrase (.query q) => .phrase (.query q.kept)
  | .insert target columns source _ => .insert target columns source []
  | .update target assignments hasSource condition _ =>
    .update target assignments hasSource condition []
  | .delete target condition _ => .delete target condition []
  | s => s

theorem Sentence.dropped_kept (s : Sentence) : s.kept.dropped = [] := by
  cases s with
  | phrase p =>
    cases p with
    | query q =>
      cases q
      rfl
    | _ => rfl
  | _ => rfl

theorem Ordered.terms_kept (number : Numbering σ) (os : List Ordered) :
    Ordered.terms number (os.map Ordered.kept) = Ordered.terms number os := by
  induction os with
  | nil => rfl
  | cons o os ih =>
    rw [List.map_cons, Ordered.terms, Ordered.terms, ih]
    cases o
    rfl

theorem Ordered.listAggregates_kept (os : List Ordered) :
    Ordered.listAggregates (os.map Ordered.kept) = Ordered.listAggregates os := by
  induction os with
  | nil => rfl
  | cons o os ih =>
    rw [List.map_cons, Ordered.listAggregates, Ordered.listAggregates, ih]
    cases o
    rfl

/-- There is nothing in joined layers unless it is in one of them. -/
theorem flatten_mergeLayers_eq_nil {a b : List (List String)} :
    (mergeLayers a b).flatten = [] ↔ a.flatten = [] ∧ b.flatten = [] := by
  induction a, b using mergeLayers.induct with
  | case1 b => simp [mergeLayers]
  | case2 a hne => simp [mergeLayers]
  | case3 x a y b ih =>
    simp only [mergeLayers, List.flatten_cons, List.append_eq_nil_iff, ih]
    exact and_and_and_comm

/-- A query that calls no aggregate function calls none without the clauses that have no effect. -/
theorem Query.aggregate?_kept {q : Query} (h : q.aggregate? = none) : q.kept.aggregate? = none := by
  obtain ⟨common, distinct, columns, source, joins, lateral, condition, grouping, having, order,
    limit, offset, dropped⟩ := q
  simp only [Query.aggregate?, List.head?_eq_none_iff, Query.kept, Query.aggregates,
    List.flatten_cons, List.nil_append, flatten_mergeLayers_eq_nil, Ordered.listAggregates_kept]
    at h ⊢
  simp only [h, Phrase.listAggregates, List.flatten_nil, and_self]

/-- **What has no effect** on a query that is accepted: the clauses that are dropped, and where empty
values are said to go. -/
theorem Query.select_kept {q : Query} (h : q.refusal? = none) (number : Numbering σ) :
    q.kept.select number = q.select number := by
  have hkept : q.kept.refusal? = none := by
    -- The one ground of refusal that looks into what is dropped is an aggregate function there.
    have haggregate := Query.aggregate?_kept (Query.refusal?_eq_none h).2.2.2.2.2.2
    have haggregate' := (Query.refusal?_eq_none h).2.2.2.2.2.2
    unfold Query.refusal? at h ⊢
    rw [haggregate'] at h
    rw [haggregate]
    cases q
    exact h
  rw [Query.select_eq, Query.select_eq, h, hkept]
  cases q
  simp only [Query.assembled, Query.kept, Query.source, Query.columns, Query.condition, Query.order,
    Query.limit, Query.offset, Ordered.terms_kept]

/-- The statement of a sentence is that of what is kept of it. -/
theorem Sentence.statement_kept {s : Sentence} {st : Statement}
    (h : Gives (s.statement .counting) st) (number : Numbering σ) :
    s.kept.statement number = s.statement number := by
  cases s with
  | phrase p =>
    unfold Sentence.statement at h
    split at h
    · next q hq =>
      cases hq
      obtain ⟨select, hselect, rfl⟩ := h.of_returning
      rw [Query.select_eq] at hselect
      split at hselect
      · exact absurd hselect (not_gives_throw _ _)
      · next hrefusal =>
        simp only [Sentence.kept, Sentence.statement, Query.select_kept hrefusal]
    · exact absurd h (not_gives_throw _ _)
    · exact absurd h (not_gives_throw _ _)
    all_goals contradiction
  | other kind => rfl
  -- What is dropped has no part in the meaning of the other statements, accepted or not.
  | insert target columns source dropped => rfl
  | update target assignments hasSource condition dropped => rfl
  | delete target condition dropped => rfl

/-! ## §E — texts -/

/-- The statement of a text that is one statement. -/
theorem ofText_eq {text : String} {s : Sentence} (h : sentence? text = some s) :
    Statement.ofText text = Sql.outcome fun number => s.statement number := by
  unfold sentence? at h
  split at h
  next sentences hsentences =>
    split at h
    next hone =>
      cases h
      simp only [Statement.ofText, hsentences, hone]
    next => cases h
  next => cases h

theorem sentence?_of_ofText {text : String} {st : Statement} (h : Statement.ofText text = .ok st) :
    ∃ s, sentence? text = some s := by
  unfold Statement.ofText at h
  unfold sentence?
  split at h
  · next sentences hsentences =>
    rw [hsentences]
    dsimp only
    split at h
    · cases h
    · next s hone => exact ⟨s, by rw [hone]⟩
    · cases h
  · cases h

end Sql

namespace Statement

open Sql

/-- **No clause is lost but those that are dropped.**  A text that is accepted is one sentence, and
every clause that its statement has a place for stands there as it is written.  The clauses and
modifiers in `dropped`, and the places of empty values in ORDER BY, have no effect: the sentence
without them has the same statement. -/
theorem ofText_represents {text : String} {st : Statement} (h : ofText text = .ok st) :
    ∃ s, sentence? text = some s ∧ s.RepresentedBy st ∧ s.kept.dropped = [] ∧
      (Sql.outcome fun number => s.kept.statement number) = .ok st := by
  obtain ⟨s, hs⟩ := sentence?_of_ofText h
  rw [ofText_eq hs] at h
  have hgives : Gives (s.statement .counting) st := ⟨0, h⟩
  refine ⟨s, hs, Sentence.representedBy_of_gives hgives, s.dropped_kept, ?_⟩
  rw [← h]
  simp only [Sql.outcome, Sentence.statement_kept hgives]

/-- The table of a DELETE, and whether it has a condition. -/
def deleted : Except Error Statement → Option (String × Bool)
  | .ok (.delete d) => some (d.table, d.condition.isSome)
  | _ => none

set_option maxRecDepth 100000 in
/-- A LIMIT behind a DELETE is read, and the DELETE is accepted without it. -/
theorem ofText_delete_limit :
    (sentence? "DELETE FROM t WHERE a = 1 LIMIT 1").map (·.dropped.map Phrase.keyword) =
        some ["LIMIT"] ∧
      deleted (ofText "DELETE FROM t WHERE a = 1 LIMIT 1") = some ("t", true) := by
  constructor
  · decide +kernel
  · decide +kernel

set_option maxRecDepth 100000 in
/-- A SELECT with a FETCH and a place for empty values. -/
theorem ofText_order_fetch :
    ∃ st s, ofText "SELECT a FROM t ORDER BY a NULLS LAST FETCH FIRST 1 ROWS ONLY" = .ok st ∧
      sentence? "SELECT a FROM t ORDER BY a NULLS LAST FETCH FIRST 1 ROWS ONLY" = some s ∧
      s.dropped.map Phrase.keyword = ["FETCH"] ∧ s.RepresentedBy st ∧
      (Sql.outcome fun number => s.kept.statement number) = .ok st := by
  have haccepted : (ofText "SELECT a FROM t ORDER BY a NULLS LAST FETCH FIRST 1 ROWS ONLY").toOption
      |>.isSome := by decide +kernel
  have hdropped : (sentence? "SELECT a FROM t ORDER BY a NULLS LAST FETCH FIRST 1 ROWS ONLY").map
      (·.dropped.map Phrase.keyword) = some ["FETCH"] := by decide +kernel
  rcases h : ofText "SELECT a FROM t ORDER BY a NULLS LAST FETCH FIRST 1 ROWS ONLY" with e | st
  · rw [h] at haccepted
    cases haccepted
  · obtain ⟨s, hs, hrepresented, -, hkept⟩ := ofText_represents h
    rw [hs] at hdropped
    exact ⟨st, s, rfl, hs, Option.some.inj hdropped, hrepresented, hkept⟩

end Statement
end TableQuery
