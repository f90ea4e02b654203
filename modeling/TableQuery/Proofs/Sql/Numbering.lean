/-
# TableQuery.Proofs.Sql.Numbering — what the counter of markers does.

The engine counts markers as it meets them.  Marking by place instead gives every marker a number
that its place alone decides.  The two agree on any function of places that gives the markers that
were met their turns: the rest of the meaning looks at no number.  What is met is met in the order of
`questions`, though some of it may be passed over where an argument turns out to be a text.

## §A — numbering by place.
## §B — agreement.
## §C — expressions and queries.
## §D — statements.
## §E — texts.
-/
import TableQuery.Proofs.Sql.Clauses

namespace TableQuery
namespace Sql

/-! ## §A — numbering by place -/

/-- Markers numbered by where they stand in the text. -/
def Numbering.byPlace (number : Nat → Nat) : Numbering Unit := fun place => return number place

/-- The places that are met from a number on have their turns as numbers. -/
def Turns (number : Nat → Nat) (from_ : Nat) (met : List Nat) : Prop :=
  ∀ i place, met[i]? = some place → number place = from_ + i

/-! ## §B — agreement -/

section Agreement
variable {α β : Type}

/-- **Agreement** — counting from any number meets some of the given places in their order, and every
numbering that gives them their turns comes to the same. -/
def Agrees (x : ∀ {σ : Type}, Numbering σ → Meaning σ α) (places : List Nat) : Prop :=
  ∀ n, ∃ met : List Nat, met.Sublist places ∧ (Run.outcome (x .counting) n).2 = n + met.length ∧
    ∀ number, Turns number n met →
      (Run.outcome (x (.byPlace number)) ()).1 = (Run.outcome (x .counting) n).1

theorem agrees_pure (a : α) (places : List Nat) : Agrees (fun _ => pure a) places :=
  fun _ => ⟨[], List.nil_sublist _, rfl, fun _ _ => rfl⟩

theorem agrees_throw (e : Error) (places : List Nat) :
    Agrees (fun _ => (throw e : Meaning _ α)) places :=
  fun _ => ⟨[], List.nil_sublist _, rfl, fun _ _ => rfl⟩

theorem agrees_number (place : Nat) : Agrees (fun number => number place) [place] := by
  intro n
  refine ⟨[place], List.Sublist.refl _, rfl, fun number h => ?_⟩
  have hplace := h 0 place rfl
  simp only [Numbering.byPlace, Run.outcome_pure]
  rw [hplace]
  rfl

theorem Agrees.weaken {x : ∀ {σ : Type}, Numbering σ → Meaning σ α} {places more : List Nat}
    (hx : Agrees x places) (h : places.Sublist more) : Agrees x more := by
  intro n
  obtain ⟨met, hmet, hx⟩ := hx n
  exact ⟨met, hmet.trans h, hx⟩

theorem Turns.left {number : Nat → Nat} {n : Nat} {a b : List Nat} (h : Turns number n (a ++ b)) :
    Turns number n a := by
  intro i place hi
  refine h i place ?_
  rw [List.getElem?_append_left (List.getElem?_eq_some_iff.mp hi).1, hi]

theorem Turns.right {number : Nat → Nat} {n : Nat} {a b : List Nat} (h : Turns number n (a ++ b)) :
    Turns number (n + a.length) b := by
  intro i place hi
  rw [Nat.add_assoc]
  refine h (a.length + i) place ?_
  rw [List.getElem?_append_right (Nat.le_add_right _ _), Nat.add_sub_cancel_left, hi]

theorem Agrees.bind {x : ∀ {σ : Type}, Numbering σ → Meaning σ α}
    {f : ∀ {σ : Type}, Numbering σ → α → Meaning σ β} {a b : List Nat} (hx : Agrees x a)
    (hf : ∀ v, Agrees (fun number => f number v) b) :
    Agrees (fun number => x number >>= f number) (a ++ b) := by
  intro n
  obtain ⟨first, hfirst, hcount, hagree⟩ := hx n
  rcases hout : Run.outcome (x .counting) n with ⟨e | v, m⟩
  · -- The first step fails, and of the second one nothing is met.
    rw [hout] at hcount hagree
    refine ⟨first, hfirst.trans (List.sublist_append_left a b), ?_, fun number h => ?_⟩
    · rw [Run.outcome_bind, hout]
      exact hcount
    · rw [Run.outcome_bind, Run.outcome_bind, hout]
      have hsame := hagree number h
      rcases hplace : Run.outcome (x (.byPlace number)) () with ⟨answer, u⟩
      rw [hplace] at hsame
      subst hsame
      rfl
  · rw [hout] at hcount hagree
    obtain ⟨second, hsecond, hcount', hagree'⟩ := hf v m
    obtain rfl : m = n + first.length := hcount
    refine ⟨first ++ second, hfirst.append hsecond, ?_, fun number h => ?_⟩
    · rw [Run.outcome_bind, hout, Run.resume_ok, hcount', List.length_append]
      omega
    · rw [Run.outcome_bind, Run.outcome_bind, hout]
      have hsame := hagree number h.left
      rcases hplace : Run.outcome (x (.byPlace number)) () with ⟨answer, u⟩
      rw [hplace] at hsame
      subst hsame
      exact hagree' number h.right

/-- A check that refuses meets nothing. -/
theorem Agrees.check {x : ∀ {σ : Type}, Numbering σ → Meaning σ α} {places : List Nat}
    (hx : Agrees x places) (p : Prop) [Decidable p] (e : Error) :
    Agrees (fun number => if p then throw e else x number) places := by
  by_cases h : p
  · simp only [if_pos h]
    exact agrees_throw e places
  · simp only [if_neg h]
    exact hx

/-- What is made of a result meets nothing more. -/
theorem Agrees.returning {x : ∀ {σ : Type}, Numbering σ → Meaning σ α} {f : α → β}
    {places : List Nat} (hx : Agrees x places) :
    Agrees (fun number => x number >>= fun v => pure (f v)) places := by
  have h := Agrees.bind (b := []) hx fun v => agrees_pure (f v) []
  rwa [List.append_nil] at h

/-- A text stands in where parsing fails; nothing more is met. -/
theorem outcome_orText {σ : Type} (written : String) (e : Meaning σ Expr) (s : σ) :
    Run.outcome (orText written e) s = match Run.outcome e s with
      | (.error (.parse _), t) => (.ok (.literal (.text written)), t)
      | other => other := by
  unfold orText
  rw [Run.outcome_tryCatch]
  rcases Run.outcome e s with ⟨fault | e, t⟩
  · cases fault <;> rfl
  · rfl

theorem Agrees.orText {x : ∀ {σ : Type}, Numbering σ → Meaning σ Expr} {places : List Nat}
    (hx : Agrees x places) (written : String) :
    Agrees (fun number => orText written (x number)) places := by
  intro n
  obtain ⟨met, hmet, hcount, hagree⟩ := hx n
  refine ⟨met, hmet, ?_, fun number h => ?_⟩
  · rw [outcome_orText, ← hcount]
    rcases Run.outcome (x .counting) n with ⟨fault | e, m⟩
    · cases fault <;> rfl
    · rfl
  · have hsame := hagree number h
    rw [outcome_orText, outcome_orText]
    rcases hcounting : Run.outcome (x .counting) n with ⟨answer, m⟩
    rcases hplace : Run.outcome (x (.byPlace number)) () with ⟨answer', u⟩
    rw [hcounting, hplace] at hsame
    obtain rfl : answer' = answer := hsame
    cases answer' with
    | error fault => cases fault <;> rfl
    | ok e => rfl

theorem Agrees.opposed {x : ∀ {σ : Type}, Numbering σ → Meaning σ Expr} {places : List Nat}
    (hx : Agrees x places) (negative : Bool) :
    Agrees (fun number => opposed negative (x number)) places := by
  cases negative with
  | false => exact hx
  | true => exact hx.returning

theorem agrees_identityTest {x : ∀ {σ : Type}, Numbering σ → Meaning σ Expr} {places : List Nat}
    (hx : Agrees x places) (written : String) (right : Phrase) (negative : Bool) :
    Agrees (fun number => identityTest (x number) written right negative) places := by
  unfold identityTest
  split
  · exact hx.returning
  · exact hx.returning
  · exact agrees_throw _ _

theorem agrees_memberOfField {x : ∀ {σ : Type}, Numbering σ → Meaning σ Expr} {places : List Nat}
    (hx : Agrees x places) (hasField negative : Bool) :
    Agrees (fun number => memberOfField (x number) hasField negative) places := by
  cases hasField with
  | false => exact hx.returning
  | true =>
    have h := Agrees.bind (b := []) hx fun _ =>
      agrees_throw (α := Expr) (.unsupported .membershipForm) []
    rwa [List.append_nil] at h

theorem agrees_joined {x y : ∀ {σ : Type}, Numbering σ → Meaning σ Expr} {a b : List Nat}
    (hx : Agrees x a) (hy : Agrees y b) (op : Infix) :
    Agrees (fun number => joined op (x number) (y number)) (a ++ b) := by
  unfold joined
  split
  · exact hx.bind fun _ => hy.returning
  · exact agrees_throw _ _

theorem agrees_resultColumn {x : ∀ {σ : Type}, Numbering σ → Meaning σ Expr} {places : List Nat}
    (hx : Agrees x places) (p : Phrase) (aliasName : Option String) :
    Agrees (fun number => resultColumn p aliasName (x number)) places := by
  unfold resultColumn
  split
  · exact agrees_pure _ _
  · exact hx.returning

theorem agrees_tableName (keyword : String) (p : Option Phrase) :
    Agrees (fun _ => tableName keyword p) [] := by
  unfold tableName
  split
  · split
    · exact agrees_throw _ _
    · exact agrees_pure _ _
    · exact agrees_throw _ _
  · exact agrees_throw _ _
  · exact agrees_throw _ _

theorem agrees_numeral (text : String) : Agrees (fun _ => numeral text) [] := by
  unfold numeral
  split
  · exact agrees_pure _ _
  · exact agrees_throw _ _

end Agreement

/-! ## §C — expressions and queries -/

mutual

theorem Phrase.agrees_expression :
    (negative : Bool) → (p : Phrase) → Agrees (fun number => p.expression number negative) p.questions
  | negative, .paren p => p.agrees_expression negative
  | negative, .memberOf l ps =>
    (l.agrees_expression false).bind fun _ => (Phrase.agrees_expressions ps).returning
  | negative, .memberOfQuery l q =>
    (l.agrees_expression false).bind fun _ => q.agrees_asQuery.returning
  | negative, .memberOfField l f => by
    have hl := l.agrees_expression false
    exact (agrees_memberOfField hl f.isSome negative).weaken (List.sublist_append_left _ _)
  | negative, .between op l r => by
    have hl := l.agrees_expression false
    have hr := r.agrees_expression false
    -- The right side of IS is looked at as it is written, so its question marks are not met.
    cases op with
    | is => exact (agrees_identityTest hl _ r negative).weaken (List.sublist_append_left _ _)
    | like => exact hl.bind fun l => hr.returning
    | regexp => exact ((hl.orText _).bind fun _ => (hr.orText _).returning).opposed negative
    | _ => exact (agrees_joined hl hr _).opposed negative
  | negative, .leading .not p => (p.agrees_expression true).opposed negative
  | negative, .leading .neg p => (p.agrees_expression false).returning.opposed negative
  | negative, .leading .bitNot p => agrees_throw _ _
  | negative, .column parts => by
    refine Agrees.opposed ?_ negative
    split
    · exact agrees_throw _ _
    · exact agrees_pure _ _
  | negative, .number text => (agrees_numeral text).returning.opposed negative
  | negative, .string _ | negative, .null | negative, .boolean _ | negative, .marker _ =>
    (agrees_pure _ _).opposed negative
  | negative, .question place => (agrees_number place).returning.opposed negative
  | negative, .within s low high =>
    Agrees.opposed ((s.agrees_expression false).bind fun _ =>
      (low.agrees_expression false).bind fun _ =>
        (high.agrees_expression false).returning) negative
  | negative, .subquery p aliasName =>
    (p.agrees_asQuery.returning.weaken (List.sublist_append_left _ _)).opposed negative
  | negative, .query q => q.agrees_select.returning.opposed negative
  | negative, .aggregate _ _ => (agrees_throw _ _).opposed negative
  | negative, .call _ ps | negative, .userCall _ _ ps =>
    (Phrase.agrees_arguments ps).returning.opposed negative
  | negative, .choice s bs d =>
    Agrees.opposed ((Phrase.agrees_optionArgument s).bind fun _ =>
      (Phrase.agrees_branchArguments bs).bind fun _ =>
        (Phrase.agrees_optionArgument d).returning) negative
  | negative, .cast p _ => ((p.agrees_expression false).orText _).returning.opposed negative
  | negative, .collate p name =>
    Agrees.opposed (((p.agrees_expression false).orText _).bind fun _ =>
      ((name.agrees_expression false).orText _).returning) negative
  | _, .star | _, .name .. | _, .tuple _ | _, .escape .. | _, .renamed .. | _, .renamedAll ..
  | _, .distinct _ | _, .dot .. | _, .parameter _ | _, .combined .. | _, .rows _ | _, .table ..
  | _, .other .. => agrees_throw _ _

theorem Phrase.agrees_asQuery (p : Phrase) :
    Agrees (fun number => p.asQuery number) p.questions := by
  cases p with
  | query q => exact q.agrees_select
  | _ => exact agrees_throw _ _

theorem Phrase.agrees_expressions : (ps : List Phrase) →
    Agrees (fun number => Phrase.expressions number ps) (Phrase.listQuestions ps)
  | [] => agrees_pure [] []
  | p :: ps =>
    (p.agrees_expression false).bind fun _ => (Phrase.agrees_expressions ps).returning

theorem Phrase.agrees_arguments : (ps : List Phrase) →
    Agrees (fun number => Phrase.arguments number ps) (Phrase.listQuestions ps)
  | [] => agrees_pure [] []
  | p :: ps =>
    ((p.agrees_expression false).orText _).bind fun _ => (Phrase.agrees_arguments ps).returning

theorem Phrase.agrees_optionArgument : (p : Option Phrase) →
    Agrees (fun number => Phrase.optionArgument number p) (Phrase.optionQuestions p)
  | none => agrees_pure [] []
  | some p => ((p.agrees_expression false).orText _).returning

theorem Phrase.agrees_branchArguments : (bs : List (Phrase × Phrase)) →
    Agrees (fun number => Phrase.branchArguments number bs) (Phrase.branchQuestions bs)
  | [] => agrees_pure [] []
  | (c, v) :: rest =>
    ((c.agrees_expression false).orText _).bind fun _ =>
      ((v.agrees_expression false).orText _).bind fun _ =>
        (Phrase.agrees_branchArguments rest).returning

theorem Ordered.agrees_term : (o : Ordered) → Agrees (fun number => o.term number) o.questions
  | .mk p _ _ => (p.agrees_expression false).returning

theorem Ordered.agrees_terms : (os : List Ordered) →
    Agrees (fun number => Ordered.terms number os) (Ordered.listQuestions os)
  | [] => agrees_pure [] []
  | o :: os => o.agrees_term.bind fun _ => (Ordered.agrees_terms os).returning

theorem Phrase.agrees_resultColumns : (ps : List Phrase) →
    Agrees (fun number => Phrase.resultColumns number ps) (Phrase.listQuestions ps)
  | [] => agrees_pure [] []
  | p :: ps => by
    have hps := Phrase.agrees_resultColumns ps
    have hp := p.agrees_expression false
    cases p with
    | renamed p name =>
      -- What stands in the new name itself is not met.
      have hcolumn := agrees_resultColumn (p.agrees_expression false) p (some (aliasText name))
      exact (hcolumn.weaken (List.sublist_append_left _ _)).bind fun _ => hps.returning
    | _ => exact (agrees_resultColumn hp _ none).bind fun _ => hps.returning

theorem Phrase.agrees_optionExpression : (p : Option Phrase) →
    Agrees (fun number => Phrase.optionExpression number p) (Phrase.optionQuestions p)
  | none => agrees_pure none []
  | some p => (p.agrees_expression false).returning

theorem Query.agrees_select : (q : Query) → Agrees (fun number => q.select number) q.questions
  | .mk common distinct columns source joins lateral condition grouping having order limit offset
      dropped => by
    have hcolumns := Phrase.agrees_resultColumns columns
    have hcondition := Phrase.agrees_optionExpression condition
    have horder := Ordered.agrees_terms order
    have hlimit := Phrase.agrees_optionExpression limit
    have hoffset := Phrase.agrees_optionExpression offset
    simp only [Query.select_eq]
    split
    · exact agrees_throw _ _
    · -- What a refused clause would hold is passed over, and so is the source.
      have hassembled := (agrees_tableName "SELECT" source).bind fun table =>
        hcolumns.bind fun columns => hcondition.bind fun condition => horder.bind fun orderBy =>
          hlimit.bind fun limit => hoffset.returning
            (f := fun offset => Select.mk table columns condition orderBy limit offset)
      rw [List.nil_append] at hassembled
      refine hassembled.weaken (List.Sublist.append (.refl _) ?_)
      refine List.sublist_append_of_sublist_right (List.sublist_append_of_sublist_right ?_)
      refine List.Sublist.append (.refl _) ?_
      exact List.sublist_append_of_sublist_right (List.sublist_append_right _ _)

end

/-! ## §D — statements -/

theorem agrees_mapM {α β : Type} {f : ∀ {σ : Type}, Numbering σ → α → Meaning σ β}
    {places : α → List Nat} (hf : ∀ a, Agrees (fun number => f number a) (places a)) :
    (as : List α) → Agrees (fun number => as.mapM (f number)) (as.flatMap places)
  | [] => agrees_pure [] []
  | a :: as => by
    simp only [List.mapM_cons]
    exact (hf a).bind fun _ => (agrees_mapM hf as).returning

theorem Phrase.listQuestions_eq_flatMap (ps : List Phrase) :
    Phrase.listQuestions ps = ps.flatMap Phrase.questions := by
  induction ps with
  | nil => rfl
  | cons p ps ih => rw [Phrase.listQuestions, List.flatMap_cons, ih]

theorem Phrase.listQuestions_items (p : Phrase) : Phrase.listQuestions p.items = p.questions := by
  unfold Phrase.items
  split
  · rfl
  · exact List.append_nil _

theorem agrees_rowValues (columns : Nat) (p : Phrase) :
    Agrees (fun number => rowValues number columns p) p.questions := by
  have hitems := Agrees.bind (Phrase.agrees_expressions p.items) fun row =>
    (agrees_pure row []).check (columns ≠ 0 ∧ row.length ≠ columns)
      (.parse (.valueCount columns row.length))
  rw [List.append_nil, p.listQuestions_items] at hitems
  exact hitems

theorem agrees_assignment (p : Phrase) :
    Agrees (fun number => assignment number p) p.questions := by
  unfold assignment
  split
  · next parts right =>
    exact ((right.agrees_expression false).returning).weaken (List.sublist_append_right _ _)
  · exact agrees_throw _ _

/-- **The statement of a sentence** hangs on numbers alone as far as they are turns. -/
theorem Sentence.agrees_statement : (s : Sentence) →
    Agrees (fun number => s.statement number) s.questions
  | .phrase p => by
    unfold Sentence.statement
    split
    · next q h =>
      cases h
      exact q.agrees_select.returning
    · exact agrees_throw _ _
    · exact agrees_throw _ _
    all_goals contradiction
  | .other kind => agrees_throw _ _
  | .insert target columns source dropped => by
    -- The name of the table asks for no number, whatever markers stand in it.
    refine Agrees.weaken (Agrees.bind (agrees_tableName "INSERT" (some target))
      (b := Phrase.optionQuestions source) fun table => ?_)
      ((List.nil_sublist _).append (List.sublist_append_right _ _))
    split
    · next rows =>
      rw [Phrase.optionQuestions, Phrase.questions, Phrase.listQuestions_eq_flatMap]
      exact (agrees_mapM (agrees_rowValues _) rows).returning
    · exact agrees_throw _ _
  | .update target assignments hasSource condition dropped => by
    have htable := agrees_tableName "UPDATE" (some target)
    have hcondition := Phrase.agrees_optionExpression condition
    have hassignments := agrees_mapM agrees_assignment assignments
    have h := htable.bind fun table => Agrees.check (p := hasSource) (e := .unsupported .updateSource)
      (hassignments.bind fun assignments =>
        (hcondition.returning (f := fun condition => Statement.update
          { table := table, assignments := assignments, condition := condition })).check
            assignments.isEmpty (.parse .noAssignment))
    rw [← Phrase.listQuestions_eq_flatMap] at h
    exact h.weaken ((List.nil_sublist _).append (.refl _))
  | .delete target condition dropped => by
    have htable := agrees_tableName "DELETE" target
    have hcondition := Phrase.agrees_optionExpression condition
    have h := htable.bind fun table => hcondition.returning
      (f := fun condition => Statement.delete { table := table, condition := condition })
    exact h.weaken ((List.nil_sublist _).append (.refl _))

/-! ## §E — texts -/

/-- The places that were met, each with its turn as number. -/
theorem turns_idxOf {met : List Nat} (h : met.Nodup) : Turns (met.idxOf ·) 0 met := by
  intro i place hi
  obtain ⟨hlt, rfl⟩ := List.getElem?_eq_some_iff.mp hi
  rw [Nat.zero_add]
  exact h.idxOf_getElem i hlt

theorem turns_range (n : Nat) : Turns id 0 (List.range n) := by
  intro i place hi
  obtain ⟨hlt, rfl⟩ := List.getElem?_eq_some_iff.mp hi
  rw [List.getElem_range, Nat.zero_add]
  rfl

end Sql

namespace Statement

open Sql

/-- **Markers are numbered by their turns.**  The places in a sentence are places of its text, none
twice; some of them are met, in the order of the clauses, and the number of a marker is how many were
met before it.  Where that order is the order of the text and every question mark was counted, the
number of a marker is its place. -/
theorem ofText_byPlace {text : String} {s : Sentence} (h : sentence? text = some s) :
    s.questions.Nodup ∧ (∀ place ∈ s.questions, place < questionCount text) ∧
      (∃ met : List Nat, met.Sublist s.questions ∧
        (Run.outcome (s.statement .counting) 0).2 = met.length ∧
        ofText text = (Run.outcome (s.statement (.byPlace (met.idxOf ·))) ()).1) ∧
      (s.questions.Pairwise (· < ·) →
        (Run.outcome (s.statement .counting) 0).2 = questionCount text →
        ofText text = (Run.outcome (s.statement (.byPlace id)) ()).1) := by
  have hplaces := subperm_of_sentence? h
  have hlt : ∀ place ∈ s.questions, place < questionCount text := fun place hplace =>
    List.mem_range.mp (hplaces.subset hplace)
  have hnodup : s.questions.Nodup := by
    obtain ⟨l, hperm, hsub⟩ := hplaces
    exact hperm.nodup_iff.mp (List.nodup_range.sublist hsub)
  obtain ⟨met, hmet, hcount, hagree⟩ := s.agrees_statement 0
  rw [Nat.zero_add] at hcount
  refine ⟨hnodup, hlt, ⟨met, hmet, hcount, ?_⟩, fun hordered hall => ?_⟩
  · rw [ofText_eq h]
    exact (hagree _ (turns_idxOf (hnodup.sublist hmet))).symm
  · -- All places of the text were met, and in their order: each place is its own turn.
    have hlength : (List.range (questionCount text)).length ≤ met.length := by
      rw [List.length_range, ← hcount, hall]
    have hperm := (hmet.subperm.trans hplaces).perm_of_length_le hlength
    have hrange : met = List.range (questionCount text) :=
      hperm.eq_of_pairwise' (hordered.sublist hmet) List.pairwise_lt_range
    rw [ofText_eq h]
    refine (hagree id ?_).symm
    rw [hrange]
    exact turns_range _

/-- The markers that stand as LIMIT and as OFFSET of a query. -/
def boundMarkers : Except Error Statement → Option (Option Marker × Option Marker)
  | .ok (.select s) => some (s.limit.bind marker?, s.offset.bind marker?)
  | _ => none
where
  /-- The marker that an expression is. -/
  marker? : Expr → Option Marker
    | .marker m => some m
    | _ => none

set_option maxRecDepth 100000 in
/-- Before a comma stands the OFFSET, but the LIMIT is met first: the text is accepted, and its two
markers have each the number of the other. -/
theorem ofText_limit_comma :
    ∃ s, sentence? "SELECT a FROM t LIMIT ?, ?" = some s ∧
      s.questions = [1, 0] ∧
      boundMarkers (ofText "SELECT a FROM t LIMIT ?, ?") =
        some (some { index := some 0 }, some { index := some 1 }) ∧
      ofText "SELECT a FROM t LIMIT ?, ?" ≠ (Run.outcome (s.statement (.byPlace id)) ()).1 := by
  have hread : (sentence? "SELECT a FROM t LIMIT ?, ?").map (fun s => (s.questions,
      boundMarkers (Run.outcome (s.statement (.byPlace id)) ()).1)) =
      some ([1, 0], some (some { index := some 1 }, some { index := some 0 })) := by decide +kernel
  have hbound : boundMarkers (ofText "SELECT a FROM t LIMIT ?, ?") =
      some (some { index := some 0 }, some { index := some 1 }) := by decide +kernel
  obtain ⟨s, hs, hmarkers⟩ := Option.map_eq_some_iff.mp hread
  obtain ⟨hquestions, hplaced⟩ := Prod.mk.inj hmarkers
  refine ⟨s, hs, hquestions, hbound, fun hsame => ?_⟩
  rw [← hsame, hbound] at hplaced
  exact absurd hplaced (by decide)

set_option maxRecDepth 100000 in
/-- With its clauses in the order of the text and its question marks counted, every marker of a query
has its place as number. -/
theorem ofText_limit_offset :
    ∃ s, sentence? "SELECT a FROM t LIMIT ? OFFSET ?" = some s ∧
      ofText "SELECT a FROM t LIMIT ? OFFSET ?" =
        (Run.outcome (s.statement (.byPlace id)) ()).1 := by
  have hread : (sentence? "SELECT a FROM t LIMIT ? OFFSET ?").map (fun s => (s.questions,
      (Run.outcome (s.statement .counting) 0).2)) = some ([0, 1], 2) := by decide +kernel
  have htotal : questionCount "SELECT a FROM t LIMIT ? OFFSET ?" = 2 := by decide +kernel
  obtain ⟨s, hs, hcounted⟩ := Option.map_eq_some_iff.mp hread
  obtain ⟨hquestions, hcounted⟩ := Prod.mk.inj hcounted
  refine ⟨s, hs, (ofText_byPlace hs).2.2.2 ?_ ?_⟩
  · rw [hquestions]
    decide
  · rw [hcounted, htotal]

end Statement
end TableQuery
