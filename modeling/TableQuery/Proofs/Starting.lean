/-
# TableQuery.Proofs.Starting — which settings yield a database.

The settings of the engine refuse the name of a collation if it is blank, and a blank name is hollow:
no collation has it.  Any other name is taken over without the blanks around it.  Whether a collation
has that name is found out only when the database is set up, so what was accepted still fails there
if it is hollow — a lone hyphen, or an encoding without a code.

## §A — what checks refuse.
## §B — the name of a collation in the settings.
## §C — the database of accepted settings.
## §D — services.
-/
import TableQuery.Proofs.Collation.Accepting
import TableQuery.Service

namespace TableQuery
namespace Settings

open Collation (Hollow ofName)

/-! ## §A — what checks refuse -/

section
variable {α β : Type} {a : Checked α} {b : Checked β} {x : α} {y : β} {place : String}

theorem both_eq_ok_iff : both a b = .ok (x, y) ↔ a = .ok x ∧ b = .ok y := by
  cases a <;> cases b <;> simp [both]

theorem mapError_eq_ok_iff {ε ε' : Type} {a : Except ε α} {f : ε → ε'} :
    a.mapError f = .ok x ↔ a = .ok x := by
  cases a <;> simp [Except.mapError]

theorem inside_eq_ok_iff : inside place a = .ok x ↔ a = .ok x := mapError_eq_ok_iff

/-- What a check refuses. -/
def refusals : Checked α → List Refusal
  | .ok _ => []
  | .error es => es

theorem refusals_both (a : Checked α) (b : Checked β) :
    refusals (both a b) = refusals a ++ refusals b := by
  cases a <;> cases b <;> simp [both, refusals]

theorem refusals_map (f : α → β) (a : Checked α) : refusals (a.map f) = refusals a := by
  cases a <;> rfl

theorem exists_of_map_eq_ok {f : α → β} (h : a.map f = .ok y) : ∃ x, a = .ok x ∧ f x = y := by
  cases a with
  | error es => cases h
  | ok x => exact ⟨x, rfl, Except.ok.inj h⟩

/-- A field that is given is checked. -/
theorem field_given {fields : List (String × Value)} {v : Value}
    (h : fields.lookup place = some v) (default : α) (check : Value → Checked α) :
    field fields place default check = inside place (check v) := by
  rw [field, h]

/-- What is refused of a field stands in its place. -/
theorem place_of_mem_refusals {fields : List (String × Value)} {default : α}
    {check : Value → Checked α} {r : Refusal}
    (h : r ∈ refusals (field fields place default check)) : r.place.head? = some place := by
  rw [field] at h
  split at h
  · rename_i v _
    rw [inside] at h
    cases hcheck : check v with
    | ok x =>
        rw [hcheck] at h
        cases h
    | error es =>
        rw [hcheck] at h
        obtain ⟨r, -, rfl⟩ := List.mem_map.mp h
        rfl
  · cases h

/-- What a failure refuses of a field. -/
def refusedAt (place : String) : Except Error α → List Refusal
  | .error (.invalid es) => es.filter (·.place.head? == some place)
  | _ => []

theorem refusedAt_invalid (place : String) (a : Checked α) :
    refusedAt place (a.mapError .invalid) =
      (refusals a).filter (·.place.head? == some place) := by
  cases a <;> rfl

end

/-! ## §B — the name of a collation in the settings -/

section
variable {fields : List (String × Value)} {e : EngineSettings} {name : String}

/-- The engine section is its fields, checked together. -/
theorem engineOf_eq (fields : List (String × Value)) : engineOf fields =
    (both (field fields "default_collation" "BINARY" asCollation)
      (both (field fields "require_where_for_dml" true asTruth)
        (field fields "sql_dialect" "sqlite" asText))).map
      fun (collation, guarded, dialect) => { collation, guarded, dialect } := rfl

/-- Accepted settings hold the collation that was checked. -/
theorem collation_of_engineOf (h : engineOf fields = .ok e) :
    field fields "default_collation" "BINARY" asCollation = .ok e.collation := by
  rw [engineOf_eq] at h
  obtain ⟨⟨collation, guarded, dialect⟩, hboth, rfl⟩ := exists_of_map_eq_ok h
  exact (both_eq_ok_iff.mp hboth).1

/-- **The name of a collation** is refused if it is blank, and else taken over trimmed. -/
theorem asCollation_text (name : String) : asCollation (.text name) =
    if Text.Blank name.toList then refuse "value_error"
    else .ok (String.ofList (Text.trim name.toList)) := by
  have hopen : asCollation (.text name) =
      if (Text.trim name.toList).isEmpty then refuse "value_error"
      else .ok (String.ofList (Text.trim name.toList)) := rfl
  simp only [hopen, List.isEmpty_iff, Text.trim_eq_nil_iff]

/-- **The engine refuses of its collation** that its name is blank, and nothing else. -/
theorem refusedAt_loadEngine (hgiven : fields.lookup "default_collation" = some (.text name)) :
    refusedAt "default_collation" (loadEngine fields) =
      if Text.Blank name.toList then [⟨["default_collation"], "value_error"⟩] else [] := by
  have hcollation : refusals (field fields "default_collation" "BINARY" asCollation) =
      if Text.Blank name.toList then [⟨["default_collation"], "value_error"⟩] else [] := by
    rw [field_given hgiven, asCollation_text]
    split <;> rfl
  have hhere : (refusals (field fields "default_collation" "BINARY" asCollation)).filter
      (·.place.head? == some "default_collation") =
        refusals (field fields "default_collation" "BINARY" asCollation) :=
    List.filter_eq_self.mpr fun r hr => beq_iff_eq.mpr (place_of_mem_refusals hr)
  have helsewhere {α : Type} {other : String} (hother : other ≠ "default_collation") (default : α)
      (check : Value → Checked α) : (refusals (field fields other default check)).filter
        (·.place.head? == some "default_collation") = [] := by
    refine List.filter_eq_nil_iff.mpr fun r hr => ?_
    rw [place_of_mem_refusals hr]
    simpa using hother
  rw [loadEngine, refusedAt_invalid, engineOf_eq, refusals_map, refusals_both, refusals_both,
    List.filter_append, List.filter_append, hhere, helsewhere (by decide), helsewhere (by decide),
    hcollation, List.append_nil, List.append_nil]

/-- **The name of a collation that is accepted**, from whatever value it was read, is trimmed and not
blank. -/
theorem collation_spec (h : engineOf fields = .ok e) :
    Text.trim e.collation.toList = e.collation.toList ∧ ¬Text.Blank e.collation.toList := by
  have hfield := collation_of_engineOf h
  rw [field] at hfield
  split at hfield
  · rename_i v _
    have hcheck := inside_eq_ok_iff.mp hfield
    -- Whatever is read as a text is checked as that text.
    obtain ⟨name, hname⟩ : ∃ name, asCollation v = asCollation (.text name) := by
      cases htext : asText v with
      | error es =>
          rw [asCollation, htext] at hcheck
          cases hcheck
      | ok name => exact ⟨name, by rw [asCollation, htext]; rfl⟩
    rw [hname, asCollation_text] at hcheck
    split at hcheck
    · cases hcheck
    · rename_i hblank
      rw [← Except.ok.inj hcheck, String.toList_ofList, ← Text.trim_eq_nil_iff, Text.trim_trim]
      exact ⟨rfl, fun hnil => hblank (Text.trim_eq_nil_iff.mp hnil)⟩
  · rw [← Except.ok.inj hfield]
    decide

/-- **A name that is accepted** is taken over trimmed. -/
theorem collation_of_loadEngine (hgiven : fields.lookup "default_collation" = some (.text name))
    (h : loadEngine fields = .ok e) :
    e.collation = String.ofList (Text.trim name.toList) := by
  have hfield := collation_of_engineOf (mapError_eq_ok_iff.mp h)
  rw [field_given hgiven, inside_eq_ok_iff, asCollation_text] at hfield
  split at hfield
  · cases hfield
  · exact (Except.ok.inj hfield).symm

/-! ## §C — the database of accepted settings -/

/-- The database of settings has the collation that they name. -/
theorem database_eq_ok_iff {db : Database} : e.database = .ok db ↔ ∃ c, ofName e.collation = .ok c ∧
    db = { collation := c, guarded := e.guarded, dialect := e.dialect } := by
  rw [EngineSettings.database]
  cases ofName e.collation <;> simp [bind, Except.bind, pure, Except.pure, eq_comm]

theorem exists_database_iff : (∃ db, e.database = .ok db) ↔ ∃ c, ofName e.collation = .ok c := by
  constructor
  · rintro ⟨db, hdb⟩
    obtain ⟨c, hc, -⟩ := database_eq_ok_iff.mp hdb
    exact ⟨c, hc⟩
  · rintro ⟨c, hc⟩
    exact ⟨_, database_eq_ok_iff.mpr ⟨c, hc, rfl⟩⟩

/-- **Accepted settings yield a database unless their collation was given a hollow name.**

* Of a name it is refused that it is blank, and nothing else.  No collation has a blank name.
* When the settings are accepted they yield a database just when the name is not hollow.  Its default
  collation is the one that has the name as it was given. -/
theorem accepted_yieldsDatabase (hgiven : fields.lookup "default_collation" = some (.text name)) :
    refusedAt "default_collation" (loadEngine fields) =
        (if Text.Blank name.toList then [⟨["default_collation"], "value_error"⟩] else []) ∧
      (Text.Blank name.toList → ∀ c, ofName name ≠ .ok c) ∧
      ∀ e, loadEngine fields = .ok e →
        ((∃ db, e.database = .ok db) ↔ ¬Hollow name) ∧
        ∀ c, ofName name = .ok c ↔
          e.database = .ok { collation := c, guarded := e.guarded, dialect := e.dialect } := by
  refine ⟨refusedAt_loadEngine hgiven, fun hblank c hc => ?_, fun e h => ?_⟩
  · exact Collation.exists_ofName_iff.mp ⟨c, hc⟩ (Collation.hollow_of_blank hblank)
  · have hname {c : Collation} : ofName e.collation = .ok c ↔ ofName name = .ok c := by
      rw [collation_of_loadEngine hgiven h, Collation.ofName_trim]
    constructor
    · rw [exists_database_iff, ← Collation.exists_ofName_iff]
      simp only [hname]
    · intro c
      rw [← hname, database_eq_ok_iff]
      simp

/-- A code with blanks around it is accepted beside other settings, and has a database. -/
theorem accepted_yieldsDatabase_swedish : ∃ e,
    loadEngine [("default_collation", .text " sv-se "), ("require_where_for_dml", .text "off")] =
        .ok e ∧
      e.database = .ok { collation := .locale "sv_SE", guarded := false } := by
  let fields := [("default_collation", Value.text " sv-se "), ("require_where_for_dml", .text "off")]
  have hgiven : fields.lookup "default_collation" = some (.text " sv-se ") := rfl
  have hload : loadEngine fields = .ok { collation := "sv-se", guarded := false } := rfl
  have hname : ofName " sv-se " = .ok (.locale "sv_SE") := by decide +kernel
  obtain ⟨-, -, hyields⟩ := accepted_yieldsDatabase hgiven
  exact ⟨_, hload, ((hyields _ hload).2 _).mp hname⟩

/-- A lone hyphen and an encoding without a code are accepted, and have no database. -/
theorem accepted_hollow :
    loadEngine [("default_collation", .text "-")] = .ok { collation := "-" } ∧
      ({ collation := "-" } : EngineSettings).database = .error .noSubtag ∧
      loadEngine [("default_collation", .text ".utf8")] = .ok { collation := ".utf8" } ∧
      ({ collation := ".utf8" } : EngineSettings).database = .error (.empty ".utf8") := by
  exact ⟨rfl, rfl, rfl, rfl⟩

end

/-! ## §D — services -/

section
variable {given : List (String × Value)} {env : List (String × String)} {s : Settings}

/-- Accepted settings hold settings of the engine that are accepted by themselves. -/
theorem exists_engineOf_of_ofSections (h : ofSections given = .ok s) :
    ∃ fields, engineOf fields = .ok s.engine := by
  obtain ⟨⟨engine, server, observation, others⟩, hboth, rfl⟩ := exists_of_map_eq_ok h
  have hengine := (both_eq_ok_iff.mp hboth).1
  rw [field] at hengine
  split at hengine
  · rename_i v _
    have hsection := inside_eq_ok_iff.mp hengine
    unfold sectionOf at hsection
    split at hsection
    · exact ⟨_, hsection⟩
    · cases hsection
  · exact ⟨[], hengine⟩

/-- **A service starts on accepted settings** unless the name of their collation, which is trimmed and
not blank, is hollow. -/
theorem exists_start_iff (h : load env given = .ok s) :
    (Text.trim s.engine.collation.toList = s.engine.collation.toList ∧
        ¬Text.Blank s.engine.collation.toList) ∧
      ((∃ db, Service.start s = .ok db) ↔ ¬Hollow s.engine.collation) := by
  have hsections : ∃ low, ofSections (overlayAll low given) = .ok s := by
    rw [load] at h
    cases hlow : environment env with
    | error f =>
        rw [hlow] at h
        cases h
    | ok low =>
        rw [hlow] at h
        exact ⟨low, mapError_eq_ok_iff.mp h⟩
  obtain ⟨low, hof⟩ := hsections
  obtain ⟨fields, hengine⟩ := exists_engineOf_of_ofSections hof
  refine ⟨collation_spec hengine, ?_⟩
  have hstart : (∃ db, Service.start s = .ok db) ↔ ∃ db, s.engine.database = .ok db := by
    rw [Service.start]
    cases s.engine.database <;> simp [Except.mapError, bind, Except.bind, pure, Except.pure]
  rw [hstart, exists_database_iff, Collation.exists_ofName_iff]

end

end Settings
end TableQuery
